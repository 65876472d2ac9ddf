/-
  Results on their way back, while no connection drops.

  A result is at a node, on the wire, or handed over: none is lost and none is made twice on the
  way.  Counted for one result and one connection, what has gone into it is what is in it and what
  has come out.

  1. `reportedAt`, `relayedOver`, `inTransit` — where the results for a query are: reported to the
     playdar of a node, handed over a connection, or on the wire.
  2. `Flow` — the invariant: what is reported at a node is pending there, on its way to the node the
     query came from, or has arrived there; over other connections nothing comes.
  3. `Flow.reportedAt_eq_sum` — when nothing is on its way any more, what is reported at a node is
     what was found in the subtree below it.

  The argument is that of water in pipes.  The tree of origins says which way each pipe runs
  (`Greynet.ReplyTree`), the law of one node that nothing leaks there (`Greynet.Results`), and the
  freshness of guids that the duplicate filter stops nothing on the way (`Greynet.Guids`).  What is
  new here is that a step moves one node and one end of each of its connections.
-/
import Greynet.Guids
import Greynet.ReplyTree

namespace Greynet

namespace Network

variable {N E : Type}

/-- What was to be seen of a run from outside, in the order in which it was to be seen. -/
def log (hist : History N E) : List (Log N E) := hist.flatMap fun st => st.out

/-- One step more is seen after the others. -/
theorem log_append (hist : History N E) (st : Runs.Step (Net N E) (Event N E) (Log N E)) :
    log (hist ++ [st]) = log hist ++ st.out := by
  simp [log]

variable [DecidableEq N] [DecidableEq E]

/-! ## Where results are

  Results are told apart by their fields without the url.  So two that are found independently and
  look the same are counted, not told apart. -/

/-- The results `x` for `qid` that were found at a node, by another resolver of its playdar.  These
    are the sources of the flow. -/
def foundAt (n : N) (qid : Qid) (x : ResolvedItem) (l : List (Log N E)) : Nat :=
  l.countP fun
    | .found m k item => decide (m = n ∧ k = qid ∧ item.rmJsonValue "url" = x)
    | _ => false

/-- The results `x` for `qid` that came in over an end, and were reported to the playdar behind
    it. -/
def relayedOver (e : E) (qid : Qid) (x : ResolvedItem) (l : List (Log N E)) : Nat :=
  l.countP fun
    | .relayed d k item => decide (d = e ∧ k = qid ∧ item.rmJsonValue "url" = x)
    | _ => false

/-- The results `x` for `qid` reported to the playdar of a node, wherever they are from.  At the
    node where the query was started these are what the user gets to see. -/
def reportedAt (net : Network N E) (n : N) (qid : Qid) (x : ResolvedItem) (l : List (Log N E)) :
    Nat :=
  l.countP fun
    | .found m k item => decide (m = n ∧ k = qid ∧ item.rmJsonValue "url" = x)
    | .relayed e k item => decide (net.node e = n ∧ k = qid ∧ item.rmJsonValue "url" = x)
    | _ => false

/-- The results `x` for `qid` on their way to an end: written at the other one, and not yet
    received. -/
def inTransit (net : Network N E) (e : E) (qid : Qid) (x : ResolvedItem)
    (wire : List (E × Message)) : Nat :=
  wire.countP fun p => decide (p.1 = e) && Queries.carries net.js net.playdar qid x p.2

omit [DecidableEq E] in
/-- What a step of a node reports is reported at that node, ... -/
theorem reportedAt_logs (net : Network N E) {n : N} {via : Option E}
    (hvia : ∀ e, via = some e → net.node e = n) (m : N) (qid : Qid) (x : ResolvedItem)
    (acts : List (Action E)) :
    net.reportedAt m qid x (logs n via acts) =
      if n = m then Queries.reportsMade qid x acts else 0 := by
  rw [reportedAt, logs, List.countP_filterMap]
  by_cases hn : n = m
  · rw [if_pos hn, Queries.reportsMade]
    refine List.countP_congr fun a _ => ?_
    cases a with
    | reportResults k item =>
      cases via with
      | none => simp [hn]
      | some e => simp [hvia e rfl, hn]
    | _ => simp
  · rw [if_neg hn, List.countP_eq_zero]
    intro a _
    cases a with
    | reportResults k item =>
      cases via with
      | none => simp [hn]
      | some e => simp [hvia e rfl, hn]
    | _ => simp

omit [DecidableEq N] in
/-- ... and came over the end its message came in over, if it is one. -/
theorem relayedOver_logs (n : N) (via : Option E) (e : E) (qid : Qid) (x : ResolvedItem)
    (acts : List (Action E)) :
    relayedOver e qid x (logs n via acts) =
      if via = some e then Queries.reportsMade qid x acts else 0 := by
  rw [relayedOver, logs, List.countP_filterMap]
  by_cases he : via = some e
  · rw [if_pos he, Queries.reportsMade]
    refine List.countP_congr fun a _ => ?_
    cases a with
    | reportResults k item => simp [he]
    | _ => simp
  · rw [if_neg he, List.countP_eq_zero]
    intro a _
    cases a with
    | reportResults k item =>
      cases via with
      | none => simp
      | some d =>
        have hd : d ≠ e := fun hd => he (hd ▸ rfl)
        simp [hd]
    | _ => simp

/-! ## Links

  Where a connection is open at both ends, what is written on it arrives. -/

/-- Every connection is open at both ends, as it is when nothing has dropped since the start.
    Nothing has expired either, so an origin that is recorded can be written to. -/
structure Linked (net : Network N E) (s : Net N E) : Prop where
  opened : ∀ n e, e ∈ (s.router n).connections ↔ net.node e = n
  expired : ∀ n, (s.router n).expired = []

/-- No connection drops, so far: none is closed and none is released.  Without this a result may be
    lost on a wire that is gone, and no law can hold. -/
def NoDrops (hist : History N E) : Prop :=
  ∀ st ∈ hist, ∀ e, st.event ≠ .close e ∧ st.event ≠ .release e

variable {net : Network N E} {s s' : Net N E} {qid : Qid} {x : ResolvedItem}

/-- Honest nodes close none, so only a drop could change that.  A step of a node has a `fin` among
    its actions only when a message was at fault. -/
theorem linked_step {ev : Event N E} {out : List (Log N E)} (hs : net.Decent s)
    (hev : net.Encodes ev) (hok : net.step s ev = .ok (s', out))
    (hkeep : ∀ e, ev ≠ .close e ∧ ev ≠ .release e) (hl : net.Linked s) : net.Linked s' := by
  cases step_effect hok with
  | idle => exact hl
  | lost => exact ⟨hl.opened, hl.expired⟩
  | rerouted e he =>
    rcases he with rfl | rfl
    · exact absurd rfl (hkeep e).1
    · exact absurd rfl (hkeep e).2
  | moved n via qe left iss hm q acts heff =>
    rw [(hs.put_eq hev hm heff).1]
    exact ⟨hl.opened, hl.expired⟩

/-- In a run without drops every connection stays open. -/
theorem Run.linked {hist : History N E} (hr : net.Run hist s) (henc : net.AllEncode hist)
    (hkeep : NoDrops hist) : net.Linked s := by
  refine Runs.Run.invariant (I := fun hist s => net.AllEncode hist → NoDrops hist →
    net.Linked s) ?_ ?_ hr henc hkeep
  · intro s h0 _ _
    exact ⟨h0.opened, h0.expired⟩
  · intro hist s ev s' out hr ih hok henc hkeep
    have hlast := List.mem_append_right hist (List.mem_singleton_self (⟨s, ev, s', out⟩ :
      Runs.Step (Net N E) (Event N E) (Log N E)))
    exact linked_step (Run.decent hr henc.of_append) (henc _ hlast) hok (hkeep _ hlast)
      (ih henc.of_append fun st hst => hkeep st (List.mem_append_left _ hst))

/-! ## What one step does

  One node moves, so there are two sides to look at: what it takes off the wire, and what it puts on
  it. -/

omit [DecidableEq N] in
/-- What arrives leaves the wire and is reported.  That the filter lets it through is
    `Fresh.admits`: a guid on the wire has not been seen at the end it is for. -/
theorem Decent.arrival (hs : net.Decent s) (hf : Fresh s) {ev : Event N E}
    (hev : net.Encodes ev) {n : N} {via : Option E} {qe : Queries.Event E}
    {left : List (E × Message)} {iss : List String} (hm : Moves net s ev n via qe left iss)
    {q : Queries E} {acts : List (Action E)}
    (heff : Queries.Effect (net.host n) (s.queries n) qe q acts) (e : E) :
    net.inTransit e qid x left + relayedOver e qid x (logs n via acts) =
      net.inTransit e qid x s.wire := by
  rw [relayedOver_logs]
  cases hm with
  | deliver i d msgp hw hopen =>
    have hmade := Queries.reportsMade_received (hs.welcome hev (.deliver i d msgp hw hopen)) heff
      (fun ht => hf.admits hw ht _) qid x
    rw [net.host_js, net.host_playdar] at hmade
    have hcount := Tally.countP_eraseIdx hw fun p =>
      decide (p.1 = e) && Queries.carries net.js net.playdar qid x p.2
    rw [hmade, inTransit, inTransit, ← hcount]
    by_cases hd : d = e
    · simp [hd]
    · simp [hd]
  | _ => rw [if_neg (by simp), Nat.add_zero]

/-- What a node writes over an end is on its way to the other end.  The mate of an end is unique, so
    what is written over another end is not counted here. -/
theorem Linked.departure (hl : net.Linked s) (n : N) (acts : List (Action E)) (e : E) :
    net.inTransit (net.mate e) qid x (net.packets (s.router n) acts) =
      if net.node e = n then Queries.sentResults net.js net.playdar qid x e acts else 0 := by
  have hmate : ∀ c, net.mate c = net.mate e ↔ c = e := fun c =>
    ⟨fun h => by rw [← net.mate_mate c, h, net.mate_mate], fun h => by rw [h]⟩
  rw [inTransit, packets, List.countP_filterMap]
  by_cases hn : net.node e = n
  · rw [if_pos hn, Queries.sentResults]
    refine List.countP_congr fun a _ => ?_
    cases a with
    | asyncWrite c msgp =>
      by_cases hc : c = e
      · simp [hc, hl.opened, hn]
      · by_cases hopen : net.node c = n <;> simp [hl.opened, hopen, hmate, hc]
    | _ => simp
  · rw [if_neg hn, List.countP_eq_zero]
    intro a _
    cases a with
    | asyncWrite c msgp =>
      by_cases hc : c = e
      · simp [hc, hl.opened, hn]
      · by_cases hopen : net.node c = n <;> simp [hl.opened, hopen, hmate, hc]
    | _ => simp

/-! ## The flow of results

  A conservation law: over the connection to a query's origin there goes what is reported at the
  node, and nothing else goes over any connection. -/

/-- What is reported at a node goes to the node the query came from, and nowhere else.  The three
    clauses are for an end that is the origin, for an end that is not, and for a node that the query
    has not reached. -/
structure Flow (net : Network N E) (l : List (Log N E)) (s : Net N E) (qid : Qid)
    (x : ResolvedItem) : Prop where
  passed : ∀ e, (s.queries (net.node e)).qidorigins qid = some e →
    net.reportedAt (net.node e) qid x l =
      (s.queries (net.node e)).pendingResults qid x +
        (net.inTransit (net.mate e) qid x s.wire + relayedOver (net.mate e) qid x l)
  other : ∀ e, (s.queries (net.node e)).qidorigins qid ≠ some e →
    net.inTransit (net.mate e) qid x s.wire + relayedOver (net.mate e) qid x l = 0
  unknown : ∀ n, (s.queries n).queries qid = none → net.reportedAt n qid x l = 0

omit [DecidableEq N] [DecidableEq E] in
/-- A message comes in over an end of the node that moves, and so what is relayed over an end is
    reported at the node that holds it. -/
theorem Moves.node_via {ev : Event N E} {n : N} {via : Option E} {qe : Queries.Event E}
    {left : List (E × Message)} {iss : List String} (hm : Moves net s ev n via qe left iss) {e : E}
    (he : via = some e) : net.node e = n := by
  cases hm with
  | deliver i d msgp =>
    obtain rfl := Option.some.inj he
    rfl
  | _ => cases he

/-- Nothing is reported for a query the node does not have.  A result could only have come in from a
    node that got the query from here, and then the query would be here. -/
theorem Flow.quiet {l : List (Log N E)} (hflow : net.Flow l s qid x) (hs : net.Decent s)
    (hpeer : ∀ e, (s.queries (net.node e)).qidorigins qid = some e →
      (s.queries (net.node (net.mate e))).queries qid ≠ none)
    {ev : Event N E} (hev : net.Encodes ev) {n : N} {via : Option E} {qe : Queries.Event E}
    {left : List (E × Message)} {iss : List String} (hm : Moves net s ev n via qe left iss)
    {q : Queries E} {acts : List (Action E)}
    (heff : Queries.Effect (net.host n) (s.queries n) qe q acts)
    (hnone : (s.queries n).queries qid = none) : Queries.reportsMade qid x acts = 0 := by
  by_contra hmade
  rcases Queries.of_reportsMade (hs.welcome hev hm) heff hmade with
    ⟨r, conn, msgp, rfl, hcarries⟩ | ⟨item, rfl⟩
  · cases hm with
    | deliver i e msgp hw =>
      -- a result only comes from a node whose query is from here
      rw [net.host_js, net.host_playdar] at hcarries
      have hpos : 0 < net.inTransit conn qid x s.wire :=
        List.countP_pos_iff.mpr ⟨_, List.mem_of_getElem? hw, by simp [hcarries]⟩
      by_cases ho : (s.queries (net.node (net.mate conn))).qidorigins qid = some (net.mate conn)
      · have hknown := hpeer _ ho
        rw [net.mate_mate] at hknown
        exact hknown hnone
      · have hzero := hflow.other (net.mate conn) ho
        rw [net.mate_mate] at hzero
        omega
  · cases hm with
    | reportResults n k item hex => exact hex hnone

omit [DecidableEq E] in
/-- What a step adds to the reports of a node: those it makes, if it is this node that moves. -/
theorem Moves.reportedAt_append {ev : Event N E} {n : N} {via : Option E} {qe : Queries.Event E}
    {left : List (E × Message)} {iss : List String} (hm : Moves net s ev n via qe left iss)
    (l : List (Log N E)) (acts : List (Action E)) (m : N) :
    net.reportedAt m qid x (l ++ logs n via acts) =
      net.reportedAt m qid x l + if n = m then Queries.reportsMade qid x acts else 0 := by
  rw [← net.reportedAt_logs fun e => hm.node_via]
  exact List.countP_append

/-- What a step adds to what is, or has been, on the way over a link.  What arrives only changes
    from being on the way to having been on it, so that is nothing; what is added is what is
    written. -/
theorem Linked.transit_append (hl : net.Linked s) (hs : net.Decent s) (hf : Fresh s)
    {ev : Event N E} (hev : net.Encodes ev) {n : N} {via : Option E} {qe : Queries.Event E}
    {left : List (E × Message)} {iss : List String} (hm : Moves net s ev n via qe left iss)
    {q : Queries E} {acts : List (Action E)}
    (heff : Queries.Effect (net.host n) (s.queries n) qe q acts) (qid : Qid) (x : ResolvedItem)
    (l : List (Log N E)) (e : E) :
    net.inTransit (net.mate e) qid x (left ++ net.packets (s.router n) acts) +
        relayedOver (net.mate e) qid x (l ++ logs n via acts) =
      net.inTransit (net.mate e) qid x s.wire + relayedOver (net.mate e) qid x l +
        if net.node e = n then Queries.sentResults net.js net.playdar qid x e acts else 0 := by
  rw [← hs.arrival hf hev hm heff, ← hl.departure]
  unfold inTransit relayedOver
  rw [List.countP_append, List.countP_append]
  omega

omit [DecidableEq N] in
/-- Results only go to the recorded origin, which is `sentResults_other` for the node that moves. -/
theorem Decent.sent_other (hs : net.Decent s) {ev : Event N E} (hev : net.Encodes ev) {n : N}
    {via : Option E} {qe : Queries.Event E} {left : List (E × Message)} {iss : List String}
    (hm : Moves net s ev n via qe left iss) {q : Queries E} {acts : List (Action E)}
    (heff : Queries.Effect (net.host n) (s.queries n) qe q acts) {e : E}
    (ho : (s.queries n).qidorigins qid ≠ some e) :
    Queries.sentResults net.js net.playdar qid x e acts = 0 := by
  have h := Queries.sentResults_other (hs.sane n) (hs.welcome hev hm) heff ho x
  rwa [net.host_js, net.host_playdar] at h

/-- The flow is kept at the node that moves, over the origin it has after the step.  If it had that
    origin before, this is the law of one node.  If not, the query has just been taken on, and all
    the numbers are zero. -/
theorem Flow.passed_here {l : List (Log N E)} (hflow : net.Flow l s qid x) (hs : net.Decent s)
    (hl : net.Linked s) {ev : Event N E} (hev : net.Encodes ev) {via : Option E}
    {qe : Queries.Event E} {left : List (E × Message)} {iss : List String} {e : E}
    (hm : Moves net s ev (net.node e) via qe left iss) {q : Queries E} {acts : List (Action E)}
    (heff : Queries.Effect (net.host (net.node e)) (s.queries (net.node e)) qe q acts)
    (hquiet : (s.queries (net.node e)).queries qid = none → Queries.reportsMade qid x acts = 0)
    (ho : q.qidorigins qid = some e) :
    net.reportedAt (net.node e) qid x l + Queries.reportsMade qid x acts =
      q.pendingResults qid x +
        (net.inTransit (net.mate e) qid x s.wire + relayedOver (net.mate e) qid x l +
          Queries.sentResults net.js net.playdar qid x e acts) := by
  by_cases hold : (s.queries (net.node e)).qidorigins qid = some e
  · -- what is reported becomes pending, what was pending is written
    have hpass := Queries.pendingResults_step (hs.sane _) (hs.welcome hev hm) heff hold
      (fun r hr => by
        rw [hm.router_eq hr, hl.expired]
        exact List.not_mem_nil) x
    rw [net.host_js, net.host_playdar] at hpass
    have hbefore := hflow.passed e hold
    omega
  · -- the query has just been taken on
    have hother := hflow.other e hold
    cases Queries.takes_step heff qid (hm.keeps qid) with
    | no _ hsame => exact absurd (hsame.symm.trans ho) hold
    | received r conn msgp rq he ht _ _ hnew =>
      subst he
      rw [(hs.sane _).pendingResults_taken heff ht hnew x, hflow.unknown _ hnew, hquiet hnew,
        hs.sent_other hev hm heff hold, hother]
    | started _ _ _ _ _ hsame => exact absurd (hsame.symm.trans ho) hold

/-- **The flow is kept**, at the node that moves and over every other connection.  The clauses are
    proved one by one, and in each the node that moves is taken apart from the others, for which
    nothing has changed. -/
theorem flow_step {l : List (Log N E)} {ev : Event N E} {out : List (Log N E)}
    (hs : net.Decent s) (hf : Fresh s) (hl : net.Linked s)
    (hpeer : ∀ e, (s.queries (net.node e)).qidorigins qid = some e →
      (s.queries (net.node (net.mate e))).queries qid ≠ none)
    (hev : net.Encodes ev) (hkeep : ∀ e, ev ≠ .close e ∧ ev ≠ .release e)
    (hok : net.step s ev = .ok (s', out)) (hflow : net.Flow l s qid x) :
    net.Flow (l ++ out) s' qid x := by
  cases step_effect hok with
  | idle => rwa [List.append_nil]
  | lost i he e msgp hw hclosed => exact absurd ((hl.opened _ e).mpr rfl) hclosed
  | rerouted e he =>
    rcases he with rfl | rfl
    · exact absurd rfl (hkeep e).1
    · exact absurd rfl (hkeep e).2
  | moved n via qe left iss hm q acts heff =>
    -- what the step does to a wire: it takes off `left`, and adds what the node writes
    have htransit := hl.transit_append hs hf hev hm heff qid x l
    -- a node without the query neither reports nor writes a result for it
    have hquiet := hflow.quiet hs hpeer hev hm heff
    have htakes := Queries.takes_step heff qid (hm.keeps qid)
    refine ⟨fun e ho => ?_, fun e ho => ?_, fun m hnone => ?_⟩
    · show _ = _ + (net.inTransit (net.mate e) qid x (left ++ net.packets (s.router n) acts) + _)
      rw [hm.reportedAt_append, htransit]
      by_cases hn : net.node e = n
      · subst hn
        simp only [put, Function.update_self, if_true] at ho ⊢
        exact hflow.passed_here hs hl hev hm heff hquiet ho
      · simp only [put, Function.update_of_ne hn] at ho ⊢
        rw [if_neg (Ne.symm hn), if_neg hn]
        exact hflow.passed e ho
    · show net.inTransit (net.mate e) qid x (left ++ net.packets (s.router n) acts) + _ = 0
      rw [htransit]
      by_cases hn : net.node e = n
      · subst hn
        simp only [put, Function.update_self, if_true] at ho ⊢
        have hold : (s.queries (net.node e)).qidorigins qid ≠ some e := fun hold =>
          ho (htakes.origin (hs.sane _) hold)
        rw [hs.sent_other hev hm heff hold, hflow.other e hold]
      · simp only [put, Function.update_of_ne hn] at ho
        rw [if_neg hn]
        exact hflow.other e ho
    · rw [hm.reportedAt_append]
      by_cases hn : n = m
      · subst hn
        simp only [put, Function.update_self] at hnone
        have hold := htakes.unknown hnone
        rw [hflow.unknown n hold, hquiet hold, if_pos rfl]
      · simp only [put, Function.update_of_ne (Ne.symm hn)] at hnone
        rw [if_neg hn, hflow.unknown m hnone]

/-- So it holds in every run that starts with nothing asked, in which all is honest and nothing
    drops. -/
theorem Run.flow {hist : History N E} (hr : net.Run hist s) (henc : net.AllEncode hist)
    (hkeep : NoDrops hist) (qid : Qid) (x : ResolvedItem) : net.Flow (log hist) s qid x := by
  refine Runs.Run.invariant (I := fun hist s => net.AllEncode hist → NoDrops hist →
    net.Flow (log hist) s qid x) ?_ ?_ hr henc hkeep
  · intro s h0 _ _
    refine ⟨fun e ho => ?_, fun e _ => ?_, fun _ _ => rfl⟩
    · rw [h0.queries] at ho
      cases ho
    · rw [h0.wire]
      rfl
  · intro hist s ev s' out hr ih hok henc hkeep
    have hlast := List.mem_append_right hist (List.mem_singleton_self (⟨s, ev, s', out⟩ :
      Runs.Step (Net N E) (Event N E) (Log N E)))
    have hkeep' : NoDrops hist := fun st hst => hkeep st (List.mem_append_left _ hst)
    rw [log_append]
    exact flow_step (Run.decent hr henc.of_append) (Run.fresh hr henc.of_append)
      (Run.linked hr henc.of_append hkeep') (fun e he => (Run.peer_known hr henc.of_append he).2)
      (henc _ hlast) (hkeep _ hlast) hok (ih henc.of_append hkeep')

/-! ## When everything has been delivered

  With nothing pending and nothing on the wire the law says what each node has been told, in terms
  of what its neighbours were; the tree of origins turns that into a sum. -/

/-- No result for `qid` is on the wire, and no callback is due for one.  The query itself may still
    be running, and other queries may be in any state. -/
structure Settled (net : Network N E) (s : Net N E) (qid : Qid) : Prop where
  wire : ∀ p ∈ s.wire, ∀ x, Queries.carries net.js net.playdar qid x p.2 = false
  callbacks : ∀ n, ∀ cb ∈ (s.queries n).callbacks, cb.qid ≠ qid

/-- Then what was reported at a node has been relayed over the connection its query came from, and
    nothing over any other.  The two terms for what is on its way are zero. -/
theorem Flow.relayedOver_eq {l : List (Log N E)} (hflow : net.Flow l s qid x)
    (hdone : net.Settled s qid) (e : E) :
    relayedOver (net.mate e) qid x l =
      if (s.queries (net.node e)).qidorigins qid = some e then
        net.reportedAt (net.node e) qid x l else 0 := by
  by_cases ho : (s.queries (net.node e)).qidorigins qid = some e
  · have htransit : net.inTransit (net.mate e) qid x s.wire = 0 := by
      rw [inTransit, List.countP_eq_zero]
      intro p hp
      simp [hdone.wire p hp x]
    have hpending : (s.queries (net.node e)).pendingResults qid x = 0 := by
      rw [Queries.pendingResults, List.countP_eq_zero]
      intro cb hcb
      simp [hdone.callbacks _ cb hcb]
    rw [if_pos ho, hflow.passed e ho, htransit, hpending, Nat.zero_add, Nat.zero_add]
  · rw [if_neg ho]
    have hzero := hflow.other e ho
    omega

variable [Fintype E]

/-- A result reported at a node was found there or came in over one of its ends.  The proof goes
    through the log entry by entry, since the three counts go through the same log. -/
theorem reportedAt_eq (net : Network N E) (n : N) (qid : Qid) (x : ResolvedItem)
    (l : List (Log N E)) : net.reportedAt n qid x l =
      foundAt n qid x l + ∑ e, if net.node e = n then relayedOver e qid x l else 0 := by
  -- one entry of the log at a time
  have hone : ∀ a : Log N E, net.reportedAt n qid x [a] =
      foundAt n qid x [a] + ∑ e, if net.node e = n then relayedOver e qid x [a] else 0 := by
    intro a
    cases a with
    | relayed d k item =>
      rw [Finset.sum_eq_single_of_mem d (Finset.mem_univ d)]
      · by_cases hd : net.node d = n <;> simp [reportedAt, foundAt, relayedOver, hd]
      · intro e _ hne
        simp [relayedOver, Ne.symm hne]
    | _ => simp [reportedAt, foundAt, relayedOver]
  induction l with
  | nil => simp [reportedAt, foundAt, relayedOver]
  | cons a l ih =>
    have hreported : net.reportedAt n qid x (a :: l) =
        net.reportedAt n qid x [a] + net.reportedAt n qid x l := @List.countP_append _ _ [a] l
    have hfound : foundAt n qid x (a :: l) = foundAt n qid x [a] + foundAt n qid x l :=
      @List.countP_append _ _ [a] l
    have hrelayed : ∀ e, (if net.node e = n then relayedOver e qid x (a :: l) else 0) =
        (if net.node e = n then relayedOver e qid x [a] else 0) +
          if net.node e = n then relayedOver e qid x l else 0 := by
      intro e
      have happend : relayedOver e qid x (a :: l) =
          relayedOver e qid x [a] + relayedOver e qid x l := @List.countP_append _ _ [a] l
      by_cases hn : net.node e = n <;> simp [hn, happend]
    rw [hreported, hfound, hone a, ih, Finset.sum_congr rfl fun e _ => hrelayed e,
      Finset.sum_add_distrib]
    omega

variable [Fintype N]

/-- What comes in at a node comes from the nodes whose query is from there.  The sum over the ends
    of this node is made one over their mates, and then one over the nodes that hold those: each
    child in the tree has one end to here, and a node that is no child has none. -/
theorem Flow.sum_relayedOver {l : List (Log N E)} (hflow : net.Flow l s qid x)
    (hdone : net.Settled s qid)
    (hheld : ∀ n e, (s.queries n).qidorigins qid = some e → net.node e = n) (n : N) :
    (∑ e, if net.node e = n then relayedOver e qid x l else 0) =
      ∑ c, if net.parent s qid c = some n then net.reportedAt c qid x l else 0 := by
  -- each end has one mate, so the sum may run over the mates instead
  have hmate : (∑ e, if net.node e = n then relayedOver e qid x l else 0) =
      ∑ e, if net.node (net.mate e) = n then relayedOver (net.mate e) qid x l else 0 :=
    (Equiv.sum_comp (Function.Involutive.toPerm net.mate net.mate_mate) fun e =>
      if net.node e = n then relayedOver e qid x l else 0).symm
  rw [hmate, ← Finset.sum_fiberwise _ net.node]
  refine Finset.sum_congr rfl fun c _ => ?_
  cases ho : (s.queries c).qidorigins qid with
  | none =>
    rw [if_neg (by simp [parent, ho])]
    refine Finset.sum_eq_zero fun e he => ?_
    obtain rfl := (Finset.mem_filter.mp he).2
    rw [hflow.relayedOver_eq hdone, ho]
    simp
  -- of the ends of this child one counts, the one its query is from
  | some d =>
    have hd := hheld c d ho
    rw [Finset.sum_eq_single_of_mem d (by simp [hd])]
    · rw [hflow.relayedOver_eq hdone, hd, ho, if_pos rfl]
      simp [parent, ho]
    · intro e he hne
      obtain rfl := (Finset.mem_filter.mp he).2
      rw [hflow.relayedOver_eq hdone, ho, if_neg (fun h => hne (Option.some.inj h).symm)]
      simp

open Classical in
/-- **What is reported at a node is what was found below it in the reply tree.**  With the equation
    of each node at hand the rest is about trees and numbers, and is `Forest.Grown.flow_univ`.  A
    node outside the tree has been told nothing and has nothing below it. -/
theorem Flow.reportedAt_eq_sum {l : List (Log N E)} (hflow : net.Flow l s qid x)
    (hdone : net.Settled s qid) (hs : net.Decent s) {w : N} {L : List N}
    (ht : net.Tree s qid w L) (hw : w ∈ L) (n : N) :
    net.reportedAt n qid x l =
      ∑ m, if Forest.OnPath (net.parent s qid) w n m then foundAt m qid x l else 0 := by
  have hout : ∀ k, k ∉ L → net.parent s qid k = none := by
    intro k hk
    have hnone : (s.queries k).qidorigins qid = none := by
      by_contra ho
      exact hk ((ht.known k).mpr ((hs.sane k).origins qid ho))
    simp [parent, hnone]
  -- the equation of one node: what it was told is what it found and what its children were told
  have htotal : ∀ k, net.reportedAt k qid x l = foundAt k qid x l +
      ∑ c, if net.parent s qid c = some k then net.reportedAt c qid x l else 0 := by
    intro k
    rw [reportedAt_eq, hflow.sum_relayedOver hdone ht.held]
  by_cases hn : n ∈ L
  · exact ht.grown.flow_univ hw hout (fun k _ => htotal k) n hn
  · -- a node outside the tree does not know the query
    have hnone : (s.queries n).queries qid = none := by
      by_contra hne
      exact hn ((ht.known n).mpr hne)
    rw [hflow.unknown n hnone, Finset.sum_eq_zero]
    intro m _
    exact if_neg fun hon => hn (hon.mem ht.grown (hon.mem_of_parents hw hout))

end Network

end Greynet
