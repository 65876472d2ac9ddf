/-
  How a query floods a network, whatever the order of events and whichever connections go away.

  The number of QUERY messages has nothing to do with how fast they are or what they meet: a node
  takes a query on once, and writes it at two moments after that.

  1. Every node is handed a query at most once (`Run.dispatched_eq`).
  2. It writes the query at most twice on each of its connections: when `start_resolving` is called
     and when its timer runs out.  So the number of QUERY messages is bounded, and so is the number
     of events that move the query at all: each of them uses up a potential (`Run.flood_le`).
-/
import Greynet.Network
import Mathlib.Algebra.BigOperators.Ring.Finset
import Mathlib.Tactic.Linarith
import Mathlib.Tactic.Ring

namespace Greynet

namespace Network

variable {N E : Type} [DecidableEq N] [DecidableEq E]

/-! ## Counting a query's messages

  What is counted is read off a step: the messages in its log, the query it hands over, the message
  its event takes off the wire, and the timer or call it is. -/

omit [DecidableEq N] [DecidableEq E] in
/-- The QUERY messages for `qid` written in a step, on whatever connections. -/
def written (net : Network N E) (qid : Qid) (out : List (Log N E)) : Nat :=
  out.countP fun
    | .wrote _ msgp => Queries.asks net.js net.playdar qid msgp
    | _ => false

/-- How often a step hands `qid` to the playdar of `n`. -/
def dispatchedAt (n : N) (qid : Qid) (out : List (Log N E)) : Nat :=
  out.countP fun
    | .dispatched m k => decide (m = n ∧ k = qid)
    | _ => false

/-- Whether the event is the arrival of a QUERY for `qid`; it counts even if the connection has
    closed. -/
def arrives (net : Network N E) (qid : Qid) (s : Net N E) : Event N E → Nat
  | .deliver i =>
    match s.wire[i]? with
    | some p => if Queries.asks net.js net.playdar qid p.2 then 1 else 0
    | none => 0
  | _ => 0

/-- Whether the event is a timer or a `start_resolving` that is due for `qid`.  One that is due for
    another query, or for none, costs this one nothing. -/
def fires (qid : Qid) (s : Net N E) : Event N E → Nat
  | .fwdSearch n i err => (s.queries n).fires (.fwdSearch (s.router n) i err) qid
  | .startResolving n k uuid =>
    if uuid ∈ s.issued then 0
    else (s.queries n).fires (.startResolving (s.router n) k uuid) qid
  | _ => 0

/-- The QUERY messages for `qid` on the wire, written and not yet arrived. -/
def onWire (net : Network N E) (s : Net N E) (qid : Qid) : Nat :=
  s.wire.countP fun p => Queries.asks net.js net.playdar qid p.2

omit [DecidableEq N] in
/-- What goes on the wire has been written; what is written on a closed connection does not go
    there. -/
theorem countP_packets_le (net : Network N E) (r : Router E) (acts : List (Action E))
    (qid : Qid) : (net.packets r acts).countP (fun p => Queries.asks net.js net.playdar qid p.2) ≤
      Queries.sentQueries net.js net.playdar qid acts := by
  rw [packets, List.countP_filterMap, Queries.sentQueries]
  refine List.countP_mono_left fun a _ hcount => ?_
  cases a with
  | asyncWrite e msgp =>
    by_cases hopen : e ∈ r.connections
    · simpa [hopen] using hcount
    · simp [hopen] at hcount
  | _ => simp at hcount

omit [DecidableEq N] [DecidableEq E] in
/-- A node's step logs what the queries write, message for message. -/
theorem written_logs (net : Network N E) (n : N) (via : Option E) (qid : Qid)
    (acts : List (Action E)) :
    net.written qid (logs n via acts) = Queries.sentQueries net.js net.playdar qid acts := by
  rw [written, logs, List.countP_filterMap, Queries.sentQueries]
  refine List.countP_congr fun a _ => ?_
  cases a with
  | reportResults k item => cases via <;> simp
  | _ => simp

omit [DecidableEq E] in
/-- And it hands over what they dispatch, at that node. -/
theorem dispatchedAt_logs (n m : N) (via : Option E) (qid : Qid) (acts : List (Action E)) :
    dispatchedAt m qid (logs n via acts) =
      if n = m then Queries.dispatches qid acts else 0 := by
  rw [dispatchedAt, logs, List.countP_filterMap]
  by_cases hn : n = m
  · rw [if_pos hn, Queries.dispatches]
    refine List.countP_congr fun a _ => ?_
    cases a with
    | reportResults k item => cases via <;> simp
    | _ => simp [hn]
  · rw [if_neg hn, List.countP_eq_zero]
    intro a _
    cases a with
    | reportResults k item => cases via <;> simp
    | _ => simp [hn]

/-! ## What moves a query

  A step of the network moves one node at most.  What the counts above say of the step is what they
  say of that node's event and of the wire. -/

omit [DecidableEq N] [DecidableEq E] in
/-- A move is due when its event is due at the node that moves. -/
theorem Moves.fires_eq {net : Network N E} {s : Net N E} {ev : Event N E} {n : N} {via : Option E}
    {qe : Queries.Event E} {w : List (E × Message)} {iss : List String}
    (hm : Moves net s ev n via qe w iss) (qid : Qid) :
    fires qid s ev = (s.queries n).fires qe qid := by
  cases hm with
  | startResolving n k uuid hnew => exact if_neg hnew
  | _ => rfl

omit [DecidableEq N] [DecidableEq E] in
/-- What arrives leaves the wire, and nothing else does. -/
theorem Moves.countP_wire {net : Network N E} {s : Net N E} {ev : Event N E} {n : N}
    {via : Option E} {qe : Queries.Event E} {w : List (E × Message)} {iss : List String}
    (hm : Moves net s ev n via qe w iss) (qid : Qid) :
    w.countP (fun p => Queries.asks net.js net.playdar qid p.2) + net.arrives qid s ev =
      net.onWire s qid := by
  cases hm with
  | deliver i e msgp hw =>
    have hcount := Tally.countP_eraseIdx hw fun p => Queries.asks net.js net.playdar qid p.2
    simp only [arrives, hw]
    exact hcount
  | _ => rfl

omit [DecidableEq N] [DecidableEq E] in
/-- A node steps with its router as it is; the queries get to see it with the event. -/
theorem Moves.router_eq {net : Network N E} {s : Net N E} {ev : Event N E} {n : N}
    {via : Option E} {qe : Queries.Event E} {w : List (E × Message)} {iss : List String}
    (hm : Moves net s ev n via qe w iss) {r : Router E} (hr : qe.router = some r) :
    r = s.router n := by
  cases hm with
  | localQuery => cases hr
  | reportResults => cases hr
  | solve => cases hr
  | _ => exact (Option.some.inj hr).symm

omit [DecidableEq N] [DecidableEq E] in
/-- A blocked event moves nothing, so it is not counted. -/
theorem Blocked.quiet {net : Network N E} {s : Net N E} {ev : Event N E}
    (hb : net.Blocked s ev) (qid : Qid) : fires qid s ev = 0 ∧ net.arrives qid s ev = 0 := by
  cases ev with
  | deliver i =>
    have hnone : s.wire[i]? = none := hb
    exact ⟨rfl, by simp only [arrives, hnone]⟩
  | startResolving n k uuid => exact ⟨if_pos hb, rfl⟩
  | fwdSearch => cases hb
  | _ => exact ⟨rfl, rfl⟩

omit [DecidableEq N] [DecidableEq E] in
/-- No event makes playdar forget a query: the network has no event for that. -/
theorem Moves.keeps {net : Network N E} {s : Net N E} {ev : Event N E} {n : N} {via : Option E}
    {qe : Queries.Event E} {w : List (E × Message)} {iss : List String}
    (hm : Moves net s ev n via qe w iss) (k : Qid) : qe ≠ .drop k := by
  cases hm <;> exact fun hk => by cases hk

/-! ## Taking a query on

  `handle_query` looks whether playdar has the query, and nothing takes it away again.  So it comes
  in once, over whichever connection is first. -/

/-- A node has the query after a step if it had it before or is handed it in the step, and not
    both. -/
theorem dispatched_step {net : Network N E} {s s' : Net N E} {ev : Event N E}
    {out : List (Log N E)} (hok : net.step s ev = .ok (s', out)) (n : N) (qid : Qid) :
    dispatchedAt n qid out + (if (s.queries n).queries qid = none then 0 else 1) =
      if (s'.queries n).queries qid = none then 0 else 1 := by
  cases step_effect hok with
  | idle => exact Nat.zero_add _
  | lost => exact Nat.zero_add _
  | rerouted => exact Nat.zero_add _
  | moved m via qe w iss hm q acts heff =>
    rw [dispatchedAt_logs]
    by_cases hn : m = n
    · subst hn
      simp only [put, Function.update_self, if_pos]
      cases Queries.takes_step heff qid (hm.keeps qid) with
      | no hq ho hd => simp only [hd, hq, Nat.zero_add]
      | received r conn msgp rq he ht hrq hid hnew hq ho hd => simp [hd, hnew, hq]
      | started rq he hid hnew hq ho hd => simp [hd, hnew, hq]
    · simp only [put, if_neg hn, Function.update_of_ne (Ne.symm hn), Nat.zero_add]

/-- **A node that has the query has been handed it once; no other node has.**  Summed up over the
    run, what a step hands over is the difference it makes. -/
theorem Run.dispatched_eq {net : Network N E} {hist : History N E} {s : Net N E}
    (hr : net.Run hist s) (n : N) (qid : Qid) :
    (hist.map fun st => dispatchedAt n qid st.out).sum =
      if (s.queries n).queries qid = none then 0 else 1 := by
  refine Runs.Run.invariant (I := fun hist s => (hist.map fun st => dispatchedAt n qid st.out).sum =
    if (s.queries n).queries qid = none then 0 else 1) ?_ ?_ hr
  · intro s h0
    rw [h0.queries n]
    rfl
  · intro hist s ev s' out _ ih hok
    rw [List.map_append, List.sum_append, ih, List.map_singleton, List.sum_singleton, Nat.add_comm]
    exact dispatched_step hok n qid

/-! ## The potential

  Each node starts with a budget of two for the query, one for the call of `start_resolving` and one
  for the timer.  It is worth what these may write: a QUERY on each connection of the node, and its
  arrival. -/

variable [Fintype N] [Fintype E]

/-- The ends a node holds, open or not; it can write on no others. -/
def degree (net : Network N E) (n : N) : Nat := (Finset.univ.filter fun e => net.node e = n).card

omit [DecidableEq E] in
/-- Each end is held by one node, so over all nodes they come to all the ends there are. -/
theorem sum_degree (net : Network N E) : ∑ n, net.degree n = Fintype.card E :=
  (Finset.card_eq_sum_card_fiberwise fun e _ => Finset.mem_univ (net.node e)).symm

omit [Fintype N] in
/-- A broadcast reaches no more connections than the node has: each of them once. -/
theorem Decent.foreachConns_length_le {net : Network N E} {s : Net N E} (hs : net.Decent s)
    (n : N) : ((net.host n).lib.foreachConns (s.router n)).length ≤ net.degree n := by
  have hnd := (net.host n).lib.nodup_foreachConns (hs.nodup n)
  rw [← List.toFinset_card_of_nodup hnd]
  refine Finset.card_le_card fun e he => ?_
  have hmem := (net.host n).lib.mem_foreachConns.mp (List.mem_toFinset.mp he)
  exact Finset.mem_filter.mpr ⟨Finset.mem_univ e, hs.held n e hmem.1⟩

/-- The potential of the flood of `qid`, where writing a QUERY costs `a`, a timer or a
    `start_resolving` costs `b`, and the arrival of a QUERY costs `c`. -/
def potential (net : Network N E) (a b c : Nat) (qid : Qid) (s : Net N E) : Nat :=
  c * net.onWire s qid + ∑ n, ((a + c) * net.degree n + b) * (s.queries n).budget qid

/-- What a step costs the flood of `qid`, at the three prices. -/
def floodCost (net : Network N E) (a b c : Nat) (qid : Qid)
    (st : Runs.Step (Net N E) (Event N E) (Log N E)) : Nat :=
  a * net.written qid st.out + b * fires qid st.pre st.event + c * net.arrives qid st.pre st.event

/-- **Every step is paid for.**  What a node writes is paid for by its budget, and what arrives by
    the wire, which got it from the budget of whoever wrote it. -/
theorem flood_step {net : Network N E} {s s' : Net N E} {ev : Event N E} {out : List (Log N E)}
    (hs : net.Decent s) (hev : net.Encodes ev) (hok : net.step s ev = .ok (s', out))
    (a b c : Nat) (qid : Qid) :
    net.floodCost a b c qid ⟨s, ev, s', out⟩ + net.potential a b c qid s' ≤
      net.potential a b c qid s := by
  simp only [floodCost, potential]
  cases step_effect hok with
  | idle hb =>
    obtain ⟨hfires, harrives⟩ := Blocked.quiet hb qid
    rw [hfires, harrives]
    simp [written]
  | lost i he e msgp hw =>
    subst he
    have hcount := Tally.countP_eraseIdx hw fun p => Queries.asks net.js net.playdar qid p.2
    have harrives : net.arrives qid s (.deliver i) =
        if Queries.asks net.js net.playdar qid msgp then 1 else 0 := by
      simp only [arrives, hw]
    simp only [onWire, harrives, ← hcount, written, fires, List.countP_nil, Nat.mul_zero,
      Nat.mul_add]
    omega
  | rerouted e he r =>
    rcases he with rfl | rfl <;> simp [written, fires, arrives, onWire]
  | moved n via qe w iss hm q acts heff =>
    obtain ⟨hput, -⟩ := hs.put_eq hev hm heff
    have hnode := hs.sane n
    -- the node's own share: its budget pays for what it writes
    have hbudget := Queries.budget_step hnode heff hm.keeps qid
    have hsent : Queries.sentQueries net.js net.playdar qid acts ≤
        (s.queries n).fires qe qid * net.degree n := by
      have h := Queries.sentQueries_le hnode (hs.welcome hev hm) heff (k := net.degree n)
        (fun r hr => by
          rw [hm.router_eq hr]
          exact hs.foreachConns_length_le n) qid
      rwa [net.host_js, net.host_playdar] at h
    have hsum : (∑ m, ((a + c) * net.degree m + b) *
          ((Function.update s.queries n q) m).budget qid) +
        ((a + c) * net.degree n + b) * (s.queries n).fires qe qid ≤
          ∑ m, ((a + c) * net.degree m + b) * (s.queries m).budget qid := by
      apply Tally.sum_le_of_one (n := n)
      · rw [Function.update_self, ← Nat.mul_add]
        exact Nat.mul_le_mul_left _ hbudget
      · intro m hne
        rw [Function.update_of_ne hne]
    -- the wire's share
    have hwire := hm.countP_wire qid
    have hpackets := net.countP_packets_le (s.router n) acts qid
    rw [hput, written_logs, hm.fires_eq]
    simp only [onWire, List.countP_append] at hwire ⊢
    rw [← hwire]
    have hcost : (a + c) * Queries.sentQueries net.js net.playdar qid acts ≤
        (a + c) * ((s.queries n).fires qe qid * net.degree n) := Nat.mul_le_mul_left _ hsent
    have hnew := Nat.mul_le_mul_left c hpackets
    linarith only [hsum, hcost, hnew]

omit [DecidableEq E] in
/-- At the beginning every node may write the query twice on each of its connections. -/
theorem potential_start {net : Network N E} {s : Net N E} (h0 : net.Starts s) (a b c : Nat)
    (qid : Qid) : net.potential a b c qid s =
      2 * (a + c) * Fintype.card E + 2 * b * Fintype.card N := by
  have hbudget : ∀ n, (s.queries n).budget qid = 2 := fun n => by
    rw [h0.queries n]
    rfl
  have hdegree : ∑ n, ((a + c) * net.degree n + b) * 2 =
      (a + c) * Fintype.card E * 2 + Fintype.card N * b * 2 := by
    rw [← Finset.sum_mul, Finset.sum_add_distrib, ← Finset.mul_sum, net.sum_degree,
      Finset.sum_const, Finset.card_univ, nsmul_eq_mul, Nat.cast_id, Nat.add_mul]
  simp only [potential, onWire, h0.wire, hbudget, hdegree, List.countP_nil]
  ring

/-- **The flood of a query is finite**, whatever a QUERY, a timer and an arrival are taken to
    cost. -/
theorem Run.flood_le {net : Network N E} {hist : History N E} {s : Net N E}
    (hr : net.Run hist s) (henc : net.AllEncode hist) (a b c : Nat) (qid : Qid) :
    (hist.map (net.floodCost a b c qid)).sum ≤
      2 * (a + c) * Fintype.card E + 2 * b * Fintype.card N := by
  obtain ⟨s₀, h0, hle⟩ := Runs.Run.cost_le (net.floodCost a b c qid) (net.potential a b c qid)
    (I := fun s ev => net.Decent s ∧ net.Encodes ev)
    (fun s ev s' out hI hok => flood_step hI.1 hI.2 hok a b c qid) hr
    fun st hst => Run.decent_pre hr henc hst
  rw [potential_start h0] at hle
  exact Nat.le_of_add_right_le hle

end Network

end Greynet
