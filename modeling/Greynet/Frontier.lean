/-
  The search frontier: how often a relayed query goes out, and when.

  `handle_query` starts a timer of 100 ms, so that a stop can overtake the query on its way, and
  `fwd_search` passes the query on when the timer fires.  But `handle_query` has dispatched it
  before, and playdar then calls `start_resolving`, which passes it on at once.

  1. `askedOver` — the QUERY messages for an id that one connection is sent in a run;
     `Queries.pending` — the timers that have yet to fire.
  2. `asks_step` — where `start_resolving` finds nobody to tell, only a timer sends any.
  3. `Relayed` — the invariant: what has been sent and what is pending come to one at most.
  4. `relaysOnce_of_toldNobody` — so a query goes out once, and not at all if it was stopped in
     time.
-/
import Greynet.ReplyPath

namespace Greynet

/-! ## Pending timers

  There is one for each query that a peer has sent, from when it is taken on until it fires.  A stop
  does not take it away; `fwd_search` looks for itself whether the query still runs. -/

namespace Queries

variable {C : Type} [DecidableEq C]

omit [DecidableEq C] in
/-- The timers that will forward `qid`, unless it is solved or stopped by then. -/
def pending (q : Queries C) (qid : Qid) : Nat := q.timers.countP fun t => t.qid = qid

omit [DecidableEq C] in
/-- How many of them an event takes away: one if it is such a timer firing, whatever comes of it. -/
def expires (q : Queries C) (e : Event C) (qid : Qid) : Nat :=
  match e with
  | .fwdSearch _ i _ =>
    match q.timers[i]? with
    | some t => if t.qid = qid then 1 else 0
    | none => 0
  | _ => 0

/-- A timer is started when a query is taken on, and is gone when it has fired. -/
theorem pending_step {h : Host C} {q q' : Queries C} {e : Event C} {out : List (Action C)}
    (heff : Effect h q e q' out) (qid : Qid) :
    (q.queries qid = none ∧ q'.pending qid = q.pending qid + 1) ∨
    q'.pending qid + q.expires e qid = q.pending qid := by
  -- most effects leave the timers alone
  have hsame : q'.timers = q.timers → q.expires e qid = 0 →
      q'.pending qid + q.expires e qid = q.pending qid := by
    intro htimers hnone
    rw [pending, pending, htimers, hnone]
    omega
  cases heff with
  | idle e hb =>
    refine Or.inr (hsame rfl ?_)
    cases e with
    | fwdSearch r i err =>
      have hnone : q.timers[i]? = none := hb
      simp only [expires, hnone]
    | _ => rfl
  | noted r conn msgp => exact Or.inr (hsame (note_timers ..) rfl)
  | accepted r conn msgp rq hadm ht hrq hnew ho =>
    have htimers : ((q.note msgp).accept conn msgp rq).timers =
        q.timers ++ [⟨conn, msgp, rq.id⟩] := by simp only [accept, note_timers]
    -- the one timer that is set is for the query taken on
    by_cases hid : rq.id = qid
    · refine Or.inl ⟨hid ▸ hnew, ?_⟩
      rw [pending, pending, htimers, List.countP_append]
      simp [hid]
    · refine Or.inr ?_
      rw [pending, pending, htimers, List.countP_append]
      simp [hid, expires]
  | stopped r conn msgp => exact Or.inr (hsame (note_timers q msgp) rfl)
  | reported r conn msgp k rip url =>
    exact Or.inr (hsame ((reportResults_frame ..).2.2.trans (note_timers ..)) rfl)
  | forwarded r i err t out ht hout =>
    have hcount := Tally.countP_eraseIdx ht fun t => decide (t.qid = qid)
    refine Or.inr ?_
    simp only [expires, ht]
    simpa [pending] using hcount
  | answered => exact Or.inr (hsame (by rw [(sendResponse_frame ..).1]) rfl)
  | reportResults k item => exact Or.inr (hsame (reportResults_frame ..).2.2 rfl)
  | _ => exact Or.inr (hsame rfl rfl)

end Queries

namespace Node

variable {C : Type} [LinearOrder C]

/-! ## What a connection is sent

  A QUERY that is written counts for the connection it is written to.  Query and connection are
  fixed in all that follows, so what is counted is a number for each run. -/

/-- The QUERY messages for `qid` to `c` among some actions, whichever handler has written them. -/
def asksOf (host : Host C) (qid : Qid) (c : C) (out : List (Action C)) : Nat :=
  out.countP fun
    | .asyncWrite d msgp => decide (d = c) && Queries.asks host.js host.playdar qid msgp
    | _ => false

/-- The QUERY messages for `qid` to `c` in a run, from its start. -/
def askedOver (host : Host C) (hist : History C) (qid : Qid) (c : C) : Nat :=
  (hist.map fun st => asksOf host qid c st.out).sum

/-- One step more adds what it sends. -/
theorem askedOver_snoc (host : Host C) (hist : History C)
    (st : Runs.Step (Node C) (Event C) (Action C)) (qid : Qid) (c : C) :
    askedOver host (hist ++ [st]) qid c = askedOver host hist qid c + asksOf host qid c st.out := by
  simp [askedOver]

/-- If there are any, there is one. -/
theorem asksOf_ne_zero {host : Host C} {qid : Qid} {c : C} {out : List (Action C)}
    (h : asksOf host qid c out ≠ 0) :
    ∃ m, .asyncWrite c m ∈ out ∧ Queries.asks host.js host.playdar qid m = true := by
  obtain ⟨a, hin, ha⟩ := List.countP_pos_iff.mp (Nat.pos_of_ne_zero h)
  cases a with
  | asyncWrite d m =>
    obtain ⟨hd, hm⟩ : d = c ∧ Queries.asks host.js host.playdar qid m = true := by simpa using ha
    exact ⟨m, hd ▸ hin, hm⟩
  | _ => cases ha

/-- A broadcast reaches each connection once, for the router lists each once. -/
theorem asksOf_broadcast (host : Host C) {r : Router C} (hnd : r.connections.Nodup) (m : Message)
    (ex : Option C) (qid : Qid) (c : C) :
    asksOf host qid c (host.lib.broadcastExcept r m ex) ≤ 1 := by
  have hnodup := (host.lib.nodup_foreachConns hnd).filter fun d => decide (some d ≠ ex)
  rw [asksOf, Libf2f.broadcastExcept, List.countP_map]
  refine le_trans (List.countP_mono_left fun d _ hd => ?_) (List.nodup_iff_count_le_one.mp hnodup c)
  have hdc : d = c := by
    simp only [Function.comp_apply, Bool.and_eq_true, decide_eq_true_eq] at hd
    exact hd.1
  simp [hdc]

/-- The query is still to be forwarded: neither solved nor stopped. -/
def Running (n : Node C) (qid : Qid) : Prop :=
  ∃ x, n.queries.queries qid = some x ∧ x.solved = false ∧ x.stopped = false

/-- `start_resolving` of a query with an origin finds nobody but the origin to tell.  Of a query of
    the node's own it says nothing, for that has no timer. -/
def TellsNobody (n : Node C) (e : Event C) (qid : Qid) : Prop :=
  ∀ uuid x, e = .startResolving qid uuid → n.queries.queries qid = some x → x.unresolved = true →
    n.queries.qidorigins qid ≠ none → ∀ c ∈ n.mesh.router.connections,
      (n.mesh.router.conn c).ready = true →
        n.queries.getQueryOrigin n.mesh.router qid = some c

/-- A query that playdar has gets no more timers, and loses those that fire. -/
theorem pending_step {host : Host C} {n n' : Node C} {e : Event C} {out : List (Action C)}
    (hok : step host n e = .ok (n', out)) (qid : Qid) :
    (n.queries.queries qid = none ∧
      n'.queries.pending qid = n.queries.pending qid + 1) ∨
    (n'.queries.pending qid ≤ n.queries.pending qid ∧ ∀ qe, n.queryEvent e = some qe →
      n'.queries.pending qid + n.queries.expires qe qid = n.queries.pending qid) := by
  rcases step_queries hok with ⟨hnone, hsame⟩ | ⟨qe, out', hqe, hq⟩
  · refine Or.inr ⟨by rw [hsame], fun qe hqe => ?_⟩
    rw [hnone] at hqe
    cases hqe
  · rcases Queries.pending_step (Queries.step_effect hq) qid with hmore | hless
    · exact Or.inl hmore
    · refine Or.inr ⟨by omega, fun qe' hqe' => ?_⟩
      rw [hqe] at hqe'
      obtain rfl := Option.some.inj hqe'
      exact hless

/-- What `fwd_search` of a timer sends: a broadcast, or nothing. -/
theorem asksOf_fwdSearch {host : Host C} {n n' : Node C} {i : Nat} {err : Bool}
    {out : List (Action C)} (hnd : n.mesh.router.connections.Nodup)
    (hok : step host n (.fwdSearch i err) = .ok (n', out)) (qid : Qid) (c : C) :
    asksOf host qid c out ≤ 1 := by
  simp only [step] at hok
  obtain ⟨q, hq, -⟩ := onQueries_ok hok
  simp only [Queries.step] at hq
  split at hq
  · obtain ⟨-, rfl⟩ := Prod.mk.inj (Except.ok.inj hq)
    exact Nat.zero_le 1
  · split at hq
    · cases hq
    · rename_i hout
      obtain ⟨-, rfl⟩ := Prod.mk.inj (Except.ok.inj hq)
      rcases Queries.fwdSearch_ok hout with rfl | rfl
      · exact Nat.zero_le 1
      · exact asksOf_broadcast host hnd _ _ qid c

/-- **Only a timer sends a query that has an origin**, each connection once and only while the
    query runs, if `start_resolving` finds nobody to tell. -/
theorem asks_step {host : Host C} {n n' : Node C} {e : Event C} {out : List (Action C)}
    (hn : Rooted host n) (hnd : n.mesh.router.connections.Nodup) (ht : n.transfers.Sound)
    (hok : step host n e = .ok (n', out)) {qid : Qid} (ho : n.queries.qidorigins qid ≠ none)
    (halone : TellsNobody n e qid) (c : C) :
    asksOf host qid c out = 0 ∨
    (Running n qid ∧ asksOf host qid c out ≤ 1 ∧ ∃ qe, n.queryEvent e = some qe ∧
      n.queries.expires qe qid = 1) := by
  by_cases hzero : asksOf host qid c out = 0
  · exact Or.inl hzero
  · obtain ⟨m, hin, hasks⟩ := asksOf_ne_zero hzero
    rcases hn.asks ht hok hin hasks with ⟨uuid, x, he, hx, hun, hopen, hready, hne⟩ |
      ⟨i, t, x, rfl, hti, hid, hx, hrunning, -⟩
    · exact absurd (halone uuid x he hx hun ho c hopen hready) hne
    · refine Or.inr ⟨⟨x, hx, hrunning⟩, asksOf_fwdSearch hnd hok qid c, _, rfl, ?_⟩
      simp only [Queries.expires, hti, if_pos hid]

/-- A query nobody has an origin for is not asked for before playdar has it. -/
theorem asksOf_unknown {host : Host C} {n n' : Node C} {e : Event C} {out : List (Action C)}
    (hn : Rooted host n) (ht : n.transfers.Sound) (hok : step host n e = .ok (n', out))
    {qid : Qid} (hnone : n.queries.queries qid = none) (c : C) : asksOf host qid c out = 0 := by
  by_contra hne
  obtain ⟨m, hin, hasks⟩ := asksOf_ne_zero hne
  rcases hn.asks ht hok hin hasks with ⟨uuid, x, -, hx, -⟩ | ⟨i, t, x, -, -, -, hx, -⟩
  · rw [hnone] at hx
    cases hx
  · rw [hnone] at hx
    cases hx

/-! ## Once at most

  By induction on the run.  A step that asks takes the pending timer away, and there is no other; so
  what has been asked and what is pending never come to more than one. -/

/-- Playdar has the query, solved or stopped. -/
def Over (n : Node C) (qid : Qid) : Prop :=
  ∃ x, n.queries.queries qid = some x ∧ (x.solved = true ∨ x.stopped = true)

/-- A query that is over stays so, as long as playdar keeps it: neither flag is ever reset. -/
theorem over_step {host : Host C} {n n' : Node C} {e : Event C} {out : List (Action C)}
    {qid : Qid} (hn : n.Over qid) (hne : e ≠ .drop qid) (hok : step host n e = .ok (n', out)) :
    n'.Over qid := by
  obtain ⟨x, hx, hover⟩ := hn
  rcases step_queries hok with ⟨-, hsame⟩ | ⟨qe, out', hqe, hq⟩
  · exact ⟨x, by rw [hsame, hx], hover⟩
  · have hdrop : qe ≠ .drop qid := fun he => hne (queryEvent_drop (he ▸ hqe))
    obtain ⟨x', hx', hl⟩ := Queries.query_stays (Queries.step_effect hq) hx hdrop
    exact ⟨x', hx', hover.imp hl.solved hl.stopped⟩

/-- In some state of the run the query was solved or stopped, and its timer had yet to fire. -/
def CancelledInTime (hist : History C) (qid : Qid) : Prop :=
  ∃ st ∈ hist, st.post.Over qid ∧ st.post.queries.pending qid ≠ 0

/-- In no step of the run does `start_resolving` find anybody but the query's origin to tell. -/
def ToldNobody (hist : History C) (qid : Qid) : Prop :=
  ∀ st ∈ hist, TellsNobody st.pre st.event qid

/-- A relayed query goes to each connection at most once, and to none if it is cancelled in time. -/
structure RelaysOnce (host : Host C) (hist : History C) (qid : Qid) : Prop where
  once : ∀ c, askedOver host hist qid c ≤ 1
  cancelled : CancelledInTime hist qid → ∀ c, askedOver host hist qid c = 0

/-- **The invariant of a query, as seen from one connection.**  While playdar does not have it
    nothing has been sent; once it has, the timer that is pending and the message that is sent
    exclude each other. -/
structure Relayed (host : Host C) (hist : History C) (n : Node C) (qid : Qid) (c : C) :
    Prop where
  unknown : n.queries.queries qid = none →
    askedOver host hist qid c = 0 ∧ n.queries.pending qid = 0
  once : n.queries.qidorigins qid ≠ none →
    askedOver host hist qid c + n.queries.pending qid ≤ 1
  cancelled : CancelledInTime hist qid → n.queries.qidorigins qid ≠ none ∧ n.Over qid ∧
    askedOver host hist qid c = 0

/-- One step of the node.  The cases are whether the query has just been taken on, and whether it
    was cancelled before this step or by it. -/
theorem relayed_step {host : Host C} {hist : History C} {n n' : Node C} {e : Event C}
    {out : List (Action C)} (hr : Run host hist n)
    (hids : KeepsIds host (hist ++ [⟨n, e, n', out⟩])) {qid : Qid}
    (hkeep : KeepsQuery (hist ++ [⟨n, e, n', out⟩]) qid)
    (halone : TellsNobody n e qid) {c : C} (hn : Relayed host hist n qid c)
    (hok : step host n e = .ok (n', out)) :
    Relayed host (hist ++ [⟨n, e, n', out⟩]) n' qid c := by
  have hrooted := Run.rooted hr hids.left
  have hrooted' : Rooted host n' := Run.rooted (.snoc hr hok) hids
  have hknown := Run.known hr hkeep.left
  have hsound := (Run.transfers hr).sound
  have honce : n'.queries.qidorigins qid ≠ none →
      askedOver host (hist ++ [⟨n, e, n', out⟩]) qid c + n'.queries.pending qid ≤ 1 := by
    intro ho'
    rw [askedOver_snoc]
    show askedOver host hist qid c + asksOf host qid c out + n'.queries.pending qid ≤ 1
    by_cases ho : n.queries.qidorigins qid = none
    · -- it has just been taken on
      have hnew : n.queries.queries qid = none := by
        rcases dispatches_step hsound hok qid with ⟨hsame, -⟩ | ⟨conn, hnew, -⟩
        · exact absurd (hsame.trans ho) ho'
        · exact hnew
      obtain ⟨hasked, hnone⟩ := hn.unknown hnew
      have hquiet := asksOf_unknown hrooted hsound hok hnew c
      rcases pending_step hok qid with ⟨-, hmore⟩ | ⟨hle, -⟩ <;> omega
    · -- asking again is paid for by the timer that expires
      have hle := hn.once ho
      rcases pending_step hok qid with ⟨hnone, -⟩ | ⟨hfewer, hexpire⟩
      · exact absurd hnone (hknown.exists_of_origin ho)
      · rcases asks_step hrooted hr.gated.nodup hsound hok ho halone c with hquiet |
          ⟨-, hone, qe, hqe, hexpires⟩
        · omega
        · have hless := hexpire qe hqe
          omega
  refine ⟨fun hnone => ?_, honce, fun hcancelled => ?_⟩
  · have hnew : n.queries.queries qid = none := by
      rcases step_queries hok with ⟨-, hsame⟩ | ⟨qe, out', hqe, hq⟩
      · rwa [hsame] at hnone
      · have hdrop : qe ≠ .drop qid := fun he => hkeep.last (queryEvent_drop (he ▸ hqe))
        exact (Queries.takes_step (Queries.step_effect hq) qid hdrop).unknown hnone
    have hno : n'.queries.pending qid = 0 := by
      -- a timer holds the id of a query with an origin, and that exists
      have hknown' : Known n' qid := Run.known (.snoc hr hok) hkeep
      by_contra hne
      obtain ⟨t, ht, hid⟩ := List.countP_pos_iff.mp (Nat.pos_of_ne_zero hne)
      have hid' : t.qid = qid := by simpa using hid
      have ho := (hrooted'.timers t ht).1
      rw [hid'] at ho
      exact hknown'.exists_of_origin (by rw [ho]; simp) hnone
    refine ⟨?_, hno⟩
    rw [askedOver_snoc, (hn.unknown hnew).1]
    exact Nat.zero_add _ ▸ asksOf_unknown hrooted hsound hok hnew c
  · obtain ⟨st, hst, hover, hwaits⟩ := hcancelled
    -- cancelled before this step, or by it
    rcases List.mem_append.mp hst with hst | hst
    · obtain ⟨ho, hover, hasked⟩ := hn.cancelled ⟨st, hst, hover, hwaits⟩
      obtain ⟨conn, hconn⟩ := Option.ne_none_iff_exists'.mp ho
      refine ⟨by rw [origin_kept hok hconn]; simp, over_step hover hkeep.last hok, ?_⟩
      rw [askedOver_snoc, hasked, Nat.zero_add]
      rcases asks_step hrooted hr.gated.nodup hsound hok ho halone c with hquiet |
        ⟨⟨x, hx, hsolved, hstopped⟩, -⟩
      · exact hquiet
      · obtain ⟨x', hx', hover⟩ := hover
        rw [hx] at hx'
        obtain rfl := Option.some.inj hx'
        rcases hover with h | h
        · rw [hsolved] at h
          cases h
        · rw [hstopped] at h
          cases h
    · -- the step cancels it with its timer pending: that leaves nothing to ask with
      obtain rfl := List.mem_singleton.mp hst
      obtain ⟨t, ht, hid⟩ := List.countP_pos_iff.mp (Nat.pos_of_ne_zero hwaits)
      have hid' : t.qid = qid := by simpa using hid
      have ho : n'.queries.qidorigins qid ≠ none := by
        rw [← hid', (hrooted'.timers t ht).1]
        simp
      have hle := honce ho
      have hpos : 0 < n'.queries.pending qid := Nat.pos_of_ne_zero hwaits
      exact ⟨ho, hover, by omega⟩

/-- **A relayed query goes out once, and not at all if it is cancelled in time**, in every run in
    which `start_resolving` finds nobody to tell. -/
theorem relaysOnce_of_toldNobody (host : Host C) (hist : History C) (n : Node C)
    (hr : Run host hist n) (hids : KeepsIds host hist) (qid : Qid) (hkeep : KeepsQuery hist qid)
    (hpeer : n.queries.qidorigins qid ≠ none) (halone : ToldNobody hist qid) :
    RelaysOnce host hist qid := by
  have hrelayed : ∀ c, Relayed host hist n qid c := by
    intro c
    refine Runs.Run.invariant (I := fun hist n => KeepsIds host hist → KeepsQuery hist qid →
      ToldNobody hist qid → Relayed host hist n qid c) ?_ ?_ hr hids hkeep halone
    · rintro n rfl - - -
      refine ⟨fun _ => ⟨rfl, rfl⟩, fun ho => absurd rfl ho, ?_⟩
      rintro ⟨st, hst, -⟩
      cases hst
    · intro hist n e n' out hr ih hok hids hkeep halone
      have hleft : ToldNobody hist qid := fun st hst => halone st (List.mem_append_left _ hst)
      exact relayed_step hr hids hkeep
        (halone _ List.mem_concat_self)
        (ih hids.left hkeep.left hleft) hok
  refine ⟨fun c => ?_, fun hcancelled c => ((hrelayed c).cancelled hcancelled).2.2⟩
  have hle := (hrelayed c).once hpeer
  omega

/-- Bob has gone when playdar calls `start_resolving` for alice's query, and is back when the timer
    fires. -/
def bobIsBack : List (Event Nat) :=
  (asking ++ [.mesh (.closed 1)]) ++ .startResolving "q" "u3" ::
    [.mesh (.newIncomingConnection 2), .received 2 ⟨.ident, "g4", bobIdent⟩ .nothing "u4",
      .fwdSearch 0 false]

/-- He is told once ... -/
theorem bob_is_asked_once :
    RelaysOnce sampleHost (Runs.trace (step sampleHost) empty bobIsBack) "q" ∧
      askedOver sampleHost (Runs.trace (step sampleHost) empty bobIsBack) "q" 2 = 1 := by
  have hnobody : ToldNobody (Runs.trace (step sampleHost) empty bobIsBack) "q" := by
    intro st hst uuid x he _ _ _ c hc _
    rcases Runs.mem_trace_append (asking ++ [.mesh (.closed 1)]) _ hst with hst | hst
    · exact absurd (Runs.mem_of_event hst he) (by simp [asking, meeting])
    · rcases Runs.mem_trace_cons hst with ⟨hpre, -⟩ | hin
      · rw [hpre] at hc ⊢
        have hopen : (Runs.after (step sampleHost) empty
            (asking ++ [.mesh (.closed 1)])).mesh.router.connections = [0] := rfl
        rw [hopen] at hc
        rw [List.mem_singleton.mp hc]
        rfl
      · rw [he] at hin
        simp at hin
  refine ⟨relaysOnce_of_toldNobody sampleHost _ _ (Runs.run_trace bobIsBack rfl)
    ⟨fun o rq => sample_keepsId, fun st hst rq he => ?_⟩ "q" (fun st hst he => ?_) ?_ hnobody, rfl⟩
  · exact absurd (Runs.mem_of_event hst he) (by simp [bobIsBack, asking, meeting])
  · exact absurd (Runs.mem_of_event hst he) (by simp [bobIsBack, asking, meeting])
  · show some 0 ≠ none
    simp

/-- Playdar calls `start_resolving` for a query that is neither solved nor stopped. -/
def ResolvesRunning (hist : History C) (qid : Qid) : Prop :=
  ∀ st ∈ hist, ∀ uuid, st.event = .startResolving qid uuid → Running st.pre qid

/-- ... but if he is there all the time, twice: by `start_resolving`, and by the timer. -/
theorem bob_is_asked_twice :
    ∃ hist n, Run sampleHost hist n ∧ KeepsIds sampleHost hist ∧ KeepsQuery hist "q" ∧
      ResolvesRunning hist "q" ∧ n.queries.qidorigins "q" ≠ none ∧
      ¬ RelaysOnce sampleHost hist "q" := by
  refine ⟨_, _, Runs.run_trace (asking ++ [.startResolving "q" "u3", .fwdSearch 0 false]) rfl,
    ⟨fun o rq => sample_keepsId, fun st hst rq he => ?_⟩, fun st hst he => ?_,
    fun st hst uuid he => ?_, ?_, fun honce => ?_⟩
  · exact absurd (Runs.mem_of_event hst he) (by simp [asking, meeting])
  · exact absurd (Runs.mem_of_event hst he) (by simp [asking, meeting])
  · rcases Runs.mem_trace_append asking _ hst with hst | hst
    · exact absurd (Runs.mem_of_event hst he) (by simp [asking, meeting])
    · rcases Runs.mem_trace_cons hst with ⟨hpre, -⟩ | hin
      · rw [hpre]
        exact ⟨_, rfl, rfl, rfl⟩
      · rw [he] at hin
        simp at hin
  · show some 0 ≠ none
    simp
  · have htwice : 2 ≤ 1 := honce.once 1
    omega

end Node

end Greynet
