/-
  QUERYSTOP over whole runs of the node.

  A stop names its query by its own GUID, and every message but those of a stream goes through the
  duplicate filter first.  So the filter treats a stop for `q` as a duplicate of ANY earlier
  message with guid `q`, whatever became of that one: a stop that came before the query, or over
  a connection that is not the query's origin, was thrown away, but its guid stays in
  `m_seen_guids` and the genuine stop is dropped.

  1. `Run.mem_seenGuids` — the set of guids, read off the history.
  2. `stopped_for_good` — a stopped query stays stopped while playdar has it.
  3. `stopTakesEffect_iff` — a genuine stop works exactly when its guid is new.
-/
import Greynet.Node

namespace Greynet

namespace Node

variable {C : Type} [LinearOrder C]

/-! ## The set of guids over a run

  What the duplicate filter remembers is in the history: all that was handed to `message_received`,
  whatever its handler made of it. -/

/-- A message of type `t` with guid `g` was handed to `message_received` in the history. -/
def Delivered (hist : History C) (t : MsgType) (g : String) : Prop :=
  ∃ st ∈ hist, ∃ r conn msgp, st.pre.queryEvent st.event = some (.received r conn msgp) ∧
    msgp.type = t ∧ msgp.guid = g

/-- No message with guid `g`, other than of a stream, was handed to `message_received`. -/
def Unseen (hist : History C) (g : String) : Prop :=
  ∀ t, t.isStream = false → ¬ Delivered hist t g

/-- One step later it has been delivered if it had been, or is now. -/
theorem delivered_snoc {hist : History C} {st : Runs.Step (Node C) (Event C) (Action C)}
    {t : MsgType} {g : String} :
    Delivered (hist ++ [st]) t g ↔ Delivered hist t g ∨
      ∃ r conn msgp, st.pre.queryEvent st.event = some (.received r conn msgp) ∧
        msgp.type = t ∧ msgp.guid = g := by
  simp [Delivered, or_and_right, exists_or]

/-- **`m_seen_guids` holds the guids delivered so far**, rejected messages included. -/
theorem Run.mem_seenGuids {host : Host C} {hist : History C} {n : Node C}
    (hr : Run host hist n) (g : String) :
    g ∈ n.queries.seenGuids ↔ ∃ t, t.isStream = false ∧ Delivered hist t g := by
  refine Runs.Run.invariant (I := fun hist n => g ∈ n.queries.seenGuids ↔
    ∃ t, t.isStream = false ∧ Delivered hist t g) ?_ ?_ hr
  · rintro n rfl
    simp [empty, Queries.empty, Delivered]
  · intro hist n e n' out _ ih hok
    simp only [delivered_snoc, and_or_left, exists_or]
    rw [← ih]
    rcases step_queries hok with ⟨hnone, hsame⟩ | ⟨qe, out', hqe, hq⟩
    · rw [hsame, hnone]
      simp
    · rw [Queries.mem_seenGuids_step (Queries.step_effect hq), hqe]
      refine or_congr Iff.rfl ?_
      constructor
      · rintro ⟨r, conn, msgp, rfl, hs, rfl⟩
        exact ⟨_, hs, r, conn, msgp, rfl, rfl, rfl⟩
      · rintro ⟨t, ht, r, conn, msgp, he, rfl, rfl⟩
        exact ⟨r, conn, msgp, Option.some.inj he, ht, rfl⟩

/-- So a guid is new exactly if it is in no message that was delivered. -/
theorem Run.unseen_iff {host : Host C} {hist : History C} {n : Node C} (hr : Run host hist n)
    (g : String) : Unseen hist g ↔ g ∉ n.queries.seenGuids := by
  rw [hr.mem_seenGuids g]
  simp [Unseen]

/-! ## A stop is for good

  A stop that takes effect sets a flag, and no handler and no call of playdar's clears it.  The
  timer of the query looks at it when it fires. -/

/-- Playdar has the query and it is stopped. -/
def Stopped (n : Node C) (qid : Qid) : Prop :=
  ∃ x, n.queries.queries qid = some x ∧ x.stopped = true

/-- Only playdar drops a query. -/
theorem queryEvent_drop {n : Node C} {e : Event C} {qid : Qid}
    (he : n.queryEvent e = some (.drop qid)) : e = .drop qid := by
  cases e with
  | drop k => rw [Queries.Event.drop.inj (Option.some.inj he)]
  | received =>
    rw [queryEvent] at he
    split at he <;> cases he
  | _ => cases he

/-- A stopped query stays so in any step that does not drop it. -/
theorem stopped_step {host : Host C} {n n' : Node C} {e : Event C} {out : List (Action C)}
    {qid : Qid} (hn : n.Stopped qid) (hne : e ≠ .drop qid) (hok : step host n e = .ok (n', out)) :
    n'.Stopped qid := by
  obtain ⟨x, hx, hstop⟩ := hn
  rcases step_queries hok with ⟨-, hsame⟩ | ⟨qe, out', hqe, hq⟩
  · exact ⟨x, by rw [hsame, hx], hstop⟩
  · have hdrop : qe ≠ .drop qid := fun he => hne (queryEvent_drop (he ▸ hqe))
    obtain ⟨x', hx', hlater⟩ := Queries.query_stays (Queries.step_effect hq) hx hdrop
    exact ⟨x', hx', hlater.stopped hstop⟩

/-- **A stop is for good**, in any run that goes on from there and in which playdar keeps the
    query. -/
theorem stopped_for_good {host : Host C} {n n' : Node C} {hist : History C} {qid : Qid}
    (hn : n.Stopped qid) (hr : Runs.Run (step host) (fun n₀ => n₀ = n) hist n')
    (hkeep : ∀ st ∈ hist, st.event ≠ .drop qid) : n'.Stopped qid := by
  refine Runs.Run.invariant (I := fun hist n' => (∀ st ∈ hist, st.event ≠ .drop qid) →
    n'.Stopped qid) ?_ ?_ hr hkeep
  · rintro n₀ rfl -
    exact hn
  · intro hist n₁ e n₂ out _ ih hok hkeep
    exact stopped_step (ih fun st hst => hkeep st (List.mem_append_left _ hst))
      (hkeep _ List.mem_concat_self) hok

/-- When the timer of a stopped query fires, it sends nothing. -/
theorem fwdSearch_stopped {host : Host C} {n : Node C} {i : Nat} {t : Timer C}
    (hn : n.Stopped t.qid) (ht : n.queries.timers[i]? = some t) (e : Bool) :
    ∃ n', step host n (.fwdSearch i e) = .ok (n', []) := by
  obtain ⟨x, hx, hstop⟩ := hn
  have hnothing : n.queries.fwdSearch host n.mesh.router t e = .ok [] := by
    unfold Queries.fwdSearch
    rw [hx]
    simp [hstop]
  simp only [step, Queries.step, ht, hnothing]
  exact ⟨_, rfl⟩

/-! ## A genuine stop

  It comes from the query's origin, with the id of the query for a guid, while the query runs. -/

/-- A QUERYSTOP delivered on its query's origin, for a query playdar has and has not stopped. -/
structure GenuineStop (n : Node C) (conn : C) (msgp : Message) : Prop where
  opened : conn ∈ n.mesh.router.connections
  ready : (n.mesh.router.conn conn).ready = true
  type : msgp.type = .querystop
  query : ∃ x, n.queries.queries msgp.guid = some x ∧ x.stopped = false
  origin : n.queries.getQueryOrigin n.mesh.router msgp.guid = some conn

/-- What a stop is for: the query is stopped and all the others are told. -/
structure StopsQuery (host : Host C) (n : Node C) (conn : C) (msgp : Message) (n' : Node C)
    (out : List (Action C)) : Prop where
  stopped : n'.Stopped msgp.guid
  /-- the stop goes to every other connection -/
  forwarded : ∀ c ∈ n.mesh.router.connections, (n.mesh.router.conn c).ready = true → c ≠ conn →
    .asyncWrite c msgp ∈ out
  /-- no timer of the query's sends anything again, as long as playdar has it -/
  silent : ∀ hist n'', Runs.Run (step host) (fun n₀ => n₀ = n') hist n'' →
    (∀ st ∈ hist, st.event ≠ .drop msgp.guid) →
    ∀ i t, n''.queries.timers[i]? = some t → t.qid = msgp.guid →
    ∀ e, ∃ n₃, step host n'' (.fwdSearch i e) = .ok (n₃, [])

/-- Delivered on an open connection that has had its IDENT, a message is `message_received`'s. -/
theorem step_received {host : Host C} {hist : History C} {n : Node C} (hr : Run host hist n)
    {conn : C} (hopen : conn ∈ n.mesh.router.connections)
    (hready : (n.mesh.router.conn conn).ready = true) (msgp : Message) (answer : SsAnswer)
    (uuid : String) :
    step host n (.received conn msgp answer uuid) =
      n.messageReceived host conn msgp answer uuid := by
  have hcbs := (Mesh.handshaken_of_reachable hr.mesh conn).ready hready
  simp only [step, if_pos hopen, hcbs]

/-- **A genuine QUERYSTOP takes effect exactly when no message with its guid came before**: in
    every run and for every message, whatever other connections have sent. -/
theorem stopTakesEffect_iff (host : Host C) (hist : History C) (n : Node C) (hr : Run host hist n)
    (conn : C) (msgp : Message) (answer : SsAnswer) (uuid : String)
    (hg : GenuineStop n conn msgp) :
    (∃ n' out, step host n (.received conn msgp answer uuid) = .ok (n', out) ∧
      StopsQuery host n conn msgp n' out) ↔ Unseen hist msgp.guid := by
  obtain ⟨x, hx, hrunning⟩ := hg.query
  rw [step_received hr hg.opened hg.ready, hr.unseen_iff]
  unfold messageReceived
  constructor
  · rintro ⟨n', out, hok, hstops⟩ hseen
    -- a duplicate: the node does nothing, so the query goes on running
    have hdup : n.queries.admits msgp = false :=
      Queries.admits_eq_false.mpr ⟨by rw [hg.type]; rfl, hseen⟩
    rw [hdup] at hok
    obtain ⟨rfl, -⟩ := Prod.mk.inj (Except.ok.inj hok)
    obtain ⟨x', hx', hstop⟩ := hstops.stopped
    rw [hx] at hx'
    obtain rfl := Option.some.inj hx'
    rw [hrunning] at hstop
    cases hstop
  · intro hnew
    have hadm : n.queries.admits msgp = true := by
      rw [← Bool.not_eq_false, Queries.admits_eq_false]
      exact fun h => hnew h.2
    have hstop : (n.queries.note msgp).handleQuerystop host n.mesh.router conn msgp =
        .ok ((n.queries.note msgp).modifyQuery msgp.guid fun x => { x with stopped := true },
          host.lib.broadcastExcept n.mesh.router msgp (some conn)) := by
      have hex : ¬ (n.queries.note msgp).queryExists msgp.guid = false := by
        rw [Queries.queryExists_eq_false, Queries.note_queries, hx]
        simp
      have horigin :
          ¬ (n.queries.note msgp).getQueryOrigin n.mesh.router msgp.guid ≠ some conn := by
        rw [not_not, ← hg.origin]
        simp only [Queries.getQueryOrigin, Queries.note_qidorigins]
      rw [Queries.handleQuerystop, if_neg hex, if_neg horigin]
    rw [if_pos hadm, hg.type]
    simp only [hstop, onQueries]
    have hstopped : ∀ n' : Node C,
        n'.queries = ((n.queries.note msgp).modifyQuery msgp.guid fun x =>
          { x with stopped := true }) → n'.Stopped msgp.guid := by
      intro n' hn'
      refine ⟨{ x with stopped := true }, ?_, rfl⟩
      rw [hn', Queries.modifyQuery_queries, if_pos rfl, Queries.note_queries, hx, Option.map_some]
    refine ⟨_, _, rfl, ?_⟩
    refine ⟨hstopped _ rfl, fun c hc hready hne => ?_, fun hist' n'' hr' hkeep i t ht hq e => ?_⟩
    · exact Libf2f.mem_broadcastExcept.mpr ⟨c, hc, hready, by simpa using hne, rfl⟩
    · exact fwdSearch_stopped (hq ▸ stopped_for_good (hstopped _ rfl) hr' hkeep) ht e

/-- Alice's query `"q"` has arrived. -/
def asking : List (Event Nat) :=
  meeting ++ [.received 0 (queryMessage sampleJson Queries.someQuery "g2") .nothing "u2"]

/-- Her stop for it. -/
def stop : Message := ⟨.querystop, "q", ""⟩

/-- Her stop works if it is the first one ... -/
theorem first_stop_takes_effect :
    ∃ n' out, step sampleHost (Runs.after (step sampleHost) empty asking)
        (.received 0 stop .nothing "u3") = .ok (n', out) ∧
      StopsQuery sampleHost (Runs.after (step sampleHost) empty asking) 0 stop n' out := by
  have hr : Run sampleHost (Runs.trace (step sampleHost) empty asking)
      (Runs.after (step sampleHost) empty asking) := Runs.run_trace _ rfl
  refine (stopTakesEffect_iff sampleHost _ _ hr 0 stop .nothing "u3" ?_).mpr ?_
  · exact ⟨by decide, rfl, rfl, ⟨_, rfl, rfl⟩, rfl⟩
  · rw [hr.unseen_iff]
    decide

/-- Bob, whose query it is not, has sent a stop for it before. -/
def crossing : List (Event Nat) := asking ++ [.received 1 stop .nothing "u3"]

/-- ... but is lost once bob's stop has been thrown away. -/
theorem genuine_stop_is_lost :
    ∃ n, Run sampleHost (Runs.trace (step sampleHost) empty crossing) n ∧ GenuineStop n 0 stop ∧
      ¬ ∃ n' out, step sampleHost n (.received 0 stop .nothing "u4") = .ok (n', out) ∧
        StopsQuery sampleHost n 0 stop n' out := by
  refine ⟨_, Runs.run_trace _ rfl, ⟨by decide, rfl, rfl, ⟨_, rfl, rfl⟩, rfl⟩, ?_⟩
  rintro ⟨n', out, hok, hstops⟩
  have hdropped : step sampleHost (Runs.after (step sampleHost) empty crossing)
      (.received 0 stop .nothing "u4") =
        .ok (Runs.after (step sampleHost) empty crossing, []) := rfl
  rw [hdropped] at hok
  obtain ⟨rfl, -⟩ := Prod.mk.inj (Except.ok.inj hok)
  obtain ⟨x, hx, hstop⟩ := hstops.stopped
  have hrunning : ((Runs.after (step sampleHost) empty crossing).queries.queries "q").map
      Query.stopped = some false := rfl
  rw [show stop.guid = "q" from rfl] at hx
  rw [hx, Option.map_some, hstop] at hrunning
  cases hrunning

end Node

end Greynet
