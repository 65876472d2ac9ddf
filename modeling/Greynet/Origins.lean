/-
  The origins in `m_qidorigins`, over whole runs.

  `handle_query` asks playdar whether it has the query; only if it has not, the connection is
  recorded as the query's origin, and `set_query_origin` asserts that none is recorded yet.
  Playdar forgets its queries in time.  The map forgets nothing.  So the two disagree as soon as
  playdar drops a query that a peer has asked for, and it takes no more than the peer asking again,
  under a fresh guid, to have the assertion fail: `message_received` lets the message through, for
  its guid is new, `handle_query` finds that playdar has no such query, and the map still has the
  origin of the old one.

  1. `dispatches_step` — an origin is recorded exactly when a query is dispatched for a peer.
  2. `Run.origins` — the map holds, for each id, the connection whose QUERY was dispatched first.
     This is what the map is good for: results find their way back by it, whatever playdar drops.
  3. `Queries.step_assertion` — where an assertion can fail at all.  The mesh throws exceptions and
     the transfers may hang, but the only assertion in reach of an event is that one.
  4. `assertions_hold_iff` — it fails when a peer asks again for a query playdar has dropped, and
     in no other case; said about whole schedules, with the history before each event.
-/
import Greynet.Gate
import Greynet.QuerySteps

namespace Greynet

/-! ## How an origin comes about -/

namespace Queries

variable {C : Type} [DecidableEq C]

/-- An origin is recorded when a QUERY is taken on, and that is when one is dispatched: for any id,
    either its origin stays and no message that comes in is dispatched under it, or a QUERY for it
    has just been taken on, which neither playdar nor the map had before. -/
theorem origin_of_effect {h : Host C} {q q' : Queries C} {e : Event C} {out : List (Action C)}
    (heff : Effect h q e q' out) (qid : Qid) :
    (q'.qidorigins qid = q.qidorigins qid ∧
      ((∃ r conn msgp, e = .received r conn msgp) → Action.dispatch qid ∉ out)) ∨
    ∃ r conn msgp, e = .received r conn msgp ∧ asks h.js h.playdar qid msgp = true ∧
      q.queries qid = none ∧ q.qidorigins qid = none ∧ q'.qidorigins qid = some conn ∧
      Action.dispatch qid ∈ out := by
  -- an event of another kind dispatches nothing for a peer
  have hother : q'.qidorigins qid = q.qidorigins qid → (∀ r conn msgp, e ≠ .received r conn msgp) →
      q'.qidorigins qid = q.qidorigins qid ∧
        ((∃ r conn msgp, e = .received r conn msgp) → Action.dispatch qid ∉ out) := by
    refine fun hsame hne => ⟨hsame, ?_⟩
    rintro ⟨r, conn, msgp, he⟩
    exact absurd he (hne r conn msgp)
  cases heff with
  | idle => exact Or.inl ⟨rfl, fun _ hin => by cases hin⟩
  | noted r conn msgp out hadm hquery hresult hout =>
    refine Or.inl ⟨by rw [note_qidorigins], fun _ hin => ?_⟩
    rcases hout with rfl | rfl
    · cases hin
    · cases List.mem_singleton.mp hin
  | accepted r conn msgp rq hadm ht hrq hnew ho =>
    by_cases hid : qid = rq.id
    · subst hid
      refine Or.inr ⟨r, conn, msgp, rfl, ?_, hnew, ho, Function.update_self ..,
        List.mem_singleton_self _⟩
      rw [asks, hrq]
      simp [ht]
    · refine Or.inl ⟨?_, fun _ hin => hid (Action.dispatch.inj (List.mem_singleton.mp hin))⟩
      simp only [accept, note_qidorigins]
      exact Function.update_of_ne hid ..
  | stopped r conn msgp =>
    refine Or.inl ⟨congrFun (note_qidorigins q msgp) qid, fun _ hin => ?_⟩
    obtain ⟨d, -, -, -, he⟩ := Libf2f.mem_broadcastExcept.mp hin
    cases he
  | reported r conn msgp k rip url =>
    refine Or.inl ⟨?_, fun _ hin => by cases List.mem_singleton.mp hin⟩
    rw [(reportResults_frame ..).1, note_qidorigins]
  | answered r i uuid cb =>
    refine Or.inl (hother ?_ fun _ _ _ he => by cases he)
    rw [(sendResponse_frame ..).1]
  | reportResults k item =>
    exact Or.inl (hother (by rw [(reportResults_frame ..).1]) fun _ _ _ he => by cases he)
  | _ => exact Or.inl (hother rfl fun _ _ _ he => by cases he)

end Queries

/-! ## The origins over a run -/

variable {C : Type} [LinearOrder C]

namespace Node

/-- A QUERY for `qid` that came in on `conn` is dispatched, at that step: playdar is given the
    query, and the connection becomes its origin. -/
def Dispatches (host : Host C) (st : Runs.Step (Node C) (Event C) (Action C)) (qid : Qid)
    (conn : C) : Prop :=
  ∃ msgp answer uuid, st.event = .received conn msgp answer uuid ∧
    Queries.asks host.js host.playdar qid msgp = true ∧ Action.dispatch qid ∈ st.out

/-- `conn` delivered the first QUERY for `qid` that was dispatched: one step of the history
    dispatches it, and none before that step does. -/
def FirstAsked (host : Host C) (hist : History C) (qid : Qid) (conn : C) : Prop :=
  ∃ h₁ st h₂, hist = h₁ ++ st :: h₂ ∧ Dispatches host st qid conn ∧
    ∀ st' ∈ h₁, ∀ c, ¬ Dispatches host st' qid c

/-- Who asked first stays so, whatever happens later. -/
theorem FirstAsked.mono {host : Host C} {hist : History C} {qid : Qid} {conn : C}
    (h : FirstAsked host hist qid conn) (st : Runs.Step (Node C) (Event C) (Action C)) :
    FirstAsked host (hist ++ [st]) qid conn := by
  obtain ⟨h₁, st', h₂, rfl, hd, hfirst⟩ := h
  exact ⟨h₁, st', h₂ ++ [st], by rw [List.append_assoc, List.cons_append], hd, hfirst⟩

/-- No QUERY for `qid` was dispatched; others may have come in, and been dropped for one reason or
    another. -/
def NeverAsked (host : Host C) (hist : History C) (qid : Qid) : Prop :=
  ∀ st ∈ hist, ∀ c, ¬ Dispatches host st qid c

/-- **An origin is recorded exactly when a query is dispatched for a peer**, and none was before.
    Only the queries record origins and dispatch, so this is `origin_of_effect` seen from the node;
    an event that is none of theirs changes no origin and dispatches nothing. -/
theorem dispatches_step {host : Host C} {n n' : Node C} {e : Event C} {out : List (Action C)}
    (ht : n.transfers.Sound) (hok : step host n e = .ok (n', out)) (qid : Qid) :
    (n'.queries.qidorigins qid = n.queries.qidorigins qid ∧
      ∀ c, ¬ Dispatches host ⟨n, e, n', out⟩ qid c) ∨
    ∃ conn, n.queries.queries qid = none ∧ n.queries.qidorigins qid = none ∧
      n'.queries.qidorigins qid = some conn ∧ Dispatches host ⟨n, e, n', out⟩ qid conn := by
  rcases step_forQueries ht hok with ⟨-, hsame, hout⟩ | ⟨qe, out', hqe, hq, hout⟩
  · refine Or.inl ⟨by rw [hsame], ?_⟩
    rintro c ⟨msgp, answer, uuid, -, -, hin⟩
    exact not_mem_of_ofQueries hout rfl hin
  · -- the node dispatches what the queries do
    have hmem : Action.dispatch qid ∈ out ↔ Action.dispatch qid ∈ out' :=
      mem_of_ofQueries hout rfl
    rcases Queries.origin_of_effect (Queries.step_effect hq) qid with
      ⟨hsame, hno⟩ | ⟨r, conn, msgp, rfl, hasks, hnew, hnone, ho, hin⟩
    · refine Or.inl ⟨hsame, ?_⟩
      rintro c ⟨msgp, answer, uuid, he, -, hin⟩
      refine hno ?_ (hmem.mp hin)
      rw [show e = .received c msgp answer uuid from he, queryEvent] at hqe
      split at hqe
      · exact ⟨_, _, _, (Option.some.inj hqe).symm⟩
      · cases hqe
    · obtain ⟨-, -, answer, uuid, rfl⟩ := seenAs_of_queryEvent hqe
      exact Or.inr ⟨conn, hnew, hnone, ho, msgp, answer, uuid, rfl, hasks, hmem.mpr hin⟩

/-- What the map of origins says of the history: an origin is who asked first, and where there is
    none nobody has asked. -/
structure Origins (host : Host C) (hist : History C) (n : Node C) : Prop where
  some : ∀ qid conn, n.queries.qidorigins qid = some conn → FirstAsked host hist qid conn
  none : ∀ qid, n.queries.qidorigins qid = none → NeverAsked host hist qid

/-- **The origin of an id is the connection whose QUERY for it was dispatched first**, whatever
    playdar drops.  By induction on the run: an origin that is there is never overwritten, and one
    that comes to be is that of the first dispatch, since without an origin there was none
    before. -/
theorem Run.origins {host : Host C} {hist : History C} {n : Node C} (hr : Run host hist n) :
    Origins host hist n := by
  refine Runs.Run.invariant (I := Origins host) ?_ ?_ hr
  · rintro n rfl
    exact ⟨fun qid c ho => (by cases ho), fun qid _ st hst => (by cases hst)⟩
  · intro hist n e n' out hr ih hok
    refine ⟨fun qid conn ho => ?_, fun qid ho => ?_⟩
    · rcases dispatches_step (Run.transfers hr).sound hok qid with
        ⟨hsame, -⟩ | ⟨c, -, hnone, ho', hd⟩
      · exact (ih.some qid conn (hsame ▸ ho)).mono _
      · rw [ho'] at ho
        obtain rfl := Option.some.inj ho
        exact ⟨hist, _, [], rfl, hd, ih.none qid hnone⟩
    · rcases dispatches_step (Run.transfers hr).sound hok qid with
        ⟨hsame, hno⟩ | ⟨c, -, -, ho', -⟩
      · intro st hst
        rcases List.mem_append.mp hst with hst | hst
        · exact ih.none qid (hsame ▸ ho) st hst
        · obtain rfl := List.mem_singleton.mp hst
          exact hno
      · rw [ho'] at ho
        cases ho

/-- An id has an origin if and only if it has been asked for; the two halves of `Origins`, put
    together. -/
theorem Origins.asked_iff {host : Host C} {hist : History C} {n : Node C}
    (hn : Origins host hist n) (qid : Qid) :
    n.queries.qidorigins qid ≠ .none ↔ ¬ NeverAsked host hist qid := by
  constructor
  · intro ho hnever
    obtain ⟨conn, hconn⟩ := Option.ne_none_iff_exists'.mp ho
    obtain ⟨h₁, st, h₂, rfl, hd, -⟩ := hn.some qid conn hconn
    exact hnever st (List.mem_append_right _ (List.mem_cons_self ..)) conn hd
  · intro hasked hnone
    exact hasked (hn.none qid hnone)

end Node

/-! ## Where an assertion can fail -/

/-- All that the mesh can fail with is an exception, thrown by `from_string` on a text that is no
    address.  An advert that is not well formed is ignored before it comes to that. -/
theorem Mesh.step_error {h : Host C} {m : Mesh C} {e : Event C} {f : Fault}
    (hf : step h m e = .error f) : f = .exception := by
  -- nothing of the mesh can throw but the dialling
  have hdial : ∀ {ip : String} {port : Nat} {props : List (String × String)},
      m.connectToPeer h ip port props = .error f → f = .exception := by
    intro ip port props hd
    unfold connectToPeer at hd
    split at hd
    · exact (Except.error.inj hd).symm
    · cases hd
  cases e with
  | jabberMsgReceived text jid =>
    simp only [step, jabberMsgReceived] at hf
    split at hf
    · split at hf
      · exact hdial hf
      · cases hf
    · cases hf
  | connectToPeer ip port => exact hdial hf
  | newIncomingConnection conn =>
    simp only [step] at hf
    split at hf <;> cases hf
  | newOutgoingConnection conn i uuid =>
    simp only [step] at hf
    split at hf
    · cases hf
    · split at hf <;> cases hf
  | received conn msgp uuid =>
    simp only [step] at hf
    split at hf
    · split at hf <;> cases hf
    · cases hf
  | released conn =>
    simp only [step] at hf
    split at hf <;> cases hf
  | _ => cases hf

namespace Transfers

/-- All that `unregister_sidtransfer` can fail with is its loop. -/
theorem unregister_error {t : Transfers C} {ss : SsGreynet C} {f : Fault}
    (hf : t.unregister ss = .error f) : f = .hang := by
  unfold unregister at hf
  split at hf
  · cases hf
  · rename_i f' hloop
    obtain rfl := Except.error.inj hf
    unfold Registry.unregisterSidtransfer at hloop
    split at hloop
    · cases hloop
    · exact (Except.error.inj hloop).symm

/-- `cancel_handler` follows a null pointer if there is no adaptor, or runs into that loop; it
    asserts nothing. -/
theorem cancelHandler_error {t : Transfers C} {ss : SsGreynet C} {f : Fault}
    (hf : t.cancelHandler ss = .error f) : f ≠ .assertion := by
  unfold cancelHandler at hf
  split at hf
  · obtain rfl := Except.error.inj hf
    simp
  · split at hf
    · rename_i f' hun
      obtain rfl := Except.error.inj hf
      rw [unregister_error hun]
      simp
    · cases hf

/-- Nor does `start_reply`: with a connection that is ready it returns, else it cancels. -/
theorem startReply_error {t : Transfers C} {ss : SsGreynet C} {aa : AdaptorId} {ready : Bool}
    {uuid : String} {f : Fault} (hf : t.startReply ss aa ready uuid = .error f) :
    f ≠ .assertion := by
  unfold startReply at hf
  simp only at hf
  split at hf
  · cases hf
  · exact cancelHandler_error hf

/-- The loop over the header lines stops at the first line that cancels, and can fail only there.
    By induction on the lines. -/
theorem headerLines_error {ss : SsGreynet C} {aa : AdaptorId} {f : Fault} (lines : List String) :
    ∀ {t : Transfers C}, t.headerLines ss aa lines = .error f → f ≠ .assertion := by
  induction lines with
  | nil =>
    intro t hf
    cases hf
  | cons line lines ih =>
    intro t hf
    rw [headerLines] at hf
    split at hf
    · split at hf
      · split at hf
        · simp only at hf
          split at hf
          · rename_i f' hcancel
            obtain rfl := Except.error.inj hf
            exact cancelHandler_error hcancel
          · cases hf
        · exact ih (rest_error hf)
      · split at hf
        · exact ih (rest_error hf)
        · split at hf
          · exact ih (rest_error hf)
          · exact ih hf
    · exact ih hf

/-- The second loop of `connection_terminated` fails where one of its cancels does. -/
theorem cancelSids_error {f : Fault} (sids : List Sid) :
    ∀ {t : Transfers C}, t.cancelSids sids = .error f → f ≠ .assertion := by
  induction sids with
  | nil =>
    intro t hf
    cases hf
  | cons s sids ih =>
    intro t hf
    rw [cancelSids] at hf
    split at hf
    · obtain rfl := Except.error.inj hf
      simp
    · split at hf
      · rename_i hcancel
        obtain rfl := Except.error.inj hf
        exact cancelHandler_error hcancel
      · split at hf
        · rename_i hrest
          obtain rfl := Except.error.inj hf
          exact ih hrest
        · cases hf

/-- **The transfers fail no assertion**: they may hang or follow a null pointer, by the lemmas
    before this one, and that is all. -/
theorem step_error {t : Transfers C} {e : Event C} {f : Fault} (hf : step t e = .error f) :
    f ≠ .assertion := by
  cases e with
  | startReply ss aa ready uuid => exact startReply_error hf
  | siddata conn msgp =>
    simp only [step, handleSiddata] at hf
    split at hf
    · cases hf
    · unfold siddataHandler at hf
      split at hf
      · obtain rfl := Except.error.inj hf
        simp
      · split at hf
        · simp only at hf
          split at hf
          · rename_i hun
            obtain rfl := Except.error.inj hf
            -- the one fault of the registry is its loop that does not end
            rw [unregister_error hun]
            simp
          · cases hf
        · cases hf
  | sidheaders conn msgp =>
    simp only [step, handleSidheaders] at hf
    split at hf
    · cases hf
    · unfold sidheadersHandler at hf
      split at hf
      · exact headerLines_error _ hf
      · obtain rfl := Except.error.inj hf
        simp
  | sidfail conn msgp =>
    simp only [step, handleSidfail] at hf
    split at hf
    · cases hf
    · exact cancelHandler_error hf
  | timerExpires ss =>
    simp only [step] at hf
    split at hf <;> cases hf
  | timeoutCb ss =>
    simp only [step] at hf
    split at hf
    · cases hf
    · exact cancelHandler_error hf
  | connectionTerminated conn => exact cancelSids_error _ hf
  | newAdaptor => cases hf
  | adaptorCall => cases hf

end Transfers

namespace Queries

/-- A QUERY that `handle_query` takes for a new one, although its id has an origin: its guid is new,
    it is read as a query, playdar has no query of that id, and the map of origins has an entry for
    it. -/
structure Reasked (h : Host C) (q : Queries C) (msgp : Message) (rq : ResolverQuery) : Prop where
  type : msgp.type = .query
  admitted : q.admits msgp = true
  decoded : decodeQuery h.js h.playdar msgp = some rq
  unknown : q.queries rq.id = none
  origin : q.qidorigins rq.id ≠ none

/-- A message fails the assertion if and only if it is such a QUERY; no other handler asserts
    anything. -/
theorem received_assertion {h : Host C} {q : Queries C} {r : Router C} {conn : C}
    {msgp : Message} :
    q.received h r conn msgp = .error .assertion ↔ ∃ rq, Reasked h q msgp rq := by
  constructor
  · intro hf
    unfold received at hf
    split at hf
    · rename_i hadm
      split at hf
      · rename_i ht
        rw [handleQuery_eq] at hf
        split at hf
        · cases hf
        · rename_i rq hrq
          split at hf
          · cases hf
          · rename_i hex
            split at hf
            · rename_i ho
              rw [Bool.not_eq_true, queryExists_eq_false, note_queries] at hex
              rw [note_qidorigins] at ho
              exact ⟨rq, ht, hadm, hrq, hex, ho⟩
            · cases hf
      · -- a result may throw, which is another fault
        rcases hd : decodeResult h.js h.playdar msgp with _ | ⟨qid, rip⟩
        · have hnone : (_ ∧ (q.note msgp).handleQueryresult h r conn msgp = _) ∨ _ :=
            handleQueryresult_none hd
          rcases hnone with ⟨-, heq⟩ | ⟨-, heq⟩
          · rw [heq] at hf
            cases hf
          · rw [heq] at hf
            cases hf
        · rw [handleQueryresult_some hd] at hf
          cases hf
      · unfold handleQuerystop at hf
        split at hf
        · cases hf
        · split at hf <;> cases hf
      · cases hf
    · cases hf
  · rintro ⟨rq, hre⟩
    have hex : ¬ (q.note msgp).queryExists rq.id = true := by
      rw [Bool.not_eq_true, queryExists_eq_false, note_queries]
      exact hre.unknown
    have ho : (q.note msgp).qidorigins rq.id ≠ none := by
      rw [note_qidorigins]
      exact hre.origin
    rw [received, if_pos hre.admitted, hre.type]
    simp only
    rw [handleQuery_eq, hre.decoded]
    simp only [if_neg hex, if_pos ho]

/-- **An assertion fails only in `set_query_origin`.**  None of the other events of the queries can
    fail at all in this way. -/
theorem step_assertion {h : Host C} {q : Queries C} {e : Event C} :
    q.step h e = .error .assertion ↔
      ∃ r conn msgp rq, e = .received r conn msgp ∧ Reasked h q msgp rq := by
  constructor
  · intro hf
    cases e with
    | received r conn msgp =>
      obtain ⟨rq, hre⟩ := received_assertion.mp hf
      exact ⟨r, conn, msgp, rq, rfl, hre⟩
    | fwdSearch r i err =>
      simp only [step] at hf
      split at hf
      · cases hf
      · split at hf
        · rename_i f hfwd
          obtain rfl := Except.error.inj hf
          unfold fwdSearch at hfwd
          split at hfwd
          · -- a query that is gone is a null pointer, which is another fault
            cases hfwd
          · split at hfwd
            · cases hfwd
            · split at hfwd
              · cases hfwd
              · split at hfwd <;> cases hfwd
        · cases hf
    | startResolving r qid uuid =>
      simp only [step] at hf
      split at hf
      · cases hf
      · split at hf <;> cases hf
    | callback r i uuid =>
      simp only [step] at hf
      split at hf
      · cases hf
      · split at hf <;> cases hf
    | localQuery rq =>
      simp only [step] at hf
      split at hf <;> cases hf
    | _ => cases hf
  · rintro ⟨r, conn, msgp, rq, rfl, hre⟩
    exact received_assertion.mpr ⟨rq, hre⟩

end Queries

namespace Node

/-! ### The node -/

/-- What the mesh does for a node fails no assertion, ... -/
theorem onMesh_assertion {host : Host C} {n : Node C} (me : Mesh.Event C) :
    n.onMesh (n.mesh.step host me) ≠ .error .assertion := by
  intro hf
  unfold onMesh at hf
  split at hf
  · cases hf
  · rename_i f hs
    obtain rfl := Except.error.inj hf
    cases Mesh.step_error hs

/-- ... nor does what the transfers do for it, ... -/
theorem onTransfers_assertion {n : Node C} {t : Transfers C} (te : Transfers.Event C) :
    n.onTransfers (t.step te) ≠ .error .assertion := by
  intro hf
  unfold onTransfers at hf
  split at hf
  · cases hf
  · rename_i f hs
    obtain rfl := Except.error.inj hf
    exact Transfers.step_error hs rfl

/-- ... and what the queries do fails one there if and only if it does by itself. -/
theorem onQueries_assertion {n : Node C} {x : Except Fault (Queries C × List (Action C))} :
    n.onQueries x = .error .assertion ↔ x = .error .assertion := by
  unfold onQueries
  split
  · exact ⟨fun hf => (by cases hf), fun hf => (by cases hf)⟩
  · exact ⟨fun hf => by rw [Except.error.inj hf], fun hf => by rw [Except.error.inj hf]⟩

/-- A SIDREQUEST fails no assertion: `handle_sidrequest` looks up an item and starts a transfer. -/
theorem handleSidrequest_assertion {host : Host C} {n : Node C} {conn : C} {msgp : Message}
    {answer : SsAnswer} {uuid : String} :
    n.handleSidrequest host conn msgp answer uuid ≠ .error .assertion := by
  intro hf
  unfold handleSidrequest at hf
  split at hf
  · cases hf
  · cases hf
  · simp only at hf
    split at hf
    · cases hf
    · rename_i ss _
      exact onTransfers_assertion (.startReply ss _ _ uuid) hf

/-- `message_received` fails the assertion where the queries do.  Requests for a song and stream
    messages go to the transfers, which fail none. -/
theorem messageReceived_assertion {host : Host C} {n : Node C} {conn : C} {msgp : Message}
    {answer : SsAnswer} {uuid : String} :
    n.messageReceived host conn msgp answer uuid = .error .assertion ↔
      ∃ rq, Queries.Reasked host n.queries msgp rq := by
  -- for a message of the queries this is known already; it is left that no other type asserts
  have hreceived : n.queries.received host n.mesh.router conn msgp = .error .assertion ↔
      ∃ rq, Queries.Reasked host n.queries msgp rq := Queries.received_assertion
  rw [← hreceived, messageReceived, Queries.received]
  by_cases hadm : n.queries.admits msgp = true
  · rw [if_pos hadm, if_pos hadm]
    cases ht : msgp.type with
    | query | queryresult | querystop => exact onQueries_assertion
    | sidrequest =>
      exact ⟨fun hf => absurd hf handleSidrequest_assertion, fun hf => by cases hf⟩
    | siddata =>
      exact ⟨fun hf => absurd hf (onTransfers_assertion (.siddata conn msgp)),
        fun hf => by cases hf⟩
    | sidheaders =>
      exact ⟨fun hf => absurd hf (onTransfers_assertion (.sidheaders conn msgp)),
        fun hf => by cases hf⟩
    | sidfail =>
      exact ⟨fun hf => absurd hf (onTransfers_assertion (.sidfail conn msgp)),
        fun hf => by cases hf⟩
    | ping | pong | ident | unknown _ =>
      exact ⟨fun hf => (by cases hf), fun hf => (by cases hf)⟩
  · rw [if_neg hadm, if_neg hadm]
    exact ⟨fun hf => (by cases hf), fun hf => (by cases hf)⟩

/-- **An assertion fails only in `set_query_origin`**, of any event of the node: a QUERY comes in on
    an open connection, past the gate, and is one that `handle_query` has to take for new. -/
theorem step_assertion {host : Host C} {n : Node C} {e : Event C} :
    step host n e = .error .assertion ↔
      ∃ conn msgp answer uuid rq, e = .received conn msgp answer uuid ∧ n.PastGate conn ∧
        Queries.Reasked host n.queries msgp rq := by
  -- an event that the queries see, and that is no message
  have hquiet : ∀ qe : Queries.Event C, (∀ r conn msgp, qe ≠ .received r conn msgp) →
      n.onQueries (n.queries.step host qe) ≠ .error .assertion := by
    intro qe hne hf
    obtain ⟨r, conn, msgp, rq, he, -⟩ := Queries.step_assertion.mp (onQueries_assertion.mp hf)
    exact hne r conn msgp he
  constructor
  · intro hf
    cases e with
    | mesh me =>
      rcases step_meshEvent host n me with hon | hon
      · rw [hon] at hf
        cases hf
      · rw [hon] at hf
        exact absurd hf (onMesh_assertion me)
    | received conn msgp answer uuid =>
      simp only [step] at hf
      split at hf
      · rename_i hopen
        split at hf
        · exact absurd hf (onMesh_assertion _)
        · rename_i hcbs
          obtain ⟨rq, hre⟩ := messageReceived_assertion.mp hf
          exact ⟨conn, msgp, answer, uuid, rq, rfl, ⟨hopen, hcbs⟩, hre⟩
      · cases hf
    | connectionTerminated conn =>
      simp only [step] at hf
      split at hf
      · cases hf
      · exact absurd hf (onTransfers_assertion (.connectionTerminated conn))
    | startReply ss aa uuid => exact absurd hf (onTransfers_assertion (.startReply ss aa _ uuid))
    | timerExpires ss => exact absurd hf (onTransfers_assertion (.timerExpires ss))
    | timeoutCb ss => exact absurd hf (onTransfers_assertion (.timeoutCb ss))
    | adaptorCall aa call => exact absurd hf (onTransfers_assertion (.adaptorCall aa call))
    | reportResults qid item =>
      exact absurd hf (hquiet (.reportResults qid item) fun _ _ _ he => by cases he)
    | solve qid => exact absurd hf (hquiet (.solve qid) fun _ _ _ he => by cases he)
    | drop qid => exact absurd hf (hquiet (.drop qid) fun _ _ _ he => by cases he)
    | _ => exact absurd hf (hquiet _ fun _ _ _ he => by cases he)
  · rintro ⟨conn, msgp, answer, uuid, rq, rfl, hgate, hre⟩
    simp only [step, if_pos hgate.isOpen, hgate.callback]
    exact messageReceived_assertion.mpr ⟨rq, hre⟩

/-! ## When the assertion holds -/

/-- After the history `hist` a peer sends a QUERY that is no duplicate, for an id that a QUERY was
    dispatched for and that playdar no longer has.  It is said in terms of what came in and of what
    playdar answers, not of the map that the assertion looks at. -/
def Reasks (host : Host C) (hist : History C) (n : Node C) (e : Event C) : Prop :=
  ∃ conn msgp answer uuid rq, e = .received conn msgp answer uuid ∧ n.PastGate conn ∧
    msgp.type = .query ∧ Unseen hist msgp.guid ∧
    Queries.decodeQuery host.js host.playdar msgp = some rq ∧
    n.queries.queryExists rq.id = false ∧ ¬ NeverAsked host hist rq.id

/-- In a run the two are the same: the guids that were seen are those of the history, and the ids
    that have an origin are those that have been asked for. -/
theorem Run.step_assertion_iff {host : Host C} {hist : History C} {n : Node C}
    (hr : Run host hist n) (e : Event C) :
    step host n e = .error .assertion ↔ Reasks host hist n e := by
  rw [step_assertion]
  constructor
  · rintro ⟨conn, msgp, answer, uuid, rq, rfl, hgate, hre⟩
    refine ⟨conn, msgp, answer, uuid, rq, rfl, hgate, hre.type, ?_, hre.decoded,
      Queries.queryExists_eq_false.mpr hre.unknown, (hr.origins.asked_iff rq.id).mp hre.origin⟩
    rw [hr.unseen_iff]
    have hadm := hre.admitted
    rw [Queries.admits, hre.type] at hadm
    simpa [MsgType.isStream] using hadm
  · rintro ⟨conn, msgp, answer, uuid, rq, rfl, hgate, ht, hnew, hrq, hex, hasked⟩
    refine ⟨conn, msgp, answer, uuid, rq, rfl, hgate, ht, ?_, hrq,
      Queries.queryExists_eq_false.mp hex, (hr.origins.asked_iff rq.id).mpr hasked⟩
    rw [hr.unseen_iff] at hnew
    rw [Queries.admits, ht]
    simpa [MsgType.isStream] using hnew

/-- **The assertion in `set_query_origin` holds throughout a schedule exactly when no peer asks
    again for a query that playdar has dropped.** -/
theorem assertions_hold_iff (host : Host C) (es : List (Event C)) :
    Throughout host (fun _ n e => step host n e ≠ .error .assertion) es ↔
      Throughout host (fun hist n e => ¬ Reasks host hist n e) es := by
  apply throughout_congr
  intro hist n e hr
  exact not_congr (hr.step_assertion_iff e)

/-- Alice asks, playdar drops her query, and she asks again under a new guid.  Nothing is wrong with
    either of her messages. -/
def askingAgain : List (Event Nat) :=
  asking ++ [.drop "q",
    .received 0 (queryMessage sampleJson Queries.someQuery "g3") .nothing "u3"]

/-- Then the assertion fails, and the plugin is gone. -/
theorem asking_again_asserts :
    ¬ Throughout sampleHost (fun _ n e => step sampleHost n e ≠ .error .assertion)
      askingAgain := by
  intro h
  exact h (asking ++ [.drop "q"]) _ [] _ _ rfl (Runs.run_trace (asking ++ [.drop "q"]) rfl) rfl rfl

end Node

end Greynet
