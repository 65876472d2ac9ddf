/-
  Whatever a peer sends: messages of any type with any payload, in any state of a run.

  The handlers validate by hand.  `handle_query` does all of it in a try block;
  `handle_queryresult` calls `get_obj` on the payload and `get_str`, `get_obj` on its fields
  OUTSIDE of one, so JSON of another type than it expects throws through `message_received`.
  The stream handlers throw on nothing, but they may unregister a transfer and then inherit the
  loop of `unregister_sidtransfer`.

  1. `Discards` — what should become of a payload its handler cannot use.
  2. `Run.origin_exists` — while playdar drops nothing, `set_query_origin` cannot assert.
  3. `handlesSafely_iff` — the messages the node survives, exactly: one lemma for each type of
     message, none of which needs the others.
-/
import Greynet.QueryStop

namespace Greynet

namespace Node

variable {C : Type} [LinearOrder C]

/-- A payload without the JSON its handler needs.  Only two of the handlers read JSON at all; what
    the others are sent they take as it is. -/
def BadPayload (host : Host C) (msgp : Message) : Prop :=
  (msgp.type = .query ∧ Queries.decodeQuery host.js host.playdar msgp = none) ∨
  (msgp.type = .queryresult ∧ Queries.decodeResult host.js host.playdar msgp = none)

/-- The message is discarded, with or without its connection.  Its guid stays noted, so it is not
    looked at a second time. -/
structure Discards (n : Node C) (conn : C) (n' : Node C) (out : List (Action C)) : Prop where
  origins : n'.queries.qidorigins = n.queries.qidorigins
  queries : n'.queries.queries = n.queries.queries
  transfers : n'.transfers = n.transfers
  out : out = [] ∨ out = [.fin conn] ∧ conn ∉ n'.mesh.router.connections

/-- `message_received` returns normally, and a bad payload is discarded.  What a good one does is
    not asked here. -/
def HandlesSafely (host : Host C) (n : Node C) (conn : C) (msgp : Message) (answer : SsAnswer)
    (uuid : String) : Prop :=
  ∃ n' out, step host n (.received conn msgp answer uuid) = .ok (n', out) ∧
    (BadPayload host msgp → Discards n conn n' out)

/-- What a message of a stream is to the transfers, and nothing for the other types. -/
def streamEvent (conn : C) (msgp : Message) : Option (Transfers.Event C) :=
  match msgp.type with
  | .siddata => some (.siddata conn msgp)
  | .sidheaders => some (.sidheaders conn msgp)
  | .sidfail => some (.sidfail conn msgp)
  | _ => none

/-- No QUERYRESULT of odd types gets past the duplicate filter, and a transfer that a message of
    a stream ends is the first one `find` sees on its connection. -/
structure Survivable (host : Host C) (n : Node C) (conn : C) (msgp : Message) : Prop where
  result : msgp.type = .queryresult → msgp.guid ∉ n.queries.seenGuids →
    ¬ Queries.OddlyTyped host msgp
  stream : ∀ e ss, streamEvent conn msgp = some e → n.transfers.target e = some ss →
    Transfers.FindsFirst n.transfers.reg ss.conn ss.sid

/-! ## No assertion fails

  `set_query_origin` asserts that the query has no origin yet, and `handle_query` calls it for a
  query that playdar does not have.  The two go together as long as playdar keeps what it has been
  handed. -/

/-- Playdar has dropped no query so far.  Otherwise `set_query_origin` may assert on one that comes
    again, and that is another matter. -/
def Keeps (hist : History C) : Prop := ∀ st ∈ hist, ∀ qid, st.event ≠ .drop qid

/-- **A query with an origin exists**, while playdar drops none: the origin is set when the query is
    dispatched. -/
theorem Run.origin_exists {host : Host C} {hist : History C} {n : Node C}
    (hr : Run host hist n) (hkeep : Keeps hist) {qid : Qid}
    (ho : n.queries.qidorigins qid ≠ none) : n.queries.queries qid ≠ none := by
  refine Runs.Run.invariant (I := fun hist n => Keeps hist →
    ∀ qid, n.queries.qidorigins qid ≠ none → n.queries.queries qid ≠ none) ?_ ?_ hr hkeep qid ho
  · rintro n rfl - qid ho
    exact absurd rfl ho
  · intro hist n e n' out _ ih hok hkeep qid ho
    have hold := ih fun st hst => hkeep st (List.mem_append_left _ hst)
    have hne := hkeep _ List.mem_concat_self
    rcases step_queries hok with ⟨-, hsame⟩ | ⟨qe, out', hqe, hq⟩
    · rw [hsame] at ho ⊢
      exact hold qid ho
    · have heff := Queries.step_effect hq
      -- a query that exists goes on existing, as this step is no `drop` of it
      have hstays : n.queries.queries qid ≠ none → n'.queries.queries qid ≠ none := by
        intro hex
        obtain ⟨x, hx⟩ := Option.ne_none_iff_exists'.mp hex
        have hdrop : qe ≠ .drop qid := fun he => hne qid (queryEvent_drop (he ▸ hqe))
        obtain ⟨x', hx', -⟩ := Queries.query_stays heff hx hdrop
        rw [hx']
        simp
      rcases Queries.origin_step heff with hsame | ⟨_, conn, _, rq, -, -, -, hup, hdisp⟩
      · rw [hsame] at ho
        exact hstays (hold qid ho)
      · -- an origin is set together with the dispatch of its query
        by_cases he : qid = rq.id
        · rw [he, hdisp]
          simp
        · rw [hup, Function.update_of_ne he] at ho
          exact hstays (hold qid ho)

/-! ## Each kind of message -/

/-- What is `fin`ished is closed, if it was open at all. -/
theorem applyFins_fin (n : Node C) (conn : C) :
    conn ∉ (n.applyFins [.fin conn]).mesh.router.connections := by
  simp [applyFins, finished]

/-- A handler that leaves the queries as they are, and at most closes the connection, discards what
    it was given. -/
theorem discards_onQueries {n : Node C} {conn : C} {msgp : Message} {out : List (Action C)}
    (hout : out = [] ∨ out = [.fin conn]) :
    Discards n conn (applyFins { n with queries := n.queries.note msgp } out) out := by
  refine ⟨Queries.note_qidorigins .., Queries.note_queries .., rfl, ?_⟩
  rcases hout with rfl | rfl
  · exact Or.inl rfl
  · exact Or.inr ⟨rfl, applyFins_fin _ conn⟩

/-- **QUERY** is always safe: everything is in the try block.  The one way to fail that is left is
    the assertion, and `Run.origin_exists` excludes it. -/
theorem query_safe {host : Host C} {hist : History C} {n : Node C} (hr : Run host hist n)
    (hkeep : Keeps hist) {conn : C} {msgp : Message} (ht : msgp.type = .query) :
    ∃ n' out, onQueries { n with queries := n.queries.note msgp }
        ((n.queries.note msgp).handleQuery host conn msgp) = .ok (n', out) ∧
      (BadPayload host msgp → Discards n conn n' out) := by
  rw [Queries.handleQuery_eq]
  cases hd : Queries.decodeQuery host.js host.playdar msgp with
  | none => exact ⟨_, _, rfl, fun _ => discards_onQueries (Or.inr rfl)⟩
  | some rq =>
    have hgood : ¬ BadPayload host msgp := by
      rintro (⟨-, hbad⟩ | ⟨hres, -⟩)
      · rw [hd] at hbad
        cases hbad
      · rw [ht] at hres
        cases hres
    by_cases hex : (n.queries.note msgp).queryExists rq.id = true
    · simp only [if_pos hex]
      exact ⟨_, _, rfl, fun hbad => absurd hbad hgood⟩
    · -- a query that does not exist has no origin, so the assertion holds
      have hfree : ¬ (n.queries.note msgp).qidorigins rq.id ≠ none := by
        rw [Queries.note_qidorigins]
        intro ho
        rw [Bool.not_eq_true, Queries.queryExists_eq_false, Queries.note_queries] at hex
        exact hr.origin_exists hkeep ho hex
      simp only [if_neg hex, if_neg hfree]
      exact ⟨_, _, rfl, fun hbad => absurd hbad hgood⟩

/-- **QUERYRESULT** is safe exactly when its types are not odd.  For a payload that can be used it
    reports, for one that cannot it closes, and in between it throws. -/
theorem queryresult_safe_iff {host : Host C} {n : Node C} {conn : C} {msgp : Message}
    (ht : msgp.type = .queryresult) :
    (∃ n' out, onQueries { n with queries := n.queries.note msgp }
        ((n.queries.note msgp).handleQueryresult host n.mesh.router conn msgp) = .ok (n', out) ∧
      (BadPayload host msgp → Discards n conn n' out)) ↔ ¬ Queries.OddlyTyped host msgp := by
  cases hd : Queries.decodeResult host.js host.playdar msgp with
  | none =>
    rcases Queries.handleQueryresult_none (q := n.queries.note msgp) (r := n.mesh.router) hd with
      ⟨hnot, heq⟩ | ⟨hodd, heq⟩
    · rw [heq]
      exact ⟨fun _ => hnot, fun _ => ⟨_, _, rfl, fun _ => discards_onQueries (Or.inr rfl)⟩⟩
    · rw [heq]
      constructor
      · rintro ⟨n', out, hok, -⟩
        cases hok
      · intro hnot
        exact absurd hodd hnot
  | some x =>
    obtain ⟨qid, rip⟩ := x
    rw [Queries.handleQueryresult_some hd]
    refine ⟨fun _ => Queries.not_oddlyTyped hd, fun _ => ⟨_, _, rfl, fun hbad => ?_⟩⟩
    rcases hbad with ⟨hquery, -⟩ | ⟨-, hbad⟩
    · rw [ht] at hquery
      cases hquery
    · rw [hd] at hbad
      cases hbad

/-- **QUERYSTOP** always returns: it looks for the query and its origin, and reads no payload. -/
theorem querystop_returns (host : Host C) (q : Queries C) (r : Router C) (conn : C)
    (msgp : Message) : ∃ x, q.handleQuerystop host r conn msgp = .ok x := by
  unfold Queries.handleQuerystop
  split
  · exact ⟨_, rfl⟩
  · split
    · exact ⟨_, rfl⟩
    · exact ⟨_, rfl⟩

/-- **SIDREQUEST** always returns: a connection found by its name is ready, and then `start_reply`
    does not inherit a loop. -/
theorem sidrequest_returns {host : Host C} {n : Node C}
    (hm : ∀ c, Mesh.Handshaken (n.mesh.router.conn c)) (conn : C) (msgp : Message)
    (answer : SsAnswer) (uuid : String) :
    ∃ x, n.handleSidrequest host conn msgp answer uuid = .ok x := by
  unfold handleSidrequest
  cases answer with
  | nothing => exact ⟨_, rfl⟩
  | other => exact ⟨_, rfl⟩
  | greynet url oid =>
    cases hss : ssFactory host n.mesh.router url oid with
    | none =>
      simp only [hss]
      exact ⟨_, rfl⟩
    | some ss =>
      -- the factory has found the connection by its name, and has a name only if it is ready
      have hready : host.lib.ready n.mesh.router ss.conn = true := by
        unfold ssFactory at hss
        simp only at hss
        split at hss
        · split at hss
          · rename_i c hc
            obtain rfl := Option.some.inj hss
            obtain ⟨hopen, hname⟩ := host.lib.found hc
            rw [host.lib.ready_open hopen]
            exact (hm c).named (by rw [hname]; simp)
          · cases hss
        · cases hss
      simp only [hss, hready]
      obtain ⟨t', heq, -⟩ := Transfers.startReply_ready
        { n.transfers with adaptors := n.transfers.adaptors ++ [{ sid := msgp.payload, conn }] }
        ss (.greynet n.transfers.adaptors.length) uuid
      rw [heq]
      exact ⟨_, rfl⟩

/-- A step of the transfers is one of the node, and returns if it does, so for a stream it is enough
    to look there. -/
theorem onTransfers_isOk {n : Node C} {x : Except Fault (Transfers C × List (Action C))} :
    (∃ n' out, n.onTransfers x = .ok (n', out)) ↔ ∃ y, x = .ok y := by
  cases x with
  | error f =>
    constructor
    · rintro ⟨n', out, h⟩
      cases h
    · rintro ⟨y, h⟩
      cases h
  | ok y => exact ⟨fun _ => ⟨y, rfl⟩, fun _ => ⟨_, _, rfl⟩⟩

/-- **A message of a stream** is safe exactly when what it ends can be unregistered. -/
theorem stream_safe_iff {t : Transfers C} (ht : t.Reachable) {e : Transfers.Event C}
    (he : ∀ conn, e ≠ .connectionTerminated conn) :
    (∃ y, t.step e = .ok y) ↔
      ∀ ss, t.target e = some ss → Transfers.FindsFirst t.reg ss.conn ss.sid := by
  rw [Transfers.step_isOk ht.sound he]
  constructor
  · intro h ss hss
    exact Registry.unregisterSidtransfer_isOk.mp (h ss hss)
  · intro h ss hss
    exact Registry.unregisterSidtransfer_isOk.mpr (h ss hss)

/-- Nothing is asked of a message that is neither a result nor part of a stream. -/
theorem survivable_of_none {host : Host C} {n : Node C} {conn : C} {msgp : Message}
    (hres : msgp.type ≠ .queryresult) (hstream : streamEvent conn msgp = none) :
    Survivable host n conn msgp := by
  refine ⟨fun ht => absurd ht hres, fun e ss he => ?_⟩
  rw [hstream] at he
  cases he

omit [LinearOrder C] in
/-- A payload is bad for a query or a result only, as no other handler reads it as JSON. -/
theorem not_badPayload {host : Host C} {msgp : Message} (hquery : msgp.type ≠ .query)
    (hres : msgp.type ≠ .queryresult) : ¬ BadPayload host msgp := by
  rintro (⟨ht, -⟩ | ⟨ht, -⟩)
  · exact hquery ht
  · exact hres ht

omit [LinearOrder C] in
/-- The other types are none of a stream's. -/
theorem streamEvent_eq_none {conn : C} {msgp : Message} (h : msgp.type.isStream = false) :
    streamEvent conn msgp = none := by
  cases ht : msgp.type <;> rw [ht] at h
  case siddata | sidheaders | sidfail => cases h
  all_goals simp [streamEvent, ht]

/-- A message whose handler always returns, and has no use for JSON. -/
theorem plain_safe_iff {host : Host C} {n : Node C} {conn : C} {msgp : Message}
    {x : Except Fault (Node C × List (Action C))} (hx : ∃ y, x = .ok y)
    (hquery : msgp.type ≠ .query) (hres : msgp.type ≠ .queryresult)
    (hstream : streamEvent conn msgp = none) :
    (∃ n' out, x = .ok (n', out) ∧ (BadPayload host msgp → Discards n conn n' out)) ↔
      Survivable host n conn msgp := by
  obtain ⟨⟨n', out⟩, hx⟩ := hx
  exact ⟨fun _ => survivable_of_none hres hstream,
    fun _ => ⟨n', out, hx, fun hbad => absurd hbad (not_badPayload hquery hres)⟩⟩

/-- A message of a stream, in the handler the node has for it. -/
theorem streamed_safe_iff {host : Host C} {n : Node C} (ht : n.transfers.Reachable) {conn : C}
    {msgp : Message} {e : Transfers.Event C} (hstream : streamEvent conn msgp = some e)
    (he : ∀ c, e ≠ .connectionTerminated c) (hquery : msgp.type ≠ .query)
    (hres : msgp.type ≠ .queryresult) :
    (∃ n' out, onTransfers { n with queries := n.queries.note msgp } (n.transfers.step e) =
        .ok (n', out) ∧ (BadPayload host msgp → Discards n conn n' out)) ↔
      Survivable host n conn msgp := by
  have hiff := stream_safe_iff ht he
  constructor
  · rintro ⟨n', out, hok, -⟩
    obtain ⟨t, ht, -⟩ := onTransfers_ok hok
    refine ⟨fun ht => absurd ht hres, fun e' ss he' => ?_⟩
    rw [hstream] at he'
    obtain rfl := Option.some.inj he'
    exact hiff.mp ⟨_, ht⟩ ss
  · intro hsurv
    obtain ⟨n', out, hok⟩ := onTransfers_isOk.mpr (hiff.mpr (hsurv.stream e · hstream))
    exact ⟨n', out, hok, fun hbad => absurd hbad (not_badPayload hquery hres)⟩

/-- **The messages the node survives, exactly**: in every run in which playdar has dropped no
    query, for every message delivered on a ready connection. -/
theorem handlesSafely_iff (host : Host C) (hist : History C) (n : Node C) (hr : Run host hist n)
    (hkeep : Keeps hist) (conn : C) (hopen : conn ∈ n.mesh.router.connections)
    (hready : (n.mesh.router.conn conn).ready = true) (msgp : Message) (answer : SsAnswer)
    (uuid : String) :
    HandlesSafely host n conn msgp answer uuid ↔ Survivable host n conn msgp := by
  unfold HandlesSafely
  rw [step_received hr hopen hready]
  unfold messageReceived
  by_cases hadm : n.queries.admits msgp = true
  · simp only [if_pos hadm]
    have hm : ∀ c, Mesh.Handshaken (n.mesh.router.conn c) := Mesh.handshaken_of_reachable hr.mesh
    cases ht : msgp.type with
    | query =>
      exact ⟨fun _ => survivable_of_none (by rw [ht]; simp) (by simp [streamEvent, ht]),
        fun _ => query_safe hr hkeep ht⟩
    | queryresult =>
      have hnew : msgp.guid ∉ n.queries.seenGuids := fun hseen => by
        rw [Queries.admits_eq_false.mpr ⟨by rw [ht]; rfl, hseen⟩] at hadm
        cases hadm
      rw [queryresult_safe_iff ht]
      refine ⟨fun hodd => ⟨fun _ _ => hodd, fun e ss he => ?_⟩, fun h => h.result ht hnew⟩
      simp [streamEvent, ht] at he
    | querystop =>
      obtain ⟨x, hx⟩ := querystop_returns host (n.queries.note msgp) n.mesh.router conn msgp
      refine plain_safe_iff ⟨_, by rw [hx]; rfl⟩ ?_ ?_ ?_ <;> simp [streamEvent, ht]
    | sidrequest =>
      have hok : ∃ y, handleSidrequest host { n with queries := n.queries.note msgp } conn msgp
          answer uuid = .ok y := by
        apply sidrequest_returns
        exact hm
      refine plain_safe_iff hok ?_ ?_ ?_ <;> simp [streamEvent, ht]
    | siddata =>
      refine streamed_safe_iff hr.transfers (e := .siddata conn msgp) ?_ ?_ ?_ ?_ <;>
        simp [streamEvent, ht]
    | sidheaders =>
      refine streamed_safe_iff hr.transfers (e := .sidheaders conn msgp) ?_ ?_ ?_ ?_ <;>
        simp [streamEvent, ht]
    | sidfail =>
      refine streamed_safe_iff hr.transfers (e := .sidfail conn msgp) ?_ ?_ ?_ ?_ <;>
        simp [streamEvent, ht]
    | ping | pong | ident | unknown _ =>
      refine plain_safe_iff ⟨_, rfl⟩ ?_ ?_ ?_ <;> simp [streamEvent, ht]
  · -- a duplicate is dropped before any handler
    simp only [if_neg hadm]
    obtain ⟨hstream, hseen⟩ := Queries.admits_eq_false.mp (by simpa using hadm)
    refine ⟨fun _ => ⟨fun _ hnew => absurd hseen hnew, fun e ss he => ?_⟩, fun _ =>
      ⟨n, [], rfl, fun _ => ⟨rfl, rfl, rfl, Or.inl rfl⟩⟩⟩
    rw [streamEvent_eq_none hstream] at he
    cases he

/-- A QUERY that is not even JSON closes its connection and does no more ... -/
theorem bad_query_is_discarded :
    HandlesSafely sampleHost (Runs.after (step sampleHost) empty meeting) 0
      ⟨.query, "g2", "no JSON"⟩ .nothing "u2" := by
  have hr : Run sampleHost (Runs.trace (step sampleHost) empty meeting)
      (Runs.after (step sampleHost) empty meeting) := Runs.run_trace _ rfl
  refine (handlesSafely_iff sampleHost _ _ hr ?_ 0 (by decide) rfl _ .nothing "u2").mpr ?_
  · intro st hst qid he
    exact absurd (Runs.mem_of_event hst he) (by simp [meeting])
  · exact ⟨fun ht => (by cases ht), fun e ss he => (by cases he)⟩

/-- ... but on a QUERYRESULT that is a JSON array an exception leaves `message_received`. -/
theorem array_result_throws :
    ∃ n, Run sampleHost (Runs.trace (step sampleHost) empty meeting) n ∧
      Keeps (Runs.trace (step sampleHost) empty meeting) ∧
      0 ∈ n.mesh.router.connections ∧ (n.mesh.router.conn 0).ready = true ∧
      step sampleHost n (.received 0 ⟨.queryresult, "g2", "[]"⟩ .nothing "u2") =
        .error .exception ∧
      ¬ HandlesSafely sampleHost n 0 ⟨.queryresult, "g2", "[]"⟩ .nothing "u2" := by
  have hthrows : step sampleHost (Runs.after (step sampleHost) empty meeting)
      (.received 0 ⟨.queryresult, "g2", "[]"⟩ .nothing "u2") = .error .exception := rfl
  refine ⟨_, Runs.run_trace _ rfl, ?_, by decide, rfl, hthrows, ?_⟩
  · intro st hst qid he
    exact absurd (Runs.mem_of_event hst he) (by simp [meeting])
  · rintro ⟨n', out, hok, -⟩
    rw [hthrows] at hok
    cases hok

end Node

end Greynet
