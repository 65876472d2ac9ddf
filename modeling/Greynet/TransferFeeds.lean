/-
  Who feeds a transfer.

  The messages of a stream carry its sid and nothing else.  The three handlers look the sid up in
  `m_sid2ss`; they are given the connection a message came in on, and none of them compares it
  with the connection the transfer was requested on.  So any peer that has passed the gate, and that
  knows or guesses a sid, can feed bytes to a transfer that was requested from another one, or end
  it.

  1. `script_writeContent` — the bytes an adaptor is given are those of a SIDDATA for its transfer.
  2. `step_calls` — which calls on adaptors an event of the node makes.
  3. `separates_iff` — the events at which a message leaves a transfer of another connection alone.
     There is one kind of message that does: a SIDHEADERS without a header line, after the timer has
     been stopped (`Harmless`).
  4. `transfers_separate_iff` — over whole runs: a transfer is fed by its own peer exactly as long
     as no other peer sends it anything.
-/
import Greynet.Gate
import Greynet.QuerySteps

namespace Greynet

variable {C : Type} [LinearOrder C]

namespace Transfers

/-! ## What an adaptor is given -/

/-- The header loop gives no bytes: it calls setters, and `write_cancel` at the end. -/
theorem writeContent_notMem_headerCalls (b : String) (lines : List String) :
    AdaptorCall.writeContent b ∉ headerCalls lines := by
  obtain ⟨init, hinit, hcalls⟩ := headerCalls_eq lines
  rw [hcalls, List.mem_append, not_or]
  refine ⟨fun hin => ?_, ?_⟩
  · obtain ⟨line, -, hline⟩ := hinit _ hin
    obtain ⟨key, val, -, ⟨-, he⟩ | ⟨-, he⟩ | ⟨-, he⟩⟩ := lineCall_cases hline <;> cases he
  · cases lines.any statusAborts <;> simp

/-- **The bytes an adaptor is given are those of a SIDDATA for its transfer**, or come from the
    strategy that drives it. -/
theorem script_writeContent {t : Transfers C} {e : Event C} {aa : AdaptorId} {b : String}
    (h : (aa, AdaptorCall.writeContent b) ∈ t.script e) :
    (∃ conn msgp ss, e = .siddata conn msgp ∧ msgp.payload = b ∧
      t.reg.sid2ss msgp.guid = some ss ∧ (t.ss ss).aa = some aa) ∨
    e = .adaptorCall aa (.writeContent b) := by
  cases e with
  | startReply ss aa' ready uuid =>
    rw [script] at h
    -- a ready source is sent the request, and its adaptor told nothing
    split at h
    · cases h
    · cases List.mem_singleton.mp h
  | siddata conn msgp =>
    obtain ⟨ss, hss, haa, hin⟩ := mem_told h
    refine Or.inl ⟨conn, msgp, ss, rfl, ?_, hss, haa⟩
    have hcall := List.mem_singleton.mp hin
    unfold dataCall at hcall
    -- the empty payload is `write_finish`
    split at hcall
    · cases hcall
    · exact (AdaptorCall.writeContent.inj hcall).symm
  | sidheaders conn msgp =>
    obtain ⟨ss, -, -, hin⟩ := mem_told h
    exact absurd hin (writeContent_notMem_headerCalls b _)
  | sidfail conn msgp =>
    obtain ⟨ss, -, -, hin⟩ := mem_told h
    cases List.mem_singleton.mp hin
  | timeoutCb ss =>
    rw [script] at h
    split at h
    · cases h
    · obtain ⟨ss, -, -, hin⟩ := mem_told h
      cases List.mem_singleton.mp hin
  | connectionTerminated conn =>
    rw [script, cancelCalls] at h
    obtain ⟨s, -, hs⟩ := List.mem_filterMap.mp h
    obtain ⟨ss, -, hss⟩ := Option.bind_eq_some_iff.mp hs
    obtain ⟨aa', -, he⟩ := Option.map_eq_some_iff.mp hss
    cases (Prod.mk.inj he).2
  | adaptorCall aa' call =>
    obtain ⟨rfl, rfl⟩ := Prod.mk.inj (List.mem_singleton.mp h)
    exact Or.inr rfl
  | timerExpires => cases h
  | newAdaptor => cases h

/-- Lines that are no headers do nothing: each is passed over, and the loop returns what it was
    given. -/
theorem headerLines_skip (t : Transfers C) (ss : SsGreynet C) (aa : AdaptorId)
    {lines : List String} (h : ∀ line ∈ lines, lineCall line = none) :
    t.headerLines ss aa lines = .ok (t, []) := by
  induction lines with
  | nil => rfl
  | cons line lines ih =>
    have hrest := ih fun line hline => h line (List.mem_cons_of_mem _ hline)
    have hline := h line (List.mem_cons_self ..)
    -- no tab in the line, or one too many, or a key that is none of the three
    by_cases hpair : ∃ key val, splitAt line '\t' = [key, val]
    · obtain ⟨key, val, hsplit⟩ := hpair
      rw [lineCall, hsplit] at hline
      rw [headerLines, hsplit]
      simp only at hline ⊢
      split at hline
      · cases hline
      · rename_i hst
        split at hline
        · cases hline
        · rename_i hmt
          split at hline
          · cases hline
          · rename_i hcl
            rw [if_neg hst, if_neg hmt, if_neg hcl]
            exact hrest
    · rw [headerLines]
      split
      · rename_i key val hsplit
        exact absurd ⟨key, val, hsplit⟩ hpair
      · exact hrest

/-- If the loop makes no call, none of the lines is a header. -/
theorem headerCalls_eq_nil {lines : List String} (h : headerCalls lines = []) :
    ∀ line ∈ lines, lineCall line = none := by
  induction lines with
  | nil => simp
  | cons line lines ih =>
    rw [headerCalls, List.append_eq_nil_iff] at h
    obtain ⟨hline, hrest⟩ := h
    split at hrest
    · cases hrest
    · intro l hl
      rcases List.mem_cons.mp hl with rfl | hl
      · simpa using hline
      · exact ih hrest l hl

end Transfers

namespace Node

/-! ## The calls an event of the node makes -/

/-- What the transfers see of an event, a request for a stream apart: `handle_sidrequest` reaches
    them with two events of its own making.  A message reaches them only past the gate, and only if
    it is one of a stream. -/
def transferEvent (h : Host C) (n : Node C) : Event C → Option (Transfers.Event C)
  | .received conn msgp answer uuid =>
    (n.queryEvent (.received conn msgp answer uuid)).bind fun _ => streamEvent conn msgp
  | .connectionTerminated conn => some (.connectionTerminated conn)
  | .startReply ss aa uuid => some (.startReply ss aa (h.lib.ready n.mesh.router ss.conn) uuid)
  | .timerExpires ss => some (.timerExpires ss)
  | .timeoutCb ss => some (.timeoutCb ss)
  | .adaptorCall aa call => some (.adaptorCall aa call)
  | _ => none

/-- A message reaches the transfers if and only if it is past the gate and one of a stream; those
    are let through whatever their guid. -/
theorem transferEvent_received {host : Host C} {n : Node C} {conn : C} {msgp : Message}
    {answer : SsAnswer} {uuid : String} {te : Transfers.Event C} :
    n.transferEvent host (.received conn msgp answer uuid) = some te ↔
      n.PastGate conn ∧ streamEvent conn msgp = some te := by
  rw [transferEvent, queryEvent]
  split
  · rename_i hgate
    exact ⟨fun h => ⟨⟨hgate.1, hgate.2⟩, h⟩, fun h => h.2⟩
  · rename_i hgate
    exact ⟨fun h => (by cases h), fun h => absurd ⟨h.1.isOpen, h.1.callback⟩ hgate⟩

/-- A message of a stream goes to the transfers, and nowhere else: not even its guid is noted. -/
theorem step_stream {host : Host C} {n : Node C} {conn : C} {msgp : Message} {answer : SsAnswer}
    {uuid : String} {te : Transfers.Event C} (hgate : n.PastGate conn)
    (hte : streamEvent conn msgp = some te) :
    step host n (.received conn msgp answer uuid) = n.onTransfers (n.transfers.step te) := by
  unfold streamEvent at hte
  simp only [step, if_pos hgate.isOpen, hgate.callback]
  unfold messageReceived
  split at hte
  · rename_i ht
    obtain rfl := Option.some.inj hte
    simp only [Queries.admits, Queries.note, ht, MsgType.isStream, Bool.true_or, if_true]
    rfl
  · rename_i ht
    obtain rfl := Option.some.inj hte
    simp only [Queries.admits, Queries.note, ht, MsgType.isStream, Bool.true_or, if_true]
    rfl
  · rename_i ht
    obtain rfl := Option.some.inj hte
    simp only [Queries.admits, Queries.note, ht, MsgType.isStream, Bool.true_or, if_true]
    rfl
  · cases hte

/-- A reply that is started gives its adaptor no bytes; at most it is cancelled at once, where the
    connection is not ready. -/
theorem handleSidrequest_calls {host : Host C} {n n' : Node C} {conn : C} {msgp : Message}
    {answer : SsAnswer} {uuid : String} {out : List (Action C)}
    (hok : n.handleSidrequest host conn msgp answer uuid = .ok (n', out)) {aa : AdaptorId}
    {call : AdaptorCall} (hin : .adaptor aa call ∈ out) : call = .writeCancel := by
  simp only [handleSidrequest] at hok
  split at hok
  · obtain ⟨-, rfl⟩ := Prod.mk.inj (Except.ok.inj hok)
    cases List.mem_singleton.mp hin
  · obtain ⟨-, rfl⟩ := Prod.mk.inj (Except.ok.inj hok)
    cases hin
  · split at hok
    · obtain ⟨-, rfl⟩ := Prod.mk.inj (Except.ok.inj hok)
      cases List.mem_singleton.mp hin
    · rename_i ss _
      obtain ⟨t, hstart, -⟩ := onTransfers_ok hok
      unfold Transfers.startReply at hstart
      simp only at hstart
      split at hstart
      · obtain ⟨-, rfl⟩ := Prod.mk.inj (Except.ok.inj hstart)
        cases List.mem_singleton.mp hin
      · -- not ready: `start_reply` cancels at once
        obtain ⟨aa', haa, -, -, rfl⟩ := Transfers.cancelHandler_ok hstart
        rcases List.mem_cons.mp hin with he | hin
        · cases he
        · have hmem := Transfers.callsOn_mem.mpr hin
          rw [(Transfers.plays_adaptorCall _ aa' .writeCancel).callsOn aa,
            Transfers.mem_linesFor] at hmem
          exact (Prod.mk.inj (List.mem_singleton.mp hmem)).2

/-- Outside the streams `message_received` only cancels a request that cannot be passed on. -/
theorem messageReceived_calls {host : Host C} {n n' : Node C} {conn : C} {msgp : Message}
    {answer : SsAnswer} {uuid : String} {out : List (Action C)}
    (hstream : streamEvent conn msgp = none)
    (hok : n.messageReceived host conn msgp answer uuid = .ok (n', out)) {aa : AdaptorId}
    {call : AdaptorCall} (hin : .adaptor aa call ∈ out) : call = .writeCancel := by
  unfold messageReceived at hok
  split at hok
  · rename_i hadm
    cases hty : msgp.type with
    | sidrequest =>
      rw [hty] at hok
      exact handleSidrequest_calls hok hin
    | query | queryresult | querystop =>
      rw [hty] at hok
      obtain ⟨q, hs, -⟩ := onQueries_ok hok
      -- the queries have no adaptors, so there is nothing to be called
      have hrec : n.queries.step host (.received n.mesh.router conn msgp) = .ok (q, out) := by
        simp only [Queries.step, Queries.received, if_pos hadm, hty]
        exact hs
      exact (Queries.own_of_effect (Queries.step_effect hrec) _ hin).elim
    | siddata | sidheaders | sidfail => simp [streamEvent, hty] at hstream
    | ping =>
      rw [hty] at hok
      obtain ⟨-, rfl⟩ := Prod.mk.inj (Except.ok.inj hok)
      cases List.mem_singleton.mp hin
    | pong | ident | unknown _ =>
      rw [hty] at hok
      obtain ⟨-, rfl⟩ := Prod.mk.inj (Except.ok.inj hok)
      cases hin
  · obtain ⟨-, rfl⟩ := Prod.mk.inj (Except.ok.inj hok)
    cases hin

/-- **The calls an event makes on adaptors are those the transfers make**, but for the cancelling
    of a request that cannot be passed on. -/
theorem step_calls {host : Host C} {n n' : Node C} {e : Event C} {out : List (Action C)}
    (ht : n.transfers.Sound) (hok : step host n e = .ok (n', out)) {aa : AdaptorId}
    {call : AdaptorCall} (hin : .adaptor aa call ∈ out) :
    (∃ te, n.transferEvent host e = some te ∧ (aa, call) ∈ n.transfers.script te) ∨
      call = .writeCancel := by
  -- each event goes to one of the three components
  have htransfers : ∀ te {t}, n.transferEvent host e = some te →
      n.transfers.step te = .ok (t, out) →
      ∃ te, n.transferEvent host e = some te ∧ (aa, call) ∈ n.transfers.script te := by
    intro te t hte hs
    refine ⟨te, hte, Transfers.mem_linesFor.mp ?_⟩
    rw [← Transfers.step_callsOn ht hs aa]
    exact Transfers.callsOn_mem.mpr hin
  have hqueries : ∀ {qe q}, n.queries.step host qe = .ok (q, out) → False := fun hs =>
    Queries.own_of_effect (Queries.step_effect hs) _ hin
  have hmesh : ∀ {me m}, n.mesh.step host me = .ok (m, out) → False := fun hs =>
    Mesh.own_step hs _ hin
  cases e with
  | mesh me =>
    rcases step_meshEvent host n me with hon | hon
    · rw [hon] at hok
      obtain ⟨-, rfl⟩ := Prod.mk.inj (Except.ok.inj hok)
      cases hin
    · rw [hon] at hok
      obtain ⟨m, hs, -⟩ := onMesh_ok hok
      exact (hmesh hs).elim
  | received conn msgp answer uuid =>
    simp only [step] at hok
    split at hok
    · rename_i hopen
      split at hok
      · obtain ⟨m, hs, -⟩ := onMesh_ok hok
        exact (hmesh hs).elim
      · rename_i hcbs
        have hgate : n.PastGate conn := ⟨hopen, hcbs⟩
        rcases hte : streamEvent conn msgp with _ | te
        · -- not of a stream, so only `handle_sidrequest` has an adaptor to call
          exact Or.inr (messageReceived_calls hte hok hin)
        · have hstep : step host n (.received conn msgp answer uuid) =
              n.onTransfers (n.transfers.step te) := step_stream hgate hte
          simp only [step, if_pos hopen, hcbs] at hstep
          rw [hstep] at hok
          obtain ⟨t, hs, -⟩ := onTransfers_ok hok
          exact Or.inl (htransfers te (transferEvent_received.mpr ⟨hgate, hte⟩) hs)
    · obtain ⟨-, rfl⟩ := Prod.mk.inj (Except.ok.inj hok)
      cases hin
  | connectionTerminated conn =>
    simp only [step] at hok
    split at hok
    · obtain ⟨-, rfl⟩ := Prod.mk.inj (Except.ok.inj hok)
      cases hin
    · obtain ⟨t, hs, -⟩ := onTransfers_ok hok
      exact Or.inl (htransfers (.connectionTerminated conn) rfl hs)
  | startReply ss aa' uuid =>
    obtain ⟨t, hs, -⟩ := onTransfers_ok hok
    exact Or.inl (htransfers (.startReply ss aa' _ uuid) rfl hs)
  | timerExpires ss =>
    obtain ⟨t, hs, -⟩ := onTransfers_ok hok
    exact Or.inl (htransfers _ rfl hs)
  | timeoutCb ss =>
    obtain ⟨t, hs, -⟩ := onTransfers_ok hok
    exact Or.inl (htransfers _ rfl hs)
  | adaptorCall aa' call' =>
    have hcall : n.onTransfers (n.transfers.step (.adaptorCall aa' call')) = .ok (n', out) := hok
    obtain ⟨t, hs, -⟩ := onTransfers_ok hcall
    exact Or.inl (htransfers _ rfl hs)
  | _ =>
    simp only [step] at hok
    obtain ⟨q, hs, -⟩ := onQueries_ok hok
    exact (hqueries hs).elim

/-! ## Messages for the transfers of other connections -/

/-- A message of a stream, delivered on another connection than that of the transfer `ss`, which
    is registered for its sid. -/
def Stray (n : Node C) (e : Event C) (msgp : Message) (ss : SsGreynet C) : Prop :=
  ∃ c answer uuid, e = .received c msgp answer uuid ∧ n.PastGate c ∧
    msgp.type.isStream = true ∧ n.transfers.reg.sid2ss msgp.guid = some ss ∧ ss.conn ≠ c

/-- The transfer is registered and as it was, and its adaptor has not been called: the event might
    as well not have happened. -/
structure Untouched (n n' : Node C) (out : List (Action C)) (sid : Sid) (ss : SsGreynet C) :
    Prop where
  registered : n'.transfers.reg.sid2ss sid = some ss
  state : n'.transfers.ss ss = n.transfers.ss ss
  calls : ∀ aa, (n.transfers.ss ss).aa = some aa → Transfers.callsOn aa out = []

/-- The bytes arrived on the connection of a transfer with this adaptor, or the strategy that
    drives the adaptor wrote them. -/
def FromItsPeer (n : Node C) (e : Event C) (aa : AdaptorId) (b : String) : Prop :=
  (∃ c msgp answer uuid ss, e = .received c msgp answer uuid ∧ msgp.payload = b ∧
    n.transfers.reg.sid2ss msgp.guid = some ss ∧ (n.transfers.ss ss).aa = some aa ∧ ss.conn = c) ∨
  e = .adaptorCall aa (.writeContent b)

/-- Transfers are fed only by the peer they were requested from: a message from another one leaves
    them untouched, and whatever bytes an adaptor is given come from the right one. -/
structure Separates (host : Host C) (n : Node C) (e : Event C) : Prop where
  unaffected : ∀ msgp ss, Stray n e msgp ss →
    ∃ n' out, step host n e = .ok (n', out) ∧ Untouched n n' out msgp.guid ss
  bytes : ∀ n' out, step host n e = .ok (n', out) →
    ∀ aa b, .adaptor aa (.writeContent b) ∈ out → FromItsPeer n e aa b

/-- A SIDHEADERS without a header line, after the first one has stopped the timer: it calls nobody,
    and there is no timer left for it to stop. -/
structure Harmless (n : Node C) (msgp : Message) (ss : SsGreynet C) : Prop where
  type : msgp.type = .sidheaders
  timer : (n.transfers.ss ss).timer = some false
  lines : ∀ line ∈ splitAt msgp.payload '\n', Transfers.lineCall line = none

/-- No message for the transfer of another connection arrives, but for a harmless one; a condition
    on what comes in and on the state before it. -/
def KeepsApart (n : Node C) (e : Event C) : Prop :=
  ∀ msgp ss, Stray n e msgp ss → Harmless n msgp ss

/-- Only a harmless message leaves a transfer alone.  A SIDDATA and a SIDFAIL call the adaptor
    whatever they carry, and a SIDHEADERS stops the timer, so it must have been stopped, and calls
    for every header line. -/
theorem harmless_of_untouched {host : Host C} {n n' : Node C} {c : C} {msgp : Message}
    {answer : SsAnswer} {uuid : String} {out : List (Action C)} {ss : SsGreynet C}
    (ht : n.transfers.Sound) (hgate : n.PastGate c) (hstream : msgp.type.isStream = true)
    (hss : n.transfers.reg.sid2ss msgp.guid = some ss)
    (hok : step host n (.received c msgp answer uuid) = .ok (n', out))
    (hun : Untouched n n' out msgp.guid ss) : Harmless n msgp ss := by
  obtain ⟨haa, htimer⟩ := ht.started _ _ hss
  obtain ⟨aa, haa⟩ := Option.ne_none_iff_exists'.mp haa
  -- the adaptor is called what the script says
  have hcalls : ∀ te {calls}, streamEvent c msgp = some te →
      n.transfers.script te =
        Transfers.script.told n.transfers (n.transfers.reg.sid2ss msgp.guid) calls →
      calls = [] := by
    intro te calls hte hscript
    rw [step_stream hgate hte] at hok
    obtain ⟨t, hs, -⟩ := onTransfers_ok hok
    have hmade := Transfers.step_callsOn ht hs aa
    rw [hun.calls aa haa, hscript, Transfers.script.told, hss, Option.bind_some, haa] at hmade
    have hmap : ∀ l : List AdaptorCall,
        Transfers.linesFor aa (l.map fun call => (aa, call)) = l := by
      intro l
      induction l with
      | nil => rfl
      | cons x l ih => simpa [Transfers.linesFor] using ih
    exact (hmade.trans (hmap calls)).symm
  cases hty : msgp.type with
  | siddata =>
    cases hcalls (.siddata c msgp) (by simp [streamEvent, hty]) rfl
  | sidfail =>
    cases hcalls (.sidfail c msgp) (by simp [streamEvent, hty]) rfl
  | sidheaders =>
    have hte : streamEvent c msgp = some (.sidheaders c msgp) := by simp [streamEvent, hty]
    have hnone := Transfers.headerCalls_eq_nil (hcalls _ hte rfl)
    refine ⟨hty, ?_, hnone⟩
    obtain ⟨x, hx⟩ := Option.ne_none_iff_exists'.mp htimer
    rw [step_stream hgate hte] at hok
    obtain ⟨t, hs, rfl⟩ := onTransfers_ok hok
    simp only [Transfers.step, Transfers.handleSidheaders, hss, Transfers.sidheadersHandler, hx,
      haa] at hs
    rw [Transfers.headerLines_skip _ ss aa hnone] at hs
    obtain ⟨rfl, -⟩ := Prod.mk.inj (Except.ok.inj hs)
    have hstate := hun.state
    simp only [Transfers.modifySs_self] at hstate
    rw [← hstate]
  | _ =>
    rw [hty] at hstream
    cases hstream

/-- ... and every harmless message does, for there is nothing in it to act on. -/
theorem untouched_of_harmless {host : Host C} {n : Node C} {c : C} {msgp : Message}
    {answer : SsAnswer} {uuid : String} {ss : SsGreynet C} (ht : n.transfers.Sound)
    (hgate : n.PastGate c) (hss : n.transfers.reg.sid2ss msgp.guid = some ss)
    (h : Harmless n msgp ss) :
    ∃ n' out, step host n (.received c msgp answer uuid) = .ok (n', out) ∧
      Untouched n n' out msgp.guid ss := by
  obtain ⟨haa, -⟩ := ht.started _ _ hss
  obtain ⟨aa, haa⟩ := Option.ne_none_iff_exists'.mp haa
  have hte : streamEvent c msgp = some (.sidheaders c msgp) := by simp [streamEvent, h.type]
  rw [step_stream hgate hte]
  simp only [Transfers.step, Transfers.handleSidheaders, hss, Transfers.sidheadersHandler,
    h.timer, haa]
  rw [Transfers.headerLines_skip _ ss aa h.lines]
  refine ⟨_, _, rfl, hss, ?_, fun _ _ => rfl⟩
  show (n.transfers.modifySs ss fun x => { x with timer := some false }).ss ss = _
  rw [Transfers.modifySs_self, ← h.timer]

/-- **The events at which the transfers are kept apart, exactly.**  In a run, since a transfer that
    is registered has to have an adaptor for the message to call. -/
theorem Run.separates_iff {host : Host C} {hist : History C} {n : Node C} (hr : Run host hist n)
    (e : Event C) : Separates host n e ↔ KeepsApart n e := by
  have ht := hr.transfers.sound
  constructor
  · rintro h msgp ss ⟨c, answer, uuid, rfl, hgate, hstream, hss, hne⟩
    obtain ⟨n', out, hok, hun⟩ := h.unaffected msgp ss
      ⟨c, answer, uuid, rfl, hgate, hstream, hss, hne⟩
    exact harmless_of_untouched ht hgate hstream hss hok hun
  · intro h
    refine ⟨?_, fun n' out hok aa b hin => ?_⟩
    · rintro msgp ss ⟨c, answer, uuid, rfl, hgate, hstream, hss, hne⟩
      exact untouched_of_harmless ht hgate hss
        (h msgp ss ⟨c, answer, uuid, rfl, hgate, hstream, hss, hne⟩)
    · rcases step_calls ht hok hin with ⟨te, hte, hscript⟩ | hcall
      · rcases Transfers.script_writeContent hscript with
          ⟨c, msgp, ss, rfl, hb, hss, haa⟩ | rfl
        · -- a SIDDATA on another connection would be a stray one
          obtain ⟨answer, uuid, rfl, hgate, hty⟩ : ∃ answer uuid,
              e = .received c msgp answer uuid ∧ n.PastGate c ∧ msgp.type = .siddata := by
            cases e with
            | received c' m answer uuid =>
              obtain ⟨hgate, hte⟩ := transferEvent_received.mp hte
              unfold streamEvent at hte
              split at hte
              · rename_i hty
                obtain ⟨rfl, rfl⟩ := Transfers.Event.siddata.inj (Option.some.inj hte)
                exact ⟨answer, uuid, rfl, hgate, hty⟩
              · cases hte
              · cases hte
              · cases hte
            | _ => cases hte
          refine Or.inl ⟨c, msgp, answer, uuid, ss, rfl, hb, hss, haa, ?_⟩
          by_contra hne
          have hheaders :=
            (h msgp ss ⟨c, answer, uuid, rfl, hgate, by rw [hty]; rfl, hss, hne⟩).type
          rw [hty] at hheaders
          cases hheaders
        · refine Or.inr ?_
          cases e with
          | received c' m answer uuid =>
            obtain ⟨-, hte⟩ := transferEvent_received.mp hte
            unfold streamEvent at hte
            split at hte <;> cases hte
          | adaptorCall aa' call' =>
            obtain ⟨rfl, rfl⟩ := Transfers.Event.adaptorCall.inj (Option.some.inj hte)
            rfl
          | _ => cases hte
      · cases hcall

/-- **Transfers are fed only by the peer they were requested from exactly as long as no other peer
    sends them anything**, over every schedule of the node. -/
theorem transfers_separate_iff (host : Host C) (es : List (Event C)) :
    Throughout host (fun _ n e => Separates host n e) es ↔
      Throughout host (fun _ n e => KeepsApart n e) es := by
  apply throughout_congr
  intro hist n e hr
  exact hr.separates_iff e

/-- A transfer is requested from alice, and bob sends data for it; he has been let in, and that is
    all that is asked of him. -/
def feeding : List (Event Nat) :=
  meeting ++ [.startReply ⟨0, 0, "s"⟩ (.playdar 0) "u2",
    .received 1 ⟨.siddata, "s", "bytes"⟩ .nothing "u3"]

/-- His bytes go to the adaptor of her transfer. -/
theorem bob_feeds_alices_transfer :
    ¬ Throughout sampleHost (fun _ n e => Separates sampleHost n e) feeding := by
  intro h
  have hsep := h (meeting ++ [.startReply ⟨0, 0, "s"⟩ (.playdar 0) "u2"]) _ [] _ _ rfl
    (Runs.run_trace (meeting ++ [.startReply ⟨0, 0, "s"⟩ (.playdar 0) "u2"]) rfl) rfl
  obtain ⟨n', out, hok, hun⟩ := hsep.unaffected ⟨.siddata, "s", "bytes"⟩ ⟨0, 0, "s"⟩
    ⟨1, .nothing, "u3", rfl, ⟨by decide, rfl⟩, rfl, rfl, by decide⟩
  have hcalled : Transfers.callsOn (.playdar 0) out = [.writeContent "bytes"] := by
    obtain ⟨-, rfl⟩ := Prod.mk.inj (Except.ok.inj hok)
    rfl
  rw [hun.calls (.playdar 0) rfl] at hcalled
  cases hcalled

end Node

end Greynet
