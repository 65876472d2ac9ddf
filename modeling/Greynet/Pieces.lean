/-
  The parts of a song, at one node.

  A song comes in as the payloads of SIDDATA messages, an empty one at its end, and is given to the
  adaptor of its transfer.  What one of the plugin's own adaptors is given goes out as the payloads
  of SIDDATA messages.  Neither end keeps a number for a part, or a length: that nothing is lost or
  comes twice can only follow from the order in which messages are sent and handled, and from there
  being one transfer and one adaptor for the song.

  1. `pieces`, `bytesIn` — the parts in messages, and in the calls on an adaptor.
  2. `Run.outgoing` — the sending end: what goes out on a connection is what the adaptor was given.
     The adaptor is the `Sole` one for that song there, as there is one for each SIDREQUEST.
  3. `Run.incoming` — the receiving end: an adaptor is given what comes in, up to some point, and
     nothing after the end.  It takes an adaptor that is `Dedicated` to the song, and a song that is
     asked for once and comes in on the connection that it was asked for on.
  4. `Run.adaptors_le` — how many adaptors there are for a song, by how often it was asked for.
-/
import Greynet.Carriage
import Mathlib.Data.List.NodupEquivFin

namespace Greynet

variable {C : Type} [LinearOrder C]

/-! ## Bytes in messages and in calls -/

/-- The payload of a message, if it is a part of the song; an empty one is the end, and is counted
    as a part. -/
def piece (sid : Sid) (m : Message) : Option String :=
  if m.type = .siddata ∧ m.guid = sid then some m.payload else none

/-- The parts of the song in some messages, in order. -/
def pieces (sid : Sid) (ms : List Message) : List String := ms.filterMap (piece sid)

/-- What a call gives to an adaptor of the song: a part, or the end, which is the empty part. -/
def AdaptorCall.bytes : AdaptorCall → Option String
  | .writeContent buffer => some buffer
  | .writeFinish => some ""
  | _ => none

/-- The parts that some calls give, in order. -/
def bytesIn (calls : List AdaptorCall) : List String := calls.filterMap AdaptorCall.bytes

/-- The parts in two batches of messages are those in the one and then those in the other. -/
theorem pieces_append (sid : Sid) (ms ms' : List Message) :
    pieces sid (ms ++ ms') = pieces sid ms ++ pieces sid ms' := List.filterMap_append

/-- A message that is no SIDDATA has no part in it. -/
theorem piece_of_type {sid : Sid} {m : Message} (h : m.type ≠ .siddata) : piece sid m = none :=
  if_neg fun hm => h hm.1

/-- The parts of the song that some actions send on a connection, in order. -/
def sentPieces (c : C) (sid : Sid) (out : List (Action C)) : List String :=
  out.filterMap fun
    | .asyncWrite d m => if d = c then piece sid m else none
    | _ => none

/-- They are the parts in the messages sent there. -/
theorem pieces_sentOn (c : C) (sid : Sid) (out : List (Action C)) :
    pieces sid (sentOn c out) = sentPieces c sid out := by
  rw [pieces, sentOn, List.filterMap_filterMap, sentPieces]
  refine List.filterMap_congr fun a _ => ?_
  cases a with
  | asyncWrite d m =>
    by_cases hd : d = c
    · simp [hd]
    · simp [hd]
  | _ => rfl

/-- Those of two batches of actions are those of the one and then those of the other. -/
theorem sentPieces_append (c : C) (sid : Sid) (out out' : List (Action C)) :
    sentPieces c sid (out ++ out') = sentPieces c sid out ++ sentPieces c sid out' :=
  List.filterMap_append

/-- One message written sends its part, if it is written there. -/
theorem sentPieces_write (c d : C) (sid : Sid) (m : Message) :
    sentPieces c sid [.asyncWrite d m] = if d = c then (piece sid m).toList else [] := by
  by_cases hd : d = c
  · simp only [sentPieces, List.filterMap_cons, if_pos hd, List.filterMap_nil]
    cases piece sid m <;> rfl
  · simp only [sentPieces, List.filterMap_cons, if_neg hd, List.filterMap_nil]

/-- Where no part of a song is sent, no bytes are, whatever else goes out. -/
theorem sentPieces_eq_nil {c : C} {sid : Sid} {out : List (Action C)}
    (h : ∀ m, .asyncWrite c m ∈ out → piece sid m = none) : sentPieces c sid out = [] := by
  rw [sentPieces, List.filterMap_eq_nil_iff]
  intro a hin
  cases a with
  | asyncWrite d m =>
    by_cases hd : d = c
    · subst hd
      exact (if_pos rfl).trans (h m hin)
    · exact if_neg hd
  | _ => rfl

/-- Calls that give nothing give nothing together. -/
theorem bytesIn_eq_nil {calls : List AdaptorCall} (h : ∀ call ∈ calls, call.bytes = none) :
    bytesIn calls = [] := List.filterMap_eq_nil_iff.mpr h

/-- One call gives its part, if it has one. -/
theorem bytesIn_singleton (call : AdaptorCall) : bytesIn [call] = call.bytes.toList := by
  rw [bytesIn, List.filterMap_cons, List.filterMap_nil]
  cases call.bytes <;> rfl

/-- The transfer of a song passes on what it is given, the empty part as `write_finish`. -/
theorem bytes_dataCall (payload : String) : (Transfers.dataCall payload).bytes = some payload := by
  unfold Transfers.dataCall
  split
  · rename_i hz
    rw [String.length_eq_zero_iff.mp hz]
    rfl
  · rfl

/-- The header loop gives no part of a song: it calls setters, and perhaps `write_cancel`. -/
theorem bytes_headerCalls (lines : List String) :
    ∀ call ∈ Transfers.headerCalls lines, call.bytes = none := by
  obtain ⟨init, hinit, hcalls⟩ := Transfers.headerCalls_eq lines
  intro call hin
  rw [hcalls] at hin
  rcases List.mem_append.mp hin with hin | hin
  · obtain ⟨line, -, hline⟩ := hinit call hin
    obtain ⟨key, val, -, ⟨-, rfl⟩ | ⟨-, rfl⟩ | ⟨-, rfl⟩⟩ := Transfers.lineCall_cases hline <;> rfl
  · split at hin
    · rw [List.mem_singleton.mp hin]
      rfl
    · cases hin

/-! ## The sending end -/

namespace Transfers

/-- **What an adaptor is given comes from a SIDDATA for its transfer**, or from the strategy that
    drives it. -/
theorem script_bytes {t : Transfers C} {e : Event C} {aa : AdaptorId} {call : AdaptorCall}
    (h : (aa, call) ∈ t.script e) (hb : call.bytes ≠ none) :
    (∃ conn msgp ss, e = .siddata conn msgp ∧ t.reg.sid2ss msgp.guid = some ss ∧
      (t.ss ss).aa = some aa) ∨ e = .adaptorCall aa call := by
  -- most events make no other call than `write_cancel`, which carries no bytes
  have hcancel : call ≠ .writeCancel := by
    rintro rfl
    exact hb rfl
  cases e with
  | startReply ss aa' ready uuid =>
    rw [script] at h
    split at h
    · cases h
    · exact absurd (Prod.mk.inj (List.mem_singleton.mp h)).2 hcancel
  | siddata conn msgp =>
    obtain ⟨ss, hss, haa, -⟩ := mem_told h
    exact Or.inl ⟨conn, msgp, ss, rfl, hss, haa⟩
  | sidheaders conn msgp =>
    obtain ⟨ss, -, -, hin⟩ := mem_told h
    exact absurd (bytes_headerCalls _ call hin) hb
  | sidfail conn msgp =>
    obtain ⟨ss, -, -, hin⟩ := mem_told h
    exact absurd (List.mem_singleton.mp hin) hcancel
  | timeoutCb ss =>
    rw [script] at h
    split at h
    · cases h
    · obtain ⟨ss, -, -, hin⟩ := mem_told h
      exact absurd (List.mem_singleton.mp hin) hcancel
  | connectionTerminated conn =>
    rw [script, cancelCalls] at h
    obtain ⟨s, -, hs⟩ := List.mem_filterMap.mp h
    obtain ⟨ss, -, hss⟩ := Option.bind_eq_some_iff.mp hs
    obtain ⟨aa', -, he⟩ := Option.map_eq_some_iff.mp hss
    exact absurd (Prod.mk.inj he).2.symm hcancel
  | adaptorCall aa' call' =>
    obtain ⟨rfl, rfl⟩ := Prod.mk.inj (List.mem_singleton.mp h)
    exact Or.inr rfl
  | timerExpires ss => cases h
  | newAdaptor conn sid => cases h

/-- An adaptor sends what it is given, on its connection and under its sid; its headers are no
    part. -/
theorem sentPieces_receive (a : GreynetAsyncadaptor C) (call : AdaptorCall) :
    sentPieces a.conn a.sid (a.receive call).2 = bytesIn [call] := by
  have hdata : ∀ buffer, sentPieces a.conn a.sid (a.writeContent buffer).2 = [buffer] := by
    intro buffer
    have hfirst : sentPieces a.conn a.sid (if a.sentfirst then [] else a.sendHeaders) = [] := by
      refine sentPieces_eq_nil fun m hin => piece_of_type ?_
      split at hin
      · cases hin
      · obtain ⟨-, rfl⟩ := Action.asyncWrite.inj (List.mem_singleton.mp hin)
        exact fun h => by cases h
    have hlast : piece a.sid (generalMessage .siddata buffer a.sid) = some buffer :=
      if_pos ⟨rfl, rfl⟩
    rw [GreynetAsyncadaptor.writeContent, sentPieces_append, hfirst, List.nil_append,
      sentPieces_write, if_pos rfl, hlast, Option.toList_some]
  cases call with
  | writeContent buffer => exact hdata buffer
  | writeFinish => exact hdata ""
  | writeCancel =>
    rw [GreynetAsyncadaptor.receive, GreynetAsyncadaptor.writeCancel, sentPieces_write, if_pos rfl,
      piece_of_type fun h => by cases h]
    rfl
  | setContentLength | setMimeType | setStatusCode => rfl

/-- The adaptor `k` is the one for this song on this connection; the list has what each adaptor was
    made with, which no call changes. -/
structure Sole (l : List (C × Sid)) (c : C) (sid : Sid) (k : Nat) : Prop where
  here : l[k]? = some (c, sid)
  only : ∀ i, l[i]? = some (c, sid) → i = k

/-- A call on an adaptor, and what the sole adaptor of a song has sent then: what it was given if
    the call is on it, and nothing else. -/
theorem sentPieces_speak {l : List (C × Sid)} {c : C} {sid : Sid} {k : Nat} (hk : Sole l c sid k)
    (as : List (GreynetAsyncadaptor C)) (has : fixed as = l) (x : AdaptorId × AdaptorCall) :
    sentPieces c sid (speak as x).2 = if x.1 = .greynet k then bytesIn [x.2] else [] := by
  have hfixed : ∀ i : Nat,
      l[i]? = (as[i]?).map fun a : GreynetAsyncadaptor C => (a.conn, a.sid) := by
    intro i
    rw [← has, fixed, List.getElem?_map]
  obtain ⟨i | i, call⟩ := x
  · simp only [speak]
    rcases ha : as[i]? with _ | a
    · have hne : AdaptorId.greynet i ≠ .greynet k := by
        intro he
        obtain rfl := AdaptorId.greynet.inj he
        have hhere := hk.here
        rw [hfixed, ha] at hhere
        cases hhere
      rw [if_neg hne]
      rfl
    · have hi : l[i]? = some (a.conn, a.sid) := by rw [hfixed, ha]; rfl
      by_cases he : i = k
      · subst he
        obtain ⟨rfl, rfl⟩ := Prod.mk.inj (Option.some.inj (hi.symm.trans hk.here))
        rw [if_pos rfl]
        exact sentPieces_receive a call
      · rw [if_neg fun h => he (AdaptorId.greynet.inj h)]
        -- the messages of the others go elsewhere, or are of another song
        refine sentPieces_eq_nil fun m hin => ?_
        rcases List.mem_cons.mp hin with hin | hin
        · cases hin
        · obtain ⟨msg, hmsg, hguid, -⟩ := receive_writes a call _ hin
          obtain ⟨rfl, rfl⟩ := Action.asyncWrite.inj hmsg
          refine if_neg fun h => he (hk.only i ?_)
          rw [hi, ← hguid, h.2]
  · rw [if_neg fun h => by cases h]
    rfl

omit [LinearOrder C] in
/-- The parts in an adaptor's lines of a script, call by call. -/
theorem bytesIn_linesFor (aa : AdaptorId) (calls : List (AdaptorId × AdaptorCall)) :
    bytesIn (linesFor aa calls) =
      calls.flatMap fun x => if x.1 = aa then bytesIn [x.2] else [] := by
  rw [linesFor, bytesIn, List.filterMap_flatMap]
  refine List.flatMap_congr fun x _ => ?_
  split <;> rfl

/-- The marks of `cancel_handler` send nothing. -/
theorem sentPieces_heard (c : C) (sid : Sid) (out : List (Action C)) :
    sentPieces c sid (heard out) = sentPieces c sid out := by
  rw [sentPieces, heard, List.filterMap_filter]
  refine List.filterMap_congr fun a _ => ?_
  cases a <;> rfl

/-- **What the calls of a script give to the sole adaptor of a song is sent**, and nothing else of
    it. -/
theorem Plays.sent {t t' : Transfers C} {calls : List (AdaptorId × AdaptorCall)}
    {out : List (Action C)} (h : Plays t calls t' out) {c : C} {sid : Sid} {k : Nat}
    (hk : Sole (fixed t.adaptors) c sid k) :
    sentPieces c sid out = bytesIn (Transfers.callsOn (.greynet k) out) := by
  have hread := Transducers.feed_reads_of (f := speak (C := C))
    (J := fun as => fixed as = fixed t.adaptors)
    (fun as x has => (fixed_speak as x).trans has)
    (fun as x has => sentPieces_speak hk as has x) calls t.adaptors rfl
  rw [h.callsOn, bytesIn_linesFor, ← hread, ← sentPieces_heard]
  rw [Plays] at h
  rw [h]
  rfl

/-- A `write_cancel` sends no part of a song, but a SIDFAIL. -/
theorem sentPieces_cancel (c : C) (sid : Sid) (as : List (GreynetAsyncadaptor C))
    (aa : AdaptorId) : sentPieces c sid (speak as (aa, .writeCancel)).2 = [] := by
  refine sentPieces_eq_nil fun m hin => piece_of_type ?_
  cases aa with
  | playdar k => cases List.mem_singleton.mp hin
  | greynet i =>
    simp only [speak] at hin
    split at hin
    · cases List.mem_singleton.mp hin
    · rcases List.mem_cons.mp hin with hin | hin
      · cases hin
      · obtain ⟨-, rfl⟩ := Action.asyncWrite.inj (List.mem_singleton.mp hin)
        exact fun h => by cases h

/-- `start_reply` makes no adaptor, gives none anything and sends no part of a song; it sends a
    SIDREQUEST, or cancels. -/
theorem startReply_silent {t t' : Transfers C} {ss : SsGreynet C} {aa : AdaptorId} {ready : Bool}
    {uuid : String} {out : List (Action C)} (hs : t.Sound)
    (hok : t.step (.startReply ss aa ready uuid) = .ok (t', out)) :
    fixed t'.adaptors = fixed t.adaptors ∧ (∀ c sid, sentPieces c sid out = []) ∧
      ∀ aa, bytesIn (callsOn aa out) = [] := by
  -- a script that gives bytes is a SIDDATA's or an adaptor call's, and this is neither
  have hbytes : ∀ aa, bytesIn (callsOn aa out) = [] := by
    intro aa'
    refine bytesIn_eq_nil fun call hin => ?_
    rw [step_callsOn hs hok, mem_linesFor] at hin
    by_contra hb
    rcases script_bytes hin hb with ⟨_, _, _, he, -⟩ | he <;> cases he
  rcases step_plays hs hok with h | ⟨ss', aa', uuid', -, hsame, rfl⟩ | ⟨conn, sid, he, -⟩
  · refine ⟨h.writes.1, fun c sid => ?_, hbytes⟩
    rw [Plays, script] at h
    rw [← sentPieces_heard]
    split at h
    · rw [Transducers.feed_nil] at h
      rw [← (Prod.mk.inj h).2]
      rfl
    · rw [Transducers.feed_singleton] at h
      rw [← (Prod.mk.inj h).2]
      exact sentPieces_cancel c sid t.adaptors aa
  · refine ⟨by rw [hsame], fun c sid => ?_, hbytes⟩
    rw [sentPieces_write, piece_of_type fun h => by cases h]
    exact ite_self _
  · cases he

/-- The calls of a script give nothing to an adaptor that is not there, so nothing of its song is
    sent. -/
theorem Plays.unsent {t t' : Transfers C} {calls : List (AdaptorId × AdaptorCall)}
    {out : List (Action C)} (h : Plays t calls t' out) {c : C} {sid : Sid}
    (hno : (c, sid) ∉ fixed t.adaptors) : sentPieces c sid out = [] := by
  refine sentPieces_eq_nil fun m hin => if_neg fun hm => hno ?_
  rw [← hm.2]
  exact (h.writes.2 c m hin).2

end Transfers

namespace Node

/-! ## What goes out over a run -/

omit [LinearOrder C] in
/-- Actions that are aloof give nothing to any adaptor ... -/
theorem bytesIn_callsOn_aloof {out : List (Action C)} (hout : ∀ a ∈ out, Aloof a)
    (aa : AdaptorId) : bytesIn (Transfers.callsOn aa out) = [] :=
  bytesIn_eq_nil fun _ hin => absurd (Transfers.callsOn_mem.mp hin) (hout _)

/-- ... and send nothing of any song. -/
theorem sentPieces_aloof {out : List (Action C)} (hout : ∀ a ∈ out, Aloof a) (c : C) (sid : Sid) :
    sentPieces c sid out = [] := sentPieces_eq_nil fun _ hin => piece_of_type (hout _ hin)

/-- What an event does to the plugin's own adaptors, and what they send: those that are there send
    what they are given, or there is a new one and nothing is sent. -/
inductive Sends (n : Node C) (e : Event C) (n' : Node C) (out : List (Action C)) : Prop
  /-- the ones there are send what they are given -/
  | same (hfixed : Transfers.fixed n'.transfers.adaptors = Transfers.fixed n.transfers.adaptors)
      (hnone : ∀ c sid, (c, sid) ∉ Transfers.fixed n.transfers.adaptors →
        sentPieces c sid out = [])
      (hsole : ∀ c sid k, Transfers.Sole (Transfers.fixed n.transfers.adaptors) c sid k →
        sentPieces c sid out = bytesIn (Transfers.callsOn (.greynet k) out))
  /-- a new one has been asked for, and nobody sends anything -/
  | adapts (conn : C) (msgp : Message) (answer : SsAnswer) (uuid : String)
      (he : e = .received conn msgp answer uuid) (hgate : n.PastGate conn)
      (hty : msgp.type = .sidrequest)
      (hfixed : Transfers.fixed n'.transfers.adaptors =
        Transfers.fixed n.transfers.adaptors ++ [(conn, msgp.payload)])
      (hsent : ∀ c sid, sentPieces c sid out = [])
      (hbytes : ∀ aa, bytesIn (Transfers.callsOn aa out) = [])

/-- A new adaptor comes at the end of the list, so the places of the others do not change. -/
theorem fixed_adapted (t : Transfers C) (conn : C) (sid : Sid) :
    Transfers.fixed (t.adapted conn sid).adaptors = Transfers.fixed t.adaptors ++ [(conn, sid)] :=
  List.map_append

/-- Every event does one of the two; by the ways in which an event can reach the transfers
    (`Carries`). -/
theorem Run.sends {host : Host C} {hist : History C} {n n' : Node C} {e : Event C}
    {out : List (Action C)} (hr : Run host hist n) (hok : step host n e = .ok (n', out)) :
    Sends n e n' out := by
  have hs := hr.transfers.sound
  cases hr.carries hok with
  | apart ht hout =>
    refine .same (by rw [ht]) (fun c sid _ => sentPieces_aloof hout c sid) fun c sid k _ => ?_
    rw [sentPieces_aloof hout, bytesIn_callsOn_aloof hout]
  | steps te hte hstep =>
    rcases Transfers.step_plays hs hstep with h | ⟨ss, aa, uuid, rfl, -⟩ | ⟨conn, sid, rfl, -⟩
    · exact .same h.writes.1 (fun c sid hno => h.unsent hno) fun c sid k hk => h.sent hk
    · obtain ⟨hfixed, hsent, hbytes⟩ := Transfers.startReply_silent hs hstep
      exact .same hfixed (fun c sid _ => hsent c sid) fun c sid k _ => by rw [hsent, hbytes]
    · exact absurd hte transferEvent_ne_newAdaptor
  | adapts conn msgp answer uuid he hgate hty hn hout =>
    refine .adapts conn msgp answer uuid he hgate hty ?_ (fun c sid => ?_) fun aa => ?_
    · rw [hn, fixed_adapted]
    · rw [hout]
      rfl
    · rw [hout]
      rfl
  | passes conn msgp url oid uuid he hgate hty ss hss hstep =>
    obtain ⟨hfixed, hsent, hbytes⟩ := Transfers.startReply_silent (hs.adapted conn _) hstep
    exact .adapts conn msgp _ uuid he hgate hty (hfixed.trans (fixed_adapted ..)) hsent hbytes

/-- What the plugin's adaptor `k` has been given, from when it was made; before that the place `k`
    is nobody's, though playdar's own wiring might already name it. -/
def given (k : Nat) (hist : History C) : List String :=
  hist.flatMap fun st =>
    if k < st.pre.transfers.adaptors.length then
      bytesIn (Transfers.callsOn (.greynet k) st.out)
    else []

/-- One more step adds what it gives to the adaptor, if the adaptor is there. -/
theorem given_snoc (k : Nat) (hist : History C)
    (st : Runs.Step (Node C) (Event C) (Action C)) : given k (hist ++ [st]) = given k hist ++
      if k < st.pre.transfers.adaptors.length then
        bytesIn (Transfers.callsOn (.greynet k) st.out)
      else [] := by
  rw [given, List.flatMap_append, List.flatMap_singleton]
  rfl

/-- And one more step adds, to the parts written on a connection, those it sends there. -/
theorem pieces_written_snoc (c : C) (sid : Sid) (hist : History C)
    (st : Runs.Step (Node C) (Event C) (Action C)) :
    pieces sid (written (hist ++ [st]) c) =
      pieces sid (written hist c) ++ sentPieces c sid st.out := by
  rw [written_snoc, pieces_append, pieces_sentOn]

/-- What has gone out of a song, by the adaptors there are: nothing without one, and with a sole one
    what that has been given. -/
structure Outgoing (c : C) (sid : Sid) (hist : History C) (n : Node C) : Prop where
  none : (c, sid) ∉ Transfers.fixed n.transfers.adaptors → pieces sid (written hist c) = []
  sole : ∀ k, Transfers.Sole (Transfers.fixed n.transfers.adaptors) c sid k →
    pieces sid (written hist c) = given k hist
  unmade : ∀ k, n.transfers.adaptors.length ≤ k → given k hist = []

/-- One step keeps it so.  A new adaptor has been given nothing yet, and where it is the sole one
    for its song nothing has gone out of it before. -/
theorem outgoing_step {host : Host C} {hist : History C} {n n' : Node C} {e : Event C}
    {out : List (Action C)} {c : C} {sid : Sid} (hr : Run host hist n)
    (ho : Outgoing c sid hist n) (hok : step host n e = .ok (n', out)) :
    Outgoing c sid (hist ++ [⟨n, e, n', out⟩]) n' := by
  have hlen : ∀ {m : Node C}, (Transfers.fixed m.transfers.adaptors).length =
      m.transfers.adaptors.length := fun {m} => List.length_map ..
  cases hr.sends hok with
  | same hfixed hnone hsole =>
    have hsame : n'.transfers.adaptors.length = n.transfers.adaptors.length := by
      rw [← hlen, hfixed, hlen]
    refine ⟨fun hno => ?_, fun k hk => ?_, fun k hle => ?_⟩
    · rw [hfixed] at hno
      rw [pieces_written_snoc, ho.none hno, hnone c sid hno]
      rfl
    · rw [hfixed] at hk
      have hlt : k < n.transfers.adaptors.length := by
        rw [← hlen]
        exact (List.getElem?_eq_some_iff.mp hk.here).1
      rw [pieces_written_snoc, given_snoc, ho.sole k hk, hsole c sid k hk, if_pos hlt]
    · rw [hsame] at hle
      rw [given_snoc, ho.unmade k hle, if_neg (Nat.not_lt.mpr hle)]
      rfl
  | adapts conn msgp answer uuid he hgate hty hfixed hsent hbytes =>
    have hmore : n'.transfers.adaptors.length = n.transfers.adaptors.length + 1 := by
      rw [← hlen, hfixed, List.length_append, hlen]
      rfl
    have hquiet : ∀ k, given k (hist ++ [⟨n, e, n', out⟩]) = given k hist := by
      intro k
      rw [given_snoc, hbytes, ite_self, List.append_nil]
    have hpieces : pieces sid (written (hist ++ [⟨n, e, n', out⟩]) c) =
        pieces sid (written hist c) := by
      rw [pieces_written_snoc, hsent, List.append_nil]
    refine ⟨fun hno => ?_, fun k hk => ?_, fun k hle => ?_⟩
    · rw [hfixed, List.mem_append, not_or] at hno
      rw [hpieces, ho.none hno.1]
    · rw [hpieces, hquiet]
      rw [hfixed] at hk
      by_cases hold : (c, sid) ∈ Transfers.fixed n.transfers.adaptors
      · -- the sole one was there already
        obtain ⟨i, hi⟩ := List.getElem?_of_mem hold
        have hlt := (List.getElem?_eq_some_iff.mp hi).1
        have hik := hk.only i ((List.getElem?_append_left hlt).trans hi)
        subst hik
        refine ho.sole i ⟨hi, fun j hj => hk.only j ?_⟩
        exact (List.getElem?_append_left (List.getElem?_eq_some_iff.mp hj).1).trans hj
      · -- it is the new one
        rw [ho.none hold, ho.unmade k]
        rw [← hlen]
        refine Nat.le_of_not_lt fun hlt => hold ?_
        have hhere := hk.here
        rw [List.getElem?_append_left hlt] at hhere
        exact List.mem_of_getElem? hhere
    · rw [hquiet]
      exact ho.unmade k (by omega)

/-- **What goes out of a song on a connection is what its sole adaptor there has been given.**  By
    induction on the run. -/
theorem Run.outgoing {host : Host C} {hist : History C} {n : Node C} (hr : Run host hist n) (c : C)
    (sid : Sid) : Outgoing c sid hist n := by
  refine Runs.Run.invariant (I := Outgoing c sid) ?_ ?_ hr
  · rintro n rfl
    exact ⟨fun _ => rfl, fun k hk => (by cases hk.here), fun k _ => rfl⟩
  · intro hist n e n' out hr ho hok
    exact outgoing_step hr ho hok

/-! ## What comes in over a run -/

/-- The message that comes in on the connection, if one gets past the gate at this step. -/
def takenIn (c : C) (st : Runs.Step (Node C) (Event C) (Action C)) : Option Message :=
  match st.pre.queryEvent st.event with
  | some (.received _ conn msgp) => if conn = c then some msgp else none
  | _ => none

/-- It is the message of a `received` event on a connection that is open and past the gate. -/
theorem takenIn_eq_some {c : C} {st : Runs.Step (Node C) (Event C) (Action C)} {m : Message} :
    takenIn c st = some m ↔
      ∃ answer uuid, st.event = .received c m answer uuid ∧ st.pre.PastGate c := by
  unfold takenIn
  constructor
  · intro h
    split at h
    · rename_i r conn msgp hqe
      split at h
      · rename_i hc
        obtain rfl := Option.some.inj h
        subst hc
        obtain ⟨-, -, answer, uuid, he⟩ := seenAs_of_queryEvent hqe
        refine ⟨answer, uuid, he, ?_⟩
        rw [he, queryEvent] at hqe
        split at hqe
        · rename_i hgate
          exact ⟨hgate.1, hgate.2⟩
        · cases hqe
      · cases h
    · cases h
  · rintro ⟨answer, uuid, he, hgate⟩
    rw [he, queryEvent, if_pos ⟨hgate.isOpen, hgate.callback⟩]
    exact if_pos rfl

/-- All that has come in on the connection past the gate, in order; `Heard` forgets the order. -/
def heardOn (c : C) (hist : History C) : List Message := hist.filterMap (takenIn c)

/-- It is among these if and only if it has been heard there. -/
theorem mem_heardOn {c : C} {hist : History C} {m : Message} :
    m ∈ heardOn c hist ↔ Heard hist c m := by
  rw [heardOn, List.mem_filterMap]
  exact exists_congr fun st => and_congr_right fun _ => takenIn_eq_some

/-- One more step adds the message that comes in at it, if one does. -/
theorem heardOn_snoc (c : C) (hist : History C)
    (st : Runs.Step (Node C) (Event C) (Action C)) :
    heardOn c (hist ++ [st]) = heardOn c hist ++ (takenIn c st).toList := by
  rw [heardOn, List.filterMap_append, List.filterMap_cons, List.filterMap_nil]
  cases takenIn c st <;> rfl

/-- The connections on which some actions ask for the song, once for each time they do. -/
def requestsIn (sid : Sid) (out : List (Action C)) : List C :=
  out.filterMap fun
    | .asyncWrite c m => if m.type = .sidrequest ∧ m.payload = sid then some c else none
    | _ => none

/-- The connections on which the node has asked for the song, in order, and as often as it has. -/
def requests (sid : Sid) (hist : History C) : List C := hist.flatMap fun st => requestsIn sid st.out

omit [LinearOrder C] in
/-- A connection is among them if and only if a SIDREQUEST for the song is written there. -/
theorem mem_requestsIn {sid : Sid} {out : List (Action C)} {c : C} :
    c ∈ requestsIn sid out ↔
      ∃ m, .asyncWrite c m ∈ out ∧ m.type = .sidrequest ∧ m.payload = sid := by
  rw [requestsIn, List.mem_filterMap]
  constructor
  · rintro ⟨a, hin, ha⟩
    split at ha
    · rename_i d m
      split at ha
      · rename_i hm
        obtain rfl := Option.some.inj ha
        exact ⟨m, hin, hm⟩
      · cases ha
    · cases ha
  · rintro ⟨m, hin, hm⟩
    exact ⟨_, hin, if_pos hm⟩

/-- One more step adds those on which it asks. -/
theorem requests_snoc (sid : Sid) (hist : History C)
    (st : Runs.Step (Node C) (Event C) (Action C)) :
    requests sid (hist ++ [st]) = requests sid hist ++ requestsIn sid st.out := by
  rw [requests, List.flatMap_append, List.flatMap_singleton]
  rfl

/-- What an adaptor has been given of a song, and of any other, over the history. -/
def fed (aa : AdaptorId) (hist : History C) : List String :=
  hist.flatMap fun st => bytesIn (Transfers.callsOn aa st.out)

/-- One more step adds what it gives. -/
theorem fed_snoc (aa : AdaptorId) (hist : History C)
    (st : Runs.Step (Node C) (Event C) (Action C)) :
    fed aa (hist ++ [st]) = fed aa hist ++ bytesIn (Transfers.callsOn aa st.out) := by
  rw [fed, List.flatMap_append, List.flatMap_singleton]
  rfl

/-- The adaptor is for this song: no strategy of playdar's drives it, and no transfer of another
    song has it. -/
structure Dedicated (aa : AdaptorId) (sid : Sid) (hist : History C) : Prop where
  calls : ∀ st ∈ hist, ∀ call, st.event ≠ .adaptorCall aa call
  songs : ∀ st ∈ hist, ∀ ss, (st.pre.transfers.ss ss).aa = some aa → ss.sid = sid

/-- What starts a transfer, as far as the transfers see it, is `start_reply` of playdar's. -/
theorem startReply_of_transferEvent {host : Host C} {n : Node C} {e : Event C} {ss : SsGreynet C}
    {aa : AdaptorId} {ready : Bool} {uuid : String}
    (hte : n.transferEvent host e = some (.startReply ss aa ready uuid)) :
    e = .startReply ss aa uuid := by
  cases e with
  | startReply ss' aa' uuid' =>
    obtain ⟨rfl, rfl, -, rfl⟩ := Transfers.Event.startReply.inj (Option.some.inj hte)
    rfl
  | received c m answer uuid' =>
    obtain ⟨-, hstream⟩ := transferEvent_received.mp hte
    unfold streamEvent at hstream
    split at hstream <;> cases hstream
  | _ => cases hte

/-- An adaptor stays: the list of them only grows. -/
theorem Run.adaptors_mono {host : Host C} {hist : History C} {n n' : Node C} {e : Event C}
    {out : List (Action C)} (hr : Run host hist n) (hok : step host n e = .ok (n', out)) :
    n.transfers.adaptors.length ≤ n'.transfers.adaptors.length := by
  have hlen : ∀ m : Node C, (Transfers.fixed m.transfers.adaptors).length =
      m.transfers.adaptors.length := fun m => List.length_map ..
  rw [← hlen, ← hlen]
  cases hr.sends hok with
  | same hfixed => rw [hfixed]
  | adapts conn msgp answer uuid he hgate hty hfixed =>
    rw [hfixed, List.length_append]
    exact Nat.le_add_right ..

/-- At the step a request is passed on, by a transfer to the adaptor that is made for it, which
    takes the next free place. -/
def PassedOn (host : Host C) (st : Runs.Step (Node C) (Event C) (Action C)) (ss : SsGreynet C)
    (aa : AdaptorId) : Prop :=
  aa = .greynet st.pre.transfers.adaptors.length ∧ ∃ c m url oid uuid,
    st.event = .received c m (.greynet url oid) uuid ∧
    ssFactory host st.pre.mesh.router url oid = some ss

/-- **A transfer has the adaptor it was started with**, or one this plugin has made for it when a
    request was passed on.  By induction on the run; nothing else gives a transfer an adaptor. -/
theorem Run.started {host : Host C} {hist : History C} {n : Node C} (hr : Run host hist n)
    {ss : SsGreynet C} {aa : AdaptorId} (haa : (n.transfers.ss ss).aa = some aa) :
    (∃ st ∈ hist, ∃ uuid, st.event = .startReply ss aa uuid) ∨
      ∃ st ∈ hist, PassedOn host st ss aa ∧
        st.pre.transfers.adaptors.length < n.transfers.adaptors.length := by
  refine Runs.Run.invariant (I := fun hist n => (n.transfers.ss ss).aa = some aa →
    (∃ st ∈ hist, ∃ uuid, st.event = .startReply ss aa uuid) ∨
      ∃ st ∈ hist, PassedOn host st ss aa ∧
        st.pre.transfers.adaptors.length < n.transfers.adaptors.length) ?_ ?_ hr haa
  · rintro n rfl haa
    cases haa
  · intro hist n e n' out hr ih hok haa
    have hr : Run host hist n := hr
    have hold : (n.transfers.ss ss).aa = some aa →
        (∃ st ∈ hist ++ [⟨n, e, n', out⟩], ∃ uuid, st.event = .startReply ss aa uuid) ∨
          ∃ st ∈ hist ++ [⟨n, e, n', out⟩], PassedOn host st ss aa ∧
            st.pre.transfers.adaptors.length < n'.transfers.adaptors.length := by
      intro h
      rcases ih h with ⟨st, hst, he⟩ | ⟨st, hst, hpass, hlt⟩
      · exact Or.inl ⟨st, List.mem_append_left _ hst, he⟩
      · exact Or.inr ⟨st, List.mem_append_left _ hst, hpass,
          Nat.lt_of_lt_of_le hlt (hr.adaptors_mono hok)⟩
    have hs := hr.transfers.sound
    cases hr.carries hok with
    | apart ht => exact hold (ht ▸ haa)
    | steps te hte hstep =>
      rcases Transfers.aa_step hs hstep ss with ⟨aa', ready, uuid, rfl, haa'⟩ | hsame
      · obtain rfl := Option.some.inj (haa'.symm.trans haa)
        exact Or.inl ⟨_, List.mem_concat_self, uuid, startReply_of_transferEvent hte⟩
      · exact hold (hsame ▸ haa)
    | adapts conn msgp answer uuid he hgate hty hn => exact hold (by rwa [hn] at haa)
    | passes conn msgp url oid uuid he hgate hty ss' hss' hstep =>
      rcases Transfers.aa_step (hs.adapted conn _) hstep ss with ⟨aa', ready, uuid', hte, haa'⟩ |
        hsame
      · -- a song that is passed on goes to the adaptor just made
        obtain ⟨rfl, rfl, -⟩ := Transfers.Event.startReply.inj hte
        obtain ⟨hfixed, -⟩ := Transfers.startReply_silent (hs.adapted conn _) hstep
        have hlen := congrArg List.length hfixed
        rw [fixed_adapted, List.length_append, Transfers.fixed, Transfers.fixed, List.length_map,
          List.length_map] at hlen
        refine Or.inr ⟨_, List.mem_concat_self, ⟨Option.some.inj (haa.symm.trans haa'), conn, msgp,
          url, oid, uuid, he, hss'⟩, ?_⟩
        rw [hlen]
        exact Nat.lt_succ_self _
      · exact hold (hsame ▸ haa)

/-- **An adaptor is for the song that the transfers it is given to are for**: if nobody else calls
    it, and no transfer of another song is started with it, whatever calls it is a transfer of the
    song. -/
theorem Run.dedicated {host : Host C} {hist : History C} {n : Node C} (hr : Run host hist n)
    {aa : AdaptorId} {sid : Sid} (hcalls : ∀ st ∈ hist, ∀ call, st.event ≠ .adaptorCall aa call)
    (hstarts : ∀ st ∈ hist, ∀ ss uuid, st.event = .startReply ss aa uuid → ss.sid = sid)
    (hpasses : ∀ st ∈ hist, ∀ ss, PassedOn host st ss aa → ss.sid = sid) :
    Dedicated aa sid hist := by
  refine ⟨hcalls, fun st hst ss haa => ?_⟩
  obtain ⟨h₁, h₂, rfl⟩ := List.append_of_mem hst
  obtain ⟨hr₁, -, -⟩ := hr.cut
  rcases Run.started hr₁ haa with ⟨st', hst', uuid, he⟩ | ⟨st', hst', hpass, -⟩
  · exact hstarts st' (List.mem_append_left _ hst') ss uuid he
  · exact hpasses st' (List.mem_append_left _ hst') ss hpass

/-- The step starts no transfer of another song with the adaptor, and is no call on it; a `Bool`, so
    that it can be evaluated along a run. -/
def serves (host : Host C) (aa : AdaptorId) (sid : Sid)
    (st : Runs.Step (Node C) (Event C) (Action C)) : Bool :=
  match st.event with
  | .adaptorCall aa' _ => aa' ≠ aa
  | .startReply ss aa' _ => aa' ≠ aa || ss.sid = sid
  | .received _ _ (.greynet url oid) _ =>
    (ssFactory host st.pre.mesh.router url oid).all fun ss => ss.sid = sid
  | _ => true

/-- If all steps are of that kind, the adaptor is dedicated to the song. -/
theorem Run.dedicated_of_serves {host : Host C} {hist : History C} {n : Node C}
    (hr : Run host hist n) {aa : AdaptorId} {sid : Sid}
    (h : hist.all (serves host aa sid) = true) : Dedicated aa sid hist := by
  have hthis := List.all_eq_true.mp h
  refine hr.dedicated (fun st hst call he => ?_) (fun st hst ss uuid he => ?_)
    fun st hst ss ⟨_, c, m, url, oid, uuid, he, hss⟩ => ?_
  · have hserves := hthis st hst
    simp [serves, he] at hserves
  · have hserves := hthis st hst
    simpa [serves, he] using hserves
  · have hserves := hthis st hst
    simpa [serves, he, hss] using hserves

/-- **What gives something to an adaptor**: a SIDDATA for its transfer that comes in past the gate,
    or playdar itself, when it drives the adaptor. -/
theorem Run.gives {host : Host C} {hist : History C} {n n' : Node C} {e : Event C}
    {out : List (Action C)} (hr : Run host hist n) (hok : step host n e = .ok (n', out))
    {aa : AdaptorId} {call : AdaptorCall} (hin : .adaptor aa call ∈ out) (hb : call.bytes ≠ none) :
    (∃ c m answer uuid ss, e = .received c m answer uuid ∧ n.PastGate c ∧ m.type = .siddata ∧
      n.transfers.reg.sid2ss m.guid = some ss ∧ (n.transfers.ss ss).aa = some aa) ∨
    e = .adaptorCall aa call := by
  rcases step_calls hr.transfers.sound hok hin with ⟨te, hte, hscript⟩ | rfl
  · rcases Transfers.script_bytes hscript hb with ⟨c, m, ss, rfl, hss, haa⟩ | rfl
    · obtain ⟨answer, uuid, rfl, hgate, hty⟩ := siddata_of_transferEvent hte
      exact Or.inl ⟨c, m, answer, uuid, ss, rfl, hgate, hty, hss, haa⟩
    · cases e with
      | received c m answer uuid =>
        obtain ⟨-, hstream⟩ := transferEvent_received.mp hte
        unfold streamEvent at hstream
        split at hstream <;> cases hstream
      | adaptorCall aa' call' =>
        obtain ⟨rfl, rfl⟩ := Transfers.Event.adaptorCall.inj (Option.some.inj hte)
        exact Or.inr rfl
      | _ => cases hte
  · exact absurd rfl hb

/-- An adaptor of the plugin's that playdar leaves alone is given nothing before it is made, so what
    it has been given is all that its place has been given. -/
theorem Run.given_eq {host : Host C} {hist : History C} {n : Node C} (hr : Run host hist n)
    {k : Nat} (hcalls : ∀ st ∈ hist, ∀ call, st.event ≠ .adaptorCall (.greynet k) call)
    (hstarts : ∀ st ∈ hist, ∀ ss uuid, st.event ≠ .startReply ss (.greynet k) uuid) :
    given k hist = fed (.greynet k) hist := by
  refine List.flatMap_congr fun st hst => ?_
  split
  · rfl
  · rename_i hlt
    obtain ⟨h₁, h₂, rfl⟩ := List.append_of_mem hst
    obtain ⟨hr₁, hok, -⟩ := hr.cut
    have hr₁ : Run host h₁ st.pre := hr₁
    refine (bytesIn_eq_nil fun call hin => ?_).symm
    by_contra hb
    rcases hr₁.gives hok (Transfers.callsOn_mem.mp hin) hb with ⟨c, m, answer, uuid, ss, -, -, -, -,
      haa⟩ | he
    · rcases hr₁.started haa with ⟨st', hst', uuid', he⟩ | ⟨st', -, hpass, hless⟩
      · exact hstarts st' (List.mem_append_left _ hst') ss uuid' he
      · obtain rfl := AdaptorId.greynet.inj hpass.1
        exact hlt hless
    · exact hcalls st hst call he

/-- The parts of the song come in on one connection, and after it was asked for; a condition on each
    step, given the history before it. -/
def Solicits (c : C) (sid : Sid) (before : History C)
    (st : Runs.Step (Node C) (Event C) (Action C)) : Prop :=
  ∀ c' m, takenIn c' st = some m → m.type = .siddata → m.guid = sid →
    c' = c ∧ requests sid before ≠ []

/-- A song that has come to its end: its last part is empty, and no other one is. -/
def Ended (song : List String) : Prop := ∃ parts, "" ∉ parts ∧ song = parts ++ [""]

/-- What has been given to the adaptor is the beginning of what has come in, and ends with the end
    of the song; it is all of it, and has not come to the end, while the adaptor's transfer is
    registered. -/
structure Incoming (aa : AdaptorId) (c : C) (sid : Sid) (hist : History C) (n : Node C) : Prop where
  begins : fed aa hist <+: pieces sid (heardOn c hist)
  ended : "" ∈ fed aa hist → Ended (fed aa hist)
  all : ∀ ss, n.transfers.reg.sid2ss sid = some ss → (n.transfers.ss ss).aa = some aa →
    fed aa hist = pieces sid (heardOn c hist) ∧ "" ∉ fed aa hist

/-- Nothing is given where no part of the song comes in, if the adaptor is dedicated to it. -/
theorem Run.not_fed {host : Host C} {hist : History C} {n n' : Node C} {e : Event C}
    {out : List (Action C)} (hr : Run host hist n) (hok : step host n e = .ok (n', out))
    {aa : AdaptorId} {sid : Sid} (hded : Dedicated aa sid (hist ++ [⟨n, e, n', out⟩]))
    (hno : ∀ c m, takenIn c ⟨n, e, n', out⟩ = some m → m.type = .siddata → m.guid ≠ sid) :
    bytesIn (Transfers.callsOn aa out) = [] := by
  refine bytesIn_eq_nil fun call hin => ?_
  by_contra hb
  rcases hr.gives hok (Transfers.callsOn_mem.mp hin) hb with
    ⟨c, m, answer, uuid, ss, rfl, hgate, hty, hss, haa⟩ | rfl
  · have hsid := hded.songs _ List.mem_concat_self ss haa
    obtain ⟨hguid, -⟩ := hr.transfers.sound.reg _ ss hss
    exact hno c m (takenIn_eq_some.mpr ⟨answer, uuid, rfl, hgate⟩) hty (hguid.symm.trans hsid)
  · exact hded.calls _ List.mem_concat_self _ rfl

/-- What comes in of a song is none before the song is asked for. -/
theorem pieces_unasked {c : C} {sid : Sid} {hist : History C}
    (hasked : Runs.Each (Solicits c sid) hist) (hno : requests sid hist = []) :
    pieces sid (heardOn c hist) = [] := by
  rw [pieces, List.filterMap_eq_nil_iff]
  intro m hm
  obtain ⟨st, hst, htaken⟩ := List.mem_filterMap.mp hm
  obtain ⟨h₁, h₂, rfl⟩ := List.append_of_mem hst
  refine if_neg fun ⟨hty, hguid⟩ => ?_
  refine (hasked h₁ st h₂ rfl c m htaken hty hguid).2 ?_
  rw [requests, List.flatMap_append, List.append_eq_nil_iff] at hno
  exact hno.1

/-- The end of a song unregisters its transfer, so that what comes later of the song is
    discarded. -/
theorem unregistered_of_end {t t' : Transfers C} {c : C} {m : Message} {out : List (Action C)}
    (hs : t.Sound) (hok : t.step (.siddata c m) = .ok (t', out)) (hend : m.payload = "") :
    t'.reg.sid2ss m.guid = none := by
  have hkept := Transfers.sid2ss_step hs hok (s := m.guid) fun _ _ _ he => by cases he
  rw [hkept]
  split
  · rfl
  · rename_i hno
    -- there was none, or it has been ended
    rw [Option.eq_none_iff_forall_ne_some]
    intro ss hss
    obtain ⟨hguid, -⟩ := hs.reg _ ss hss
    refine hno ?_
    show m.guid ∈ (t.target (.siddata c m)).toList.map SsGreynet.sid
    rw [Transfers.target, if_pos (by rw [hend]; rfl), hss, Option.toList_some, List.map_singleton,
      hguid]
    exact List.mem_singleton.mpr rfl

/-- A SIDDATA for the song comes in.  If the transfer is there it is passed on, and an empty one
    ends it; if the transfer has gone it is dropped, and what was given stays a beginning of what
    has come in. -/
theorem Incoming.data {host : Host C} {hist : History C} {n n' : Node C} {aa : AdaptorId} {c : C}
    {m : Message} {answer : SsAnswer} {uuid : String} {out : List (Action C)}
    (hr : Run host hist n) (hin : Incoming aa c m.guid hist n) (hgate : n.PastGate c)
    (hty : m.type = .siddata) (hok : step host n (.received c m answer uuid) = .ok (n', out)) :
    Incoming aa c m.guid (hist ++ [⟨n, .received c m answer uuid, n', out⟩]) n' := by
  have hs := hr.transfers.sound
  have hte : streamEvent c m = some (.siddata c m) := by rw [streamEvent, hty]
  rw [step_stream hgate hte] at hok
  obtain ⟨t, hstep, rfl⟩ := onTransfers_ok hok
  have htaken : takenIn c ⟨n, .received c m answer uuid, { n with transfers := t }, out⟩ =
      some m := takenIn_eq_some.mpr ⟨answer, uuid, rfl, hgate⟩
  have hcalls := Transfers.step_callsOn hs hstep aa
  rw [Transfers.script, Transfers.script.told] at hcalls
  have hpiece : piece m.guid m = some m.payload := if_pos ⟨hty, rfl⟩
  have hpieces : pieces m.guid (heardOn c
      (hist ++ [⟨n, .received c m answer uuid, { n with transfers := t }, out⟩])) =
      pieces m.guid (heardOn c hist) ++ [m.payload] := by
    rw [heardOn_snoc, htaken, pieces_append, Option.toList_some, pieces, pieces,
      List.filterMap_cons_some hpiece, List.filterMap_nil]
  -- a transfer that is registered afterwards was so before, with the same adaptor
  have hold : ∀ ss, t.reg.sid2ss m.guid = some ss → (t.ss ss).aa = some aa →
      n.transfers.reg.sid2ss m.guid = some ss ∧ (n.transfers.ss ss).aa = some aa := by
    intro ss hss haa
    refine Transfers.registered_before hs hstep (fun uuid' hout => ?_) hss haa
    rcases Transfers.step_writes hs hstep hout with ⟨hstream, -⟩ | ⟨_, _, _, he, -⟩
    · simp [generalMessage] at hstream
    · cases he
  by_cases hmine : ∃ ss, n.transfers.reg.sid2ss m.guid = some ss ∧
      (n.transfers.ss ss).aa = some aa
  · obtain ⟨ss, hss, haa⟩ := hmine
    obtain ⟨hall, hopen⟩ := hin.all ss hss haa
    rw [hss, Option.bind_some, haa, Transfers.linesFor_map, if_pos rfl] at hcalls
    have hfed : fed aa (hist ++ [⟨n, .received c m answer uuid, { n with transfers := t }, out⟩]) =
        fed aa hist ++ [m.payload] := by
      rw [fed_snoc, hcalls, bytesIn_singleton, bytes_dataCall, Option.toList_some]
    have hsame := hpieces.trans (congrArg (· ++ [m.payload]) hall.symm)
    refine ⟨hfed.trans hsame.symm ▸ List.prefix_refl _, fun hend => ?_, fun ss' hss' _ => ?_⟩
    · rw [hfed] at hend ⊢
      have hlast := List.mem_singleton.mp ((List.mem_append.mp hend).resolve_left hopen)
      exact ⟨fed aa hist, hopen, by rw [hlast]⟩
    · refine ⟨hfed.trans hsame.symm, fun hend => ?_⟩
      rw [hfed] at hend
      have hlast := List.mem_singleton.mp ((List.mem_append.mp hend).resolve_left hopen)
      have hgone := unregistered_of_end hs hstep hlast.symm
      rw [hgone] at hss'
      cases hss'
  · have hnone : Transfers.callsOn aa out = [] := by
      rw [hcalls]
      split
      · rfl
      · rename_i aa' hbind
        obtain ⟨ss, hss, haa⟩ := Option.bind_eq_some_iff.mp hbind
        rw [Transfers.linesFor_map, if_neg]
        rintro rfl
        exact hmine ⟨ss, hss, haa⟩
    have hfed : fed aa (hist ++ [⟨n, .received c m answer uuid, { n with transfers := t }, out⟩]) =
        fed aa hist := by
      rw [fed_snoc, hnone]
      exact List.append_nil _
    refine ⟨?_, fun hend => ?_, fun ss hss haa => absurd ⟨ss, hold ss hss haa⟩ hmine⟩
    · rw [hfed, hpieces]
      exact hin.begins.trans (List.prefix_append ..)
    · rw [hfed] at hend ⊢
      exact hin.ended hend

/-- Whatever has an adaptor at a step has had it before, unless the song is being asked for at that
    step. -/
theorem Run.registered_before {host : Host C} {hist : History C} {n n' : Node C} {e : Event C}
    {out : List (Action C)} (hr : Run host hist n) (hok : step host n e = .ok (n', out))
    {sid : Sid} {ss : SsGreynet C} {aa : AdaptorId} (hno : requestsIn sid out = [])
    (hss : n'.transfers.reg.sid2ss sid = some ss) (haa : (n'.transfers.ss ss).aa = some aa) :
    n.transfers.reg.sid2ss sid = some ss ∧ (n.transfers.ss ss).aa = some aa := by
  have hs := hr.transfers.sound
  have hquiet : ∀ uuid, .asyncWrite ss.conn (generalMessage .sidrequest sid uuid) ∉ out := by
    intro uuid hout
    have hreq : ss.conn ∈ requestsIn sid out := mem_requestsIn.mpr ⟨_, hout, rfl, rfl⟩
    rw [hno] at hreq
    cases hreq
  cases hr.carries hok with
  | apart ht =>
    rw [ht] at hss haa
    exact ⟨hss, haa⟩
  | steps te hte hstep => exact Transfers.registered_before hs hstep hquiet hss haa
  | adapts conn msgp answer uuid he hgate hty hn =>
    rw [hn] at hss haa
    exact ⟨hss, haa⟩
  | passes conn msgp url oid uuid he hgate hty ss' hss' hstep =>
    exact Transfers.registered_before (hs.adapted conn _) hstep hquiet hss haa

/-- **One step at the receiving end.**  Either a part of the song comes in, or nothing of it does;
    and asking for it, which happens once, happens before anything has come in. -/
theorem incoming_step {host : Host C} {hist : History C} {n n' : Node C} {e : Event C}
    {out : List (Action C)} {aa : AdaptorId} {c : C} {sid : Sid} (hr : Run host hist n)
    (hin : Incoming aa c sid hist n) (hok : step host n e = .ok (n', out))
    (hded : Dedicated aa sid (hist ++ [⟨n, e, n', out⟩]))
    (honce : (requests sid (hist ++ [⟨n, e, n', out⟩])).length ≤ 1)
    (hasked : Runs.Each (Solicits c sid) (hist ++ [⟨n, e, n', out⟩])) :
    Incoming aa c sid (hist ++ [⟨n, e, n', out⟩]) n' := by
  obtain ⟨hbefore, hnow⟩ := Runs.each_snoc.mp hasked
  by_cases hdata : ∃ c' m, takenIn c' ⟨n, e, n', out⟩ = some m ∧ m.type = .siddata ∧ m.guid = sid
  · obtain ⟨c', m, htaken, hty, rfl⟩ := hdata
    obtain ⟨rfl, -⟩ := hnow c' m htaken hty rfl
    obtain ⟨answer, uuid, rfl, hgate⟩ := takenIn_eq_some.mp htaken
    exact hin.data hr hgate hty hok
  · have hno : ∀ c' m, takenIn c' ⟨n, e, n', out⟩ = some m → m.type = .siddata → m.guid ≠ sid :=
      fun c' m htaken hty hguid => hdata ⟨c', m, htaken, hty, hguid⟩
    have hfed : fed aa (hist ++ [⟨n, e, n', out⟩]) = fed aa hist := by
      rw [fed_snoc, hr.not_fed hok hded hno, List.append_nil]
    have hpieces : pieces sid (heardOn c (hist ++ [⟨n, e, n', out⟩])) =
        pieces sid (heardOn c hist) := by
      rw [heardOn_snoc, pieces_append]
      rcases htaken : takenIn c ⟨n, e, n', out⟩ with _ | m
      · exact List.append_nil _
      · have hnone : piece sid m = none := if_neg fun h => hno c m htaken h.1 h.2
        rw [Option.toList_some, pieces, pieces, List.filterMap_cons_none hnone, List.filterMap_nil,
          List.append_nil]
    refine ⟨hfed.symm ▸ hpieces.symm ▸ hin.begins, hfed.symm ▸ hin.ended, fun ss hss haa => ?_⟩
    rw [hfed, hpieces]
    by_cases hreq : requestsIn sid out = []
    · obtain ⟨hss, haa⟩ := hr.registered_before hok hreq hss haa
      exact hin.all ss hss haa
    · -- asked for only now: nothing has come in yet
      have hfirst : requests sid hist = [] := by
        rw [requests_snoc, List.length_append] at honce
        have hsum : (requests sid hist).length + (requestsIn sid out).length ≤ 1 := honce
        have hpos := List.length_pos_of_ne_nil hreq
        exact List.eq_nil_of_length_eq_zero (by omega)
      have hnil := pieces_unasked hbefore hfirst
      have hbegins := hin.begins
      rw [hnil] at hbegins ⊢
      have hfirst := List.prefix_nil.mp hbegins
      exact ⟨hfirst, hfirst ▸ List.not_mem_nil⟩

/-- **An adaptor is given the beginning of what comes in**, if its song is asked for once: all of it
    as long as its transfer is registered, and never anything after the end. -/
theorem Run.incoming {host : Host C} {hist : History C} {n : Node C} (hr : Run host hist n)
    {aa : AdaptorId} {c : C} {sid : Sid} (hded : Dedicated aa sid hist)
    (honce : (requests sid hist).length ≤ 1) (hasked : Runs.Each (Solicits c sid) hist) :
    Incoming aa c sid hist n := by
  refine Runs.Run.invariant (I := fun hist n => Dedicated aa sid hist →
    (requests sid hist).length ≤ 1 → Runs.Each (Solicits c sid) hist → Incoming aa c sid hist n)
    ?_ ?_ hr hded honce hasked
  · rintro n rfl - - -
    exact ⟨List.prefix_refl _, fun hend => (by cases hend), fun ss hss => by cases hss⟩
  · intro hist n e n' out hr ih hok hded honce hasked
    have hless : (requests sid hist).length ≤ 1 := by
      rw [requests_snoc, List.length_append] at honce
      omega
    refine incoming_step hr (ih ?_ hless (Runs.each_snoc.mp hasked).1) hok hded honce hasked
    exact ⟨fun st hst => hded.calls st (List.mem_append_left _ hst),
      fun st hst => hded.songs st (List.mem_append_left _ hst)⟩

/-! ## Who has been asked how often -/

/-- The message asks for the song; a SIDREQUEST has the sid as its payload. -/
def asksFor (sid : Sid) (m : Message) : Bool := decide (m.type = .sidrequest ∧ m.payload = sid)

omit [LinearOrder C] in
/-- The connections on which some actions ask, counted, are the requests among the messages sent
    there. -/
theorem count_requestsIn [DecidableEq C] (sid : Sid) (c : C) (out : List (Action C)) :
    (requestsIn sid out).count c = (sentOn c out).countP (asksFor sid) := by
  induction out with
  | nil => rfl
  | cons a out ih =>
    have hrequests : requestsIn sid ([a] ++ out) = requestsIn sid [a] ++ requestsIn sid out :=
      List.filterMap_append
    have hsent : sentOn c ([a] ++ out) = sentOn c [a] ++ sentOn c out := List.filterMap_append
    have hone : (requestsIn sid [a]).count c = (sentOn c [a]).countP (asksFor sid) := by
      cases a with
      | asyncWrite d m =>
        by_cases hm : m.type = .sidrequest ∧ m.payload = sid <;> by_cases hd : d = c <;>
          simp [requestsIn, sentOn, asksFor, hm, hd]
      | _ => rfl
    rw [← List.singleton_append, hrequests, hsent, List.count_append, List.countP_append, hone, ih]

/-- **A node asks on a connection as often as it writes that it does.**  So what one end counts as
    requests the other end can count as messages. -/
theorem count_requests (sid : Sid) (c : C) (hist : History C) :
    (requests sid hist).count c = (written hist c).countP (asksFor sid) := by
  induction hist with
  | nil => rfl
  | cons st hist ih =>
    rw [requests, written, List.flatMap_cons, List.flatMap_cons, List.count_append,
      List.countP_append, count_requestsIn]
    exact congrArg _ ih

/-- **There are no more adaptors for a song on a connection than it was asked for there**: one is
    made where a SIDREQUEST comes in, and nowhere else. -/
theorem Run.adaptors_le {host : Host C} {hist : History C} {n : Node C} (hr : Run host hist n)
    (c : C) (sid : Sid) : (Transfers.fixed n.transfers.adaptors).count (c, sid) ≤
      (heardOn c hist).countP (asksFor sid) := by
  refine Runs.Run.invariant (I := fun hist n =>
    (Transfers.fixed n.transfers.adaptors).count (c, sid) ≤
      (heardOn c hist).countP (asksFor sid)) ?_ ?_ hr
  · rintro n rfl
    exact Nat.le_refl _
  · intro hist n e n' out hr ih hok
    rw [heardOn_snoc, List.countP_append]
    cases Run.sends hr hok with
    | same hfixed =>
      rw [hfixed]
      exact Nat.le_add_right_of_le ih
    | adapts conn msgp answer uuid he hgate hty hfixed =>
      rw [hfixed, List.count_append]
      by_cases hthis : (conn, msgp.payload) = (c, sid)
      · -- one adaptor more, and one request more that has come in
        obtain ⟨rfl, rfl⟩ := Prod.mk.inj hthis
        have htaken : takenIn conn ⟨n, e, n', out⟩ = some msgp :=
          takenIn_eq_some.mpr ⟨answer, uuid, he, hgate⟩
        have hask : asksFor msgp.payload msgp = true := decide_eq_true ⟨hty, rfl⟩
        rw [htaken, Option.toList_some, List.countP_singleton, if_pos hask,
          List.count_singleton_self]
        exact Nat.add_le_add_right ih 1
      · rw [List.count_singleton, if_neg (by simpa using hthis)]
        exact Nat.le_add_right_of_le ih

/-- Where a song was asked for once there is one adaptor for it at most, so one that is there is the
    sole one. -/
theorem sole_of_count {l : List (C × Sid)} {c : C} {sid : Sid} (hone : l.count (c, sid) ≤ 1)
    (hmem : (c, sid) ∈ l) : ∃ k, Transfers.Sole l c sid k := by
  obtain ⟨k, hk⟩ := List.getElem?_of_mem hmem
  refine ⟨k, hk, fun i hi => ?_⟩
  obtain ⟨hkl, hkv⟩ := List.getElem?_eq_some_iff.mp hk
  obtain ⟨hil, hiv⟩ := List.getElem?_eq_some_iff.mp hi
  by_contra hne
  have htwice : [(c, sid), (c, sid)].Sublist l := by
    rw [← List.duplicate_iff_sublist, List.duplicate_iff_exists_distinct_get]
    rcases Nat.lt_or_gt_of_ne hne with hlt | hlt
    · exact ⟨⟨i, hil⟩, ⟨k, hkl⟩, hlt, hiv.symm, hkv.symm⟩
    · exact ⟨⟨k, hkl⟩, ⟨i, hil⟩, hlt, hkv.symm, hiv.symm⟩
  have htwo : 2 ≤ l.count (c, sid) := List.replicate_sublist_iff.mp htwice
  omega

end Node

end Greynet
