/-
  A stream, from the calls on the sending adaptor to the calls on the receiving one.

  The sender is a `greynet_asyncadaptor`, the receiver an `ss_greynet` that is registered for the
  stream's sid.  Between them are messages, in order.  The protocol has no message for the end of a
  stream: an empty SIDDATA stands for it, and `write_content` does not keep its caller from sending
  one in the middle.  Nor does the text of the headers keep a mime type from looking like a status.

  1. `sent`, `said` — the messages the calls on an adaptor are turned into.  The adaptor is a small
     machine with one bit of state that matters, whether the headers have gone out.
  2. `hear` — what a receiver makes of messages, as a function of the messages alone: after the
     first message that ends the transfer, nothing.
  3. `Receiver` — a transfer that is being received; `Receiver.calls_eq`: its handlers do what
     `hear` says, in any state that a run reaches.  The calls of a handler that does not return are
     counted, for they are made before the loop that may keep it.
  4. `framed_iff` — the end of a stream is where the sender put it exactly if no chunk is empty
     and the headers do not cancel the transfer.
-/
import Greynet.Headers
import Greynet.Malformed
import Greynet.TransferEnds

namespace Greynet

variable {C : Type}

/-- The calls that only set something: the length, the mime type and the status. -/
def AdaptorCall.setter : AdaptorCall → Bool
  | .setContentLength _ | .setMimeType _ | .setStatusCode _ => true
  | _ => false

/-- The messages among some actions, in order, whatever connection they go to. -/
def sent (out : List (Action C)) : List Message :=
  out.filterMap fun
    | .asyncWrite _ msg => some msg
    | _ => none

/-- What is sent in two batches is what the one sends and then what the other sends. -/
@[simp] theorem sent_append (out out' : List (Action C)) :
    sent (out ++ out') = sent out ++ sent out' := List.filterMap_append

/-- The bytes of a list of calls, chunk by chunk; neither settings nor ends are any. -/
def contents (calls : List AdaptorCall) : List String :=
  calls.filterMap fun
    | .writeContent buffer => some buffer
    | _ => none

/-- The chunks of two batches of calls are those of the one and then those of the other. -/
@[simp] theorem contents_append (calls calls' : List AdaptorCall) :
    contents (calls ++ calls') = contents calls ++ contents calls' := List.filterMap_append

/-- Calls that write nothing have no chunks. -/
theorem contents_eq_nil {calls : List AdaptorCall} (h : ∀ b, .writeContent b ∉ calls) :
    contents calls = [] := by
  rw [contents, List.filterMap_eq_nil_iff]
  intro x hx
  cases x with
  | writeContent b => exact absurd hx (h b)
  | _ => rfl

/-- And calls that only write have just those they write. -/
@[simp] theorem contents_map_writeContent (bufs : List String) :
    contents (bufs.map .writeContent) = bufs := by
  rw [contents, List.filterMap_map]
  exact List.filterMap_some

namespace GreynetAsyncadaptor

/-! ## The sender -/

/-- A SIDDATA with these bytes, under this sid. -/
def dataMessage (sid : Sid) (buffer : String) : Message := generalMessage .siddata buffer sid

/-- The SIDHEADERS of an adaptor, as it would send it now. -/
def headersMessage (a : GreynetAsyncadaptor C) : Message :=
  generalMessage .sidheaders a.headers a.sid

/-- An adaptor after some calls: what it has been set to, and whether its headers have gone out. -/
def told (a : GreynetAsyncadaptor C) (calls : List AdaptorCall) : GreynetAsyncadaptor C :=
  (Transducers.feed receive a calls).1

/-- The messages it sends at these calls, in order. -/
def said (a : GreynetAsyncadaptor C) (calls : List AdaptorCall) : List Message :=
  sent (Transducers.feed receive a calls).2

/-- Told one batch of calls after another, ... -/
theorem told_append (a : GreynetAsyncadaptor C) (xs ys : List AdaptorCall) :
    a.told (xs ++ ys) = (a.told xs).told ys := by
  rw [told, Transducers.feed_append]
  rfl

/-- ... it says what it says to the one, and then what it says to the other in the state it is in by
    then. -/
theorem said_append (a : GreynetAsyncadaptor C) (xs ys : List AdaptorCall) :
    a.said (xs ++ ys) = a.said xs ++ (a.told xs).said ys := by
  rw [said, Transducers.feed_append, sent_append]
  rfl

/-- So too with the first call of a batch. -/
theorem said_cons (a : GreynetAsyncadaptor C) (x : AdaptorCall) (ys : List AdaptorCall) :
    a.said (x :: ys) = sent (a.receive x).2 ++ (a.receive x).1.said ys := by
  rw [said, Transducers.feed_cons, sent_append]
  rfl

/-- **Setting something sends nothing**, and neither the sid nor the connection is ever set; nor
    does it matter to whether the headers have gone out. -/
theorem told_setters (calls : List AdaptorCall) : ∀ a : GreynetAsyncadaptor C,
    (∀ x ∈ calls, x.setter = true) → a.said calls = [] ∧ (a.told calls).sid = a.sid ∧
      (a.told calls).conn = a.conn ∧ (a.told calls).sentfirst = a.sentfirst := by
  induction calls with
  | nil =>
    intro a _
    exact ⟨rfl, rfl, rfl, rfl⟩
  | cons x calls ih =>
    intro a h
    have hx := h x (List.mem_cons_self ..)
    have hone : sent (a.receive x).2 = [] ∧ (a.receive x).1.sid = a.sid ∧
        (a.receive x).1.conn = a.conn ∧ (a.receive x).1.sentfirst = a.sentfirst := by
      cases x with
      | setContentLength | setMimeType | setStatusCode => exact ⟨rfl, rfl, rfl, rfl⟩
      | _ => cases hx
    obtain ⟨hsaid, hsid, hconn, hfirst⟩ :=
      ih (a.receive x).1 fun y hy => h y (List.mem_cons_of_mem _ hy)
    refine ⟨?_, hsid.trans hone.2.1, hconn.trans hone.2.2.1, hfirst.trans hone.2.2.2⟩
    rw [said_cons, hone.1, hsaid]
    rfl

/-- A write that follows another sends its bytes and nothing else, and changes nothing. -/
theorem said_write_next {a : GreynetAsyncadaptor C} (h : a.sentfirst = true) (b : String) :
    sent (a.receive (.writeContent b)).2 = [dataMessage a.sid b] ∧
      (a.receive (.writeContent b)).1 = a := by
  obtain ⟨sid, conn, sentfirst, status, mimetype, contentlength⟩ := a
  obtain rfl : sentfirst = true := h
  exact ⟨rfl, rfl⟩

/-- The first write: the headers go before it, and never again. -/
theorem said_write_first {a : GreynetAsyncadaptor C} (h : a.sentfirst = false) (b : String) :
    sent (a.receive (.writeContent b)).2 = [a.headersMessage, dataMessage a.sid b] ∧
      (a.receive (.writeContent b)).1 = { a with sentfirst := true } := by
  obtain ⟨sid, conn, sentfirst, status, mimetype, contentlength⟩ := a
  obtain rfl : sentfirst = false := h
  exact ⟨rfl, rfl⟩

/-- So all the writes that follow another send their bytes, chunk by chunk. -/
theorem said_writes_next {a : GreynetAsyncadaptor C} (h : a.sentfirst = true)
    (bufs : List String) : a.said (bufs.map .writeContent) = bufs.map (dataMessage a.sid) ∧
      a.told (bufs.map .writeContent) = a := by
  induction bufs with
  | nil => exact ⟨rfl, rfl⟩
  | cons b bufs ih =>
    obtain ⟨hout, hself⟩ := said_write_next h b
    constructor
    · rw [List.map_cons, said_cons, hout, hself, ih.1]
      rfl
    · show (a.receive (.writeContent b)).1.told _ = a
      rw [hself, ih.2]

/-- **What is sent for a list of writes**: the headers before the first, and one SIDDATA each. -/
theorem said_writes {a : GreynetAsyncadaptor C} (h : a.sentfirst = false) {bufs : List String}
    (hne : bufs ≠ []) : a.said (bufs.map .writeContent) =
        a.headersMessage :: bufs.map (dataMessage a.sid) ∧
      a.told (bufs.map .writeContent) = { a with sentfirst := true } := by
  obtain ⟨b, bufs, rfl⟩ := List.exists_cons_of_ne_nil hne
  obtain ⟨hout, hself⟩ := said_write_first h b
  have hnext := said_writes_next (a := { a with sentfirst := true }) rfl bufs
  constructor
  · rw [List.map_cons, said_cons, hout, hself, hnext.1]
    rfl
  · show (a.receive (.writeContent b)).1.told _ = _
    rw [hself, hnext.2]

/-- **What is sent for a whole stream**: the headers, the chunks, and an empty one; for
    `write_finish` is one more write, of nothing. -/
theorem said_finish {a : GreynetAsyncadaptor C} (h : a.sentfirst = false) (bufs : List String) :
    a.said (bufs.map .writeContent ++ [.writeFinish]) =
      a.headersMessage :: (bufs.map (dataMessage a.sid) ++ [dataMessage a.sid ""]) := by
  have hlast : ∀ a' : GreynetAsyncadaptor C, a'.said [.writeFinish] = a'.said [.writeContent ""] :=
    fun _ => rfl
  have hne : bufs ++ [""] ≠ [] := by simp
  have hwrites := (said_writes h hne).1
  rw [List.map_append, List.map_append, said_append] at hwrites
  rw [said_append, hlast]
  exact hwrites

/-- With `write_cancel` a SIDFAIL follows what was written, headers or no headers. -/
theorem said_cancel (a : GreynetAsyncadaptor C) (bufs : List String) :
    a.said (bufs.map .writeContent ++ [.writeCancel]) =
      a.said (bufs.map .writeContent) ++
        [generalMessage .sidfail "" (a.told (bufs.map .writeContent)).sid] := by
  rw [said_append]
  rfl

/-- Whatever an adaptor is told, it keeps writing to the same connection. -/
theorem told_conn (calls : List AdaptorCall) : ∀ a : GreynetAsyncadaptor C,
    (a.told calls).conn = a.conn := by
  induction calls with
  | nil => exact fun _ => rfl
  | cons x calls ih =>
    intro a
    have hconn : (a.receive x).1.conn = a.conn := by cases x <;> rfl
    exact (ih (a.receive x).1).trans hconn

/-- All it sends carries its sid, and no call changes that. -/
theorem guid_of_said (calls : List AdaptorCall) : ∀ a : GreynetAsyncadaptor C,
    (a.told calls).sid = a.sid ∧ ∀ msgp ∈ a.said calls, msgp.guid = a.sid := by
  induction calls with
  | nil =>
    intro a
    exact ⟨rfl, fun msgp h => (by cases h)⟩
  | cons x calls ih =>
    intro a
    have hsid : (a.receive x).1.sid = a.sid := by cases x <;> rfl
    obtain ⟨htold, hsaid⟩ := ih (a.receive x).1
    refine ⟨htold.trans hsid, fun msgp hin => ?_⟩
    rw [said_cons] at hin
    rcases List.mem_append.mp hin with hin | hin
    · obtain ⟨y, hy, hmsg⟩ := List.mem_filterMap.mp hin
      obtain ⟨msg, rfl, hguid, -⟩ := Transfers.receive_writes a x y hy
      exact Option.some.inj hmsg ▸ hguid
    · exact (hsaid msgp hin).trans hsid

end GreynetAsyncadaptor

namespace Transfers

/-! ## What a message says -/

/-- The calls a message makes on the adaptor of the transfer it is for, by its type. -/
def messageCalls (msgp : Message) : List AdaptorCall :=
  match msgp.type with
  | .siddata => [dataCall msgp.payload]
  | .sidheaders => headerCalls (splitAt msgp.payload '\n')
  | .sidfail => [.writeCancel]
  | _ => []

/-- The messages after which a transfer is over: the empty part, headers with a bad status, and the
    failure. -/
def messageEnds (msgp : Message) : Bool :=
  match msgp.type with
  | .siddata => msgp.payload.length = 0
  | .sidheaders => abortsHeaders msgp.payload
  | .sidfail => true
  | _ => false

/-- What a transfer makes of messages for it: the calls of one after the other, up to one that ends
    it. -/
def hear : List Message → List AdaptorCall
  | [] => []
  | msgp :: msgs => messageCalls msgp ++ if messageEnds msgp then [] else hear msgs

variable [LinearOrder C]

/-- The calls on an adaptor while events are handled one after the other, up to an event that does
    not return; what that one calls, it calls before it goes round in the unregistering loop. -/
def heardFrom (aa : AdaptorId) : Transfers C → List (Event C) → List AdaptorCall
  | _, [] => []
  | t, e :: es => linesFor aa (t.script e) ++
      match step t e with
      | .ok (t', _) => heardFrom aa t' es
      | .error _ => []

/-- With no event that faults these are the calls of the history; so `heardFrom` differs from it
    only in counting what a handler has called before it fails. -/
theorem heardFrom_eq {aa : AdaptorId} (es : List (Event C)) : ∀ {t u : Transfers C}, t.Sound →
    Runs.play step t es = .ok u →
    heardFrom aa t es = callsOver aa (Runs.trace step t es) := by
  induction es with
  | nil => intro t u _ _; rfl
  | cons e es ih =>
    intro t u hs hplay
    rw [Runs.play] at hplay
    rw [heardFrom, Runs.trace]
    cases hok : step t e with
    | error f =>
      rw [hok] at hplay
      cases hplay
    | ok x =>
      rw [hok] at hplay
      have hcons : callsOver aa (⟨t, e, x.1, x.2⟩ :: Runs.trace step x.1 es) =
          callsOn aa x.2 ++ callsOver aa (Runs.trace step x.1 es) := rfl
      rw [hcons, step_callsOn hs hok]
      exact congrArg _ (ih (sound_step hs hok) hplay)

/-! ## The receiver -/

omit [LinearOrder C] in
/-- A stream message is one of three events, by its type. -/
theorem streamEvent_cases {conn : C} {msgp : Message} {e : Event C}
    (he : Node.streamEvent conn msgp = some e) :
    (msgp.type = .siddata ∧ e = .siddata conn msgp) ∨
    (msgp.type = .sidheaders ∧ e = .sidheaders conn msgp) ∨
    (msgp.type = .sidfail ∧ e = .sidfail conn msgp) := by
  unfold Node.streamEvent at he
  split at he
  · exact Or.inl ⟨‹_›, (Option.some.inj he).symm⟩
  · exact Or.inr (Or.inl ⟨‹_›, (Option.some.inj he).symm⟩)
  · exact Or.inr (Or.inr ⟨‹_›, (Option.some.inj he).symm⟩)
  · cases he

/-- An event that is a message of a stream says what the message says, to the transfer of its
    sid. -/
theorem streamEvent_script {t : Transfers C} {conn : C} {msgp : Message} {e : Event C}
    (he : Node.streamEvent conn msgp = some e) :
    t.script e = script.told t (t.reg.sid2ss msgp.guid) (messageCalls msgp) := by
  unfold messageCalls
  rcases streamEvent_cases he with ⟨ht, rfl⟩ | ⟨ht, rfl⟩ | ⟨ht, rfl⟩ <;> rw [ht] <;> rfl

/-- It ends the transfer of its sid if it is a message that ends one, ... -/
theorem streamEvent_target {t : Transfers C} {conn : C} {msgp : Message} {e : Event C}
    (he : Node.streamEvent conn msgp = some e) :
    t.target e = if messageEnds msgp then t.reg.sid2ss msgp.guid else none := by
  unfold messageEnds
  rcases streamEvent_cases he with ⟨ht, rfl⟩ | ⟨ht, rfl⟩ | ⟨ht, rfl⟩
  · rw [ht]
    by_cases hz : msgp.payload.length = 0 <;> simp [target, hz]
  · rw [ht]
    rfl
  · rw [ht]
    rfl

/-- ... and takes no other sid out of `m_sid2ss`, ... -/
theorem streamEvent_endedSids {t : Transfers C} {conn : C} {msgp : Message} {e : Event C}
    (he : Node.streamEvent conn msgp = some e) :
    t.endedSids e = (t.target e).toList.map SsGreynet.sid := by
  rcases streamEvent_cases he with ⟨-, rfl⟩ | ⟨-, rfl⟩ | ⟨-, rfl⟩ <;> rfl

omit [LinearOrder C] in
/-- ... starts no transfer and loses no connection. -/
theorem streamEvent_ne {conn : C} {msgp : Message} {e : Event C}
    (he : Node.streamEvent conn msgp = some e) :
    (∀ ss aa ready uuid, e ≠ .startReply ss aa ready uuid) ∧
      ∀ conn', e ≠ .connectionTerminated conn' := by
  rcases streamEvent_cases he with ⟨-, rfl⟩ | ⟨-, rfl⟩ | ⟨-, rfl⟩ <;> simp

omit [LinearOrder C] in
/-- A message of no stream says nothing, and ends nothing. -/
theorem hear_skip {conn : C} {msgp : Message} (h : Node.streamEvent conn msgp = none)
    (msgs : List Message) : hear (msgp :: msgs) = hear msgs := by
  cases hty : msgp.type with
  | siddata | sidheaders | sidfail => simp [Node.streamEvent, hty] at h
  | _ => simp [hear, messageCalls, messageEnds, hty]

variable {ss : SsGreynet C} {aa : AdaptorId} {conn : C}

/-- After a message of its stream a transfer is registered as before, or gone if the message ends
    it. -/
theorem sid2ss_stream {t t' : Transfers C} {msgp : Message} {e : Event C} {out : List (Action C)}
    (hs : t.Sound) (he : Node.streamEvent conn msgp = some e) (hok : step t e = .ok (t', out))
    (hguid : msgp.guid = ss.sid) (hlive : Live t ss ∨ Gone t ss) :
    t'.reg.sid2ss ss.sid = if messageEnds msgp then none else t.reg.sid2ss ss.sid := by
  rw [sid2ss_step hs hok fun ss' aa' uuid h => absurd h ((streamEvent_ne he).1 ss' aa' true uuid),
    streamEvent_endedSids he, streamEvent_target he, hguid]
  cases messageEnds msgp with
  | false => rfl
  | true => rcases hlive with h | h <;> rw [h] <;> simp

/-- Once a transfer has left `m_sid2ss` its messages are discarded, all of them; by induction on
    them. -/
theorem heardFrom_gone (msgs : List Message) : ∀ {t : Transfers C}, t.Sound → Gone t ss →
    (∀ msgp ∈ msgs, msgp.guid = ss.sid) →
    heardFrom aa t (msgs.filterMap (Node.streamEvent conn)) = [] := by
  induction msgs with
  | nil => intro t _ _ _; rfl
  | cons msgp msgs ih =>
    intro t hs hgone hguid
    have hrest : ∀ x ∈ msgs, x.guid = ss.sid := fun x hx => hguid x (List.mem_cons_of_mem _ hx)
    have hm := hguid msgp (List.mem_cons_self ..)
    rcases he : Node.streamEvent conn msgp with _ | e
    · rw [List.filterMap_cons_none he]
      exact ih hs hgone hrest
    · rw [List.filterMap_cons_some he, heardFrom, streamEvent_script he, hm, hgone]
      cases hok : step t e with
      | error f => rfl
      | ok x =>
        have hgone' : Gone x.1 ss := by
          rw [Gone, sid2ss_stream hs he hok hm (Or.inr hgone), hgone, ite_self]
        exact ih (sound_step hs hok) hgone' hrest

/-- **A live transfer makes of its messages what `hear` says**, by induction on the messages.  A
    message that does not end it leaves it live and keeps its adaptor; after one that does,
    `heardFrom_gone`. -/
theorem heardFrom_live (msgs : List Message) : ∀ {t : Transfers C}, t.Sound → Live t ss →
    (t.ss ss).aa = some aa → (∀ msgp ∈ msgs, msgp.guid = ss.sid) →
    heardFrom aa t (msgs.filterMap (Node.streamEvent conn)) = hear msgs := by
  induction msgs with
  | nil => intro t _ _ _ _; rfl
  | cons msgp msgs ih =>
    intro t hs hlive haa hguid
    have hrest : ∀ x ∈ msgs, x.guid = ss.sid := fun x hx => hguid x (List.mem_cons_of_mem _ hx)
    have hm := hguid msgp (List.mem_cons_self ..)
    rcases he : Node.streamEvent conn msgp with _ | e
    · rw [List.filterMap_cons_none he, hear_skip he]
      exact ih hs hlive haa hrest
    · have hsaid : linesFor aa (t.script e) = messageCalls msgp := by
        rw [streamEvent_script he, hm, script.told, hlive, Option.bind_some, haa]
        simp only
        rw [linesFor_map, if_pos rfl]
      rw [List.filterMap_cons_some he, heardFrom, hear, hsaid]
      refine congrArg _ ?_
      cases hok : step t e with
      | error f =>
        -- a loop that does not end belongs to a message that ends the transfer
        have hends : messageEnds msgp = true := by
          by_contra hends
          have hnone : t.target e = none := by rw [streamEvent_target he, if_neg hends]
          obtain ⟨x, hx⟩ := (step_isOk hs (streamEvent_ne he).2).mpr fun ss' h => by
            rw [hnone] at h
            cases h
          rw [hok] at hx
          cases hx
        rw [if_pos hends]
      | ok x =>
        have hsid := sid2ss_stream hs he hok hm (Or.inl hlive)
        cases hends : messageEnds msgp with
        | true =>
          rw [hends, if_pos rfl] at hsid
          exact heardFrom_gone msgs (sound_step hs hok) hsid hrest
        | false =>
          rw [hends, if_neg Bool.false_ne_true] at hsid
          have haa' : (x.1.ss ss).aa = some aa := by
            rcases aa_step hs hok ss with ⟨aa', ready, uuid, hstart, -⟩ | hsame
            · exact absurd hstart ((streamEvent_ne he).1 _ _ _ _)
            · rw [hsame, haa]
          exact ih (sound_step hs hok) (hsid.trans hlive) haa' hrest

/-- A transfer being received: registered, in a state some run reaches, with the adaptor it was
    started for. -/
structure Receiver (C : Type) [LinearOrder C] where
  transfers : Transfers C
  ss : SsGreynet C
  /-- `m_aa` -/
  aa : AdaptorId
  reachable : Reachable transfers
  live : Live transfers ss
  own : (transfers.ss ss).aa = some aa

namespace Receiver

/-- The events in which libf2f delivers messages on the connection of the transfer, in order. -/
def events (r : Receiver C) (msgs : List Message) : List (Event C) :=
  msgs.filterMap (Node.streamEvent r.ss.conn)

/-- The calls on the adaptor while messages are delivered, those of a handler that hangs
    included. -/
def calls (r : Receiver C) (msgs : List Message) : List AdaptorCall :=
  heardFrom r.aa r.transfers (r.events msgs)

/-- **The handlers do what `hear` says**, in any state, with any other transfers beside this one. -/
theorem calls_eq (r : Receiver C) {msgs : List Message} (h : ∀ msgp ∈ msgs, msgp.guid = r.ss.sid) :
    r.calls msgs = hear msgs :=
  heardFrom_live msgs r.reachable.sound r.live r.own h

end Receiver

end Transfers

open Transfers

/-! ## What is heard of a stream -/

/-- A chunk with bytes in it is passed on, and the stream goes on. -/
theorem hear_data {sid : Sid} {b : String} (hb : b ≠ "") (msgs : List Message) :
    hear (GreynetAsyncadaptor.dataMessage sid b :: msgs) = .writeContent b :: hear msgs := by
  have hlen : ¬ b.length = 0 := by rwa [String.length_eq_zero_iff]
  simp [hear, GreynetAsyncadaptor.dataMessage, generalMessage, messageCalls, messageEnds, dataCall,
    hlen]

/-- So are chunks that all have bytes in them. -/
theorem hear_datas {sid : Sid} {bufs : List String} (h : ∀ b ∈ bufs, b ≠ "")
    (msgs : List Message) : hear (bufs.map (GreynetAsyncadaptor.dataMessage sid) ++ msgs) =
      bufs.map .writeContent ++ hear msgs := by
  induction bufs with
  | nil => rfl
  | cons b bufs ih =>
    rw [List.map_cons, List.cons_append, hear_data (h b (List.mem_cons_self ..)),
      ih fun x hx => h x (List.mem_cons_of_mem _ hx)]
    rfl

/-- An empty SIDDATA is the end, whoever sent it and for whatever reason; what follows is not
    heard. -/
theorem hear_empty (sid : Sid) (msgs : List Message) :
    hear (GreynetAsyncadaptor.dataMessage sid "" :: msgs) = [.writeFinish] := rfl

/-- Headers call what their lines call, and may be the end of it. -/
theorem hear_headers (a : GreynetAsyncadaptor C) (msgs : List Message) :
    hear (a.headersMessage :: msgs) = headerCalls (splitAt a.headers '\n') ++
      if abortsHeaders a.headers then [] else hear msgs := rfl

/-- The header loop sets things, and cancels if a line says so; it writes no bytes and finishes
    nothing. -/
theorem headerCalls_setters (lines : List String) : ∃ init, (∀ x ∈ init, x.setter = true) ∧
    headerCalls lines = init ++ if lines.any statusAborts then [.writeCancel] else [] := by
  obtain ⟨init, hinit, hcalls⟩ := headerCalls_eq lines
  refine ⟨init, fun x hx => ?_, hcalls⟩
  obtain ⟨line, -, hline⟩ := hinit x hx
  obtain ⟨key, val, -, ⟨-, rfl⟩ | ⟨-, rfl⟩ | ⟨-, rfl⟩⟩ := lineCall_cases hline <;> rfl

/-! ## Where a stream ends -/

namespace Transfers.Receiver

variable [LinearOrder C]

/-- The adaptor of the sender, made by `handle_sidrequest` for the sid of the transfer, on a
    connection of its own. -/
def sender (r : Receiver C) (conn : C) : GreynetAsyncadaptor C := { sid := r.ss.sid, conn := conn }

/-- What the receiving adaptor is called when a strategy makes these calls on the sending one, and
    its messages are delivered in order. -/
def hears (r : Receiver C) (conn : C) (calls : List AdaptorCall) : List AdaptorCall :=
  r.calls ((r.sender conn).said calls)

/-- The stream has its end where the sender put it: all bytes arrive, and the end arrives once,
    last, and not before the sender's `write_finish`. -/
structure Framed (r : Receiver C) (conn : C) (setters : List AdaptorCall) (bufs : List String) :
    Prop where
  bytes : String.join (contents
    (r.hears conn (setters ++ bufs.map .writeContent ++ [.writeFinish]))) = String.join bufs
  once : (r.hears conn (setters ++ bufs.map .writeContent ++ [.writeFinish])).count
    .writeFinish = 1
  last : (r.hears conn (setters ++ bufs.map .writeContent ++ [.writeFinish])).getLast? =
    some .writeFinish
  after : AdaptorCall.writeFinish ∉ r.hears conn (setters ++ bufs.map .writeContent)

/-- After the setters, what is heard is `hear` of what is said: the setters themselves send
    nothing. -/
theorem hears_eq (r : Receiver C) (conn : C) {setters : List AdaptorCall}
    (hset : ∀ x ∈ setters, x.setter = true) (calls : List AdaptorCall) :
    r.hears conn (setters ++ calls) = hear (((r.sender conn).told setters).said calls) := by
  rw [hears, r.calls_eq (GreynetAsyncadaptor.guid_of_said _ (r.sender conn)).2,
    GreynetAsyncadaptor.said_append, (GreynetAsyncadaptor.told_setters setters _ hset).1]
  rfl

/-- **The end of a stream is where the sender put it exactly if no chunk is empty and the headers
    do not cancel it**, whatever the setters, the chunks and the receiving adaptor. -/
theorem framed_iff (r : Receiver C) (conn : C) {setters : List AdaptorCall}
    (hset : ∀ x ∈ setters, x.setter = true)
    (hstatus : ((r.sender conn).told setters).status = 200) (bufs : List String) :
    r.Framed conn setters bufs ↔ (∀ b ∈ bufs, b ≠ "") ∧
      (splitAt ((r.sender conn).told setters).mimetype '\n').tail.any statusAborts = false := by
  have hhears := r.hears_eq conn hset
  have hfirst : ((r.sender conn).told setters).sentfirst = false :=
    (GreynetAsyncadaptor.told_setters setters _ hset).2.2.2
  generalize (r.sender conn).told setters = a at *
  have habort : abortsHeaders a.headers = (splitAt a.mimetype '\n').tail.any statusAborts := by
    rw [a.abortsHeaders_headers, hstatus]
    rfl
  have hall := hhears (bufs.map .writeContent ++ [.writeFinish])
  rw [← List.append_assoc, GreynetAsyncadaptor.said_finish hfirst, hear_headers] at hall
  obtain ⟨init, hinit, hcalls⟩ := headerCalls_setters (splitAt a.headers '\n')
  have hquiet : ∀ x : AdaptorCall, x.setter = false → x ∉ init := by
    intro x hx hin
    rw [hinit x hin] at hx
    cases hx
  rw [← habort]
  constructor
  · intro h
    have hgoes : abortsHeaders a.headers = false := by
      -- headers that cancel leave the cancel as the last call heard
      by_contra hne
      have hcancel : headerCalls (splitAt a.headers '\n') = init ++ [.writeCancel] := by
        rw [hcalls, if_pos (by simpa [abortsHeaders] using hne)]
      have hlast := h.last
      rw [hall, hcancel, if_pos (by simpa using hne), List.append_nil,
        List.getLast?_append] at hlast
      cases hlast
    refine ⟨?_, hgoes⟩
    by_contra hempty
    -- the first empty chunk ends the stream before `write_finish`
    have hmem : "" ∈ bufs := by
      obtain ⟨b, hb⟩ := not_forall.mp hempty
      obtain ⟨hin, rfl⟩ := Classical.not_imp.mp hb |>.imp_right not_not.mp
      exact hin
    obtain ⟨pre, post, rfl, hnew⟩ := List.eq_append_cons_of_mem hmem
    have hpre : ∀ b ∈ pre, b ≠ "" := fun b hb he => hnew (he ▸ hb)
    refine h.after ?_
    rw [hhears, (GreynetAsyncadaptor.said_writes hfirst (by simp)).1, hear_headers,
      if_neg (by simp [hgoes]), List.map_append, hear_datas hpre, List.map_cons, hear_empty]
    simp
  · rintro ⟨hbufs, hgoes⟩
    have hset' : headerCalls (splitAt a.headers '\n') = init := by
      rw [hcalls, if_neg (by simpa [abortsHeaders] using hgoes), List.append_nil]
    have hend : hear [GreynetAsyncadaptor.dataMessage a.sid ""] = [.writeFinish] := rfl
    rw [if_neg (by simp [hgoes]), hset', hear_datas hbufs, hend] at hall
    have hcontents : contents init = [] := contents_eq_nil fun b => hquiet _ rfl
    refine ⟨?_, ?_, ?_, ?_⟩
    · rw [hall, contents_append, contents_append, hcontents, contents_map_writeContent]
      simp [contents]
    · rw [hall, List.count_append, List.count_append,
        List.count_eq_zero_of_not_mem (hquiet _ rfl),
        List.count_eq_zero_of_not_mem (by simp)]
      rfl
    · rw [hall, ← List.append_assoc, List.getLast?_append]
      rfl
    · rw [hhears]
      by_cases hne : bufs = []
      · rw [hne]
        exact List.not_mem_nil
      · rw [(GreynetAsyncadaptor.said_writes hfirst hne).1, hear_headers, if_neg (by simp [hgoes]),
          hset', ← List.append_nil (bufs.map _), hear_datas hbufs, List.mem_append, not_or]
        exact ⟨hquiet _ rfl, by simp [hear]⟩

/-- A transfer requested over connection 0, its adaptor one of playdar's. -/
def requested : Receiver Nat where
  transfers := startAll [⟨0, 0, "s"⟩]
  ss := ⟨0, 0, "s"⟩
  aa := .playdar 0
  reachable := reachable_startAll _
  live := rfl
  own := rfl

/-- Two chunks, and the end, arrive as they were sent ... -/
theorem framed_two_chunks :
    requested.Framed 1 [.setStatusCode 200, .setMimeType "audio/mpeg"] ["ab", "c"] :=
  (framed_iff requested 1 (by simp [AdaptorCall.setter]) rfl _).mpr ⟨by simp, by decide⟩

/-- ... but with an empty chunk between them the stream ends there, and `"c"` is never heard. -/
theorem empty_chunk_ends_stream :
    ¬ requested.Framed 1 [.setStatusCode 200, .setMimeType "audio/mpeg"] ["ab", "", "c"] := by
  intro h
  refine h.after ?_
  have hset : ∀ x ∈ [AdaptorCall.setStatusCode 200, .setMimeType "audio/mpeg"],
      x.setter = true := by simp [AdaptorCall.setter]
  rw [hears_eq _ _ hset]
  decide

end Transfers.Receiver

end Greynet
