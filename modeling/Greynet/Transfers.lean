/-
  Stream transfers: the two registration maps, `ss_greynet` and `greynet_asyncadaptor`.

  Source: `greynet.cpp` (`connection_terminated`, `register_sidtransfer`,
  `unregister_sidtransfer`, `start_sidrequest`, `handle_siddata`, `handle_sidheaders`,
  `handle_sidfail`), `ss_greynet.cpp`, `greynet_asyncadaptor.hpp`.

  A transfer in the receiving direction is an `ss_greynet`: it asks the peer behind `m_conn` for
  `m_sid` and feeds what arrives to its adaptor.  The plugin finds it by sid (`m_sid2ss`) when a
  stream message comes in, and by connection (`m_conn2sid`) when a connection dies.  A transfer
  in the sending direction is a `greynet_asyncadaptor`, which turns a strategy's calls into
  messages.

  1. `Registry` — the two maps and their three operations.  `unregister_sidtransfer` is a `while`
     loop; it is modelled by its iteration (`unregisterIter`) run under a bound.
  2. `GreynetAsyncadaptor` — the sending adaptor.
  3. `Transfers` — the registry with the `ss_greynet` objects and the adaptors, and one function
     for each method.  `atoi` and `boost::split`, by which the headers are read, come before them.
  4. `Transfers.step` — every event that reaches these methods, in any order.

  A handler may follow a null pointer (an `ss_greynet` that was never started has no adaptor) or go
  round a loop forever; both are values of `Fault`, and a step that meets one has no next state.
  What such a handler has done before it fails is the subject of `Greynet.TransferFaults`.
-/
import Greynet.Lib.Multimap
import Greynet.Lib.Runs
import Greynet.Router

namespace Greynet

variable {C : Type} [LinearOrder C]

/-! ## The registration maps -/

/-- `m_sid2ss` and `m_conn2sid`: the transfer of each sid, and the sids of each connection.  The
    keys of the second one are connections, ordered as the pointers they are. -/
structure Registry (C : Type) [LinearOrder C] where
  sid2ss : Sid → Option (SsGreynet C)
  conn2sid : Multimap C Sid

namespace Registry

/-- No transfer is registered. -/
def empty : Registry C := ⟨fun _ => none, .empty⟩

/-- `register_sidtransfer`: it does not look whether the sid is taken, and inserts a pair every
    time. -/
def registerSidtransfer (r : Registry C) (conn : C) (sid : Sid) (ss : SsGreynet C) : Registry C :=
  ⟨Function.update r.sid2ss sid (some ss), r.conn2sid.insert conn sid⟩

/-- One round of the loop in `unregister_sidtransfer`: `find(conn)`, leave at `end()`, erase and
    leave if the pair found carries `sid`. -/
def unregisterIter (conn : C) (sid : Sid) (m : Multimap C Sid) :
    Runs.Iter (Multimap C Sid) (Multimap C Sid) :=
  match m.find conn with
  | none => .exit m
  | some it => if it.2 = sid then .exit (m.eraseFound conn) else .again m

/-- `unregister_sidtransfer`.  The bound is one more than the number of pairs; a loop that has
    not ended by then never ends (`ends_unregisterIter`). -/
def unregisterSidtransfer (r : Registry C) (conn : C) (sid : Sid) : Except Fault (Registry C) :=
  match Runs.loop (unregisterIter conn sid) (r.conn2sid.entries.length + 1) r.conn2sid with
  | some m => .ok ⟨Function.update r.sid2ss sid none, m⟩
  | none => .error .hang

end Registry

/-! ## The sending adaptor -/

/-- `greynet_asyncadaptor`, with its members' initial values.  Whoever streams a song calls the
    setters and then the writes, and what it writes goes to the peer that has asked for the song. -/
structure GreynetAsyncadaptor (C : Type) where
  sid : Sid
  conn : C
  sentfirst : Bool := false
  status : Int32 := 200
  mimetype : String := "application/binary"
  contentlength : Int32 := 0

namespace GreynetAsyncadaptor

/-- The text `send_headers` writes: three lines, with nothing escaped. -/
def headers (a : GreynetAsyncadaptor C) : String :=
  "status\t" ++ toString a.status ++ "\n" ++
  "mime-type\t" ++ a.mimetype ++ "\n" ++
  "content-length\t" ++ toString a.contentlength ++ "\n"

/-- `send_headers`: the text goes out as a SIDHEADERS under the sid of the song. -/
def sendHeaders (a : GreynetAsyncadaptor C) : List (Action C) :=
  [.asyncWrite a.conn (generalMessage .sidheaders a.headers a.sid)]

/-- `write_content`: the headers go first, once, and then the bytes, however few they are. -/
def writeContent (a : GreynetAsyncadaptor C) (buffer : String) :
    GreynetAsyncadaptor C × List (Action C) :=
  ({ a with sentfirst := true },
   (if a.sentfirst then [] else a.sendHeaders) ++
     [.asyncWrite a.conn (generalMessage .siddata buffer a.sid)])

/-- `write_finish`: an empty SIDDATA, sent by way of `write_content`, headers first if need be. -/
def writeFinish (a : GreynetAsyncadaptor C) : GreynetAsyncadaptor C × List (Action C) :=
  a.writeContent ""

/-- `write_cancel`: a SIDFAIL, whether or not anything has been sent. -/
def writeCancel (a : GreynetAsyncadaptor C) : List (Action C) :=
  [.asyncWrite a.conn (generalMessage .sidfail "" a.sid)]

/-- One call on the adaptor, and the messages it has the adaptor send; a setter sends none. -/
def receive (a : GreynetAsyncadaptor C) : AdaptorCall → GreynetAsyncadaptor C × List (Action C)
  | .writeContent buffer => a.writeContent buffer
  | .writeFinish => a.writeFinish
  | .writeCancel => (a, a.writeCancel)
  | .setContentLength n => ({ a with contentlength := n }, [])
  | .setMimeType m => ({ a with mimetype := m }, [])
  | .setStatusCode n => ({ a with status := n }, [])

end GreynetAsyncadaptor

/-! ## `ss_greynet` -/

/-- The members of an `ss_greynet` that change.  The timer is told by whether it is there and
    whether a wait is pending on it; the waits that have run out are counted apart, for their
    handlers run in any case. -/
structure SsState where
  /-- `m_aa`, null before `start_reply` -/
  aa : Option AdaptorId := none
  /-- `m_timer`, null before `start_reply`; else whether a wait is pending on it -/
  timer : Option Bool := none
  /-- waits that ran out and whose handler the io_service has yet to run -/
  queuedTimeouts : Nat := 0
  bytesTransferred : Nat := 0
  /-- a `size_t`: a negative length becomes a huge one, but it is only ever printed -/
  contentlength : UInt64 := 0
  finished : Bool := false

/-- The registry, the `ss_greynet` objects and the plugin's own adaptors.  An adaptor is named by
    its place in the list, which only grows. -/
structure Transfers (C : Type) [LinearOrder C] where
  reg : Registry C
  ss : SsGreynet C → SsState
  adaptors : List (GreynetAsyncadaptor C)

/-- White space as `isspace` sees it, which is what `strtol` skips before a number. -/
def isSpace (c : Char) : Bool :=
  c = ' ' || c = '\t' || c = '\n' || c = '\r' || c = '\x0b' || c = '\x0c'

/-- The decimal number a text starts with, after `acc`; the first character that is no digit ends
    it. -/
def atoiDigits (acc : Nat) : List Char → Nat
  | [] => acc
  | c :: cs => if c.isDigit then atoiDigits (acc * 10 + (c.toNat - '0'.toNat)) cs else acc

/-- The number a text starts with, after white space and perhaps a sign; 0 if there is none.  It is
    as large as the text says, for the two functions below to cut down. -/
def leadingInt (s : String) : Int :=
  match s.toList.dropWhile isSpace with
  | '-' :: cs => -(atoiDigits 0 cs : Int)
  | '+' :: cs => atoiDigits 0 cs
  | cs => atoiDigits 0 cs

/-- `strtol` in base 10: a number that is no 64-bit `long` becomes the end of the range it lies
    beyond, `LONG_MIN` or `LONG_MAX`. -/
def strtol (s : String) : Int := max (-2 ^ 63) (min (leadingInt s) (2 ^ 63 - 1))

/-- `atoi`, which is `(int) strtol(s, nullptr, 10)`: the `long` is cut down to its low 32 bits.  So
    a number that is an `int` is read as it is, and `4294967496`, which is 2^32 + 200, is read as
    200. -/
def atoi (s : String) : Int32 := Int32.ofInt (strtol s)

/-- `boost::split(parts, s, is_any_of(d))`: two separators in a row have an empty part between them,
    and a text without any is one part. -/
def splitAt (s : String) (d : Char) : List String := (s.toList.splitOn d).map String.ofList

namespace Transfers

/-- No transfer is registered, no object has been started, and there is no adaptor of the
    plugin's. -/
def empty : Transfers C := ⟨.empty, fun _ => {}, []⟩

/-- Change one `ss_greynet`, and leave the others as they are. -/
def modifySs (t : Transfers C) (ss : SsGreynet C) (f : SsState → SsState) : Transfers C :=
  { t with ss := Function.update t.ss ss (f (t.ss ss)) }

/-- A call on an adaptor of any class: one of playdar's is an action, and one of the plugin's own
    changes state as well and sends its messages. -/
def adaptorCall (t : Transfers C) (aa : AdaptorId) (call : AdaptorCall) :
    Transfers C × List (Action C) :=
  match aa with
  | .playdar _ => (t, [.adaptor aa call])
  | .greynet n =>
    match t.adaptors[n]? with
    | none => (t, [.adaptor aa call])
    | some a =>
      ({ t with adaptors := t.adaptors.set n (a.receive call).1 },
       .adaptor aa call :: (a.receive call).2)

/-- `m_greynet->unregister_sidtransfer(conn(), sid())`, with what the object itself was made
    with. -/
def unregister (t : Transfers C) (ss : SsGreynet C) : Except Fault (Transfers C) :=
  match t.reg.unregisterSidtransfer ss.conn ss.sid with
  | .ok r => .ok { t with reg := r }
  | .error f => .error f

/-- `ss_greynet::cancel_handler`: `write_cancel` first, without looking whether there is an adaptor,
    then `unregister_sidtransfer`. -/
def cancelHandler (t : Transfers C) (ss : SsGreynet C) :
    Except Fault (Transfers C × List (Action C)) :=
  match (t.ss ss).aa with
  | none => .error .nullDeref
  | some aa =>
    match (t.adaptorCall aa .writeCancel).1.unregister ss with
    | .error f => .error f
    | .ok t' => .ok (t', .cancelHandler ss :: (t.adaptorCall aa .writeCancel).2)

/-- `greynet::start_sidrequest`: the transfer is registered, and the SIDREQUEST goes out. -/
def startSidrequest (t : Transfers C) (conn : C) (sid : Sid) (ss : SsGreynet C) (uuid : String) :
    Transfers C × List (Action C) :=
  ({ t with reg := t.reg.registerSidtransfer conn sid ss },
   [.asyncWrite conn (generalMessage .sidrequest sid uuid)])

/-- `ss_greynet::start_reply`; `ready` is what `m_conn->ready()` answers.  The members are reset and
    the adaptor stored in either case; only a transfer that is requested gets a timer. -/
def startReply (t : Transfers C) (ss : SsGreynet C) (aa : AdaptorId) (ready : Bool)
    (uuid : String) : Except Fault (Transfers C × List (Action C)) :=
  let t₀ := t.modifySs ss fun x =>
    { x with finished := false, contentlength := 0, bytesTransferred := 0, aa := some aa }
  if ready then
    let started := t₀.startSidrequest ss.conn ss.sid ss uuid
    .ok (started.1.modifySs ss fun x => { x with timer := some true }, started.2)
  else t₀.cancelHandler ss

/-- `ss_greynet::siddata_handler`: an empty part means that the transfer has come to its end. -/
def siddataHandler (t : Transfers C) (ss : SsGreynet C) (payload : String) :
    Except Fault (Transfers C × List (Action C)) :=
  match (t.ss ss).aa with
  | none => .error .nullDeref
  | some aa =>
    if payload.length = 0 then
      let called := (t.modifySs ss fun x => { x with finished := true }).adaptorCall aa .writeFinish
      match called.1.unregister ss with
      | .error f => .error f
      | .ok t' => .ok (t', called.2)
    else
      .ok ((t.modifySs ss fun x =>
        { x with bytesTransferred := x.bytesTransferred + payload.length }).adaptorCall aa
          (.writeContent payload))

/-- The loop over the header lines in `ss_greynet::sidheaders_handler`; `aa` is `m_aa`.  A status
    other than 200 is passed on, has the transfer cancelled, and ends the loop. -/
def headerLines (t : Transfers C) (ss : SsGreynet C) (aa : AdaptorId) :
    List String → Except Fault (Transfers C × List (Action C))
  | [] => .ok (t, [])
  | line :: lines =>
    match splitAt line '\t' with
    | [key, val] =>
      if key = "status" then
        let called := t.adaptorCall aa (.setStatusCode (atoi val))
        if atoi val ≠ 200 then
          match called.1.cancelHandler ss with
          | .error f => .error f
          | .ok (t', out) => .ok (t', called.2 ++ out)
        else
          match headerLines called.1 ss aa lines with
          | .error f => .error f
          | .ok (t', out) => .ok (t', called.2 ++ out)
      else if key = "mime-type" then
        let called := t.adaptorCall aa (.setMimeType val)
        match headerLines called.1 ss aa lines with
        | .error f => .error f
        | .ok (t', out) => .ok (t', called.2 ++ out)
      else if key = "content-length" then
        let called := t.adaptorCall aa (.setContentLength (atoi val))
        match headerLines (called.1.modifySs ss fun x =>
            { x with contentlength := (atoi val).toInt64.toUInt64 }) ss aa lines with
        | .error f => .error f
        | .ok (t', out) => .ok (t', called.2 ++ out)
      else headerLines t ss aa lines
    | _ => headerLines t ss aa lines

/-- `ss_greynet::sidheaders_handler`: it stops the timer, then reads the lines. -/
def sidheadersHandler (t : Transfers C) (ss : SsGreynet C) (msgp : Message) :
    Except Fault (Transfers C × List (Action C)) :=
  match (t.ss ss).timer, (t.ss ss).aa with
  | some _, some aa =>
    (t.modifySs ss fun x => { x with timer := some false }).headerLines ss aa
      (splitAt msgp.payload '\n')
  | _, _ => .error .nullDeref

/-- `ss_greynet::timeout_cb` without an error code; with one it returns at once, and is no event
    here. -/
def timeoutCb (t : Transfers C) (ss : SsGreynet C) : Except Fault (Transfers C × List (Action C)) :=
  t.cancelHandler ss

/-! ## The handlers of `greynet` -/

/-- The second loop of `connection_terminated`; `m_sid2ss[s]` is null for a sid not there. -/
def cancelSids (t : Transfers C) : List Sid → Except Fault (Transfers C × List (Action C))
  | [] => .ok (t, [])
  | s :: sids =>
    match t.reg.sid2ss s with
    | none => .error .nullDeref
    | some ss =>
      match t.cancelHandler ss with
      | .error f => .error f
      | .ok (t', out) =>
        match cancelSids t' sids with
        | .error f => .error f
        | .ok (t'', out') => .ok (t'', out ++ out')

/-- The sids `connection_terminated` gathers: the iterator starts at `find(conn)` and is
    compared with `end()`. -/
def activeSids (t : Transfers C) (conn : C) : List Sid :=
  (t.reg.conn2sid.fromFound conn).map Prod.snd

/-- `greynet::connection_terminated`: gather the sids, then cancel them. -/
def connectionTerminated (t : Transfers C) (conn : C) :
    Except Fault (Transfers C × List (Action C)) :=
  t.cancelSids (t.activeSids conn)

/-- `greynet::handle_siddata`: a sid that is nobody's is ignored, and the connection it came in on
    is not looked at. -/
def handleSiddata (t : Transfers C) (_conn : C) (msgp : Message) :
    Except Fault (Transfers C × List (Action C)) :=
  match t.reg.sid2ss msgp.guid with
  | none => .ok (t, [])
  | some ss => t.siddataHandler ss msgp.payload

/-- `greynet::handle_sidheaders`, likewise. -/
def handleSidheaders (t : Transfers C) (_conn : C) (msgp : Message) :
    Except Fault (Transfers C × List (Action C)) :=
  match t.reg.sid2ss msgp.guid with
  | none => .ok (t, [])
  | some ss => t.sidheadersHandler ss msgp

/-- `greynet::handle_sidfail`, likewise; it has the transfer cancelled. -/
def handleSidfail (t : Transfers C) (_conn : C) (msgp : Message) :
    Except Fault (Transfers C × List (Action C)) :=
  match t.reg.sid2ss msgp.guid with
  | none => .ok (t, [])
  | some ss => t.cancelHandler ss

/-! ## Every event -/

/-- What reaches the transfers, from peers, from playdar and from the io_service, in any order. -/
inductive Event (C : Type) where
  /-- playdar, or `handle_sidrequest`, calls `start_reply` -/
  | startReply (ss : SsGreynet C) (aa : AdaptorId) (ready : Bool) (uuid : String)
  | siddata (conn : C) (msgp : Message)
  | sidheaders (conn : C) (msgp : Message)
  | sidfail (conn : C) (msgp : Message)
  /-- the pending wait on `m_timer` runs out -/
  | timerExpires (ss : SsGreynet C)
  /-- the io_service runs the handler of a wait that ran out -/
  | timeoutCb (ss : SsGreynet C)
  | connectionTerminated (conn : C)
  /-- `handle_sidrequest` makes a sending adaptor -/
  | newAdaptor (conn : C) (sid : Sid)
  /-- a strategy of playdar's drives an adaptor -/
  | adaptorCall (aa : AdaptorId) (call : AdaptorCall)

/-- The next state and the actions; an event that cannot happen yet changes nothing. -/
def step (t : Transfers C) : Event C → Except Fault (Transfers C × List (Action C))
  | .startReply ss aa ready uuid => t.startReply ss aa ready uuid
  | .siddata conn msgp => t.handleSiddata conn msgp
  | .sidheaders conn msgp => t.handleSidheaders conn msgp
  | .sidfail conn msgp => t.handleSidfail conn msgp
  | .timerExpires ss =>
    if (t.ss ss).timer = some true then
      .ok (t.modifySs ss fun x =>
        { x with timer := some false, queuedTimeouts := x.queuedTimeouts + 1 }, [])
    else .ok (t, [])
  | .timeoutCb ss =>
    if (t.ss ss).queuedTimeouts = 0 then .ok (t, [])
    else
      (t.modifySs ss fun x => { x with queuedTimeouts := x.queuedTimeouts - 1 }).timeoutCb ss
  | .connectionTerminated conn => t.connectionTerminated conn
  | .newAdaptor conn sid => .ok ({ t with adaptors := t.adaptors ++ [{ sid, conn }] }, [])
  | .adaptorCall aa call => .ok (t.adaptorCall aa call)

/-- The states runs reach from no transfer at all, whatever the events are. -/
def Reachable (t : Transfers C) : Prop := Runs.Reachable step (fun t₀ => t₀ = empty) t

end Transfers

end Greynet
