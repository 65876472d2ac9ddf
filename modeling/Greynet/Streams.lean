/-
  Streams that are passed on.

  A peer that is asked for a stream it does not have itself asks the peer it knows the stream from,
  and gives its `ss_greynet` the asking peer's `greynet_asyncadaptor`.  What comes in upstream is
  turned into calls on that adaptor, and those into messages again.  No code says "relay" anywhere:
  it is what comes of `handle_sidrequest` when the item's url leads to a peer.

  The two halves are those of `Greynet.Framing`: `hear` for the way in and `said` for the way out.
  A relay is the one after the other, and a chain of relays is that again and again; so what they
  keep of a stream is found by looking at what `hear` and `said` keep, and neither has any state
  beyond one stream.

  1. `stream` — the messages of a whole stream; `said_stream`: they are what an adaptor sends.
  2. `Relay` — an `ss_greynet` with a fresh `greynet_asyncadaptor`; `run_eq`: what it sends is what
     the adaptor says when told what the transfer hears.
  3. `Tells` — messages that carry these chunks and this end, whatever their headers say;
     `tells_run`: a relay keeps them, and `tells_chain`: so does a chain of relays.
  4. `relay_transparent` — what a relay, and a chain of them, does to a stream.
-/
import Greynet.Framing

namespace Greynet

open Transfers GreynetAsyncadaptor

variable {C : Type}

/-! ## Whole streams -/

/-- How a stream ends: with `write_finish` or with `write_cancel`. -/
inductive StreamEnd where
  | finished
  | failed
  deriving DecidableEq, Repr

namespace StreamEnd

/-- The call a strategy ends a stream with, and the one that the last adaptor should get. -/
def call : StreamEnd → AdaptorCall
  | finished => .writeFinish
  | failed => .writeCancel

/-- The message it becomes: an empty SIDDATA, or a SIDFAIL. -/
def message (sid : Sid) : StreamEnd → Message
  | finished => dataMessage sid ""
  | failed => generalMessage .sidfail "" sid

/-- Either of them is the last thing that is heard. -/
theorem hear_message (sid : Sid) (fin : StreamEnd) (msgs : List Message) :
    hear (fin.message sid :: msgs) = [fin.call] := by cases fin <;> rfl

end StreamEnd

/-- One SIDHEADERS, the SIDDATAs, and the end: the messages of a stream that has got as far as
    that. -/
def stream (a : GreynetAsyncadaptor C) (bufs : List String) (fin : StreamEnd) : List Message :=
  a.headersMessage :: (bufs.map (dataMessage a.sid) ++ [fin.message a.sid])

/-- What an adaptor sends of a stream: if it fails before anything was written, no headers have gone
    out and the SIDFAIL is all. -/
def emitted (a : GreynetAsyncadaptor C) (bufs : List String) (fin : StreamEnd) : List Message :=
  if bufs = [] ∧ fin = .failed then [fin.message a.sid] else stream a bufs fin

/-- **The messages of the calls a strategy makes**, from a fresh adaptor: the writes, and one of the
    two ends. -/
theorem said_stream {a : GreynetAsyncadaptor C} (h : a.sentfirst = false) (bufs : List String)
    (fin : StreamEnd) : a.said (bufs.map .writeContent ++ [fin.call]) = emitted a bufs fin := by
  cases fin with
  | finished =>
    rw [emitted, if_neg (by simp)]
    exact said_finish h bufs
  | failed =>
    have hcancel := said_cancel a bufs
    by_cases hbufs : bufs = []
    · rw [emitted, if_pos ⟨hbufs, rfl⟩, hbufs]
      rfl
    · rw [emitted, if_neg (fun hboth => hbufs hboth.1)]
      obtain ⟨hsaid, htold⟩ := said_writes h hbufs
      rw [hsaid, htold] at hcancel
      exact hcancel

/-- All of it goes under the adaptor's sid, so one transfer hears all of it. -/
theorem guid_of_stream (a : GreynetAsyncadaptor C) (bufs : List String) (fin : StreamEnd) :
    ∀ msgp ∈ stream a bufs fin, msgp.guid = a.sid := by
  intro msgp hin
  rcases List.mem_cons.mp hin with rfl | hin
  · rfl
  · rcases List.mem_append.mp hin with hin | hin
    · obtain ⟨b, -, rfl⟩ := List.mem_map.mp hin
      rfl
    · obtain rfl := List.mem_singleton.mp hin
      cases fin <;> rfl

/-- The end of what is heard of chunks that are not empty: each of them, and then the end that was
    sent. -/
theorem hear_chunks (sid : Sid) {bufs : List String} (h : ∀ b ∈ bufs, b ≠ "") (fin : StreamEnd) :
    hear (bufs.map (dataMessage sid) ++ [fin.message sid]) =
      bufs.map .writeContent ++ [fin.call] := by
  rw [hear_datas h, fin.hear_message]

/-! ## Headers that are read -/

/-- What the header loop can set without cancelling: the status 200, a mime type without tabs and
    newlines, any length. -/
def HeaderCall : AdaptorCall → Prop
  | .setStatusCode n => n = 200
  | .setMimeType m => Plain m
  | .setContentLength _ => True
  | _ => False

/-- Such a call only sets something. -/
theorem HeaderCall.setter {x : AdaptorCall} (h : HeaderCall x) : x.setter = true := by
  cases x with
  | setStatusCode | setMimeType | setContentLength => rfl
  | _ => exact h.elim

/-- The mime type of a fresh adaptor can be sent on as it is. -/
theorem plain_default : Plain "application/binary" := by decide

/-- **Header lines that do not cancel set a status of 200 and plain mime types only.**  A line has
    no newline in it, and a value no tab, for else the line is skipped; so what is set once can be
    sent on unharmed. -/
theorem headerCalls_headerCall {lines : List String} (hlines : ∀ line ∈ lines, '\n' ∉ line.toList)
    (h : lines.any statusAborts = false) : ∀ x ∈ headerCalls lines, HeaderCall x := by
  obtain ⟨init, hinit, hcalls⟩ := headerCalls_eq lines
  rw [hcalls, h, if_neg Bool.false_ne_true, List.append_nil]
  intro x hx
  obtain ⟨line, hin, hline⟩ := hinit x hx
  obtain ⟨key, val, hsplit, ⟨rfl, rfl⟩ | ⟨-, rfl⟩ | ⟨-, rfl⟩⟩ := lineCall_cases hline
  · have hab : statusAborts line = false := by simpa using List.any_eq_false.mp h line hin
    rw [statusAborts, hsplit] at hab
    have hcode : atoi val = 200 := by simpa using hab
    exact hcode
  · have hval : val ∈ splitAt line '\t' := by simp [hsplit]
    refine ⟨notMem_of_mem_splitAt hval, fun hbreak => ?_⟩
    exact hlines line hin (mem_of_mem_splitAt hval hbreak)
  · exact trivial

/-- So do the headers of an adaptor, if they do not cancel: whatever its mime type was, what is read
    of it is plain. -/
theorem headerCalls_proper {a : GreynetAsyncadaptor C} (h : abortsHeaders a.headers = false) :
    ∀ x ∈ headerCalls (splitAt a.headers '\n'), HeaderCall x :=
  headerCalls_headerCall (fun _ hline => notMem_of_mem_splitAt hline) h

/-- An adaptor that is told such things keeps a status of 200 and a plain mime type, so its own
    headers will not cancel either. -/
theorem told_headerCalls (calls : List AdaptorCall) : ∀ a : GreynetAsyncadaptor C,
    (∀ x ∈ calls, HeaderCall x) → a.status = 200 → Plain a.mimetype →
    (a.told calls).status = 200 ∧ Plain (a.told calls).mimetype := by
  induction calls with
  | nil => exact fun a _ hst hm => ⟨hst, hm⟩
  | cons x calls ih =>
    intro a h hst hm
    have hx := h x (List.mem_cons_self ..)
    have hrest : ∀ y ∈ calls, HeaderCall y := fun y hy => h y (List.mem_cons_of_mem _ hy)
    cases x with
    | setStatusCode n => exact ih { a with status := n } hrest hx hm
    | setMimeType m => exact ih { a with mimetype := m } hrest hst hx
    | setContentLength n => exact ih { a with contentlength := n } hrest hst hm
    | _ => exact hx.elim

/-! ## A relay -/

/-- The messages written to one connection, in order: what its other end will get. -/
def sentOn [DecidableEq C] (conn : C) (out : List (Action C)) : List Message :=
  out.filterMap fun
    | .asyncWrite c msg => if c = conn then some msg else none
    | _ => none

/-- Those of two batches are those of the one and then those of the other. -/
@[simp] theorem sentOn_append [DecidableEq C] (conn : C) (out out' : List (Action C)) :
    sentOn conn (out ++ out') = sentOn conn out ++ sentOn conn out' := List.filterMap_append

/-- Where all is written to one connection, that is all that is sent. -/
theorem sentOn_eq_sent [DecidableEq C] {conn : C} {out : List (Action C)}
    (h : ∀ c msg, .asyncWrite c msg ∈ out → c = conn) : sentOn conn out = sent out := by
  refine List.filterMap_congr fun x hx => ?_
  cases x with
  | asyncWrite c msg => simp [h c msg hx]
  | _ => rfl

variable [LinearOrder C]

/-- The marks of `cancel_handler` are no messages. -/
theorem sentOn_heard (conn : C) (out : List (Action C)) :
    sentOn conn (Transfers.heard out) = sentOn conn out := by
  rw [sentOn, sentOn, Transfers.heard, List.filterMap_filter]
  refine List.filterMap_congr fun x _ => ?_
  cases x <;> rfl

/-- An adaptor's calls are what it says to its connection: it sends there what it says, and nothing
    else of the call goes out. -/
theorem sentOn_speak {as : List (GreynetAsyncadaptor C)} {n : Nat} {a : GreynetAsyncadaptor C}
    (ha : as[n]? = some a) (call : AdaptorCall) :
    (speak as (.greynet n, call)).1[n]? = some (a.receive call).1 ∧
      sentOn a.conn (speak as (.greynet n, call)).2 = sent (a.receive call).2 := by
  obtain ⟨hlt, -⟩ := List.getElem?_eq_some_iff.mp ha
  rw [speak, ha]
  refine ⟨by simp [hlt], ?_⟩
  show sentOn a.conn (a.receive call).2 = _
  refine sentOn_eq_sent fun c msg hin => ?_
  obtain ⟨msg', he, -⟩ := receive_writes a call _ hin
  exact (Action.asyncWrite.inj he).1

/-- **Calls on one of the plugin's adaptors, and on no other**, by induction on the calls: the
    adaptor is told them, and its connection gets what it says to them. -/
theorem feed_speak (calls : List AdaptorCall) : ∀ {as : List (GreynetAsyncadaptor C)} {n : Nat}
    {a : GreynetAsyncadaptor C}, as[n]? = some a →
    (Transducers.feed speak as (calls.map fun call => (.greynet n, call))).1[n]? =
        some (a.told calls) ∧
      sentOn a.conn (Transducers.feed speak as (calls.map fun call => (.greynet n, call))).2 =
        a.said calls := by
  induction calls with
  | nil => exact fun ha => ⟨ha, rfl⟩
  | cons call calls ih =>
    intro as n a ha
    obtain ⟨hnext, hsent⟩ := sentOn_speak ha call
    have hconn : (a.receive call).1.conn = a.conn := by cases call <;> rfl
    obtain ⟨htold, hsaid⟩ := ih hnext
    rw [hconn] at hsaid
    refine ⟨htold, ?_⟩
    rw [List.map_cons, Transducers.feed_cons, sentOn_append, hsent, hsaid, said_cons]

/-- A transfer that feeds a fresh adaptor of the plugin's, the only one on its connection, so that
    the loop of `unregister_sidtransfer` finds its pair first. -/
structure Relay (C : Type) [LinearOrder C] where
  receiver : Receiver C
  n : Nat
  a : GreynetAsyncadaptor C
  feeds : receiver.aa = .greynet n
  adaptor : receiver.transfers.adaptors[n]? = some a
  /-- nothing has been called on the adaptor -/
  fresh : a = { sid := a.sid, conn := a.conn }
  alone : receiver.transfers.reg.conn2sid.values receiver.ss.conn = [receiver.ss.sid]

namespace Relay

/-- The messages it writes downstream while messages are delivered upstream, one after another. -/
def run (r : Relay C) (msgs : List Message) : List Message :=
  sentOn r.a.conn ((Runs.trace step r.receiver.transfers (r.receiver.events msgs)).flatMap
    Runs.Step.out)

/-- All handlers return, for every one of the messages. -/
def Returns (r : Relay C) (msgs : List Message) : Prop :=
  ∃ u, Runs.play step r.receiver.transfers (r.receiver.events msgs) = .ok u

end Relay

section

variable {ss : SsGreynet C} {conn : C} {n : Nat}

/-- Messages for a transfer that is over change nothing and say nothing, ... -/
theorem step_gone {t : Transfers C} {msgp : Message} {e : Event C} (hgone : Gone t ss)
    (he : Node.streamEvent conn msgp = some e) (hguid : msgp.guid = ss.sid) :
    step t e = .ok (t, []) := by
  have hnone : t.reg.sid2ss msgp.guid = none := by rw [hguid, hgone]
  rcases streamEvent_cases he with ⟨-, rfl⟩ | ⟨-, rfl⟩ | ⟨-, rfl⟩
  · simp only [step, handleSiddata, hnone]
  · simp only [step, handleSidheaders, hnone]
  · simp only [step, handleSidfail, hnone]

/-- ... however many there are. -/
theorem run_gone (conn : C) {t : Transfers C} (hgone : Gone t ss) (msgs : List Message)
    (hguid : ∀ msgp ∈ msgs, msgp.guid = ss.sid) :
    Runs.play step t (msgs.filterMap (Node.streamEvent conn)) = .ok t ∧
      (Runs.trace step t (msgs.filterMap (Node.streamEvent conn))).flatMap Runs.Step.out = [] := by
  induction msgs with
  | nil => exact ⟨rfl, rfl⟩
  | cons msgp msgs ih =>
    have ih := ih fun x hx => hguid x (List.mem_cons_of_mem _ hx)
    rcases he : Node.streamEvent conn msgp with _ | e
    · rw [List.filterMap_cons_none he]
      exact ih
    · -- a message for a transfer that is over is read and ignored
      have hstep := step_gone hgone he (hguid msgp (List.mem_cons_self ..))
      rw [List.filterMap_cons_some he, Runs.play, Runs.trace, hstep]
      exact ih

/-- A transfer that feeds the adaptor `n`, and its adaptor, somewhere in a stream: what the
    induction over the messages needs to know of the state. -/
structure Relaying (t : Transfers C) (ss : SsGreynet C) (n : Nat) (a : GreynetAsyncadaptor C) :
    Prop where
  sound : t.Sound
  live : Live t ss
  own : (t.ss ss).aa = some (.greynet n)
  adaptor : t.adaptors[n]? = some a
  alone : t.reg.conn2sid.values ss.conn = [ss.sid]

/-- **One message of the stream**: its handler returns, the adaptor says what it is told, and
    the transfer goes on as before or is over. -/
theorem Relaying.step {t : Transfers C} {a : GreynetAsyncadaptor C} (h : Relaying t ss n a)
    {msgp : Message} {e : Event C} (he : Node.streamEvent conn msgp = some e)
    (hguid : msgp.guid = ss.sid) :
    ∃ t' out, Transfers.step t e = .ok (t', out) ∧
      sentOn a.conn out = a.said (messageCalls msgp) ∧
      (messageEnds msgp = true → Gone t' ss) ∧
      (messageEnds msgp = false → Relaying t' ss n (a.told (messageCalls msgp))) := by
  have htarget : t.target e = if messageEnds msgp then some ss else none := by
    rw [streamEvent_target he, hguid, h.live]
  obtain ⟨⟨t', out⟩, hok⟩ := (step_isOk h.sound (streamEvent_ne he).2).mpr fun ss' hss' => by
    rw [htarget] at hss'
    split at hss'
    · obtain rfl := Option.some.inj hss'
      -- the connection feeds this transfer alone, so the first sid found is its own
      refine Registry.unregisterSidtransfer_isOk.mpr fun s hs => ?_
      rw [Registry.firstSid, h.alone] at hs
      exact (Option.some.inj hs).symm
    · cases hss'
  have hsid := sid2ss_stream h.sound he hok hguid (Or.inl h.live)
  have hscript : t.script e = (messageCalls msgp).map fun call => (.greynet n, call) := by
    rw [streamEvent_script he, hguid, script.told, h.live, Option.bind_some, h.own]
  obtain ⟨hnext, hsaid⟩ := feed_speak (messageCalls msgp) h.adaptor
  -- a message of a stream neither starts a transfer nor makes an adaptor
  have hplays : Plays t (t.script e) t' out := by
    rcases step_plays h.sound hok with hp | ⟨ss', aa, uuid, he', -⟩ | ⟨c, sid, rfl, -⟩
    · exact hp
    · exact absurd he' ((streamEvent_ne he).1 _ _ _ _)
    · rcases streamEvent_cases he with ⟨-, he'⟩ | ⟨-, he'⟩ | ⟨-, he'⟩ <;> cases he'
  rw [Plays, hscript] at hplays
  rw [hplays] at hnext hsaid
  refine ⟨t', out, hok, by rw [← sentOn_heard, hsaid], fun hends => ?_, fun hends => ?_⟩
  · rw [Gone, hsid, if_pos hends]
  · rw [hends, if_neg Bool.false_ne_true] at hsid htarget
    have hreg : t'.reg = t.reg := by
      rcases step_reg hok with ⟨ss', hss', -⟩ | ⟨-, hreg, -⟩ | ⟨ss', aa, uuid, he', -⟩ | ⟨c, he', -⟩
      · rw [htarget] at hss'
        cases hss'
      · exact hreg
      · exact absurd he' ((streamEvent_ne he).1 _ _ _ _)
      · exact absurd he' ((streamEvent_ne he).2 c)
    refine ⟨sound_step h.sound hok, hsid.trans h.live, ?_, hnext, by rw [hreg, h.alone]⟩
    rcases aa_step h.sound hok ss with ⟨aa, ready, uuid, he', -⟩ | hsame
    · exact absurd he' ((streamEvent_ne he).1 _ _ _ _)
    · rw [hsame, h.own]

/-- **A whole run of messages**, by induction on them.  As long as the stream goes on the state is
    `Relaying`, with the adaptor told what has been heard; the message that ends it takes the pair
    that `find` sees. -/
theorem Relaying.run (msgs : List Message) : ∀ {t : Transfers C} {a : GreynetAsyncadaptor C},
    Relaying t ss n a → (∀ msgp ∈ msgs, msgp.guid = ss.sid) →
    (∃ u, Runs.play Transfers.step t (msgs.filterMap (Node.streamEvent conn)) = .ok u) ∧
      sentOn a.conn ((Runs.trace Transfers.step t
        (msgs.filterMap (Node.streamEvent conn))).flatMap Runs.Step.out) = a.said (hear msgs) := by
  induction msgs with
  | nil => exact fun _ _ => ⟨⟨_, rfl⟩, rfl⟩
  | cons msgp msgs ih =>
    intro t a h hguid
    have hrest : ∀ x ∈ msgs, x.guid = ss.sid := fun x hx => hguid x (List.mem_cons_of_mem _ hx)
    rcases he : Node.streamEvent conn msgp with _ | e
    · rw [List.filterMap_cons_none he, hear_skip he]
      exact ih h hrest
    · obtain ⟨t', out, hok, hsent, hgone, hgoes⟩ :=
        h.step he (hguid msgp (List.mem_cons_self ..))
      rw [List.filterMap_cons_some he, Runs.play, Runs.trace, hok]
      have hcons : ((⟨t, e, t', out⟩ :: Runs.trace Transfers.step t'
          (msgs.filterMap (Node.streamEvent conn))).flatMap Runs.Step.out) =
          out ++ (Runs.trace Transfers.step t'
            (msgs.filterMap (Node.streamEvent conn))).flatMap Runs.Step.out := rfl
      simp only
      rw [hcons, sentOn_append, hsent, hear, said_append]
      -- after the end of the stream nothing more is heard
      cases hends : messageEnds msgp with
      | true =>
        obtain ⟨hplay, hnone⟩ := run_gone conn (hgone hends) msgs hrest
        rw [hplay, hnone]
        exact ⟨⟨_, rfl⟩, rfl⟩
      | false =>
        obtain ⟨hplay, hsaid⟩ := ih (hgoes hends) hrest
        rw [told_conn] at hsaid
        exact ⟨hplay, by rw [hsaid]; rfl⟩

end

namespace Relay

/-- The state a relay is in before its stream. -/
theorem relaying (r : Relay C) : Relaying r.receiver.transfers r.receiver.ss r.n r.a :=
  ⟨r.receiver.reachable.sound, r.receiver.live, r.receiver.own.trans (congrArg some r.feeds),
    r.adaptor, r.alone⟩

/-- **A relay sends what its adaptor says when told what its transfer hears**, and its handlers
    return. -/
theorem run_eq (r : Relay C) {msgs : List Message}
    (h : ∀ msgp ∈ msgs, msgp.guid = r.receiver.ss.sid) :
    r.Returns msgs ∧ r.run msgs = r.a.said (hear msgs) := r.relaying.run msgs h

end Relay

/-- **`handle_sidrequest` sets up a relay**, when the stream is one of a ready peer's from whom
    nothing else is being received. -/
theorem Node.relay_of_sidrequest {host : Host C} {hist : Node.History C} {n : Node C}
    (hr : Node.Run host hist n) {conn : C} {msgp : Message} {url uuid : String} {oid : Nat}
    {ss : SsGreynet C} (hss : ssFactory host n.mesh.router url oid = some ss)
    (hready : host.lib.ready n.mesh.router ss.conn = true)
    (halone : n.transfers.reg.conn2sid.values ss.conn = []) :
    ∃ (n' : Node C) (out : List (Action C)) (r : Relay C),
      n.handleSidrequest host conn msgp (.greynet url oid) uuid = .ok (n', out) ∧
      r.receiver.transfers = n'.transfers ∧ r.receiver.ss = ss ∧
      r.a = { sid := msgp.payload, conn := conn } := by
  let a : GreynetAsyncadaptor C := { sid := msgp.payload, conn := conn }
  let t : Transfers C := { n.transfers with adaptors := n.transfers.adaptors ++ [a] }
  have hnew : Transfers.step n.transfers (.newAdaptor conn msgp.payload) = .ok (t, []) := rfl
  obtain ⟨t', hstart, hreg, haa, -⟩ :=
    startReply_ready t ss (.greynet n.transfers.adaptors.length) uuid
  have hstep : Transfers.step t (.startReply ss (.greynet n.transfers.adaptors.length) true uuid) =
      .ok (t', [.asyncWrite ss.conn (generalMessage .sidrequest ss.sid uuid)]) := hstart
  have hmid : Reachable t := hr.transfers.next hnew
  have hreach : Reachable t' := hmid.next hstep
  -- starting a transfer makes no adaptor
  have hadaptors : t'.adaptors = t.adaptors := by
    rcases step_plays hmid.sound hstep with hp | ⟨_, _, _, _, h, -⟩ |
      ⟨_, _, he, -⟩
    · exact (congrArg Prod.fst hp).symm
    · exact h
    · cases he
  have hlive : Live t' ss := by
    rw [Live, hreg]
    exact Function.update_self ..
  have hvalues : t'.reg.conn2sid.values ss.conn = [ss.sid] := by
    rw [hreg]
    show (t.reg.conn2sid.insert ss.conn ss.sid).values ss.conn = _
    rw [Multimap.values_insert_self]
    show n.transfers.reg.conn2sid.values ss.conn ++ _ = _
    rw [halone]
    rfl
  have hadaptor : t'.adaptors[n.transfers.adaptors.length]? = some a := by
    rw [hadaptors]
    exact List.getElem?_concat_length
  refine ⟨{ n with transfers := t' },
    [.asyncWrite ss.conn (generalMessage .sidrequest ss.sid uuid)],
    ⟨⟨t', ss, _, hreach, hlive, haa⟩, _, a, rfl, hadaptor, rfl, hvalues⟩, ?_, rfl, rfl, rfl⟩
  simp only [handleSidrequest, hss, hready]
  show n.onTransfers (t.startReply ss _ true uuid) = _
  rw [hstart]
  rfl

/-! ## What a relay keeps -/

/-- Messages of one sid that carry these chunks and this end: what is heard of them is settings,
    the chunks and the end.  The settings are those of proper headers, unless nothing but a failure
    is carried. -/
structure Tells (sid : Sid) (bufs : List String) (fin : StreamEnd) (msgs : List Message) :
    Prop where
  guid : ∀ msgp ∈ msgs, msgp.guid = sid
  heard : ∃ init, (∀ x ∈ init, x.setter = true) ∧
    ((bufs = [] ∧ fin = .failed) ∨ ∀ x ∈ init, HeaderCall x) ∧
    hear msgs = init ++ (bufs.map .writeContent ++ [fin.call])

/-- The bytes and the end of what is told are those that the messages carry. -/
theorem Tells.outcome {sid : Sid} {bufs : List String} {fin : StreamEnd} {msgs : List Message}
    (h : Tells sid bufs fin msgs) : contents (hear msgs) = bufs ∧
      (hear msgs).filter AdaptorCall.terminal = [fin.call] := by
  obtain ⟨init, hinit, -, hheard⟩ := h.heard
  -- what comes before the bytes are headers, which write nothing and end nothing
  have hquiet : ∀ x ∈ init, x.terminal = false ∧ ∀ b, x ≠ .writeContent b := by
    intro x hx
    have hset := hinit x hx
    cases x with
    | setContentLength | setMimeType | setStatusCode => exact ⟨rfl, fun b h => by cases h⟩
    | _ => cases hset
  have hend : contents [fin.call] = [] ∧ [fin.call].filter AdaptorCall.terminal = [fin.call] := by
    cases fin <;> exact ⟨rfl, rfl⟩
  have hcontents : contents init = [] := contents_eq_nil fun b hb => (hquiet _ hb).2 b rfl
  have hfilter : init.filter AdaptorCall.terminal = [] := by
    rw [List.filter_eq_nil_iff]
    intro x hx
    simp [(hquiet x hx).1]
  -- nor does a chunk end anything
  have hwrites : (bufs.map AdaptorCall.writeContent).filter AdaptorCall.terminal = [] := by
    rw [List.filter_eq_nil_iff]
    intro x hx
    obtain ⟨b, -, rfl⟩ := List.mem_map.mp hx
    simp [AdaptorCall.terminal]
  rw [hheard]
  constructor
  · rw [contents_append, contents_append, hcontents, contents_map_writeContent, hend.1]
    simp
  · rw [List.filter_append, List.filter_append, hfilter, hwrites, hend.2]
    rfl

omit [LinearOrder C] in
/-- Proper headers, the chunks and the end: that is a stream as it is sent. -/
theorem tells_proper {a : GreynetAsyncadaptor C} (hgoes : abortsHeaders a.headers = false)
    {bufs : List String} (hbufs : ∀ b ∈ bufs, b ≠ "") (fin : StreamEnd) :
    Tells a.sid bufs fin (stream a bufs fin) := by
  have hcalls := headerCalls_proper hgoes
  refine ⟨guid_of_stream a bufs fin, _, fun x hx => (hcalls x hx).setter, Or.inr hcalls, ?_⟩
  rw [stream, hear_headers, hgoes, if_neg Bool.false_ne_true, hear_chunks a.sid hbufs]

omit [LinearOrder C] in
/-- Headers that cancel: whatever follows, a failure is all that is told. -/
theorem tells_cancelled {a : GreynetAsyncadaptor C} (haborts : abortsHeaders a.headers = true)
    (bufs : List String) (fin : StreamEnd) : Tells a.sid [] .failed (stream a bufs fin) := by
  obtain ⟨init, hinit, hcalls⟩ := headerCalls_setters (splitAt a.headers '\n')
  refine ⟨guid_of_stream a bufs fin, init, hinit, Or.inl ⟨rfl, rfl⟩, ?_⟩
  have hany : (splitAt a.headers '\n').any statusAborts = true := haborts
  rw [stream, hear_headers, haborts, if_pos rfl, hcalls, if_pos hany, List.append_nil]
  rfl

/-- What a relay's adaptor says, once told the settings: the stream that goes with them, under its
    own sid. -/
theorem Relay.run_tells (r : Relay C) {bufs : List String} {fin : StreamEnd}
    {msgs : List Message} (h : Tells r.receiver.ss.sid bufs fin msgs) :
    ∃ init, (∀ x ∈ init, x.setter = true) ∧
      ((bufs = [] ∧ fin = .failed) ∨ ∀ x ∈ init, HeaderCall x) ∧
      hear msgs = init ++ (bufs.map .writeContent ++ [fin.call]) ∧
      (r.a.told init).sid = r.a.sid ∧ r.run msgs = emitted (r.a.told init) bufs fin := by
  obtain ⟨init, hinit, hgood, hheard⟩ := h.heard
  obtain ⟨hsaid, hsid, -, hfirst⟩ := told_setters init r.a hinit
  have hfresh : r.a.sentfirst = false := by rw [r.fresh]
  refine ⟨init, hinit, hgood, hheard, hsid, ?_⟩
  rw [(r.run_eq h.guid).2, hheard, said_append, hsaid, List.nil_append,
    said_stream (hfirst.trans hfresh)]

/-- **A relay keeps the chunks and the end.**  It may lose a mime type, which `Tells` does not speak
    of. -/
theorem tells_run (r : Relay C) {bufs : List String} (hbufs : ∀ b ∈ bufs, b ≠ "")
    {fin : StreamEnd} {msgs : List Message} (h : Tells r.receiver.ss.sid bufs fin msgs) :
    Tells r.a.sid bufs fin (r.run msgs) := by
  obtain ⟨init, -, hgood, -, hsid, hrun⟩ := r.run_tells h
  rw [hrun, emitted]
  by_cases hfail : bufs = [] ∧ fin = .failed
  · rw [if_pos hfail, hsid]
    obtain ⟨rfl, rfl⟩ := hfail
    refine ⟨fun msgp hin => ?_, [], by simp, Or.inl ⟨rfl, rfl⟩, rfl⟩
    obtain rfl := List.mem_singleton.mp hin
    rfl
  · rw [if_neg hfail, ← hsid]
    have hproper : (r.a.told init).status = 200 ∧ Plain (r.a.told init).mimetype :=
      told_headerCalls init r.a (hgood.resolve_left hfail) (by rw [r.fresh])
        (by rw [r.fresh]; exact plain_default)
    exact tells_proper (abortsHeaders_plain hproper.1 hproper.2) hbufs fin

/-- The messages after a chain of relays, each of which gets what the one before it sends. -/
def chain (rs : List (Relay C)) (msgs : List Message) : List Message :=
  rs.foldl (fun msgs r => r.run msgs) msgs

/-- Each relay asks for the sid the next one is asked for; the first asks for `sid`, and the last
    is asked for `last`. -/
def Linked (last : Sid) : Sid → List (Relay C) → Prop
  | sid, [] => sid = last
  | sid, r :: rs => r.receiver.ss.sid = sid ∧ Linked last r.a.sid rs

/-- **... and so does a chain of any length**, by induction on the relays: what one of them sends is
    of the kind that the next one gets. -/
theorem tells_chain {bufs : List String} (hbufs : ∀ b ∈ bufs, b ≠ "") {fin : StreamEnd}
    {last : Sid} (rs : List (Relay C)) : ∀ {sid : Sid} {msgs : List Message}, Linked last sid rs →
      Tells sid bufs fin msgs → Tells last bufs fin (chain rs msgs) := by
  induction rs with
  | nil =>
    rintro sid msgs rfl h
    exact h
  | cons r rs ih =>
    rintro sid msgs ⟨rfl, hlinked⟩ h
    exact ih hlinked (tells_run r hbufs h)

/-! ## Transparency -/

namespace Relay

/-- The stream of `a` under the relay's own sid; the status, the mime type and the content length
    are those of `a`. -/
def onward (r : Relay C) (a : GreynetAsyncadaptor C) (bufs : List String) (fin : StreamEnd) :
    List Message := emitted { a with sid := r.a.sid } bufs fin

omit [LinearOrder C] in
/-- The header texts of two adaptors that differ in the mime type only: if the texts are the same,
    so are the mime types. -/
theorem mimetype_of_headers {a b : GreynetAsyncadaptor C} (hstatus : a.status = b.status)
    (hlength : a.contentlength = b.contentlength) (h : a.headers = b.headers) :
    a.mimetype = b.mimetype := by
  have hlist := congrArg String.toList h
  rw [headers_eq, headers_eq, hstatus, hlength] at hlist
  simp only [String.toList_append, List.append_assoc, List.append_cancel_left_eq] at hlist
  have hm := List.append_cancel_right hlist
  exact String.toList_inj.mp hm

/-- What the adaptor is told by proper headers: the length, and the mime type if it is plain. -/
theorem told_settings (r : Relay C) {a : GreynetAsyncadaptor C} (hstatus : a.status = 200)
    (hgoes : abortsHeaders a.headers = false) :
    (r.a.told (headerCalls (splitAt a.headers '\n'))).contentlength = a.contentlength ∧
      (Plain a.mimetype →
        (r.a.told (headerCalls (splitAt a.headers '\n'))).mimetype = a.mimetype) := by
  constructor
  · obtain ⟨l, ls, -, -, hcalls⟩ := headerCalls_headers hstatus hgoes
    rw [hcalls, told_append]
    rfl
  · intro hm
    rw [headerCalls_plain hstatus hm]
    rfl

omit [LinearOrder C] in
/-- A stream is determined by its headers, its sid, its chunks and its end; nothing else of the
    adaptor shows. -/
theorem stream_congr {a b : GreynetAsyncadaptor C} (hsid : a.sid = b.sid)
    (hheaders : a.headers = b.headers) (bufs : List String) (fin : StreamEnd) :
    stream a bufs fin = stream b bufs fin := by
  rw [stream, stream, headersMessage, headersMessage, hsid, hheaders]

/-- Headers that cancel become one SIDFAIL, since the relay's adaptor has sent no headers of its own
    by then. -/
theorem run_cancelled (r : Relay C) {a : GreynetAsyncadaptor C}
    (hsid : r.receiver.ss.sid = a.sid) (haborts : abortsHeaders a.headers = true)
    (bufs : List String) (fin : StreamEnd) :
    r.run (stream a bufs fin) = [StreamEnd.failed.message r.a.sid] := by
  have htells := tells_cancelled haborts bufs fin
  rw [← hsid] at htells
  obtain ⟨init, -, -, -, htold, hrun⟩ := r.run_tells htells
  rw [hrun, emitted, if_pos ⟨rfl, rfl⟩, htold]

/-- Other headers are sent on as they were read, and the chunks and the end after them. -/
theorem run_proper (r : Relay C) {a : GreynetAsyncadaptor C} (hsid : r.receiver.ss.sid = a.sid)
    (hgoes : abortsHeaders a.headers = false) {bufs : List String} (hbufs : ∀ b ∈ bufs, b ≠ "")
    (fin : StreamEnd) : r.run (stream a bufs fin) =
      emitted (r.a.told (headerCalls (splitAt a.headers '\n'))) bufs fin := by
  have hset : ∀ x ∈ headerCalls (splitAt a.headers '\n'), x.setter = true := fun x hx =>
    (headerCalls_proper hgoes x hx).setter
  obtain ⟨hsaid, -, -, hfirst⟩ := told_setters _ r.a hset
  have hfresh : r.a.sentfirst = false := by rw [r.fresh]
  have hguid : ∀ msgp ∈ stream a bufs fin, msgp.guid = r.receiver.ss.sid := by
    rw [hsid]
    exact guid_of_stream a bufs fin
  rw [(r.run_eq hguid).2, stream, hear_headers, hgoes, if_neg Bool.false_ne_true,
    hear_chunks a.sid hbufs, said_append, hsaid, List.nil_append, said_stream (hfirst.trans hfresh)]

/-- **A stream of status 200 goes on unchanged exactly if its mime type is plain**, or there is
    nothing in it but a failure. -/
theorem run_onward_iff (r : Relay C) {a : GreynetAsyncadaptor C}
    (hsid : r.receiver.ss.sid = a.sid) (hstatus : a.status = 200) {bufs : List String}
    (hbufs : ∀ b ∈ bufs, b ≠ "") (fin : StreamEnd) :
    r.run (stream a bufs fin) = r.onward a bufs fin ↔
      Plain a.mimetype ∨ (bufs = [] ∧ fin = .failed) := by
  by_cases hfail : bufs = [] ∧ fin = .failed
  · refine iff_of_true ?_ (Or.inr hfail)
    -- only the failure is passed on, whatever the headers say
    cases haborts : abortsHeaders a.headers with
    | true =>
      rw [r.run_cancelled hsid haborts, onward, emitted, if_pos hfail, hfail.2]
    | false =>
      have hset : ∀ x ∈ headerCalls (splitAt a.headers '\n'), x.setter = true := fun x hx =>
        (headerCalls_proper haborts x hx).setter
      rw [r.run_proper hsid haborts hbufs, onward, emitted, emitted, if_pos hfail, if_pos hfail,
        (told_setters _ r.a hset).2.1]
  · rw [or_iff_left hfail, onward, emitted, if_neg hfail]
    cases haborts : abortsHeaders a.headers with
    | true =>
      rw [r.run_cancelled hsid haborts]
      refine iff_of_false (fun h => ?_) fun hm => ?_
      · -- the first message is a SIDFAIL in one and a SIDHEADERS in the other
        have htype := congrArg Message.type (List.cons.inj h).1
        cases htype
      · rw [abortsHeaders_plain hstatus hm] at haborts
        cases haborts
    | false =>
      have hcalls := headerCalls_proper haborts
      have htold := told_headerCalls _ r.a hcalls (by rw [r.fresh])
        (by rw [r.fresh]; exact plain_default)
      have hsid' := (told_setters _ r.a fun x hx => (hcalls x hx).setter).2.1
      obtain ⟨hlength, hmime⟩ := r.told_settings hstatus haborts
      rw [r.run_proper hsid haborts hbufs, emitted, if_neg hfail]
      generalize r.a.told (headerCalls (splitAt a.headers '\n')) = b at *
      constructor
      · intro h
        -- the streams begin with their headers, so those are equal
        have hheaders : b.headers = a.headers :=
          congrArg Message.payload (List.cons.inj h).1
        rw [← mimetype_of_headers (htold.1.trans hstatus.symm) hlength hheaders]
        exact htold.2
      · intro hm
        refine stream_congr (b := { a with sid := r.a.sid }) hsid' ?_ bufs fin
        show b.headers = a.headers
        rw [headers_eq, headers_eq, hmime hm, hlength, htold.1, hstatus]

end Relay

/-- **Relays are transparent.**  Take any stream an adaptor `a` can send: headers of any status, any
    mime type and content length, chunks that are not empty, and either end.
    1. A relay's handlers all return.  If the status is 200, what it sends is that stream under
       its own sid, with a mime type that is plain and only with one, unless nothing but a failure
       is in it.  If the status is another, it sends one SIDFAIL.
    2. After a chain of relays of any length the last receiver's adaptor is given the same chunks
       and the same end as that of a receiver that has the stream from `a` itself. -/
theorem relay_transparent (a : GreynetAsyncadaptor C) {bufs : List String}
    (hbufs : ∀ b ∈ bufs, b ≠ "") (fin : StreamEnd) :
    (∀ r : Relay C, r.receiver.ss.sid = a.sid →
      r.Returns (stream a bufs fin) ∧
      (a.status = 200 → (r.run (stream a bufs fin) = r.onward a bufs fin ↔
        Plain a.mimetype ∨ (bufs = [] ∧ fin = .failed))) ∧
      (a.status ≠ 200 → r.run (stream a bufs fin) = [StreamEnd.failed.message r.a.sid])) ∧
    (∀ (rs : List (Relay C)) (direct final : Receiver C), direct.ss.sid = a.sid →
      Linked final.ss.sid a.sid rs →
      contents (final.calls (chain rs (stream a bufs fin))) =
          contents (direct.calls (stream a bufs fin)) ∧
        (final.calls (chain rs (stream a bufs fin))).filter AdaptorCall.terminal =
          (direct.calls (stream a bufs fin)).filter AdaptorCall.terminal) := by
  constructor
  · intro r hsid
    have hguid : ∀ msgp ∈ stream a bufs fin, msgp.guid = r.receiver.ss.sid := by
      rw [hsid]
      exact guid_of_stream a bufs fin
    refine ⟨(r.run_eq hguid).1, fun hst => r.run_onward_iff hsid hst hbufs fin, fun hne => ?_⟩
    refine r.run_cancelled hsid ?_ bufs fin
    rw [abortsHeaders_headers, decide_eq_true hne, Bool.true_or]
  · intro rs direct final hdirect hlinked
    -- what the messages tell: aborted headers a failure, others all of it
    obtain ⟨bufs', fin', hbufs', htells⟩ : ∃ bufs' fin', (∀ b ∈ bufs', b ≠ "") ∧
        Tells a.sid bufs' fin' (stream a bufs fin) := by
      cases haborts : abortsHeaders a.headers with
      | true => exact ⟨[], .failed, by simp, tells_cancelled haborts bufs fin⟩
      | false => exact ⟨bufs, fin, hbufs, tells_proper haborts hbufs fin⟩
    have hfinal := tells_chain hbufs' rs hlinked htells
    have hguid := htells.guid
    rw [← hdirect] at hguid
    rw [final.calls_eq hfinal.guid, direct.calls_eq hguid]
    exact ⟨hfinal.outcome.1.trans htells.outcome.1.symm,
      hfinal.outcome.2.trans htells.outcome.2.symm⟩

/-- A relay on connection 0, for a peer on connection 1: the state after `handle_sidrequest` has set
    it up. -/
def relaying : Relay Nat where
  receiver :=
    { transfers := Runs.after step empty
        [.newAdaptor 1 "t", .startReply ⟨0, 0, "s"⟩ (.greynet 0) true "u"]
      ss := ⟨0, 0, "s"⟩
      aa := .greynet 0
      reachable := ⟨_, Runs.run_trace _ rfl⟩
      live := rfl
      own := rfl }
  n := 0
  a := { sid := "t", conn := 1 }
  feeds := rfl
  adaptor := rfl
  fresh := rfl
  alone := rfl

/-- A stream of music goes on as it came, headers and all ... -/
theorem relay_transparent_music :
    relaying.run (stream { sid := "s", conn := 7, mimetype := "audio/mpeg", contentlength := 3 }
        ["ab", "c"] .finished) =
      stream ({ sid := "t", conn := 1, mimetype := "audio/mpeg", contentlength := 3 } :
        GreynetAsyncadaptor Nat) ["ab", "c"] .finished := by
  have hbufs : ∀ b ∈ ["ab", "c"], b ≠ "" := by simp
  obtain ⟨-, hstatus, -⟩ := (relay_transparent
    { sid := "s", conn := 7, mimetype := "audio/mpeg", contentlength := 3 } hbufs
    .finished).1 relaying rfl
  exact (hstatus rfl).mpr (Or.inl (by decide))

/-- ... but with a tab in the mime type the relay sends `application/binary`, its adaptor's
    default. -/
theorem relay_loses_tabbed_mimetype :
    relaying.run (stream { sid := "s", conn := 7, mimetype := "a\tb", contentlength := 3 }
        ["ab", "c"] .finished) =
      stream { sid := "t", conn := 1, contentlength := 3 } ["ab", "c"] .finished ∧
    relaying.run (stream { sid := "s", conn := 7, mimetype := "a\tb", contentlength := 3 }
        ["ab", "c"] .finished) ≠
      relaying.onward { sid := "s", conn := 7, mimetype := "a\tb", contentlength := 3 }
        ["ab", "c"] .finished := by
  have hrun : relaying.run (stream { sid := "s", conn := 7, mimetype := "a\tb", contentlength := 3 }
      ["ab", "c"] .finished) =
      stream { sid := "t", conn := 1, contentlength := 3 } ["ab", "c"] .finished := by
    rw [(relaying.run_eq (by decide)).2]
    decide
  refine ⟨hrun, ?_⟩
  rw [hrun]
  decide

end Greynet
