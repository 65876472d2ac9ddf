/-
  The transfers, with what a handler has done before it fails.

  Source: `ss_greynet.cpp`, `greynet.cpp` (as for `Transfers`).

  `Transfers.step` says what an event comes to if its handler returns.  Some do not: the loop of
  `unregister_sidtransfer` may go round forever, after `write_cancel` has been called, and a null
  pointer may be met halfway.  Here the same handlers are `Traced`: what they have called and
  written by then is there as well.  The mark `Action.cancelHandler` comes first thing in
  `cancel_handler`.  Facts about "what the adaptor hears" that should hold even of a handler that
  never returns are stated of these; everything else is stated of the handlers of `Transfers`, which
  are simpler to reason about.

  1. One traced function for each handler, and `traced` for an event.  They are written next to the
     source like the others, statement by statement, and not derived from them.
  2. `traced_returned` — with the outputs of failed handlers forgotten they are the handlers of
     `Transfers`; so the two ways of writing them down cannot come apart.
  3. `callsOn_tracedHeaderLines`, in `Greynet.SidHeaders` — the calls of the header loop are made,
     whether or not it returns.
-/
import Greynet.Lib.Traced
import Greynet.TransferCalls

namespace Greynet

namespace Transfers

variable {C : Type} [LinearOrder C]

/-! ## The handlers -/

/-- `ss_greynet::cancel_handler`: the mark, the call of `write_cancel`, and then the loop, which may
    not end. -/
def tracedCancelHandler (t : Transfers C) (ss : SsGreynet C) :
    Traced Fault (Action C) (Transfers C) :=
  (Traced.emit (t, [.cancelHandler ss])).bind fun t =>
    match (t.ss ss).aa with
    | none => .fail .nullDeref
    | some aa => (Traced.emit (t.adaptorCall aa .writeCancel)).bind fun t => .lift (t.unregister ss)

/-- `ss_greynet::start_reply`.  It fails only where it has to cancel, on a connection that is not
    ready. -/
def tracedStartReply (t : Transfers C) (ss : SsGreynet C) (aa : AdaptorId) (ready : Bool)
    (uuid : String) : Traced Fault (Action C) (Transfers C) :=
  let t₀ := t.modifySs ss fun x =>
    { x with finished := false, contentlength := 0, bytesTransferred := 0, aa := some aa }
  if ready then
    let started := t₀.startSidrequest ss.conn ss.sid ss uuid
    Traced.emit (started.1.modifySs ss fun x => { x with timer := some true }, started.2)
  else t₀.tracedCancelHandler ss

/-- `ss_greynet::siddata_handler`: the adaptor has been told the end before the transfer is
    unregistered. -/
def tracedSiddataHandler (t : Transfers C) (ss : SsGreynet C) (payload : String) :
    Traced Fault (Action C) (Transfers C) :=
  match (t.ss ss).aa with
  | none => .fail .nullDeref
  | some aa =>
    if payload.length = 0 then
      (Traced.emit
        ((t.modifySs ss fun x => { x with finished := true }).adaptorCall aa .writeFinish)).bind
          fun t => .lift (t.unregister ss)
    else
      .emit ((t.modifySs ss fun x =>
        { x with bytesTransferred := x.bytesTransferred + payload.length }).adaptorCall aa
          (.writeContent payload))

/-- The loop over the header lines in `ss_greynet::sidheaders_handler`.  Each line's setter call is
    there even if a later line has the transfer cancelled and the loop does not end. -/
def tracedHeaderLines (t : Transfers C) (ss : SsGreynet C) (aa : AdaptorId) :
    List String → Traced Fault (Action C) (Transfers C)
  | [] => .emit (t, [])
  | line :: lines =>
    match splitAt line '\t' with
    | [key, val] =>
      if key = "status" then
        (Traced.emit (t.adaptorCall aa (.setStatusCode (atoi val)))).bind fun t =>
          if atoi val ≠ 200 then t.tracedCancelHandler ss else t.tracedHeaderLines ss aa lines
      else if key = "mime-type" then
        (Traced.emit (t.adaptorCall aa (.setMimeType val))).bind fun t =>
          t.tracedHeaderLines ss aa lines
      else if key = "content-length" then
        (Traced.emit (t.adaptorCall aa (.setContentLength (atoi val)))).bind fun t =>
          (t.modifySs ss fun x =>
            { x with contentlength := (atoi val).toInt64.toUInt64 }).tracedHeaderLines ss aa lines
      else t.tracedHeaderLines ss aa lines
    | _ => t.tracedHeaderLines ss aa lines

/-- `ss_greynet::sidheaders_handler`: without a timer or an adaptor it follows a null pointer, at
    once. -/
def tracedSidheadersHandler (t : Transfers C) (ss : SsGreynet C) (msgp : Message) :
    Traced Fault (Action C) (Transfers C) :=
  match (t.ss ss).timer, (t.ss ss).aa with
  | some _, some aa =>
    (t.modifySs ss fun x => { x with timer := some false }).tracedHeaderLines ss aa
      (splitAt msgp.payload '\n')
  | _, _ => .fail .nullDeref

/-- The second loop of `greynet::connection_terminated`: what was cancelled before the sid at which
    it fails has been cancelled. -/
def tracedCancelSids (t : Transfers C) : List Sid → Traced Fault (Action C) (Transfers C)
  | [] => .emit (t, [])
  | s :: sids =>
    match t.reg.sid2ss s with
    | none => .fail .nullDeref
    | some ss => (t.tracedCancelHandler ss).bind fun t => t.tracedCancelSids sids

/-- Pass a message on to the transfer of its sid, if there is one; the three handlers of stream
    messages do this first. -/
def passOn (t : Transfers C) (msgp : Message)
    (k : SsGreynet C → Traced Fault (Action C) (Transfers C)) :
    Traced Fault (Action C) (Transfers C) :=
  match t.reg.sid2ss msgp.guid with
  | none => .emit (t, [])
  | some ss => k ss

/-- What an event does, as far as its handler gets. -/
def traced (t : Transfers C) : Event C → Traced Fault (Action C) (Transfers C)
  | .startReply ss aa ready uuid => t.tracedStartReply ss aa ready uuid
  | .siddata _ msgp => t.passOn msgp fun ss => t.tracedSiddataHandler ss msgp.payload
  | .sidheaders _ msgp => t.passOn msgp fun ss => t.tracedSidheadersHandler ss msgp
  | .sidfail _ msgp => t.passOn msgp fun ss => t.tracedCancelHandler ss
  | .timerExpires ss =>
    if (t.ss ss).timer = some true then
      .emit (t.modifySs ss fun x =>
        { x with timer := some false, queuedTimeouts := x.queuedTimeouts + 1 }, [])
    else .emit (t, [])
  | .timeoutCb ss =>
    if (t.ss ss).queuedTimeouts = 0 then .emit (t, [])
    else
      (t.modifySs ss fun x =>
        { x with queuedTimeouts := x.queuedTimeouts - 1 }).tracedCancelHandler ss
  | .connectionTerminated conn => t.tracedCancelSids (t.activeSids conn)
  | .newAdaptor conn sid => .emit ({ t with adaptors := t.adaptors ++ [{ sid, conn }] }, [])
  | .adaptorCall aa call => .emit (t.adaptorCall aa call)

/-! ## They are the handlers of `Transfers` -/

/-- `cancel_handler` is the same, ... -/
theorem cancelHandler_returned (t : Transfers C) (ss : SsGreynet C) :
    (t.tracedCancelHandler ss).returned = t.cancelHandler ss := by
  rw [tracedCancelHandler, Traced.returned_bind_emit, cancelHandler]
  cases (t.ss ss).aa with
  | none => rfl
  | some aa =>
    simp only [Traced.returned_bind_emit, Traced.returned_lift]
    cases (t.adaptorCall aa .writeCancel).1.unregister ss with
    | error f => rfl
    | ok t' => simp [Except.map]

/-- ... and so is `siddata_handler`, ... -/
theorem siddataHandler_returned (t : Transfers C) (ss : SsGreynet C) (payload : String) :
    (t.tracedSiddataHandler ss payload).returned = t.siddataHandler ss payload := by
  rw [tracedSiddataHandler, siddataHandler]
  cases (t.ss ss).aa with
  | none => rfl
  | some aa =>
    by_cases hz : payload.length = 0
    · simp only [if_pos hz, Traced.returned_bind_emit, Traced.returned_lift]
      cases ((t.modifySs ss fun x => { x with finished := true }).adaptorCall aa
          .writeFinish).1.unregister ss with
      | error f => rfl
      | ok t' => simp [Except.map]
    · simp only [if_neg hz]
      rfl

/-- ... and the loop over the header lines, by induction on them, ... -/
theorem headerLines_returned (ss : SsGreynet C) (aa : AdaptorId) (lines : List String) :
    ∀ t : Transfers C, (t.tracedHeaderLines ss aa lines).returned = t.headerLines ss aa lines := by
  induction lines with
  | nil => intro t; rfl
  | cons line lines ih =>
    intro t
    rw [tracedHeaderLines, headerLines]
    -- only a line that splits in two is looked at; the others go to the rest at once
    rcases splitAt line '\t' with _ | ⟨key, _ | ⟨val, _ | ⟨_, _⟩⟩⟩
    · exact ih t
    · exact ih t
    · simp only
      by_cases hst : key = "status"
      · rw [if_pos hst, if_pos hst, Traced.returned_bind_emit]
        by_cases hcode : atoi val ≠ 200
        · simp only [if_pos hcode, cancelHandler_returned]
          cases (t.adaptorCall aa (.setStatusCode (atoi val))).1.cancelHandler ss <;> rfl
        · simp only [if_neg hcode, ih]
          cases (t.adaptorCall aa (.setStatusCode (atoi val))).1.headerLines ss aa lines <;> rfl
      · rw [if_neg hst, if_neg hst]
        by_cases hmt : key = "mime-type"
        · rw [if_pos hmt, if_pos hmt, Traced.returned_bind_emit, ih]
          cases (t.adaptorCall aa (.setMimeType val)).1.headerLines ss aa lines <;> rfl
        · rw [if_neg hmt, if_neg hmt]
          by_cases hcl : key = "content-length"
          · rw [if_pos hcl, if_pos hcl, Traced.returned_bind_emit, ih]
            cases ((t.adaptorCall aa (.setContentLength (atoi val))).1.modifySs ss fun x =>
              { x with contentlength := (atoi val).toInt64.toUInt64 }).headerLines ss aa
                lines <;> rfl
          · rw [if_neg hcl, if_neg hcl, ih]
    · exact ih t

/-- ... and the handler that runs it, ... -/
theorem sidheadersHandler_returned (t : Transfers C) (ss : SsGreynet C) (msgp : Message) :
    (t.tracedSidheadersHandler ss msgp).returned = t.sidheadersHandler ss msgp := by
  rw [tracedSidheadersHandler, sidheadersHandler]
  cases (t.ss ss).timer with
  | none => rfl
  | some waiting =>
    cases (t.ss ss).aa with
    | none => rfl
    | some aa => exact headerLines_returned ss aa _ _

/-- ... and the second loop of `connection_terminated`, by induction on the sids, ... -/
theorem cancelSids_returned (sids : List Sid) :
    ∀ t : Transfers C, (t.tracedCancelSids sids).returned = t.cancelSids sids := by
  induction sids with
  | nil => intro t; rfl
  | cons s sids ih =>
    intro t
    rw [tracedCancelSids, cancelSids]
    cases t.reg.sid2ss s with
    | none => rfl
    | some ss =>
      have hfirst := cancelHandler_returned t ss
      simp only
      cases hc : t.cancelHandler ss with
      | error f => exact Traced.returned_bind_error (hfirst.trans hc) _
      | ok x =>
        obtain ⟨t', out⟩ := x
        rw [Traced.returned_bind_ok (hfirst.trans hc), ih]
        simp only
        cases t'.cancelSids sids <;> rfl

/-- ... and `start_reply`. -/
theorem startReply_returned (t : Transfers C) (ss : SsGreynet C) (aa : AdaptorId) (ready : Bool)
    (uuid : String) : (t.tracedStartReply ss aa ready uuid).returned =
      t.startReply ss aa ready uuid := by
  cases ready with
  | true => rfl
  | false => exact cancelHandler_returned _ ss

/-- **Forgetting what failed handlers have done gives the step of the transfers.**  One case for
    each event, each by the lemma about its handler. -/
theorem traced_returned (t : Transfers C) (e : Event C) : (t.traced e).returned = t.step e := by
  -- the three stream messages look their transfer up first, in the same way
  have hpass : ∀ (msgp : Message) (k : SsGreynet C → Traced Fault (Action C) (Transfers C))
      (k' : SsGreynet C → Except Fault (Transfers C × List (Action C))),
      (∀ ss, (k ss).returned = k' ss) → (t.passOn msgp k).returned =
        match t.reg.sid2ss msgp.guid with
        | none => .ok (t, [])
        | some ss => k' ss := by
    intro msgp k k' hk
    rw [passOn]
    cases t.reg.sid2ss msgp.guid with
    | none => rfl
    | some ss => exact hk ss
  cases e with
  | startReply ss aa ready uuid => exact startReply_returned t ss aa ready uuid
  | siddata conn msgp => exact hpass msgp _ _ fun ss => siddataHandler_returned t ss msgp.payload
  | sidheaders conn msgp => exact hpass msgp _ _ fun ss => sidheadersHandler_returned t ss msgp
  | sidfail conn msgp => exact hpass msgp _ _ fun ss => cancelHandler_returned t ss
  | timerExpires ss =>
    rw [traced, step]
    split <;> rfl
  | timeoutCb ss =>
    rw [traced, step]
    split
    · rfl
    · exact cancelHandler_returned _ ss
  | connectionTerminated conn => exact cancelSids_returned _ t
  | newAdaptor conn sid => rfl
  | adaptorCall aa call => rfl

end Transfers

end Greynet
