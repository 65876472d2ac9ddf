/-
  A SIDHEADERS from the adaptor that sends it to the adaptor that hears of it.

  Source: `greynet_asyncadaptor.hpp` (`send_headers`), `ss_greynet.cpp` (`sidheaders_handler`,
  `cancel_handler`).

  The calls that `sidheaders_handler` makes on `m_aa` are those of `headerCalls`, and no other
  adaptor is called.  That is so even if the handler fails in the end: a status other than 200 has
  the transfer cancelled, and the loop in `unregister_sidtransfer` may then go round forever; the
  adaptor has been told by then.

  1. `callsOn_tracedHeaderLines` — the calls of the header loop, whether or not it returns.
  2. `headers_come_back` — what `send_headers` writes is heard as the calls that made it.
-/
import Greynet.Headers
import Greynet.TransferFaults

namespace Greynet

variable {C : Type} [LinearOrder C]

namespace Transfers

/-! ## The calls of a handler that may fail -/

/-- A call on an adaptor is one call on that adaptor, and none on any other. -/
theorem callsOn_adaptorCall (t : Transfers C) (aa : AdaptorId) (call : AdaptorCall)
    (x : AdaptorId) : callsOn x (t.adaptorCall aa call).2 = if aa = x then [call] else [] := by
  rw [adaptorCall_eq]
  exact callsOn_speak x t.adaptors (aa, call)

/-- `cancel_handler` makes one call, and then may hang; the call has been made by then. -/
theorem callsOn_tracedCancelHandler {t : Transfers C} {ss : SsGreynet C} {aa : AdaptorId}
    (haa : (t.ss ss).aa = some aa) (x : AdaptorId) :
    callsOn x (t.tracedCancelHandler ss).out = if aa = x then [.writeCancel] else [] := by
  have hout : (t.tracedCancelHandler ss).out =
      [.cancelHandler ss] ++ (t.adaptorCall aa .writeCancel).2 := by
    rw [tracedCancelHandler, Traced.bind_emit]
    simp only [haa, Traced.bind_emit, Traced.lift, List.append_nil]
  rw [hout, callsOn_append, callsOn_adaptorCall]
  rfl

/-- **The calls of the header loop**, whether or not it returns: those that are read off the lines,
    on the transfer's own adaptor.  By induction on the lines, for any state of the transfers, since
    a setter call changes it. -/
theorem callsOn_tracedHeaderLines {ss : SsGreynet C} {aa : AdaptorId} (x : AdaptorId)
    (lines : List String) : ∀ {t : Transfers C}, (t.ss ss).aa = some aa →
      callsOn x (t.tracedHeaderLines ss aa lines).out =
        if aa = x then headerCalls lines else [] := by
  induction lines with
  | nil =>
    intro t _
    show [] = _
    rw [headerCalls, ite_self]
  | cons line lines ih =>
    intro t haa
    -- a setter call, and what comes after it
    have hsetter : ∀ (call : AdaptorCall) (calls : List AdaptorCall) (rest : List (Action C)),
        callsOn x rest = (if aa = x then calls else []) →
        callsOn x ((t.adaptorCall aa call).2 ++ rest) = if aa = x then call :: calls else [] := by
      intro call calls rest hrest
      rw [callsOn_append, callsOn_adaptorCall, hrest]
      split <;> rfl
    rw [tracedHeaderLines]
    split
    · rename_i key val hsplit
      rw [headerCalls_pair hsplit]
      by_cases hst : key = "status"
      · rw [if_pos hst, if_pos hst, Traced.bind_emit]
        refine hsetter _ _ _ ?_
        by_cases hcode : atoi val ≠ 200
        · rw [if_pos hcode, if_pos hcode]
          exact callsOn_tracedCancelHandler (by rw [adaptorCall_ss, haa]) x
        · rw [if_neg hcode, if_neg hcode]
          exact ih (by rw [adaptorCall_ss, haa])
      · rw [if_neg hst, if_neg hst]
        by_cases hmt : key = "mime-type"
        · rw [if_pos hmt, if_pos hmt, Traced.bind_emit]
          exact hsetter _ _ _ (ih (by rw [adaptorCall_ss, haa]))
        · rw [if_neg hmt, if_neg hmt]
          by_cases hcl : key = "content-length"
          · rw [if_pos hcl, if_pos hcl, Traced.bind_emit]
            exact hsetter _ _ _ (ih (by rw [modifySs_self, adaptorCall_ss, haa]))
          · rw [if_neg hcl, if_neg hcl]
            exact ih haa
    · rename_i hsplit
      rw [headerCalls_skip hsplit]
      exact ih haa

/-- The transfer has been started: it has an adaptor and a timer, as `sidheaders_handler` takes for
    granted. -/
structure Started (t : Transfers C) (ss : SsGreynet C) (aa : AdaptorId) : Prop where
  aa : (t.ss ss).aa = some aa
  timer : (t.ss ss).timer ≠ none

/-- Every transfer that a message can get to is, for a message gets there by `m_sid2ss`. -/
theorem Sound.startedFor {t : Transfers C} (hs : t.Sound) {sid : Sid} {ss : SsGreynet C}
    (hss : t.reg.sid2ss sid = some ss) : ∃ aa, Started t ss aa := by
  obtain ⟨haa, htimer⟩ := hs.started sid ss hss
  obtain ⟨aa, haa⟩ := Option.ne_none_iff_exists'.mp haa
  exact ⟨aa, haa, htimer⟩

/-- **The calls of `sidheaders_handler`**: stopping the timer calls nobody, so they are those of its
    loop over the lines. -/
theorem callsOn_tracedSidheaders {t : Transfers C} {ss : SsGreynet C} {aa : AdaptorId}
    (hst : Started t ss aa) (msgp : Message) (x : AdaptorId) :
    callsOn x (t.tracedSidheadersHandler ss msgp).out =
      if aa = x then headerCalls (splitAt msgp.payload '\n') else [] := by
  obtain ⟨waiting, htimer⟩ := Option.ne_none_iff_exists'.mp hst.timer
  rw [tracedSidheadersHandler, htimer, hst.aa]
  exact callsOn_tracedHeaderLines x _ (by rw [modifySs_self, hst.aa])

/-! ## The round trip -/

/-- **What `send_headers` writes is heard as the calls that made it.**  Whatever the status and the
    content length, and for every mime type without a tab or a newline: with the status 200 the
    receiving adaptor is told the status, the mime type and the content length, with another one
    the status and that the stream is cancelled; and that is all that it is told, and nobody else
    is told anything. -/
theorem headers_come_back {t : Transfers C} {ss : SsGreynet C} {aa : AdaptorId}
    (hst : Started t ss aa) {a : GreynetAsyncadaptor C} (hm : GreynetAsyncadaptor.Plain a.mimetype)
    {conn : C} {msgp : Message} (hsent : .asyncWrite conn msgp ∈ a.sendHeaders) :
    callsOn aa (t.tracedSidheadersHandler ss msgp).out =
      (if a.status = 200 then
        [.setStatusCode 200, .setMimeType a.mimetype, .setContentLength a.contentlength]
      else [.setStatusCode a.status, .writeCancel]) ∧
    ∀ x, x ≠ aa → callsOn x (t.tracedSidheadersHandler ss msgp).out = [] := by
  obtain ⟨-, rfl⟩ := Action.asyncWrite.inj (List.mem_singleton.mp hsent)
  refine ⟨?_, fun x hx => ?_⟩
  · rw [callsOn_tracedSidheaders hst, if_pos rfl]
    by_cases hstatus : a.status = 200
    · rw [if_pos hstatus]
      exact GreynetAsyncadaptor.headerCalls_plain hstatus hm
    · rw [if_neg hstatus]
      exact GreynetAsyncadaptor.headerCalls_headers_ne hstatus
  · rw [callsOn_tracedSidheaders hst, if_neg (Ne.symm hx)]

/-- A transfer that has been started, for playdar's adaptor 0, and whose headers have yet to
    come. -/
def startedTransfer : Transfers Nat :=
  Runs.after step empty [.startReply ⟨1, 0, "s"⟩ (.playdar 0) true "u"]

/-- The least content length, and no mime type: both ends of what the setters may be given. -/
def leastHeaders : GreynetAsyncadaptor Nat :=
  { sid := "s", conn := 0, mimetype := "", contentlength := -2147483648 }

/-- They come back, the empty mime type too. -/
theorem least_headers_come_back :
    callsOn (.playdar 0) (startedTransfer.tracedSidheadersHandler ⟨1, 0, "s"⟩
      (generalMessage .sidheaders leastHeaders.headers "s")).out =
    [.setStatusCode 200, .setMimeType "", .setContentLength (-2147483648)] :=
  (headers_come_back (a := leastHeaders) ⟨rfl, by decide⟩ (by decide)
    (List.mem_singleton_self _)).1

end Transfers

end Greynet
