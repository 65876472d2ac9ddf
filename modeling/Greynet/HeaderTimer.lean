/-
  The timer that gives up on a transfer when no headers come.

  Source: `ss_greynet.cpp` (`start_reply`, `timeout_cb`, `sidheaders_handler`, `cancel_handler`).

  `start_reply` starts a wait of five seconds, and `sidheaders_handler` cancels it.  Cancelling
  stops a wait that is pending; one that has run out is in the io_service's queue by then, and its
  handler runs all the same, without an error code.

  1. `clock` — the wait of one transfer and how many have run out; `step_ticks` — the ways an event
     changes it.
  2. `Stopped` — no wait is pending and none has run out; it stays so until the transfer is started
     again (`stopped_run`), and `timeout_cb` then does nothing (`cancels_iff`).
  3. `headers_spare_iff` — headers keep the timer from cancelling the transfer exactly if the wait
     has not run out before them.
-/
import Greynet.SidHeaders

namespace Greynet

variable {C : Type} [LinearOrder C]

namespace Transfers

/-! ## The timer of one transfer -/

/-- Whether a wait is pending on `m_timer`, and how many handlers are in the queue; a handler that
    has been queued is run, whatever becomes of the timer. -/
def clock (t : Transfers C) (ss : SsGreynet C) : Option Bool × Nat :=
  ((t.ss ss).timer, (t.ss ss).queuedTimeouts)

/-- A change of another kind to a transfer leaves everybody's timer alone. -/
theorem clock_modifySs (t : Transfers C) (ss : SsGreynet C) {f : SsState → SsState}
    (htimer : (f (t.ss ss)).timer = (t.ss ss).timer)
    (hqueued : (f (t.ss ss)).queuedTimeouts = (t.ss ss).queuedTimeouts) (x : SsGreynet C) :
    (t.modifySs ss f).clock x = t.clock x := by
  by_cases hx : x = ss
  · rw [hx, clock, modifySs_self, htimer, hqueued]
    rfl
  · rw [clock, modifySs_ne t f hx]
    rfl

/-- Calling an adaptor stops no timer, ... -/
theorem clock_adaptorCall (t : Transfers C) (aa : AdaptorId) (call : AdaptorCall)
    (x : SsGreynet C) : (t.adaptorCall aa call).1.clock x = t.clock x := by
  rw [clock, adaptorCall_ss]
  rfl

/-- ... nor does `cancel_handler`, though it ends the transfer: this is where a timeout can come
    late, ... -/
theorem clock_cancelHandler {t t' : Transfers C} {ss : SsGreynet C} {out : List (Action C)}
    (h : t.cancelHandler ss = .ok (t', out)) (x : SsGreynet C) : t'.clock x = t.clock x := by
  obtain ⟨aa, -, -, hsame, -⟩ := cancelHandler_ok h
  rw [clock, hsame]
  rfl

/-- ... nor does the last part of a stream, ... -/
theorem clock_siddataHandler {t t' : Transfers C} {ss : SsGreynet C} {payload : String}
    {out : List (Action C)} (h : t.siddataHandler ss payload = .ok (t', out)) (x : SsGreynet C) :
    t'.clock x = t.clock x := by
  unfold siddataHandler at h
  split at h
  · cases h
  · rename_i aa _
    split at h
    · simp only at h
      split at h
      · cases h
      · rename_i t₁ hu
        obtain ⟨rfl, -⟩ := Prod.mk.inj (Except.ok.inj h)
        obtain ⟨r, -, rfl⟩ := unregister_ok.mp hu
        exact (clock_adaptorCall _ aa .writeFinish x).trans (clock_modifySs t ss rfl rfl x)
    · have hsame := clock_adaptorCall (t.modifySs ss fun x =>
        { x with bytesTransferred := x.bytesTransferred + payload.length }) aa
          (.writeContent payload) x
      rw [Except.ok.inj h] at hsame
      exact hsame.trans (clock_modifySs t ss rfl rfl x)

/-- ... nor the header loop; the handler has done that before. -/
theorem clock_headerLines {ss : SsGreynet C} {aa : AdaptorId} {lines : List String}
    {t t' : Transfers C} {out : List (Action C)} (h : t.headerLines ss aa lines = .ok (t', out))
    (x : SsGreynet C) : t'.clock x = t.clock x := by
  have hrun := headerLines_run lines h
  clear h
  induction hrun with
  | done t => rfl
  | skips line lines t t' out hcalls hrest ih => exact ih
  | sets line lines t t' out call f hf hcalls hrest ih =>
    -- `f` notes a content length, and keeps both fields of the timer
    exact ih.trans ((clock_modifySs _ ss (by rw [hf]) (by rw [hf]) x).trans
      (clock_adaptorCall t aa call x))
  | cancels line lines t t' out code hcalls hcancel =>
    exact (clock_cancelHandler hcancel x).trans (clock_adaptorCall t aa _ x)

/-- The loss of a connection stops none either. -/
theorem clock_cancelSids (x : SsGreynet C) (sids : List Sid) :
    ∀ {t t' : Transfers C} {out : List (Action C)}, t.cancelSids sids = .ok (t', out) →
      t'.clock x = t.clock x := by
  induction sids with
  | nil =>
    intro t t' out h
    obtain ⟨rfl, -⟩ := Prod.mk.inj (Except.ok.inj h)
    rfl
  | cons s sids ih =>
    intro t t' out h
    rw [cancelSids] at h
    split at h
    · cases h
    · split at h
      · cases h
      · rename_i t₁ out₁ hcancel
        split at h
        · cases h
        · rename_i t₂ out₂ hrest
          obtain ⟨rfl, -⟩ := Prod.mk.inj (Except.ok.inj h)
          exact (ih hrest).trans (clock_cancelHandler hcancel x)

/-- What an event does to the timer of `ss`: nothing, or it starts it, stops it, lets its wait run
    out, or runs a handler that was queued. -/
inductive Ticks (t : Transfers C) (ss : SsGreynet C) (e : Event C) : Option Bool × Nat → Prop
  | keeps : Ticks t ss e (t.clock ss)
  | starts (aa : AdaptorId) (uuid : String) (he : e = .startReply ss aa true uuid) :
    Ticks t ss e (some true, (t.ss ss).queuedTimeouts)
  /-- headers have come -/
  | stops (conn : C) (msgp : Message) (he : e = .sidheaders conn msgp)
      (hss : t.reg.sid2ss msgp.guid = some ss) :
    Ticks t ss e (some false, (t.ss ss).queuedTimeouts)
  | expires (he : e = .timerExpires ss) (hpending : (t.ss ss).timer = some true) :
    Ticks t ss e (some false, (t.ss ss).queuedTimeouts + 1)
  /-- `timeout_cb` runs -/
  | fires (he : e = .timeoutCb ss) (hq : (t.ss ss).queuedTimeouts ≠ 0) :
    Ticks t ss e ((t.ss ss).timer, (t.ss ss).queuedTimeouts - 1)

/-- Headers stop the timer of their transfer, and of no other; a handler that is in the queue stays
    there. -/
theorem sidheaders_ticks {t t' : Transfers C} {x : SsGreynet C} {msgp : Message}
    {out : List (Action C)} (h : t.sidheadersHandler x msgp = .ok (t', out)) :
    t'.clock x = (some false, (t.ss x).queuedTimeouts) ∧ ∀ y, y ≠ x → t'.clock y = t.clock y := by
  unfold sidheadersHandler at h
  split at h
  · have hclock := clock_headerLines h
    refine ⟨?_, fun y hy => ?_⟩
    · rw [hclock, clock, modifySs_self]
    · rw [hclock, clock, modifySs_ne _ _ hy]
      rfl
  · cases h

/-- **Every event changes the timer of a transfer in one of these ways.**  One case for each event;
    all but four leave it alone. -/
theorem step_ticks {t t' : Transfers C} {e : Event C} {out : List (Action C)}
    (hok : step t e = .ok (t', out)) (ss : SsGreynet C) : Ticks t ss e (t'.clock ss) := by
  -- one case for each event; in most of them this object's timer is not touched
  have hkeeps : t'.clock ss = t.clock ss → Ticks t ss e (t'.clock ss) := fun h => h ▸ .keeps
  have hidle : Except.ok (ε := Fault) (t, []) = .ok (t', out) → Ticks t ss e (t'.clock ss) := by
    intro h
    obtain ⟨rfl, -⟩ := Prod.mk.inj (Except.ok.inj h)
    exact .keeps
  cases e with
  | startReply x aa ready uuid =>
    cases ready with
    | false =>
      rw [step, startReply_notReady] at hok
      exact hkeeps ((clock_cancelHandler hok ss).trans (clock_modifySs t x rfl rfl ss))
    | true =>
      obtain ⟨rfl, -⟩ := Prod.mk.inj (Except.ok.inj hok)
      by_cases hx : ss = x
      · subst hx
        rw [clock, modifySs_self, startSidrequest_ss, modifySs_self]
        exact .starts aa uuid rfl
      · refine hkeeps ?_
        rw [clock, modifySs_ne _ _ hx, startSidrequest_ss, modifySs_ne _ _ hx]
        rfl
  | siddata conn msgp =>
    simp only [step, handleSiddata] at hok
    split at hok
    · exact hidle hok
    · exact hkeeps (clock_siddataHandler hok ss)
  | sidheaders conn msgp =>
    simp only [step, handleSidheaders] at hok
    split at hok
    · exact hidle hok
    · rename_i x hx
      -- the headers stop the timer of the one object they are for
      obtain ⟨hself, hother⟩ := sidheaders_ticks hok
      by_cases hxs : ss = x
      · subst hxs
        rw [hself]
        exact .stops conn msgp rfl hx
      · exact hkeeps (hother ss hxs)
  | sidfail conn msgp =>
    simp only [step, handleSidfail] at hok
    split at hok
    · exact hidle hok
    · exact hkeeps (clock_cancelHandler hok ss)
  | timerExpires x =>
    simp only [step] at hok
    split at hok
    · rename_i hpending
      obtain ⟨rfl, -⟩ := Prod.mk.inj (Except.ok.inj hok)
      by_cases hx : ss = x
      · subst hx
        rw [clock, modifySs_self]
        exact .expires rfl hpending
      · refine hkeeps ?_
        rw [clock, modifySs_ne _ _ hx]
        rfl
    · exact hidle hok
  | timeoutCb x =>
    simp only [step] at hok
    split at hok
    · exact hidle hok
    · rename_i hq
      have hclock := clock_cancelHandler hok ss
      by_cases hx : ss = x
      · subst hx
        rw [hclock, clock, modifySs_self]
        exact .fires rfl hq
      · refine hkeeps (hclock.trans ?_)
        rw [clock, modifySs_ne _ _ hx]
        rfl
  | connectionTerminated conn => exact hkeeps (clock_cancelSids ss _ hok)
  | newAdaptor conn sid =>
    obtain ⟨rfl, -⟩ := Prod.mk.inj (Except.ok.inj hok)
    exact .keeps
  | adaptorCall aa call =>
    have hclock := clock_adaptorCall t aa call ss
    rw [Except.ok.inj hok] at hclock
    exact hkeeps hclock

/-! ## When the timer has been stopped -/

/-- No wait is pending, and no handler is in the queue: nothing is left that could call
    `timeout_cb`. -/
def Stopped (t : Transfers C) (ss : SsGreynet C) : Prop :=
  (t.ss ss).timer ≠ some true ∧ (t.ss ss).queuedTimeouts = 0

/-- Only `start_reply` starts the timer again; a timer that is stopped stays so at any other
    event. -/
theorem stopped_step {t t' : Transfers C} {e : Event C} {out : List (Action C)}
    (hok : step t e = .ok (t', out)) {ss : SsGreynet C}
    (hno : ∀ aa uuid, e ≠ .startReply ss aa true uuid) (hs : Stopped t ss) : Stopped t' ss := by
  have hclock : ∀ {c}, t'.clock ss = c → c.1 ≠ some true → c.2 = 0 → Stopped t' ss := by
    rintro c rfl htimer hq
    exact ⟨htimer, hq⟩
  generalize hc : t'.clock ss = c at hclock
  have hticks := step_ticks hok ss
  rw [hc] at hticks
  cases hticks with
  | keeps => exact hclock rfl hs.1 hs.2
  | starts aa uuid he => exact absurd he (hno aa uuid)
  | stops => exact hclock rfl (by simp) hs.2
  | expires he hpending => exact absurd hpending hs.1
  | fires he hq => exact absurd hs.2 hq

/-- And so over any run in which the transfer is not started again. -/
theorem stopped_run {t t' : Transfers C}
    {hist : List (Runs.Step (Transfers C) (Event C) (Action C))}
    (hr : Runs.Run step (· = t) hist t') {ss : SsGreynet C}
    (hno : ∀ st ∈ hist, ∀ aa uuid, st.event ≠ .startReply ss aa true uuid) (hs : Stopped t ss) :
    Stopped t' ss := by
  refine Runs.Run.invariant (I := fun hist t' =>
    (∀ st ∈ hist, ∀ aa uuid, st.event ≠ .startReply ss aa true uuid) → Stopped t' ss) ?_ ?_ hr hno
  · rintro t' rfl _
    exact hs
  · intro hist t e t' out _ ih hok hno
    refine stopped_step hok (hno _ List.mem_concat_self) ?_
    exact ih fun st hst => hno st (List.mem_append_left _ hst)

/-- **`timeout_cb` enters `cancel_handler` exactly if a wait has run out**, and cancels then even if
    the handler never returns. -/
theorem cancels_iff (t : Transfers C) (ss : SsGreynet C) :
    .cancelHandler ss ∈ (t.traced (.timeoutCb ss)).out ↔ (t.ss ss).queuedTimeouts ≠ 0 := by
  rw [traced]
  by_cases hq : (t.ss ss).queuedTimeouts = 0
  · rw [if_pos hq]
    exact iff_of_false List.not_mem_nil (not_not_intro hq)
  · rw [if_neg hq]
    refine iff_of_true ?_ hq
    rw [tracedCancelHandler, Traced.bind_emit]
    exact List.mem_cons_self ..

/-! ## After the headers -/

/-- From here on `timeout_cb` does not enter `cancel_handler` for the transfer, whatever happens,
    unless it is started once more. -/
def Spared (t : Transfers C) (ss : SsGreynet C) : Prop :=
  ∀ hist t', Runs.Run step (· = t) hist t' →
    (∀ st ∈ hist, ∀ aa uuid, st.event ≠ .startReply ss aa true uuid) →
    .cancelHandler ss ∉ (t'.traced (.timeoutCb ss)).out

/-- **Headers spare the transfer exactly if the wait has not run out before them.**  In every run,
    when a SIDHEADERS has got to the transfer `ss`, with the status 200 or another, no run from
    there makes the timer cancel it, exactly if no handler of its timer was in the queue. -/
theorem headers_spare_iff {hist : List (Runs.Step (Transfers C) (Event C) (Action C))}
    {t : Transfers C} (hr : Runs.Run step (· = empty) hist t)
    {st : Runs.Step (Transfers C) (Event C) (Action C)} (hst : st ∈ hist) {conn : C}
    {msgp : Message} {ss : SsGreynet C} (he : st.event = .sidheaders conn msgp)
    (hss : st.pre.reg.sid2ss msgp.guid = some ss) :
    Spared st.post ss ↔ (st.pre.ss ss).queuedTimeouts = 0 := by
  obtain ⟨h₁, h₂, rfl⟩ := List.append_of_mem hst
  obtain ⟨-, hok, -⟩ := hr.cut
  rw [he] at hok
  simp only [step, handleSidheaders, hss] at hok
  obtain ⟨hclock, -⟩ := sidheaders_ticks hok
  have htimer : (st.post.ss ss).timer = some false := congrArg Prod.fst hclock
  have hqueued : (st.post.ss ss).queuedTimeouts = (st.pre.ss ss).queuedTimeouts :=
    congrArg Prod.snd hclock
  constructor
  · intro hspared
    -- the next thing to happen may be that the queue is run
    by_contra hq
    refine hspared [] st.post (.start rfl) (fun st hst => by cases hst) ?_
    rw [cancels_iff, hqueued]
    exact hq
  · intro hq hist t' hrun hno hcancels
    have hstopped : Stopped t' ss :=
      stopped_run hrun hno ⟨by rw [htimer]; simp, hqueued.trans hq⟩
    exact (cancels_iff t' ss).mp hcancels hstopped.2

/-- Headers with the status 200, and no other line. -/
def okHeaders : Message := generalMessage .sidheaders "status\t200\n" "s"

/-- The headers come in time, while the wait is pending. -/
def inTime : List (Event Nat) :=
  [.startReply ⟨1, 0, "s"⟩ (.playdar 0) true "u", .sidheaders 0 okHeaders]

/-- The wait runs out just before the headers come, so that its handler is in the queue when they
    do. -/
def tooLate : List (Event Nat) :=
  [.startReply ⟨1, 0, "s"⟩ (.playdar 0) true "u", .timerExpires ⟨1, 0, "s"⟩,
    .sidheaders 0 okHeaders]

/-- In time, they keep the timer from cancelling, now and later. -/
theorem in_time_is_spared : Spared (Runs.after step empty inTime) ⟨1, 0, "s"⟩ := by
  have hlast : ∃ hist st, Runs.trace step empty inTime = hist ++ [st] ∧
      st.event = .sidheaders 0 okHeaders ∧ st.pre.reg.sid2ss "s" = some ⟨1, 0, "s"⟩ ∧
      (st.pre.ss ⟨1, 0, "s"⟩).queuedTimeouts = 0 ∧ st.post = Runs.after step empty inTime :=
    ⟨[_], _, rfl, rfl, rfl, rfl, rfl⟩
  obtain ⟨hist, st, htrace, he, hss, hq, hpost⟩ := hlast
  have hst : st ∈ Runs.trace step empty inTime := by
    rw [htrace]
    exact List.mem_concat_self
  rw [← hpost]
  exact (headers_spare_iff (Runs.run_trace inTime rfl) hst he hss).mpr hq

/-- The adaptor hears the status 200, and then that the stream is cancelled: cancelling the timer
    does not take the handler back. -/
theorem too_late_is_cancelled :
    Runs.Run step (· = empty) (Runs.trace step empty tooLate) (Runs.after step empty tooLate) ∧
    ((Runs.trace step empty tooLate).map fun st => callsOn (.playdar 0) st.out) =
      [[], [], [.setStatusCode 200]] ∧
    .cancelHandler ⟨1, 0, "s"⟩ ∈
      ((Runs.after step empty tooLate).traced (.timeoutCb ⟨1, 0, "s"⟩)).out ∧
    callsOn (.playdar 0) ((Runs.after step empty tooLate).traced (.timeoutCb ⟨1, 0, "s"⟩)).out =
      [.writeCancel] ∧
    ¬ Spared (Runs.after step empty tooLate) ⟨1, 0, "s"⟩ := by
  have hcancels : .cancelHandler ⟨1, 0, "s"⟩ ∈
      ((Runs.after step empty tooLate).traced (.timeoutCb ⟨1, 0, "s"⟩)).out := by
    rw [cancels_iff]
    exact Nat.one_ne_zero
  refine ⟨Runs.run_trace tooLate rfl, rfl, hcancels, rfl, fun hspared => ?_⟩
  exact hspared [] _ (.start rfl) (fun st hst => by cases hst) hcancels

end Transfers

end Greynet
