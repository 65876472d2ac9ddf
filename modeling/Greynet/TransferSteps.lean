/-
  What each operation on the transfers does to the two maps, said once.

  `m_sid2ss` holds a transfer for each sid, `m_conn2sid` is a multimap that lists the sids of each
  connection.  Two methods change them, `register_sidtransfer` and `unregister_sidtransfer`.  The
  second one has a loop, which looks up a pair of the connection with `find`, erases it if it
  carries the sid, and otherwise looks up the very same pair again.

  1. `unregister_sidtransfer`: the loop ends exactly when the connection has no pair, or its FIRST
     pair carries the sid (`ends_unregisterIter`).  When it ends it has done the right thing
     (`Unregistered`); otherwise it never ends.
  2. Every method that ends a transfer is a call on its adaptor and then `unregister`; the
     transfer an event ends is `target t e`.  `step_does` says what any event can do,
     `step_reg` what that is to the maps, and `step_isOk` when it returns.
  3. `Sound` is the invariant of every reachable state: what `m_sid2ss` holds has a pair in
     `m_conn2sid`, an adaptor and a timer.  The converse (every pair in `m_conn2sid` belongs to
     what `m_sid2ss` holds) is NOT an invariant: see `Greynet.TransferMaps`.

  Between a step and the facts about it stand two notions: a step that `Leaves` the maps alone and
  one that `Finishes` a transfer.  An event that requests no transfer, lets no timer run out and
  closes no connection is one or the other, and what is proved later of the end of a transfer is
  proved of `Finishes`, once.
-/
import Greynet.Transfers

namespace Greynet

variable {C : Type} [LinearOrder C]

/-! ## `unregister_sidtransfer` -/

namespace Registry

/-- The first sid under a connection, what `find(conn)` points at; a multimap keeps the pairs of one
    key in the order in which they came. -/
def firstSid (r : Registry C) (conn : C) : Option Sid := (r.conn2sid.values conn).head?

/-- What unregistering `(conn, sid)` is meant to do: the sid leaves `m_sid2ss`, one pair `(conn,
    sid)` leaves `m_conn2sid` if there is one, and everything else stays.  It speaks of the values
    under each connection only, not of the order of the whole list. -/
structure Unregistered (r : Registry C) (conn : C) (sid : Sid) (r' : Registry C) : Prop where
  sid2ss : r'.sid2ss = Function.update r.sid2ss sid none
  here : r'.conn2sid.values conn = (r.conn2sid.values conn).erase sid
  others : ∀ d, d ≠ conn → r'.conn2sid.values d = r.conn2sid.values d

/-- **When the loop ends, and with what**: if the connection has no pair, or if its first pair is
    the wanted one, which is erased.  In any other case a round changes nothing, and the next one
    finds what this one has found. -/
theorem ends_unregisterIter {conn : C} {sid : Sid} {m m' : Multimap C Sid} :
    Runs.Ends (unregisterIter conn sid) m m' ↔
      (m.values conn = [] ∧ m' = m) ∨
      ((m.values conn).head? = some sid ∧ m' = m.eraseFound conn) := by
  cases hf : m.find conn with
  | none =>
    have hiter : unregisterIter conn sid m = .exit m := by
      unfold unregisterIter
      rw [hf]
    have hv := Multimap.find_eq_none.mp hf
    constructor
    · intro hend
      exact Or.inl ⟨hv, hend.unique ⟨1, by rw [Runs.loop, hiter]⟩⟩
    · rintro (⟨-, rfl⟩ | ⟨hh, -⟩)
      · exact ⟨1, by rw [Runs.loop, hiter]⟩
      · rw [hv] at hh
        cases hh
  | some it =>
    obtain ⟨-, hhead⟩ := Multimap.find_eq_some.mp hf
    by_cases hs : it.2 = sid
    · have hexit : unregisterIter conn sid m = .exit (m.eraseFound conn) := by
        unfold unregisterIter
        rw [hf]
        exact if_pos hs
      constructor
      · intro hend
        exact Or.inr ⟨hs ▸ hhead, hend.unique ⟨1, by rw [Runs.loop, hexit]⟩⟩
      · rintro (⟨hv, -⟩ | ⟨-, rfl⟩)
        · rw [hv] at hhead
          cases hhead
        · exact ⟨1, by rw [Runs.loop, hexit]⟩
    · -- the pair found carries another sid: the body changes nothing and runs again
      have hagain : unregisterIter conn sid m = .again m := by
        unfold unregisterIter
        rw [hf]
        exact if_neg hs
      constructor
      · rintro ⟨fuel, hend⟩
        rw [Runs.loop_stuck hagain] at hend
        cases hend
      · rintro (⟨hv, -⟩ | ⟨hh, -⟩)
        · rw [hv] at hhead
          cases hhead
        · rw [hhead] at hh
          exact absurd (Option.some.inj hh) hs

/-- The loop ends within the bound of the model, or never: if it ends it does so in its first round,
    and the bound is one round at least.  So the model hangs only where the code does. -/
theorem unregisterSidtransfer_ok {r r' : Registry C} {conn : C} {sid : Sid} :
    r.unregisterSidtransfer conn sid = .ok r' ↔
      r'.sid2ss = Function.update r.sid2ss sid none ∧
      Runs.Ends (unregisterIter conn sid) r.conn2sid r'.conn2sid := by
  unfold unregisterSidtransfer
  constructor
  · intro h
    cases hl : Runs.loop (unregisterIter conn sid) (r.conn2sid.entries.length + 1) r.conn2sid with
    | none =>
      rw [hl] at h
      cases h
    | some m =>
      rw [hl] at h
      obtain rfl := Except.ok.inj h
      exact ⟨rfl, _, hl⟩
  · rintro ⟨hs, hend⟩
    obtain ⟨fuel, hfuel⟩ := hend
    -- an iteration that does not leave the loop changes nothing, so the loop would go on for ever
    have hone : Runs.loop (unregisterIter conn sid) 1 r.conn2sid = some r'.conn2sid := by
      cases hi : unregisterIter conn sid r.conn2sid with
      | exit m =>
        have : m = r'.conn2sid := Runs.Ends.unique ⟨1, by rw [Runs.loop, hi]⟩ ⟨fuel, hfuel⟩
        rw [Runs.loop, hi, this]
      | again m =>
        have hm : m = r.conn2sid := by
          simp only [unregisterIter] at hi
          split at hi
          · cases hi
          · split at hi
            · cases hi
            · exact (Runs.Iter.again.inj hi).symm
        rw [hm] at hi
        rw [Runs.loop_stuck hi] at hfuel
        cases hfuel
    rw [Runs.loop_mono (Nat.succ_le_succ (Nat.zero_le _)) hone]
    show Except.ok _ = Except.ok r'
    rw [← hs]

/-- **Whenever the loop ends it has unregistered exactly that transfer.**  So a wrong entry is never
    erased; the price of the slip is that the loop may not end. -/
theorem unregistered_of_ok {r r' : Registry C} {conn : C} {sid : Sid}
    (h : r.unregisterSidtransfer conn sid = .ok r') : Unregistered r conn sid r' := by
  obtain ⟨hs, hend⟩ := unregisterSidtransfer_ok.mp h
  rcases ends_unregisterIter.mp hend with ⟨hnil, hm⟩ | ⟨hhead, hm⟩
  · exact ⟨hs, by rw [hm, hnil]; rfl, fun d _ => by rw [hm]⟩
  · refine ⟨hs, ?_, fun d hd => by rw [hm, Multimap.values_eraseFound_ne _ hd]⟩
    rw [hm, Multimap.values_eraseFound_self]
    cases hv : r.conn2sid.values conn with
    | nil => rfl
    | cons s ss =>
      rw [hv] at hhead
      obtain rfl := Option.some.inj hhead
      rw [List.erase_cons_head, List.tail_cons]

/-- It ends exactly when `find` sees no pair of the connection or the wanted one; the form in which
    this is used, a condition on the state before the call. -/
theorem unregisterSidtransfer_isOk {r : Registry C} {conn : C} {sid : Sid} :
    (∃ r', r.unregisterSidtransfer conn sid = .ok r') ↔
      ∀ s, r.firstSid conn = some s → s = sid := by
  constructor
  · rintro ⟨r', h⟩ s hs
    obtain ⟨-, hend⟩ := unregisterSidtransfer_ok.mp h
    rw [firstSid] at hs
    rcases ends_unregisterIter.mp hend with ⟨hnil, -⟩ | ⟨hhead, -⟩
    · rw [hnil] at hs
      cases hs
    · rw [hhead] at hs
      exact (Option.some.inj hs).symm
  · intro hfirst
    cases hv : r.conn2sid.values conn with
    | nil =>
      exact ⟨⟨_, r.conn2sid⟩, unregisterSidtransfer_ok.mpr
        ⟨rfl, ends_unregisterIter.mpr (Or.inl ⟨hv, rfl⟩)⟩⟩
    | cons s ss =>
      have hhead : (r.conn2sid.values conn).head? = some s := by rw [hv]; rfl
      obtain rfl := hfirst s hhead
      exact ⟨⟨_, r.conn2sid.eraseFound conn⟩, unregisterSidtransfer_ok.mpr
        ⟨rfl, ends_unregisterIter.mpr (Or.inr ⟨hhead, rfl⟩)⟩⟩

/-- What `m_sid2ss` holds under a sid is a transfer of that sid, with a pair in `m_conn2sid`.
    Nothing is said of the other direction, in which the two maps do come apart. -/
def Sound (r : Registry C) : Prop :=
  ∀ s ss, r.sid2ss s = some ss → ss.sid = s ∧ s ∈ r.conn2sid.values ss.conn

/-- Registering keeps it so: the new entry has a new pair, and the pairs that were there stay. -/
theorem sound_register {r : Registry C} (h : r.Sound) (ss : SsGreynet C) :
    (r.registerSidtransfer ss.conn ss.sid ss).Sound := by
  intro s ss' hs
  simp only [registerSidtransfer] at hs ⊢
  by_cases he : s = ss.sid
  · subst he
    rw [Function.update_self] at hs
    obtain rfl := Option.some.inj hs
    exact ⟨rfl, by rw [Multimap.values_insert_self]; simp⟩
  · rw [Function.update_of_ne he] at hs
    obtain ⟨hsid, hmem⟩ := h s ss' hs
    refine ⟨hsid, ?_⟩
    by_cases hc : ss'.conn = ss.conn
    · rw [hc, Multimap.values_insert_self]
      rw [hc] at hmem
      exact List.mem_append_left _ hmem
    · rwa [Multimap.values_insert_ne _ _ hc]

/-- So does unregistering: another sid keeps its entry, and its pair is another one. -/
theorem Unregistered.sound {r r' : Registry C} {conn : C} {sid : Sid}
    (hu : Unregistered r conn sid r') (h : r.Sound) : r'.Sound := by
  intro s ss hs
  rw [hu.sid2ss] at hs
  by_cases he : s = sid
  · subst he
    rw [Function.update_self] at hs
    cases hs
  · rw [Function.update_of_ne he] at hs
    obtain ⟨hsid, hmem⟩ := h s ss hs
    refine ⟨hsid, ?_⟩
    by_cases hc : ss.conn = conn
    · rw [hc] at hmem ⊢
      rw [hu.here]
      exact (List.mem_erase_of_ne he).mpr hmem
    · rwa [hu.others _ hc]

end Registry

/-! ## The methods of `ss_greynet` -/

namespace Transfers

/-- Changing the members of an `ss_greynet` leaves the maps alone, ... -/
@[simp] theorem modifySs_reg (t : Transfers C) (ss : SsGreynet C) (f : SsState → SsState) :
    (t.modifySs ss f).reg = t.reg := rfl

/-- ... changes that one as it says ... -/
@[simp] theorem modifySs_self (t : Transfers C) (ss : SsGreynet C) (f : SsState → SsState) :
    (t.modifySs ss f).ss ss = f (t.ss ss) := by simp [modifySs]

/-- ... and no other. -/
theorem modifySs_ne (t : Transfers C) {ss ss' : SsGreynet C} (f : SsState → SsState)
    (h : ss' ≠ ss) : (t.modifySs ss f).ss ss' = t.ss ss' := by simp [modifySs, h]

/-- Calling an adaptor leaves the maps alone ... -/
@[simp] theorem adaptorCall_reg (t : Transfers C) (aa : AdaptorId) (call : AdaptorCall) :
    (t.adaptorCall aa call).1.reg = t.reg := by
  unfold adaptorCall
  split
  · rfl
  · split <;> rfl

/-- ... and every `ss_greynet` as well: adaptors know of the connection they write to, and of no
    transfer. -/
@[simp] theorem adaptorCall_ss (t : Transfers C) (aa : AdaptorId) (call : AdaptorCall) :
    (t.adaptorCall aa call).1.ss = t.ss := by
  unfold adaptorCall
  split
  · rfl
  · split <;> rfl

/-- The transfers whose `cancel_handler` ran, in order, read off the marks that it leaves. -/
def cancelled (out : List (Action C)) : List (SsGreynet C) :=
  out.filterMap fun
    | .cancelHandler ss => some ss
    | _ => none

omit [LinearOrder C] in
/-- What was cancelled in two batches was cancelled in the one or in the other, in that order. -/
theorem cancelled_append (out out' : List (Action C)) :
    cancelled (out ++ out') = cancelled out ++ cancelled out' := List.filterMap_append

omit [LinearOrder C] in
/-- An adaptor cancels no transfer, whatever it is called for: `write_cancel` is what it is told,
    ... -/
theorem cancelled_receive (a : GreynetAsyncadaptor C) (call : AdaptorCall) :
    cancelled (a.receive call).2 = [] := by
  cases call with
  | writeContent buffer =>
    by_cases h : a.sentfirst <;>
      simp [GreynetAsyncadaptor.receive, GreynetAsyncadaptor.writeContent,
        GreynetAsyncadaptor.sendHeaders, cancelled, h]
  | writeFinish =>
    by_cases h : a.sentfirst <;>
      simp [GreynetAsyncadaptor.receive, GreynetAsyncadaptor.writeFinish,
        GreynetAsyncadaptor.writeContent, GreynetAsyncadaptor.sendHeaders, cancelled, h]
  | writeCancel => rfl
  | setContentLength n => rfl
  | setMimeType m => rfl
  | setStatusCode n => rfl

/-- ... so a call as such cancels none. -/
@[simp] theorem cancelled_adaptorCall (t : Transfers C) (aa : AdaptorId) (call : AdaptorCall) :
    cancelled (t.adaptorCall aa call).2 = [] := by
  unfold adaptorCall
  split
  · rfl
  · split
    · rfl
    · exact cancelled_receive _ _

/-- `unregister` changes the maps only, as `unregister_sidtransfer` does, and returns where that
    does. -/
theorem unregister_ok {t t' : Transfers C} {ss : SsGreynet C} :
    t.unregister ss = .ok t' ↔
      ∃ r, t.reg.unregisterSidtransfer ss.conn ss.sid = .ok r ∧ t' = { t with reg := r } := by
  unfold unregister
  cases h : t.reg.unregisterSidtransfer ss.conn ss.sid with
  | error f => simp
  | ok r => simp [eq_comm]

/-- **`cancel_handler`, in one statement**: it needs an adaptor, tells it, and unregisters.  The
    mark that it was entered stands in front of what the adaptor does. -/
theorem cancelHandler_ok {t t' : Transfers C} {ss : SsGreynet C} {out : List (Action C)}
    (h : t.cancelHandler ss = .ok (t', out)) :
    ∃ aa, (t.ss ss).aa = some aa ∧
      t.reg.unregisterSidtransfer ss.conn ss.sid = .ok t'.reg ∧ t'.ss = t.ss ∧
      out = .cancelHandler ss :: (t.adaptorCall aa .writeCancel).2 := by
  unfold cancelHandler at h
  cases haa : (t.ss ss).aa with
  | none =>
    rw [haa] at h
    cases h
  | some aa =>
    rw [haa] at h
    simp only at h
    cases hu : (t.adaptorCall aa .writeCancel).1.unregister ss with
    | error f =>
      rw [hu] at h
      cases h
    | ok t₁ =>
      rw [hu] at h
      obtain ⟨rfl, rfl⟩ := Prod.mk.inj (Except.ok.inj h)
      obtain ⟨r, hr, rfl⟩ := unregister_ok.mp hu
      rw [adaptorCall_reg] at hr
      exact ⟨aa, rfl, hr, by rw [adaptorCall_ss], rfl⟩

/-- With an adaptor, it returns exactly when the loop ends; without one, a null pointer is
    followed. -/
theorem cancelHandler_isOk {t : Transfers C} {ss : SsGreynet C} (haa : (t.ss ss).aa ≠ none) :
    (∃ x, t.cancelHandler ss = .ok x) ↔
      ∃ r, t.reg.unregisterSidtransfer ss.conn ss.sid = .ok r := by
  obtain ⟨aa, haa⟩ := Option.ne_none_iff_exists'.mp haa
  constructor
  · rintro ⟨⟨t', out⟩, h⟩
    obtain ⟨_, _, hr, _⟩ := cancelHandler_ok h
    exact ⟨_, hr⟩
  · rintro ⟨r, hr⟩
    refine ⟨({ (t.adaptorCall aa .writeCancel).1 with reg := r },
      .cancelHandler ss :: (t.adaptorCall aa .writeCancel).2), ?_⟩
    unfold cancelHandler
    rw [haa]
    simp only
    have hu : (t.adaptorCall aa .writeCancel).1.unregister ss =
        .ok { (t.adaptorCall aa .writeCancel).1 with reg := r } :=
      unregister_ok.mpr ⟨r, by rw [adaptorCall_reg]; exact hr, rfl⟩
    rw [hu]

/-- A change to an `ss_greynet` that neither gives it an adaptor or a timer nor lets a wait run out.
    It may stop the timer, as the headers do, and run a timeout handler that was queued. -/
structure Quiet (x x' : SsState) : Prop where
  aa : x'.aa = x.aa
  timer : x'.timer = none ↔ x.timer = none
  queued : x'.queuedTimeouts ≤ x.queuedTimeouts

/-- No change is a quiet one, ... -/
theorem Quiet.refl (x : SsState) : Quiet x x := ⟨rfl, Iff.rfl, Nat.le_refl _⟩

/-- ... and so are two quiet ones in a row. -/
theorem Quiet.trans {x y z : SsState} (h : Quiet x y) (h' : Quiet y z) : Quiet x z :=
  ⟨h'.aa.trans h.aa, h'.timer.trans h.timer, Nat.le_trans h'.queued h.queued⟩

/-- A quiet change to one `ss_greynet` is quiet for all of them. -/
theorem quiet_modifySs (t : Transfers C) (ss : SsGreynet C) {f : SsState → SsState}
    (hf : Quiet (t.ss ss) (f (t.ss ss))) (x : SsGreynet C) :
    Quiet (t.ss x) ((t.modifySs ss f).ss x) := by
  by_cases hx : x = ss
  · subst hx
    rwa [modifySs_self]
  · rw [modifySs_ne t f hx]
    exact .refl _

/-- The step leaves the maps alone, cancels nothing, and is quiet for every `ss_greynet`. -/
structure Leaves (t t' : Transfers C) (out : List (Action C)) : Prop where
  reg : t'.reg = t.reg
  quiet : ∀ x, Quiet (t.ss x) (t'.ss x)
  cancelled : cancelled out = []

/-- The step ends the transfer `ss`: it unregisters it, and at most its `cancel_handler` runs.  A
    stream that comes to its end is finished without any cancelling. -/
structure Finishes (t : Transfers C) (ss : SsGreynet C) (t' : Transfers C)
    (out : List (Action C)) : Prop where
  reg : t.reg.unregisterSidtransfer ss.conn ss.sid = .ok t'.reg
  quiet : ∀ x, Quiet (t.ss x) (t'.ss x)
  cancelled : ∀ x ∈ cancelled out, x = ss

/-- `cancel_handler` finishes its transfer, if it returns. -/
theorem finishes_cancelHandler {t t' : Transfers C} {ss : SsGreynet C} {out : List (Action C)}
    (h : t.cancelHandler ss = .ok (t', out)) : Finishes t ss t' out := by
  obtain ⟨aa, -, hr, hss, rfl⟩ := cancelHandler_ok h
  refine ⟨hr, fun x => by rw [hss]; exact .refl _, fun x hx => ?_⟩
  have hc : Transfers.cancelled (.cancelHandler ss :: (t.adaptorCall aa .writeCancel).2) =
      ss :: Transfers.cancelled (t.adaptorCall aa .writeCancel).2 := rfl
  rw [hc, cancelled_adaptorCall] at hx
  exact List.mem_singleton.mp hx

/-! ### Header lines -/

/-- A status line with another code than 200, as `atoi` reads it.  A line with a second tab is no
    status line, whatever it starts with. -/
def statusAborts (line : String) : Bool :=
  match splitAt line '\t' with
  | [key, val] => key = "status" && atoi val ≠ 200
  | _ => false

/-- Headers with a status other than 200 in one of their lines, wherever it stands. -/
def abortsHeaders (payload : String) : Bool := (splitAt payload '\n').any statusAborts

/-- A header line that is not an aborting status line: at most a setter call, then the rest.  The
    setter changes the adaptor, and for a length the transfer's own note of it, which is a quiet
    change. -/
theorem headerLines_cons (t : Transfers C) (ss : SsGreynet C) (aa : AdaptorId) {line : String}
    (lines : List String) (hl : statusAborts line = false) :
    ∃ (t₁ : Transfers C) (out₁ : List (Action C)), Leaves t t₁ out₁ ∧
      t.headerLines ss aa (line :: lines) =
        match t₁.headerLines ss aa lines with
        | .error f => .error f
        | .ok (t', out) => .ok (t', out₁ ++ out) := by
  -- a line that is not read makes no call, and is passed over
  have hskip : t.headerLines ss aa lines =
      match t.headerLines ss aa lines with
      | .error f => .error f
      | .ok (t', out) => .ok (t', [] ++ out) := by
    cases t.headerLines ss aa lines <;> rfl
  have hself : Leaves t t [] := ⟨rfl, fun x => .refl _, rfl⟩
  have hcall : ∀ call, Leaves t (t.adaptorCall aa call).1 (t.adaptorCall aa call).2 := fun call =>
    ⟨adaptorCall_reg t aa call, fun x => by rw [adaptorCall_ss]; exact .refl _,
      cancelled_adaptorCall t aa call⟩
  -- a line is read if it splits in two at its tab, and then by its key
  rw [headerLines]
  unfold statusAborts at hl
  split
  · rename_i key val hsplit
    rw [hsplit] at hl
    by_cases hst : key = "status"
    · have hcode : ¬ atoi val ≠ 200 := by simpa [hst] using hl
      rw [if_pos hst]
      simp only [if_neg hcode]
      exact ⟨_, _, hcall _, rfl⟩
    · rw [if_neg hst]
      by_cases hmt : key = "mime-type"
      · rw [if_pos hmt]
        exact ⟨_, _, hcall _, rfl⟩
      · rw [if_neg hmt]
        by_cases hcl : key = "content-length"
        · rw [if_pos hcl]
          refine ⟨_, _, ⟨?_, ?_, (hcall _).cancelled⟩, rfl⟩
          · exact (hcall _).reg
          · intro x
            exact ((hcall _).quiet x).trans
              (quiet_modifySs _ _ ⟨rfl, Iff.rfl, Nat.le_refl _⟩ x)
        · rw [if_neg hcl]
          exact ⟨t, [], hself, hskip⟩
  · exact ⟨t, [], hself, hskip⟩

/-- An aborting status line: the code is passed on and the transfer cancelled.  The lines after it
    are not looked at. -/
theorem headerLines_abort (t : Transfers C) (ss : SsGreynet C) (aa : AdaptorId) {line : String}
    (lines : List String) (hl : statusAborts line = true) :
    ∃ code, t.headerLines ss aa (line :: lines) =
      match (t.adaptorCall aa (.setStatusCode code)).1.cancelHandler ss with
      | .error f => .error f
      | .ok (t', out) => .ok (t', (t.adaptorCall aa (.setStatusCode code)).2 ++ out) := by
  unfold statusAborts at hl
  rw [headerLines]
  split
  · rename_i key val hsplit
    rw [hsplit] at hl
    obtain ⟨hst, hcode⟩ : key = "status" ∧ atoi val ≠ 200 := by simpa using hl
    rw [if_pos hst]
    simp only [if_pos hcode]
    exact ⟨_, rfl⟩
  · rename_i hsplit
    split at hl
    · rename_i key val h
      exact absurd h (hsplit key val)
    · cases hl

/-- **The header loop**, by induction on the lines: it cancels exactly when some line aborts.  Up to
    that line it leaves everything alone, and with that line it finishes the transfer. -/
theorem headerLines_ok {ss : SsGreynet C} {aa : AdaptorId} (lines : List String) :
    ∀ {t t' : Transfers C} {out : List (Action C)}, t.headerLines ss aa lines = .ok (t', out) →
      (lines.any statusAborts = true → Finishes t ss t' out) ∧
      (lines.any statusAborts = false → Leaves t t' out) := by
  induction lines with
  | nil =>
    intro t t' out h
    obtain ⟨rfl, rfl⟩ := Prod.mk.inj (Except.ok.inj h)
    exact ⟨fun hany => by simp at hany, fun _ => ⟨rfl, fun x => .refl _, rfl⟩⟩
  | cons line lines ih =>
    intro t t' out h
    cases hl : statusAborts line with
    | true =>
      -- the line aborts: the transfer is finished here, and the other lines are not reached
      obtain ⟨code, heq⟩ := headerLines_abort t ss aa lines hl
      rw [heq] at h
      cases hc : (t.adaptorCall aa (.setStatusCode code)).1.cancelHandler ss with
      | error f =>
        rw [hc] at h
        cases h
      | ok x =>
        rw [hc] at h
        obtain ⟨rfl, rfl⟩ := Prod.mk.inj (Except.ok.inj h)
        have hfin := finishes_cancelHandler hc
        refine ⟨fun _ => ⟨?_, fun x => ?_, fun x hx => ?_⟩, fun hany => by simp [hl] at hany⟩
        · rw [← adaptorCall_reg t aa (.setStatusCode code)]
          exact hfin.reg
        · have := hfin.quiet x
          rwa [adaptorCall_ss] at this
        · rw [cancelled_append, cancelled_adaptorCall, List.nil_append] at hx
          exact hfin.cancelled x hx
    | false =>
      -- the line sets something at most; what the rest does, the whole does
      obtain ⟨t₁, out₁, hleave, heq⟩ := headerLines_cons t ss aa lines hl
      rw [heq] at h
      cases hc : t₁.headerLines ss aa lines with
      | error f =>
        rw [hc] at h
        cases h
      | ok x =>
        rw [hc] at h
        obtain ⟨rfl, rfl⟩ := Prod.mk.inj (Except.ok.inj h)
        obtain ⟨hfin, hleave'⟩ := ih hc
        simp only [List.any_cons, hl, Bool.false_or]
        constructor
        · intro hany
          have hf := hfin hany
          refine ⟨hleave.reg ▸ hf.reg, fun x => (hleave.quiet x).trans (hf.quiet x), ?_⟩
          intro x hx
          rw [cancelled_append, hleave.cancelled, List.nil_append] at hx
          exact hf.cancelled x hx
        · intro hany
          have hf := hleave' hany
          refine ⟨hf.reg.trans hleave.reg, fun x => (hleave.quiet x).trans (hf.quiet x), ?_⟩
          rw [cancelled_append, hleave.cancelled, hf.cancelled, List.nil_append]

/-- The header loop returns unless it has to cancel and the unregistering loop does not end.  The
    adaptor is there throughout, since no setter takes it away. -/
theorem headerLines_isOk {ss : SsGreynet C} {aa : AdaptorId} (lines : List String) :
    ∀ {t : Transfers C}, (t.ss ss).aa ≠ none →
      ((∃ x, t.headerLines ss aa lines = .ok x) ↔
        (lines.any statusAborts = true →
          ∃ r, t.reg.unregisterSidtransfer ss.conn ss.sid = .ok r)) := by
  induction lines with
  | nil =>
    intro t _
    exact ⟨fun _ hany => by simp at hany, fun _ => ⟨_, rfl⟩⟩
  | cons line lines ih =>
    intro t haa
    cases hl : statusAborts line with
    | true =>
      obtain ⟨code, heq⟩ := headerLines_abort t ss aa lines hl
      have haa' : ((t.adaptorCall aa (.setStatusCode code)).1.ss ss).aa ≠ none := by
        rwa [adaptorCall_ss]
      -- only the cancelling can fail, and there only the unregistering
      have hiff := cancelHandler_isOk haa'
      rw [adaptorCall_reg] at hiff
      rw [heq]
      simp only [List.any_cons, hl, Bool.true_or, forall_const]
      rw [← hiff]
      cases (t.adaptorCall aa (.setStatusCode code)).1.cancelHandler ss <;> simp
    | false =>
      obtain ⟨t₁, out₁, hleave, heq⟩ := headerLines_cons t ss aa lines hl
      have hrec := ih (t := t₁) (by rw [(hleave.quiet ss).aa]; exact haa)
      rw [hleave.reg] at hrec
      rw [heq]
      simp only [List.any_cons, hl, Bool.false_or]
      rw [← hrec]
      cases t₁.headerLines ss aa lines <;> simp

/-! ## One event -/

/-- The transfer an event ends, if it ends one: the one that its sid is registered for, or the one
    whose timeout handler runs, or the one that could not be started.  The closing of a connection,
    which may end several, is kept apart. -/
def target (t : Transfers C) : Event C → Option (SsGreynet C)
  | .startReply ss _ ready _ => if ready then none else some ss
  | .siddata _ msgp => if msgp.payload.length = 0 then t.reg.sid2ss msgp.guid else none
  | .sidheaders _ msgp => if abortsHeaders msgp.payload then t.reg.sid2ss msgp.guid else none
  | .sidfail _ msgp => t.reg.sid2ss msgp.guid
  | .timeoutCb ss => if (t.ss ss).queuedTimeouts = 0 then none else some ss
  | _ => none

/-- What an `ss_greynet` has that something can still call: a transfer that is registered has its
    adaptor and its timer, and one that has a timer, or a timeout queued, has an adaptor. -/
structure Sound (t : Transfers C) : Prop where
  reg : t.reg.Sound
  started : ∀ s ss, t.reg.sid2ss s = some ss → (t.ss ss).aa ≠ none ∧ (t.ss ss).timer ≠ none
  waiting : ∀ ss, (t.ss ss).timer ≠ none ∨ (t.ss ss).queuedTimeouts ≠ 0 → (t.ss ss).aa ≠ none

/-- At first there is nothing to call. -/
theorem sound_empty : (empty : Transfers C).Sound :=
  ⟨fun s ss h => (by cases h), fun s ss h => (by cases h), fun ss h => by simp [empty] at h⟩

/-- A step that leaves the maps alone keeps it so: a quiet change takes no adaptor and starts no
    wait. -/
theorem Leaves.sound {t t' : Transfers C} {out : List (Action C)} (h : Leaves t t' out)
    (hs : t.Sound) : t'.Sound := by
  refine ⟨h.reg ▸ hs.reg, fun s ss hss => ?_, fun ss hw => ?_⟩
  · obtain ⟨haa, htm⟩ := hs.started s ss (h.reg ▸ hss)
    exact ⟨by rwa [(h.quiet ss).aa], fun hn => htm ((h.quiet ss).timer.mp hn)⟩
  · rw [(h.quiet ss).aa]
    apply hs.waiting ss
    rcases hw with htm | hq
    · exact Or.inl fun hn => htm ((h.quiet ss).timer.mpr hn)
    · have := (h.quiet ss).queued
      exact Or.inr (by omega)

/-- So does one that finishes a transfer: the maps lose an entry, and the others are as they
    were. -/
theorem Finishes.sound {t t' : Transfers C} {ss₀ : SsGreynet C} {out : List (Action C)}
    (h : Finishes t ss₀ t' out) (hs : t.Sound) : t'.Sound := by
  have hu := Registry.unregistered_of_ok h.reg
  refine ⟨hu.sound hs.reg, fun s ss hss => ?_, fun ss hw => ?_⟩
  · have hold : t.reg.sid2ss s = some ss := by
      rw [hu.sid2ss] at hss
      by_cases he : s = ss₀.sid
      · subst he
        rw [Function.update_self] at hss
        cases hss
      · rwa [Function.update_of_ne he] at hss
    obtain ⟨haa, htm⟩ := hs.started s ss hold
    exact ⟨by rwa [(h.quiet ss).aa], fun hn => htm ((h.quiet ss).timer.mp hn)⟩
  · rw [(h.quiet ss).aa]
    apply hs.waiting ss
    rcases hw with htm | hq
    · exact Or.inl fun hn => htm ((h.quiet ss).timer.mpr hn)
    · have := (h.quiet ss).queued
      exact Or.inr (by omega)

/-- `siddata_handler` finishes the transfer if the part is empty, and else leaves the maps alone. -/
theorem siddataHandler_ok {t t' : Transfers C} {ss : SsGreynet C} {payload : String}
    {out : List (Action C)} (h : t.siddataHandler ss payload = .ok (t', out)) :
    (payload.length = 0 → Finishes t ss t' out) ∧ (payload.length ≠ 0 → Leaves t t' out) := by
  unfold siddataHandler at h
  cases haa : (t.ss ss).aa with
  | none =>
    rw [haa] at h
    cases h
  | some aa =>
    rw [haa] at h
    simp only at h
    constructor
    · -- an empty part is the end: the flag is set, and the maps are left to `unregister`
      intro hz
      rw [if_pos hz] at h
      split at h
      · cases h
      · rename_i t₁ hu
        obtain ⟨rfl, rfl⟩ := Prod.mk.inj (Except.ok.inj h)
        obtain ⟨r, hr, rfl⟩ := unregister_ok.mp hu
        rw [adaptorCall_reg, modifySs_reg] at hr
        refine ⟨hr, fun x => ?_, fun x hx => by simp at hx⟩
        show Quiet (t.ss x) ((Transfers.adaptorCall _ aa .writeFinish).1.ss x)
        rw [adaptorCall_ss]
        exact quiet_modifySs t ss (f := fun y => { y with finished := true })
          ⟨rfl, Iff.rfl, Nat.le_refl _⟩ x
    · intro hz
      rw [if_neg hz] at h
      have h' := Except.ok.inj h
      have h1 := congrArg Prod.fst h'
      have h2 := congrArg Prod.snd h'
      simp only at h1 h2
      refine ⟨by rw [← h1, adaptorCall_reg, modifySs_reg], fun x => ?_,
        by rw [← h2, cancelled_adaptorCall]⟩
      rw [← h1, adaptorCall_ss]
      exact quiet_modifySs t ss
        (f := fun y => { y with bytesTransferred := y.bytesTransferred + payload.length })
        ⟨rfl, Iff.rfl, Nat.le_refl _⟩ x

/-- It returns unless it has to unregister and the loop does not end. -/
theorem siddataHandler_isOk {t : Transfers C} {ss : SsGreynet C} {payload : String}
    (haa : (t.ss ss).aa ≠ none) :
    (∃ x, t.siddataHandler ss payload = .ok x) ↔
      (payload.length = 0 → ∃ r, t.reg.unregisterSidtransfer ss.conn ss.sid = .ok r) := by
  obtain ⟨aa, haa⟩ := Option.ne_none_iff_exists'.mp haa
  unfold siddataHandler
  rw [haa]
  simp only
  by_cases hz : payload.length = 0
  · rw [if_pos hz]
    simp only [hz, forall_const]
    unfold unregister
    rw [adaptorCall_reg, modifySs_reg]
    cases t.reg.unregisterSidtransfer ss.conn ss.sid <;> simp
  · rw [if_neg hz]
    exact ⟨fun _ h => absurd h hz, fun _ => ⟨_, rfl⟩⟩

/-- Requesting a song changes the maps, and no `ss_greynet`. -/
@[simp] theorem startSidrequest_ss (t : Transfers C) (conn : C) (sid : Sid) (ss : SsGreynet C)
    (uuid : String) : (t.startSidrequest conn sid ss uuid).1.ss = t.ss := rfl

/-- `start_reply` on a connection that is not ready: the adaptor is stored, then cancelled.  What
    was registered for the object before, if anything was, is unregistered by it. -/
theorem startReply_notReady {t : Transfers C} {ss : SsGreynet C} {aa : AdaptorId} {uuid : String} :
    t.startReply ss aa false uuid =
      (t.modifySs ss fun x =>
        { x with finished := false, contentlength := 0, bytesTransferred := 0,
                 aa := some aa }).cancelHandler ss := rfl

/-- `start_reply` on a ready connection always returns, registered and with a timer, and has sent
    its SIDREQUEST. -/
theorem startReply_ready (t : Transfers C) (ss : SsGreynet C) (aa : AdaptorId) (uuid : String) :
    ∃ t' : Transfers C, t.startReply ss aa true uuid =
        .ok (t', [.asyncWrite ss.conn (generalMessage .sidrequest ss.sid uuid)]) ∧
      t'.reg = t.reg.registerSidtransfer ss.conn ss.sid ss ∧
      (t'.ss ss).aa = some aa ∧ (t'.ss ss).timer = some true ∧
      ∀ x, x ≠ ss → t'.ss x = t.ss x := by
  refine ⟨_, rfl, rfl, ?_, ?_, fun x hx => ?_⟩
  · rw [modifySs_self]
    simp only [startSidrequest_ss, modifySs_self]
  · rw [modifySs_self]
  · rw [modifySs_ne _ _ hx, startSidrequest_ss, modifySs_ne _ _ hx]

/-- A quiet change before it leaves a step what it is; handlers note this or that before they do
    anything. -/
theorem Leaves.after {t t₀ t' : Transfers C} {out : List (Action C)} (h : Leaves t₀ t' out)
    (hreg : t₀.reg = t.reg) (hq : ∀ x, Quiet (t.ss x) (t₀.ss x)) : Leaves t t' out :=
  ⟨h.reg.trans hreg, fun x => (hq x).trans (h.quiet x), h.cancelled⟩

/-- The same for a step that finishes a transfer. -/
theorem Finishes.after {t t₀ t' : Transfers C} {ss : SsGreynet C} {out : List (Action C)}
    (h : Finishes t₀ ss t' out) (hreg : t₀.reg = t.reg)
    (hq : ∀ x, Quiet (t.ss x) (t₀.ss x)) : Finishes t ss t' out :=
  ⟨hreg ▸ h.reg, fun x => (hq x).trans (h.quiet x), h.cancelled⟩

/-- What an event does: one way for each kind of branch it can take. -/
inductive Does (t : Transfers C) (e : Event C) (t' : Transfers C) (out : List (Action C)) : Prop
  /-- a transfer is requested: registered, with its timer started -/
  | requests (ss : SsGreynet C) (aa : AdaptorId) (uuid : String)
      (he : e = .startReply ss aa true uuid)
      (hreg : t'.reg = t.reg.registerSidtransfer ss.conn ss.sid ss)
      (haa : (t'.ss ss).aa = some aa) (htimer : (t'.ss ss).timer = some true)
      (hother : ∀ x, x ≠ ss → t'.ss x = t.ss x) (hcancelled : cancelled out = [])
  /-- it cannot be, and is cancelled with its new adaptor -/
  | refuses (ss : SsGreynet C) (aa : AdaptorId) (uuid : String) (t₀ : Transfers C)
      (he : e = .startReply ss aa false uuid) (hreg : t₀.reg = t.reg)
      (haa : (t₀.ss ss).aa = some aa) (htimer : (t₀.ss ss).timer = (t.ss ss).timer)
      (hother : ∀ x, x ≠ ss → t₀.ss x = t.ss x) (hfin : Finishes t₀ ss t' out)
  | ends (ss : SsGreynet C) (htar : target t e = some ss) (hfin : Finishes t ss t' out)
  /-- the pending wait runs out -/
  | expires (ss : SsGreynet C) (he : e = .timerExpires ss) (hwaits : (t.ss ss).timer = some true)
      (ht : t' = t.modifySs ss fun x =>
        { x with timer := some false, queuedTimeouts := x.queuedTimeouts + 1 }) (hout : out = [])
  | terminates (conn : C) (he : e = .connectionTerminated conn)
      (hall : t.cancelSids (t.activeSids conn) = .ok (t', out))
  | leaves (htar : target t e = none) (hl : Leaves t t' out)

/-- A step that does nothing leaves everything alone. -/
theorem leaves_same (t : Transfers C) : Leaves t t [] := ⟨rfl, fun _ => .refl _, rfl⟩

/-- **Every event does one of these things.**  The cases of the proof are the events, and in each
    the branches of its handler; from here on no handler is opened again. -/
theorem step_does {t t' : Transfers C} {e : Event C} {out : List (Action C)}
    (h : step t e = .ok (t', out)) : Does t e t' out := by
  cases e with
  | startReply ss aa ready uuid =>
    -- a refused request ends at once, an accepted one starts its timer
    cases ready with
    | true =>
      obtain ⟨t₁, heq, hreg, haa, htimer, hother⟩ := startReply_ready t ss aa uuid
      rw [step, heq] at h
      obtain ⟨rfl, rfl⟩ := Prod.mk.inj (Except.ok.inj h)
      exact .requests ss aa uuid rfl hreg haa htimer hother rfl
    | false =>
      rw [step, startReply_notReady] at h
      have hfin := finishes_cancelHandler h
      refine .refuses ss aa uuid _ rfl ?_ ?_ ?_ (fun x hx => ?_) hfin
      · rfl
      · rw [modifySs_self]
      · rw [modifySs_self]
      · rw [modifySs_ne _ _ hx]
  | siddata conn msgp =>
    simp only [step, handleSiddata] at h
    cases hs : t.reg.sid2ss msgp.guid with
    | none =>
      rw [hs] at h
      obtain ⟨rfl, rfl⟩ := Prod.mk.inj (Except.ok.inj h)
      exact .leaves (by simp [target, hs]) (leaves_same _)
    | some ss =>
      rw [hs] at h
      obtain ⟨hfin, hleave⟩ := siddataHandler_ok h
      -- the empty payload is the end of the stream
      by_cases hz : msgp.payload.length = 0
      · exact .ends ss (by simp [target, hz, hs]) (hfin hz)
      · exact .leaves (by simp [target, hz]) (hleave hz)
  | sidheaders conn msgp =>
    simp only [step, handleSidheaders] at h
    cases hs : t.reg.sid2ss msgp.guid with
    | none =>
      rw [hs] at h
      obtain ⟨rfl, rfl⟩ := Prod.mk.inj (Except.ok.inj h)
      exact .leaves (by simp [target, hs]) (leaves_same _)
    | some ss =>
      rw [hs] at h
      simp only [sidheadersHandler] at h
      split at h
      · rename_i htimer haa
        -- the timer is cancelled before the lines are read
        have hq := quiet_modifySs t ss (f := fun x => { x with timer := some false })
          ⟨rfl, by simp [htimer], Nat.le_refl _⟩
        obtain ⟨hfin, hleave⟩ := headerLines_ok _ h
        cases hab : abortsHeaders msgp.payload with
        | true => exact .ends ss (by simp [target, hab, hs]) ((hfin hab).after rfl hq)
        | false => exact .leaves (by simp [target, hab]) ((hleave hab).after rfl hq)
      · cases h
  | sidfail conn msgp =>
    simp only [step, handleSidfail] at h
    cases hs : t.reg.sid2ss msgp.guid with
    | none =>
      rw [hs] at h
      obtain ⟨rfl, rfl⟩ := Prod.mk.inj (Except.ok.inj h)
      exact .leaves hs (leaves_same _)
    | some ss =>
      rw [hs] at h
      exact .ends ss hs (finishes_cancelHandler h)
  | timerExpires ss =>
    simp only [step] at h
    split at h
    · rename_i hwaits
      obtain ⟨rfl, rfl⟩ := Prod.mk.inj (Except.ok.inj h)
      exact .expires ss rfl hwaits rfl rfl
    · obtain ⟨rfl, rfl⟩ := Prod.mk.inj (Except.ok.inj h)
      exact .leaves rfl (leaves_same _)
  | timeoutCb ss =>
    simp only [step] at h
    split at h
    · -- no timeout is queued: the event cannot happen
      rename_i hq
      obtain ⟨rfl, rfl⟩ := Prod.mk.inj (Except.ok.inj h)
      exact .leaves (if_pos hq) (leaves_same _)
    · rename_i hq
      exact .ends ss (if_neg hq) ((finishes_cancelHandler h).after rfl
        (quiet_modifySs t ss ⟨rfl, Iff.rfl, Nat.sub_le _ _⟩))
  | connectionTerminated conn => exact .terminates conn rfl h
  | newAdaptor conn sid =>
    obtain ⟨rfl, rfl⟩ := Prod.mk.inj (Except.ok.inj h)
    exact .leaves rfl ⟨rfl, fun _ => .refl _, rfl⟩
  | adaptorCall aa call =>
    have h1 : (t.adaptorCall aa call).1 = t' := congrArg Prod.fst (Except.ok.inj h)
    have h2 : (t.adaptorCall aa call).2 = out := congrArg Prod.snd (Except.ok.inj h)
    refine .leaves rfl ⟨?_, fun x => ?_, ?_⟩
    · rw [← h1, adaptorCall_reg]
    · rw [← h1, adaptorCall_ss]
      exact .refl _
    · rw [← h2, cancelled_adaptorCall]

/-- **Everything an event can do to the two maps**: unregister its target, leave them alone,
    register a transfer, or end the transfers of a connection one after another. -/
theorem step_reg {t t' : Transfers C} {e : Event C} {out : List (Action C)}
    (h : step t e = .ok (t', out)) :
    (∃ ss, target t e = some ss ∧ t.reg.unregisterSidtransfer ss.conn ss.sid = .ok t'.reg ∧
      ∀ x ∈ cancelled out, x = ss) ∨
    (target t e = none ∧ t'.reg = t.reg ∧ cancelled out = []) ∨
    (∃ ss aa uuid, e = .startReply ss aa true uuid ∧
      t'.reg = t.reg.registerSidtransfer ss.conn ss.sid ss ∧ cancelled out = []) ∨
    (∃ conn, e = .connectionTerminated conn ∧
      t.cancelSids (t.activeSids conn) = .ok (t', out)) := by
  cases step_does h with
  | requests ss aa uuid he hreg _ _ _ hcancelled =>
    exact Or.inr (Or.inr (Or.inl ⟨ss, aa, uuid, he, hreg, hcancelled⟩))
  | refuses ss aa uuid t₀ he hreg _ _ _ hfin =>
    exact Or.inl ⟨ss, by rw [he]; rfl, hreg ▸ hfin.reg, hfin.cancelled⟩
  | ends ss htar hfin => exact Or.inl ⟨ss, htar, hfin.reg, hfin.cancelled⟩
  | expires ss he _ ht hout =>
    subst he ht hout
    exact Or.inr (Or.inl ⟨rfl, rfl, rfl⟩)
  | terminates conn he hall => exact Or.inr (Or.inr (Or.inr ⟨conn, he, hall⟩))
  | leaves htar hl => exact Or.inr (Or.inl ⟨htar, hl.reg, hl.cancelled⟩)

/-- **When an event returns**: its target, if it has one, can be unregistered.  Of a sound state
    only, since otherwise an adaptor might be missing; and the closing of a connection, whose second
    loop may meet several targets, is left to `Greynet.TransferMaps`. -/
theorem step_isOk {t : Transfers C} (hs : t.Sound) {e : Event C}
    (he : ∀ conn, e ≠ .connectionTerminated conn) :
    (∃ x, step t e = .ok x) ↔
      ∀ ss, target t e = some ss → ∃ r, t.reg.unregisterSidtransfer ss.conn ss.sid = .ok r := by
  -- an event without a target that returns satisfies the equivalence, both sides being true
  have hnone : ∀ {x}, step t e = .ok x → target t e = none →
      ((∃ x, step t e = .ok x) ↔ ∀ ss, target t e = some ss →
        ∃ r, t.reg.unregisterSidtransfer ss.conn ss.sid = .ok r) := by
    intro x hx hn
    refine ⟨fun _ ss h => ?_, fun _ => ⟨x, hx⟩⟩
    rw [hn] at h
    cases h
  cases e with
  | startReply ss aa ready uuid =>
    cases ready with
    | true =>
      obtain ⟨t₁, heq, -⟩ := startReply_ready t ss aa uuid
      exact hnone heq rfl
    | false =>
      have haa : ((t.modifySs ss fun x =>
          { x with finished := false, contentlength := 0, bytesTransferred := 0,
                   aa := some aa }).ss ss).aa ≠ none := by simp
      rw [step, startReply_notReady, cancelHandler_isOk haa, modifySs_reg]
      simp [target]
  | siddata conn msgp =>
    cases hss : t.reg.sid2ss msgp.guid with
    | none =>
      exact hnone (x := (t, [])) (by simp [step, handleSiddata, hss]) (by simp [target, hss])
    | some ss =>
      simp only [step, handleSiddata, hss, target]
      rw [siddataHandler_isOk (hs.started _ _ hss).1]
      by_cases hz : msgp.payload.length = 0 <;> simp [hz]
  | sidheaders conn msgp =>
    cases hss : t.reg.sid2ss msgp.guid with
    | none =>
      exact hnone (x := (t, [])) (by simp [step, handleSidheaders, hss]) (by simp [target, hss])
    | some ss =>
      obtain ⟨haa, htm⟩ := hs.started _ _ hss
      obtain ⟨aa, haa'⟩ := Option.ne_none_iff_exists'.mp haa
      obtain ⟨tm, htm'⟩ := Option.ne_none_iff_exists'.mp htm
      simp only [step, handleSidheaders, hss, target, sidheadersHandler, htm', haa']
      rw [headerLines_isOk _ (by simp [haa'])]
      cases hab : abortsHeaders msgp.payload <;> rw [abortsHeaders] at hab <;> simp [hab]
  | sidfail conn msgp =>
    cases hss : t.reg.sid2ss msgp.guid with
    | none => exact hnone (x := (t, [])) (by simp [step, handleSidfail, hss]) hss
    | some ss =>
      simp only [step, handleSidfail, hss, target]
      rw [cancelHandler_isOk (hs.started _ _ hss).1]
      simp
  | timerExpires ss =>
    by_cases htm : (t.ss ss).timer = some true
    · exact hnone (x := _) (by rw [step, if_pos htm]) rfl
    · exact hnone (x := _) (by rw [step, if_neg htm]) rfl
  | timeoutCb ss =>
    by_cases hq : (t.ss ss).queuedTimeouts = 0
    · exact hnone (x := _) (by rw [step, if_pos hq]) (if_pos hq)
    · -- a queued handler runs although the timer may have been cancelled since
      have haa := hs.waiting ss (Or.inr hq)
      simp only [step, target, if_neg hq, timeoutCb]
      rw [cancelHandler_isOk (by simpa using haa)]
      simp
  | connectionTerminated conn => exact absurd rfl (he conn)
  | newAdaptor conn sid => exact hnone (x := _) rfl rfl
  | adaptorCall aa call => exact hnone (x := _) rfl rfl

end Transfers

end Greynet
