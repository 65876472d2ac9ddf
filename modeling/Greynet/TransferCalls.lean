/-
  What the transfers say to their adaptors.

  An `ss_greynet` never talks to the network itself: all it does with what arrives is to call its
  adaptor.  So an event of the transfers is, to the adaptors, a SCRIPT, the calls it makes in order,
  and the messages that go out are what the plugin's own adaptors make of them.  Whoever wants to
  know what comes of a stream then has no need to open the handlers again: it is enough to read the
  script and to know what an adaptor does when it is called, which is one small state machine.

  1. `speak` — a call on one of the adaptors; it changes that one and has it send its messages.
     `Plays` — a step makes these calls and does nothing else to the adaptors; such steps compose
     (`Plays.append`), which is what the proofs below live on.
  2. `headerCalls` — the calls of the header loop, read off the lines; `LineRun` — what the loop
     does, line by line.  The loop returns early on a status other than 200, and it calls the
     adaptor before it does.
  3. `script` — the calls of any event; `step_plays`: an event does what its script says, and no
     more.  It needs `Sound`: a registered transfer has been started, so there is an adaptor to
     call, and the sids that are cancelled together are distinct.
  4. `callsOn` — the calls made on one adaptor; `Own` — the kinds of actions there are.
-/
import Greynet.Lib.Transducers
import Greynet.TransferMaps

namespace Greynet

variable {C : Type} [LinearOrder C]

namespace Transfers

/-! ## A call on an adaptor -/

omit [LinearOrder C] in
/-- A call on an adaptor of any class; `as` are the plugin's own.  A call on one of playdar's
    adaptors leaves the plugin, and so does one on an adaptor of the plugin's that is not there. -/
def speak (as : List (GreynetAsyncadaptor C)) :
    AdaptorId × AdaptorCall → List (GreynetAsyncadaptor C) × List (Action C)
  | (.playdar k, call) => (as, [.adaptor (.playdar k) call])
  | (.greynet n, call) =>
    match as[n]? with
    | none => (as, [.adaptor (.greynet n) call])
    | some a => (as.set n (a.receive call).1, .adaptor (.greynet n) call :: (a.receive call).2)

/-- `adaptorCall` is `speak` on the adaptors of the state; nothing else of the transfers changes
    when an adaptor is called. -/
theorem adaptorCall_eq (t : Transfers C) (aa : AdaptorId) (call : AdaptorCall) :
    t.adaptorCall aa call =
      ({ t with adaptors := (speak t.adaptors (aa, call)).1 },
        (speak t.adaptors (aa, call)).2) := by
  unfold adaptorCall speak
  rcases aa with n | k
  · rcases ha : t.adaptors[n]? with _ | a
    · simp only [ha]
    · simp only [ha]
  · rfl

/-- The actions, without the marks that `cancel_handler` was entered: the marks are for counting how
    often a transfer ends, and no adaptor hears them. -/
def heard (out : List (Action C)) : List (Action C) :=
  out.filter fun
    | .cancelHandler _ => false
    | _ => true

omit [LinearOrder C] in
/-- What is heard of two batches of actions is heard of the one and then of the other. -/
theorem heard_append (out out' : List (Action C)) : heard (out ++ out') = heard out ++ heard out' :=
  List.filter_append ..

/-- A step that makes these calls, in this order, and does nothing else to the adaptors: the
    adaptors after it and what is heard of it are those of feeding the calls to `speak` one after
    another. -/
def Plays (t : Transfers C) (calls : List (AdaptorId × AdaptorCall)) (t' : Transfers C)
    (out : List (Action C)) : Prop :=
  Transducers.feed speak t.adaptors calls = (t'.adaptors, heard out)

/-- A step that leaves the adaptors alone and says nothing plays the empty script. -/
theorem Plays.nil {t t' : Transfers C} (h : t'.adaptors = t.adaptors) : Plays t [] t' [] := by
  rw [Plays, Transducers.feed_nil, h]
  rfl

/-- Two steps in a row play the one script and then the other.  The second one starts from the
    adaptors that the first has left, which is how `feed` runs through an appended list. -/
theorem Plays.append {t u t' : Transfers C} {xs ys : List (AdaptorId × AdaptorCall)}
    {out out' : List (Action C)} (h : Plays t xs u out) (h' : Plays u ys t' out') :
    Plays t (xs ++ ys) t' (out ++ out') := by
  rw [Plays] at h h' ⊢
  rw [Transducers.feed_append, h]
  show ((Transducers.feed speak u.adaptors ys).1, heard out ++
    (Transducers.feed speak u.adaptors ys).2) = _
  rw [h', heard_append]

/-- A change that leaves the adaptors alone, before or after the calls, does not matter: a script is
    about the adaptors and about nothing else of the transfers. -/
theorem Plays.congr {t u t' u' : Transfers C} {xs : List (AdaptorId × AdaptorCall)}
    {out : List (Action C)} (h : Plays t xs t' out) (hu : u.adaptors = t.adaptors)
    (hu' : u'.adaptors = t'.adaptors) : Plays u xs u' out := by
  rw [Plays] at h ⊢
  rw [hu, hu', h]

omit [LinearOrder C] in
/-- An adaptor of the plugin's never marks the end of a transfer, so all that it does when it is
    called is heard.  It only ever writes messages. -/
theorem heard_receive (a : GreynetAsyncadaptor C) (call : AdaptorCall) :
    heard (a.receive call).2 = (a.receive call).2 := by
  rcases call with buffer | _ | _ | n | m | n
  · by_cases hs : a.sentfirst <;> simp [GreynetAsyncadaptor.receive,
      GreynetAsyncadaptor.writeContent, GreynetAsyncadaptor.sendHeaders, heard, hs]
  · by_cases hs : a.sentfirst <;> simp [GreynetAsyncadaptor.receive,
      GreynetAsyncadaptor.writeFinish, GreynetAsyncadaptor.writeContent,
      GreynetAsyncadaptor.sendHeaders, heard, hs]
  · rfl
  · rfl
  · rfl
  · rfl

omit [LinearOrder C] in
/-- Nor does any call as such, whatever class the adaptor is of. -/
theorem heard_speak (as : List (GreynetAsyncadaptor C)) (x : AdaptorId × AdaptorCall) :
    heard (speak as x).2 = (speak as x).2 := by
  obtain ⟨n | k, call⟩ := x
  · simp only [speak]
    split
    · rfl
    · rename_i a _
      exact congrArg _ (heard_receive a call)
  · rfl

/-- Calling an adaptor plays that one call. -/
theorem plays_adaptorCall (t : Transfers C) (aa : AdaptorId) (call : AdaptorCall) :
    Plays t [(aa, call)] (t.adaptorCall aa call).1 (t.adaptorCall aa call).2 := by
  rw [Plays, Transducers.feed_singleton, adaptorCall_eq, heard_speak]

/-! ## The handlers of one transfer -/

/-- `cancel_handler` calls `write_cancel` on the adaptor of its transfer, before it unregisters;
    what it does to the registry does not concern the adaptors. -/
theorem plays_cancelHandler {t t' : Transfers C} {ss : SsGreynet C} {aa : AdaptorId}
    {out : List (Action C)} (haa : (t.ss ss).aa = some aa)
    (h : t.cancelHandler ss = .ok (t', out)) : Plays t [(aa, .writeCancel)] t' out := by
  unfold cancelHandler at h
  rw [haa] at h
  simp only at h
  split at h
  · cases h
  · rename_i t₁ hu
    obtain ⟨rfl, rfl⟩ := Prod.mk.inj (Except.ok.inj h)
    obtain ⟨r, -, rfl⟩ := unregister_ok.mp hu
    exact (plays_adaptorCall t aa .writeCancel).congr rfl rfl

/-- What `siddata_handler` calls: a part without bytes is the end of the stream, any other is
    content. -/
def dataCall (payload : String) : AdaptorCall :=
  if payload.length = 0 then .writeFinish else .writeContent payload

/-- `siddata_handler` makes one call, whichever it is; only the last part, the empty one,
    unregisters the transfer, after the call. -/
theorem plays_siddata {t t' : Transfers C} {ss : SsGreynet C} {aa : AdaptorId} {payload : String}
    {out : List (Action C)} (haa : (t.ss ss).aa = some aa)
    (h : t.siddataHandler ss payload = .ok (t', out)) :
    Plays t [(aa, dataCall payload)] t' out := by
  unfold siddataHandler at h
  rw [haa] at h
  simp only at h
  unfold dataCall
  split at h
  · rename_i hz
    rw [if_pos hz]
    split at h
    · cases h
    · rename_i t₁ hu
      obtain ⟨rfl, rfl⟩ := Prod.mk.inj (Except.ok.inj h)
      obtain ⟨r, -, rfl⟩ := unregister_ok.mp hu
      exact (plays_adaptorCall _ aa .writeFinish).congr rfl rfl
  · rename_i hz
    rw [if_neg hz]
    have hplays := plays_adaptorCall (t.modifySs ss fun x =>
      { x with bytesTransferred := x.bytesTransferred + payload.length }) aa (.writeContent payload)
    rw [Except.ok.inj h] at hplays
    exact hplays.congr rfl rfl

/-! ### Header lines -/

/-- The setter call a header line makes.  A line has to consist of two parts with one tab between
    them, and a key that is none of the three is passed over, as the loop does. -/
def lineCall (line : String) : Option AdaptorCall :=
  match splitAt line '\t' with
  | [key, val] =>
    if key = "status" then some (.setStatusCode (atoi val))
    else if key = "mime-type" then some (.setMimeType val)
    else if key = "content-length" then some (.setContentLength (atoi val))
    else none
  | _ => none

/-- The calls of the header loop: the setters, up to a status other than 200, which cancels. -/
def headerCalls : List String → List AdaptorCall
  | [] => []
  | line :: lines =>
    (lineCall line).toList ++ if statusAborts line then [.writeCancel] else headerCalls lines

/-- **What a line calls**, read off its two parts. -/
theorem lineCall_cases {line : String} {x : AdaptorCall} (h : lineCall line = some x) :
    ∃ key val, splitAt line '\t' = [key, val] ∧
      ((key = "status" ∧ x = .setStatusCode (atoi val)) ∨
        (key = "mime-type" ∧ x = .setMimeType val) ∨
        (key = "content-length" ∧ x = .setContentLength (atoi val))) := by
  unfold lineCall at h
  split at h
  · rename_i key val hsplit
    refine ⟨key, val, hsplit, ?_⟩
    by_cases hst : key = "status"
    · rw [if_pos hst] at h
      exact Or.inl ⟨hst, (Option.some.inj h).symm⟩
    · rw [if_neg hst] at h
      by_cases hmt : key = "mime-type"
      · rw [if_pos hmt] at h
        exact Or.inr (Or.inl ⟨hmt, (Option.some.inj h).symm⟩)
      · rw [if_neg hmt] at h
        by_cases hcl : key = "content-length"
        · rw [if_pos hcl] at h
          exact Or.inr (Or.inr ⟨hcl, (Option.some.inj h).symm⟩)
        · rw [if_neg hcl] at h
          cases h
  · cases h

/-- The loop makes the calls of single lines, and then cancels if one of them is a bad status:
    whatever comes before the first bad status is set, and nothing that comes after it. -/
theorem headerCalls_eq (lines : List String) : ∃ init,
    (∀ x ∈ init, ∃ line ∈ lines, lineCall line = some x) ∧
    headerCalls lines = init ++ if lines.any statusAborts then [.writeCancel] else [] := by
  induction lines with
  | nil => exact ⟨[], fun x hx => (by cases hx), rfl⟩
  | cons line lines ih =>
    obtain ⟨init, hinit, hcalls⟩ := ih
    have hline : ∀ x ∈ (lineCall line).toList, ∃ l ∈ line :: lines, lineCall l = some x :=
      fun x hx => ⟨line, List.mem_cons_self .., Option.mem_toList.mp hx⟩
    rw [headerCalls, List.any_cons]
    cases hab : statusAborts line with
    | true => exact ⟨_, hline, rfl⟩
    | false =>
      refine ⟨(lineCall line).toList ++ init, fun x hx => ?_, ?_⟩
      · rcases List.mem_append.mp hx with hx | hx
        · exact hline x hx
        · obtain ⟨l, hl, hx⟩ := hinit x hx
          exact ⟨l, List.mem_cons_of_mem _ hl, hx⟩
      · rw [if_neg Bool.false_ne_true, hcalls, List.append_assoc, Bool.false_or]

/-- The calls of a line of two parts and of the lines after it, by its key.  The `if`s stand in the
    order in which the source compares. -/
theorem headerCalls_pair {line key val : String} (hsplit : splitAt line '\t' = [key, val])
    (lines : List String) :
    headerCalls (line :: lines) =
      if key = "status" then .setStatusCode (atoi val) ::
        if atoi val ≠ 200 then [.writeCancel] else headerCalls lines
      else if key = "mime-type" then .setMimeType val :: headerCalls lines
      else if key = "content-length" then .setContentLength (atoi val) :: headerCalls lines
      else headerCalls lines := by
  have hline : lineCall line = if key = "status" then some (.setStatusCode (atoi val))
      else if key = "mime-type" then some (.setMimeType val)
      else if key = "content-length" then some (.setContentLength (atoi val)) else none := by
    rw [lineCall, hsplit]
  have habort : statusAborts line = (key = "status" && atoi val ≠ 200) := by
    rw [statusAborts, hsplit]
  rw [headerCalls, hline, habort]
  by_cases hst : key = "status"
  · simp [hst]
  · by_cases hmt : key = "mime-type"
    · simp [hmt]
    · by_cases hcl : key = "content-length" <;> simp [hst, hmt, hcl]

/-- The rest of the loop over the header lines, after a setter call that did `out`: if the whole of
    it returns, so does the rest, and what the rest does is appended. -/
theorem rest_ok {t t' : Transfers C} {ss : SsGreynet C} {aa : AdaptorId} {lines : List String}
    {out out' : List (Action C)} (h : (match t.headerLines ss aa lines with
      | .error f => .error f
      | .ok (t', out') => .ok (t', out ++ out')) = Except.ok (ε := Fault) (t', out')) :
    ∃ out₁, t.headerLines ss aa lines = .ok (t', out₁) ∧ out' = out ++ out₁ := by
  cases hl : t.headerLines ss aa lines with
  | error f =>
    rw [hl] at h
    cases h
  | ok y =>
    rw [hl] at h
    obtain ⟨rfl, rfl⟩ := Prod.mk.inj (Except.ok.inj h)
    exact ⟨_, rfl, rfl⟩

/-- If the whole of it fails, the rest of the loop has failed: a setter call cannot. -/
theorem rest_error {t : Transfers C} {ss : SsGreynet C} {aa : AdaptorId} {lines : List String}
    {out : List (Action C)} {f : Fault} (h : (match t.headerLines ss aa lines with
      | .error f => .error f
      | .ok (t', out') => .ok (t', out ++ out')) =
        Except.error (α := Transfers C × List (Action C)) f) :
    t.headerLines ss aa lines = .error f := by
  cases hl : t.headerLines ss aa lines with
  | error f' =>
    rw [hl] at h
    rw [Except.error.inj h]
  | ok y =>
    rw [hl] at h
    cases h

/-- Any other line, of one part or of more than two, makes no call and cancels nothing. -/
theorem headerCalls_skip {line : String} (hsplit : ∀ key val, splitAt line '\t' ≠ [key, val])
    (lines : List String) : headerCalls (line :: lines) = headerCalls lines := by
  have hline : lineCall line = none := by
    unfold lineCall
    split
    · exact absurd ‹_› (hsplit _ _)
    · rfl
  have habort : statusAborts line = false := by
    unfold statusAborts
    split
    · exact absurd ‹_› (hsplit _ _)
    · rfl
  rw [headerCalls, hline, habort]
  rfl

/-- What the loop over the header lines does if it returns: each line is skipped, makes a setter
    call, or cancels the transfer.  This is the shape that every fact about the loop is proved by
    induction on. -/
inductive LineRun (ss : SsGreynet C) (aa : AdaptorId) :
    List String → Transfers C → Transfers C → List (Action C) → Prop
  | done (t : Transfers C) : LineRun ss aa [] t t []
  | skips (line : String) (lines : List String) (t t' : Transfers C) (out : List (Action C))
      (hcalls : headerCalls (line :: lines) = headerCalls lines)
      (hrest : LineRun ss aa lines t t' out) : LineRun ss aa (line :: lines) t t' out
  /-- besides, the content length may be noted -/
  | sets (line : String) (lines : List String) (t t' : Transfers C) (out : List (Action C))
      (call : AdaptorCall) (f : SsState → SsState)
      (hf : ∀ x, f x = { x with contentlength := (f x).contentlength })
      (hcalls : headerCalls (line :: lines) = call :: headerCalls lines)
      (hrest : LineRun ss aa lines ((t.adaptorCall aa call).1.modifySs ss f) t' out) :
    LineRun ss aa (line :: lines) t t' ((t.adaptorCall aa call).2 ++ out)
  | cancels (line : String) (lines : List String) (t t' : Transfers C) (out : List (Action C))
      (code : Int32) (hcalls : headerCalls (line :: lines) = [.setStatusCode code, .writeCancel])
      (hcancel : (t.adaptorCall aa (.setStatusCode code)).1.cancelHandler ss = .ok (t', out)) :
    LineRun ss aa (line :: lines) t t' ((t.adaptorCall aa (.setStatusCode code)).2 ++ out)

/-- **The loop over the header lines runs line by line**: if it returns, it has gone through the
    lines in one of these ways each, and has stopped at the first status other than 200. -/
theorem headerLines_run {ss : SsGreynet C} {aa : AdaptorId} (lines : List String) :
    ∀ {t t' : Transfers C} {out : List (Action C)}, t.headerLines ss aa lines = .ok (t', out) →
      LineRun ss aa lines t t' out := by
  induction lines with
  | nil =>
    intro t t' out h
    obtain ⟨rfl, rfl⟩ := Prod.mk.inj (Except.ok.inj h)
    exact .done t
  | cons line lines ih =>
    intro t t' out h
    -- a setter call that leaves the transfer alone
    have hsets : ∀ {call : AdaptorCall} {out₁ : List (Action C)},
        headerCalls (line :: lines) = call :: headerCalls lines →
        (t.adaptorCall aa call).1.headerLines ss aa lines = .ok (t', out₁) →
        LineRun ss aa (line :: lines) t t' ((t.adaptorCall aa call).2 ++ out₁) := by
      intro call out₁ hcalls hrest
      refine .sets line lines t t' out₁ call id (fun _ => rfl) hcalls ?_
      have hid : (t.adaptorCall aa call).1.modifySs ss id = (t.adaptorCall aa call).1 := by
        rw [modifySs, id, Function.update_eq_self]
      rw [hid]
      exact ih hrest
    rw [headerLines] at h
    split at h
    · rename_i key val hsplit
      have hcalls := headerCalls_pair hsplit lines
      by_cases hst : key = "status"
      · -- a status: it is told to the adaptor, and only 200 lets the loop go on
        rw [if_pos hst] at h hcalls
        by_cases hcode : atoi val ≠ 200
        · simp only [if_pos hcode] at h
          rw [if_pos hcode] at hcalls
          split at h
          · cases h
          · rename_i t₂ out₂ hcancel
            obtain ⟨rfl, rfl⟩ := Prod.mk.inj (Except.ok.inj h)
            exact .cancels line lines t _ _ _ hcalls hcancel
        · simp only [if_neg hcode] at h
          rw [if_neg hcode] at hcalls
          obtain ⟨out₁, hrest, rfl⟩ := rest_ok h
          exact hsets hcalls hrest
      · rw [if_neg hst] at h hcalls
        by_cases hmt : key = "mime-type"
        · rw [if_pos hmt] at h hcalls
          obtain ⟨out₁, hrest, rfl⟩ := rest_ok h
          exact hsets hcalls hrest
        · rw [if_neg hmt] at h hcalls
          by_cases hcl : key = "content-length"
          · -- a length is noted in the transfer as well
            rw [if_pos hcl] at h hcalls
            obtain ⟨out₁, hrest, rfl⟩ := rest_ok h
            exact .sets line lines t t' out₁ _ _ (fun _ => rfl) hcalls (ih hrest)
          · rw [if_neg hcl] at h hcalls
            exact .skips line lines t t' out hcalls (ih h)
    · rename_i hsplit
      exact .skips line lines t t' out (headerCalls_skip hsplit lines) (ih h)

/-- The loop plays the calls read off the lines.  A setter call may note the length in the transfer,
    but it leaves it its adaptor, so the calls that follow are on the same one. -/
theorem plays_headerLines {ss : SsGreynet C} {aa : AdaptorId} {lines : List String}
    {t t' : Transfers C} {out : List (Action C)} (haa : (t.ss ss).aa = some aa)
    (h : t.headerLines ss aa lines = .ok (t', out)) :
    Plays t ((headerCalls lines).map fun call => (aa, call)) t' out := by
  have hrun := headerLines_run lines h
  clear h
  induction hrun with
  | done t => exact .nil rfl
  | skips line lines t t' out hcalls hrest ih =>
    rw [hcalls]
    exact ih haa
  | sets line lines t t' out call f hf hcalls hrest ih =>
    have haa₁ : (((t.adaptorCall aa call).1.modifySs ss f).ss ss).aa = some aa := by
      rw [modifySs_self, hf, adaptorCall_ss, haa]
    rw [hcalls]
    exact (plays_adaptorCall t aa call).append ((ih haa₁).congr rfl rfl)
  | cancels line lines t t' out code hcalls hcancel =>
    have haa₁ : ((t.adaptorCall aa (.setStatusCode code)).1.ss ss).aa = some aa := by
      rw [adaptorCall_ss, haa]
    rw [hcalls]
    exact (plays_adaptorCall t aa _).append (plays_cancelHandler haa₁ hcancel)

/-! ## Every event -/

/-- The calls of the second loop of `connection_terminated`: a `write_cancel` for each of the sids
    that is a transfer's, on that transfer's adaptor. -/
def cancelCalls (t : Transfers C) (sids : List Sid) : List (AdaptorId × AdaptorCall) :=
  sids.filterMap fun s => (t.reg.sid2ss s).bind fun ss =>
    (t.ss ss).aa.map fun aa => (aa, .writeCancel)

/-- The calls an event makes, in order.  A message for a sid that is nobody's makes none; nor does a
    timeout whose handler the io_service has not queued. -/
def script (t : Transfers C) : Event C → List (AdaptorId × AdaptorCall)
  | .startReply _ aa ready _ => if ready then [] else [(aa, .writeCancel)]
  | .siddata _ msgp => told t (t.reg.sid2ss msgp.guid) [dataCall msgp.payload]
  | .sidheaders _ msgp =>
    told t (t.reg.sid2ss msgp.guid) (headerCalls (splitAt msgp.payload '\n'))
  | .sidfail _ msgp => told t (t.reg.sid2ss msgp.guid) [.writeCancel]
  | .timeoutCb ss =>
    if (t.ss ss).queuedTimeouts = 0 then [] else told t (some ss) [.writeCancel]
  | .connectionTerminated conn => t.cancelCalls (t.activeSids conn)
  | .adaptorCall aa call => [(aa, call)]
  | .timerExpires _ | .newAdaptor _ _ => []
where
  /-- calls on the adaptor of a transfer -/
  told (t : Transfers C) (ss : Option (SsGreynet C)) (calls : List AdaptorCall) :
      List (AdaptorId × AdaptorCall) :=
    match ss.bind fun ss => (t.ss ss).aa with
    | none => []
    | some aa => calls.map fun call => (aa, call)

/-- The second loop of `connection_terminated` plays the cancels of its sids, read off the state
    before it.  Each cancel takes its own sid out of the map, and the loop returns only if none
    comes twice; so those that are still to come are found as they were. -/
theorem plays_cancelSids (sids : List Sid) :
    ∀ {t t' : Transfers C} {out : List (Action C)}, t.Sound →
      t.cancelSids sids = .ok (t', out) → Plays t (t.cancelCalls sids) t' out := by
  induction sids with
  | nil =>
    intro t t' out _ h
    obtain ⟨rfl, rfl⟩ := Prod.mk.inj (Except.ok.inj h)
    exact .nil rfl
  | cons s sids ih =>
    intro t t' out hs h
    obtain ⟨hnew, -⟩ := List.nodup_cons.mp (cancelSids_ok _ hs h).nodup
    rw [cancelSids] at h
    split at h
    · cases h
    · rename_i ss hss
      split at h
      · cases h
      · rename_i t₁ out₁ hc
        split at h
        · cases h
        · rename_i t₂ out₂ hrec
          obtain ⟨rfl, rfl⟩ := Prod.mk.inj (Except.ok.inj h)
          have hfin := finishes_cancelHandler hc
          obtain ⟨aa, haa, -, hsame, -⟩ := cancelHandler_ok hc
          obtain ⟨hsid, -⟩ := hs.reg s ss hss
          have hu := Registry.unregistered_of_ok hfin.reg
          -- the sids that follow are others, so cancelling the first has not touched them
          have hrest : t₁.cancelCalls sids = t.cancelCalls sids := by
            refine List.filterMap_congr fun s' hs' => ?_
            have hne : s' ≠ ss.sid := by
              rintro rfl
              exact hnew (hsid ▸ hs')
            rw [hu.sid2ss, Function.update_of_ne hne, hsame]
          have hhead : t.cancelCalls (s :: sids) = [(aa, .writeCancel)] ++ t.cancelCalls sids := by
            rw [cancelCalls, List.filterMap_cons, hss, Option.bind_some, haa]
            rfl
          rw [hhead, ← hrest]
          exact (plays_cancelHandler haa hc).append (ih (hfin.sound hs) hrec)

/-- **An event does to the adaptors what its script says**, and sends nothing else; a transfer being
    requested sends its SIDREQUEST, and a new adaptor is one more.  The cases are those of the
    source's handlers, and in each the script is read off the same look-ups that the handler
    makes. -/
theorem step_plays {t t' : Transfers C} {e : Event C} {out : List (Action C)} (hs : t.Sound)
    (hok : step t e = .ok (t', out)) :
    Plays t (t.script e) t' out ∨
    (∃ ss aa uuid, e = .startReply ss aa true uuid ∧ t'.adaptors = t.adaptors ∧
      out = [.asyncWrite ss.conn (generalMessage .sidrequest ss.sid uuid)]) ∨
    (∃ conn sid, e = .newAdaptor conn sid ∧
      t'.adaptors = t.adaptors ++ [{ sid := sid, conn := conn }] ∧ out = []) := by
  have htold : ∀ {s : Sid} {ss : SsGreynet C} {aa : AdaptorId} {calls : List AdaptorCall},
      t.reg.sid2ss s = some ss → (t.ss ss).aa = some aa →
      script.told t (t.reg.sid2ss s) calls = calls.map fun call => (aa, call) := by
    intro s ss aa calls hss haa
    rw [script.told, hss, Option.bind_some, haa]
  cases e with
  | startReply ss aa ready uuid =>
    cases ready with
    | true =>
      obtain ⟨rfl, rfl⟩ := Prod.mk.inj (Except.ok.inj hok)
      exact Or.inr (Or.inl ⟨ss, aa, uuid, rfl, rfl, rfl⟩)
    | false =>
      rw [step, startReply_notReady] at hok
      have haa : ((t.modifySs ss fun x => { x with
          finished := false, contentlength := 0, bytesTransferred := 0, aa := some aa }).ss
            ss).aa = some aa := by rw [modifySs_self]
      exact Or.inl ((plays_cancelHandler haa hok).congr rfl rfl)
  | siddata conn msgp =>
    simp only [step, handleSiddata] at hok
    split at hok
    · rename_i hss
      obtain ⟨rfl, rfl⟩ := Prod.mk.inj (Except.ok.inj hok)
      -- the sid is nobody's, and so is the script
      rw [script, hss]
      exact Or.inl (.nil rfl)
    · rename_i ss hss
      -- a registered transfer has been started, so it has an adaptor to call
      obtain ⟨aa, haa⟩ := Option.ne_none_iff_exists'.mp (hs.started _ _ hss).1
      rw [script, htold hss haa]
      exact Or.inl (plays_siddata haa hok)
  | sidheaders conn msgp =>
    simp only [step, handleSidheaders] at hok
    split at hok
    · rename_i hss
      obtain ⟨rfl, rfl⟩ := Prod.mk.inj (Except.ok.inj hok)
      rw [script, hss]
      exact Or.inl (.nil rfl)
    · rename_i ss hss
      simp only [sidheadersHandler] at hok
      split at hok
      · rename_i aa _ haa
        rw [script, htold hss haa]
        have haa' : ((t.modifySs ss fun x => { x with timer := some false }).ss ss).aa =
            some aa := by rw [modifySs_self, haa]
        exact Or.inl ((plays_headerLines haa' hok).congr rfl rfl)
      · cases hok
  | sidfail conn msgp =>
    simp only [step, handleSidfail] at hok
    split at hok
    · rename_i hss
      obtain ⟨rfl, rfl⟩ := Prod.mk.inj (Except.ok.inj hok)
      rw [script, hss]
      exact Or.inl (.nil rfl)
    · rename_i ss hss
      obtain ⟨aa, haa⟩ := Option.ne_none_iff_exists'.mp (hs.started _ _ hss).1
      rw [script, htold hss haa]
      exact Or.inl (plays_cancelHandler haa hok)
  | timerExpires ss =>
    simp only [step] at hok
    split at hok <;> obtain ⟨rfl, rfl⟩ := Prod.mk.inj (Except.ok.inj hok) <;>
      exact Or.inl (.nil rfl)
  | timeoutCb ss =>
    simp only [step] at hok
    rw [script]
    split at hok
    · rename_i hq
      obtain ⟨rfl, rfl⟩ := Prod.mk.inj (Except.ok.inj hok)
      rw [if_pos hq]
      exact Or.inl (.nil rfl)
    · rename_i hq
      -- so has one whose timeout is queued
      obtain ⟨aa, haa⟩ := Option.ne_none_iff_exists'.mp (hs.waiting ss (Or.inr hq))
      rw [if_neg hq, script.told, Option.bind_some, haa]
      have haa' : ((t.modifySs ss fun x => { x with
          queuedTimeouts := x.queuedTimeouts - 1 }).ss ss).aa = some aa := by
        rw [modifySs_self, haa]
      exact Or.inl ((plays_cancelHandler haa' hok).congr rfl rfl)
  | connectionTerminated conn => exact Or.inl (plays_cancelSids _ hs hok)
  | newAdaptor conn sid =>
    obtain ⟨rfl, rfl⟩ := Prod.mk.inj (Except.ok.inj hok)
    exact Or.inr (Or.inr ⟨conn, sid, rfl, rfl, rfl⟩)
  | adaptorCall aa call =>
    have hplays := plays_adaptorCall t aa call
    rw [Except.ok.inj hok] at hplays
    exact Or.inl hplays

/-! ## The calls on one adaptor -/

/-- The calls some actions make on an adaptor, in order; the messages that go out are no calls. -/
def callsOn (aa : AdaptorId) (out : List (Action C)) : List AdaptorCall :=
  out.filterMap fun
    | .adaptor x call => if x = aa then some call else none
    | _ => none

/-- The calls of a script that are on one adaptor: its lines in the play. -/
def linesFor (aa : AdaptorId) (calls : List (AdaptorId × AdaptorCall)) : List AdaptorCall :=
  calls.flatMap fun x => if x.1 = aa then [x.2] else []

omit [LinearOrder C] in
/-- The calls of two batches of actions are those of the one and then those of the other. -/
@[simp] theorem callsOn_append (aa : AdaptorId) (out out' : List (Action C)) :
    callsOn aa (out ++ out') = callsOn aa out ++ callsOn aa out' := List.filterMap_append

omit [LinearOrder C] in
/-- The plugin's own adaptors send messages, and call nobody: each goes out on the adaptor's
    connection, under its sid, and is one of the three kinds a stream is made of. -/
theorem receive_writes (a : GreynetAsyncadaptor C) (call : AdaptorCall) :
    ∀ x ∈ (a.receive call).2, ∃ msg, x = .asyncWrite a.conn msg ∧ msg.guid = a.sid ∧
      msg.type ∈ [MsgType.siddata, .sidfail, .sidheaders] := by
  have hdata : ∀ buffer, ∀ x ∈ (a.writeContent buffer).2, ∃ msg, x = .asyncWrite a.conn msg ∧
      msg.guid = a.sid ∧ msg.type ∈ [MsgType.siddata, .sidfail, .sidheaders] := by
    intro buffer x hx
    rcases List.mem_append.mp hx with hx | hx
    · split at hx
      · cases hx
      · obtain rfl := List.mem_singleton.mp hx
        exact ⟨_, rfl, rfl, by simp [generalMessage]⟩
    · obtain rfl := List.mem_singleton.mp hx
      exact ⟨_, rfl, rfl, by simp [generalMessage]⟩
  intro x hx
  rcases call with buffer | _ | _ | n | m | n
  · exact hdata buffer x hx
  · exact hdata "" x hx
  · obtain rfl := List.mem_singleton.mp hx
    exact ⟨_, rfl, rfl, by simp [generalMessage]⟩
  · cases hx
  · cases hx
  · cases hx

omit [LinearOrder C] in
/-- Messages that go out are no calls on any adaptor. -/
theorem callsOn_writes (aa : AdaptorId) {out : List (Action C)}
    (h : ∀ x ∈ out, ∃ c msg, x = .asyncWrite c msg) : callsOn aa out = [] := by
  rw [callsOn, List.filterMap_eq_nil_iff]
  intro x hx
  obtain ⟨c, msg, rfl⟩ := h x hx
  rfl

omit [LinearOrder C] in
/-- A call is heard by the adaptor it is made on, and by no other: what an adaptor of the plugin's
    sends when it is called are messages, and calls nobody in turn. -/
theorem callsOn_speak (aa : AdaptorId) (as : List (GreynetAsyncadaptor C))
    (x : AdaptorId × AdaptorCall) :
    callsOn aa (speak as x).2 = if x.1 = aa then [x.2] else [] := by
  have hone : ∀ (aa' : AdaptorId) (call : AdaptorCall) (rest : List (Action C)),
      callsOn aa rest = [] → callsOn aa (.adaptor aa' call :: rest) =
        if aa' = aa then [call] else [] := by
    intro aa' call rest hrest
    rw [callsOn] at hrest ⊢
    rw [List.filterMap_cons, hrest]
    by_cases he : aa' = aa
    · simp [he]
    · simp [he]
  obtain ⟨n | k, call⟩ := x
  · simp only [speak]
    split
    · exact hone _ _ _ rfl
    · rename_i a _
      refine hone _ _ _ (callsOn_writes aa fun x hx => ?_)
      obtain ⟨msg, rfl, -⟩ := receive_writes a call x hx
      exact ⟨_, _, rfl⟩
  · exact hone _ _ _ rfl

omit [LinearOrder C] in
/-- The marks of `cancel_handler` are no calls either. -/
theorem callsOn_heard (aa : AdaptorId) (out : List (Action C)) :
    callsOn aa (heard out) = callsOn aa out := by
  rw [callsOn, heard, List.filterMap_filter]
  refine List.filterMap_congr fun x _ => ?_
  cases x <;> rfl

/-- **The calls on an adaptor are those the script has for it.**  One call after another is read by
    `callsOn_speak`, and `feed` puts the readings together. -/
theorem Plays.callsOn {t t' : Transfers C} {calls : List (AdaptorId × AdaptorCall)}
    {out : List (Action C)} (h : Plays t calls t' out) (aa : AdaptorId) :
    callsOn aa out = linesFor aa calls := by
  have hread := Transducers.feed_reads (f := speak (C := C)) (callsOn_speak aa) calls t.adaptors
  rw [Plays] at h
  rw [h] at hread
  rw [← callsOn_heard]
  exact hread

/-- So are those of an event: a SIDREQUEST going out and a new adaptor being made call nobody. -/
theorem step_callsOn {t t' : Transfers C} {e : Event C} {out : List (Action C)} (hs : t.Sound)
    (hok : step t e = .ok (t', out)) (aa : AdaptorId) :
    callsOn aa out = linesFor aa (t.script e) := by
  rcases step_plays hs hok with h | ⟨ss, aa', uuid, rfl, -, rfl⟩ | ⟨conn, sid, rfl, -, rfl⟩
  · exact h.callsOn aa
  · rfl
  · rfl

omit [LinearOrder C] in
/-- A call is among those on an adaptor if and only if it is among the actions. -/
theorem callsOn_mem {aa : AdaptorId} {call : AdaptorCall} {out : List (Action C)} :
    call ∈ callsOn aa out ↔ Action.adaptor aa call ∈ out := by
  rw [callsOn, List.mem_filterMap]
  constructor
  · rintro ⟨a, hin, ha⟩
    split at ha
    · split at ha
      · rename_i hx
        obtain rfl := Option.some.inj ha
        exact hx ▸ hin
      · cases ha
    · cases ha
  · intro hin
    exact ⟨_, hin, if_pos rfl⟩

/-- And it is among its lines if and only if the script has it. -/
theorem mem_linesFor {aa : AdaptorId} {call : AdaptorCall}
    {calls : List (AdaptorId × AdaptorCall)} :
    call ∈ linesFor aa calls ↔ (aa, call) ∈ calls := by
  rw [linesFor, List.mem_flatMap]
  constructor
  · rintro ⟨⟨x, c⟩, hin, hc⟩
    split at hc
    · rename_i hx
      obtain rfl : x = aa := hx
      rwa [List.mem_singleton.mp hc]
    · cases hc
  · intro hin
    exact ⟨_, hin, by simp⟩

/-- The call is one of those a transfer is told, and the transfer is there and has that adaptor. -/
theorem mem_told {t : Transfers C} {ss : Option (SsGreynet C)} {calls : List AdaptorCall}
    {aa : AdaptorId} {call : AdaptorCall} (h : (aa, call) ∈ script.told t ss calls) :
    ∃ x, ss = some x ∧ (t.ss x).aa = some aa ∧ call ∈ calls := by
  unfold script.told at h
  split at h
  · cases h
  · rename_i aa' haa
    obtain ⟨x, hx, hxaa⟩ := Option.bind_eq_some_iff.mp haa
    obtain ⟨c, hc, he⟩ := List.mem_map.mp h
    obtain ⟨rfl, rfl⟩ := Prod.mk.inj he
    exact ⟨x, hx, hxaa, hc⟩

/-- What the transfers can do: send a SIDREQUEST or a part of a stream, call an adaptor, and enter
    `cancel_handler`.  They close no connection and touch no query. -/
def Own : Action C → Prop
  | .asyncWrite _ msg => msg.type ∈ [MsgType.sidrequest, .siddata, .sidfail, .sidheaders]
  | .adaptor _ _ | .cancelHandler _ => True
  | _ => False

/-- **An event of the transfers does only that.**  It is read off the script, since whatever is
    heard of a step comes from a call on an adaptor. -/
theorem own_step {t t' : Transfers C} {e : Event C} {out : List (Action C)} (hs : t.Sound)
    (hok : step t e = .ok (t', out)) : ∀ x ∈ out, Own x := by
  -- what an adaptor does at a call is the transfers' own, whosever adaptor it is
  have hspeak : ∀ (as : List (GreynetAsyncadaptor C)) (x : AdaptorId × AdaptorCall),
      ∀ y ∈ (speak as x).2, Own y := by
    rintro as ⟨n | k, call⟩ y hy
    · simp only [speak] at hy
      split at hy
      · obtain rfl := List.mem_singleton.mp hy
        exact trivial
      · rename_i a _
        rcases List.mem_cons.mp hy with rfl | hy
        · exact trivial
        · obtain ⟨msg, rfl, -, ht⟩ := receive_writes a call y hy
          exact List.mem_cons_of_mem _ ht
    · obtain rfl := List.mem_singleton.mp hy
      exact trivial
  rcases step_plays hs hok with h | ⟨ss, aa', uuid, -, -, rfl⟩ | ⟨conn, sid, -, -, rfl⟩
  · intro x hx
    have hout := Transducers.feed_out hspeak (t.script e) t.adaptors
    rw [Plays] at h
    rw [h] at hout
    cases x with
    | cancelHandler ss => exact trivial
    | _ => exact hout _ (List.mem_filter.mpr ⟨hx, rfl⟩)
  · intro x hx
    obtain rfl := List.mem_singleton.mp hx
    exact List.mem_cons_self ..
  · intro x hx
    cases hx

end Transfers

end Greynet
