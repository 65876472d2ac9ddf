/-
  How a transfer ends.

  Five things end a transfer: an empty SIDDATA, a SIDFAIL, headers with another status than 200,
  the loss of the connection, and the header timer.  The first four take it out of `m_sid2ss`, and
  nothing is looked up there afterwards.  The timer is not looked up: `timeout_cb` is bound to the
  object itself, only `sidheaders_handler` cancels it, and cancelling does not take back a handler
  that waits to be run.

  1. `aa_step`, `sid2ss_step` — who gets an adaptor, and who leaves `m_sid2ss`, at any event.
  2. `Turn` — what an event is to a transfer; `turn_step`: it is one of these four.
  3. `ends_once_iff` — over whole runs: the adaptor is told the end once, and nothing after it,
     exactly if no handler of the timer runs once the transfer has left `m_sid2ss`.
-/
import Greynet.TransferCalls

namespace Greynet

variable {C : Type} [LinearOrder C]

/-- `write_finish` and `write_cancel`, the two calls that tell an adaptor that nothing more will
    come. -/
def AdaptorCall.terminal : AdaptorCall → Bool
  | .writeFinish | .writeCancel => true
  | _ => false

namespace Transfers

/-! ## Adaptors and registrations at any event -/

/-- **Only `start_reply` gives a transfer an adaptor**, and no event takes it away again; so what is
    called at the end is what was given at the start. -/
theorem aa_step {t t' : Transfers C} {e : Event C} {out : List (Action C)} (hs : t.Sound)
    (hok : step t e = .ok (t', out)) (x : SsGreynet C) :
    (∃ aa ready uuid, e = .startReply x aa ready uuid ∧ (t'.ss x).aa = some aa) ∨
    (t'.ss x).aa = (t.ss x).aa := by
  cases step_does hok with
  | requests ss aa uuid he hreg haa htimer hother =>
    by_cases hx : x = ss
    · subst hx
      exact Or.inl ⟨aa, true, uuid, he, haa⟩
    · exact Or.inr (by rw [hother x hx])
  -- the adaptor is given before the connection is looked at, and stays
  | refuses ss aa uuid t₀ he hreg haa htimer hother hfin =>
    have hq := hfin.quiet x
    by_cases hx : x = ss
    · subst hx
      exact Or.inl ⟨aa, false, uuid, he, by rw [hq.aa, haa]⟩
    · exact Or.inr (by rw [hq.aa, hother x hx])
  | ends ss htar hfin => exact Or.inr (hfin.quiet x).aa
  | expires ss he hwaits ht =>
    subst ht
    refine Or.inr ?_
    by_cases hx : x = ss
    · rw [hx, modifySs_self]
    · rw [modifySs_ne _ _ hx]
  | terminates conn he hall => exact Or.inr ((cancelSids_ok _ hs hall).quiet x).aa
  | leaves htar hl => exact Or.inr (hl.quiet x).aa

/-- The sids an event takes out of `m_sid2ss`: all that a lost connection gathers, or the one of the
    event's target. -/
def endedSids (t : Transfers C) : Event C → List Sid
  | .connectionTerminated conn => t.activeSids conn
  | e => (t.target e).toList.map SsGreynet.sid

/-- **A sid that is not being requested stays as it is, or goes**: at no event but a `start_reply`
    for it does anything else come to be registered under it. -/
theorem sid2ss_step {t t' : Transfers C} {e : Event C} {out : List (Action C)} (hs : t.Sound)
    (hok : step t e = .ok (t', out)) {s : Sid}
    (hnew : ∀ ss aa uuid, e = .startReply ss aa true uuid → ss.sid ≠ s) :
    t'.reg.sid2ss s = if s ∈ t.endedSids e then none else t.reg.sid2ss s := by
  have hended : (∀ conn, e ≠ .connectionTerminated conn) →
      t.endedSids e = (t.target e).toList.map SsGreynet.sid := by
    intro hne
    cases e with
    | connectionTerminated conn => exact absurd rfl (hne conn)
    | _ => rfl
  rcases step_reg hok with ⟨ss, htar, hu, -⟩ | ⟨htar, hreg, -⟩ | ⟨ss, aa, uuid, rfl, hreg, -⟩ |
    ⟨conn, rfl, hc⟩
  · have hne : ∀ conn, e ≠ .connectionTerminated conn := by
      rintro conn rfl
      cases htar
    rw [hended hne, htar, (Registry.unregistered_of_ok hu).sid2ss]
    by_cases he : s = ss.sid
    · subst he
      simp
    · rw [Function.update_of_ne he, if_neg (by simpa using he)]
  · have hsame : t'.reg.sid2ss s = t.reg.sid2ss s := by rw [hreg]
    by_cases hne : ∀ conn, e ≠ .connectionTerminated conn
    · rw [hended hne, htar, hsame]
      rfl
    · -- a connection without a pair
      obtain ⟨conn, hconn⟩ := not_forall.mp hne
      obtain rfl := not_not.mp hconn
      rw [(cancelSids_ok _ hs hok).sid2ss]
      rfl
  · rw [hreg]
    show Function.update t.reg.sid2ss ss.sid (some ss) s = t.reg.sid2ss s
    rw [Function.update_of_ne (hnew ss aa uuid rfl).symm]
  · rw [(cancelSids_ok _ hs hc).sid2ss]
    rfl

/-! ## What an event is to a transfer -/

/-- Nothing said ends the transfer, or the last thing said does and only that: the form of what a
    handler says, by whether it ends the transfer. -/
def Closing (ends : Bool) (calls : List AdaptorCall) : Prop :=
  if ends then ∃ init call, calls = init ++ [call] ∧ call.terminal = true ∧
    ∀ x ∈ init, x.terminal = false
  else ∀ x ∈ calls, x.terminal = false

/-- `siddata_handler` says one thing, which ends the transfer exactly if the part is empty. -/
theorem closing_dataCall (payload : String) :
    Closing (payload.length = 0) [dataCall payload] := by
  unfold Closing dataCall
  by_cases hz : payload.length = 0
  · rw [if_pos (by simpa using hz), if_pos hz]
    exact ⟨[], .writeFinish, rfl, rfl, by simp⟩
  · rw [if_neg (by simpa using hz), if_neg hz]
    simp [AdaptorCall.terminal]

/-- The header loop: the status that cancels is the last line read, and no line before it ends
    anything. -/
theorem closing_headerCalls (lines : List String) :
    Closing (lines.any statusAborts) (headerCalls lines) := by
  obtain ⟨init, hinit, hcalls⟩ := headerCalls_eq lines
  have hopen : ∀ x ∈ init, x.terminal = false := by
    intro x hx
    obtain ⟨line, -, hline⟩ := hinit x hx
    obtain ⟨key, val, -, ⟨-, rfl⟩ | ⟨-, rfl⟩ | ⟨-, rfl⟩⟩ := lineCall_cases hline <;> rfl
  rw [hcalls]
  cases lines.any statusAborts with
  | true => exact ⟨init, .writeCancel, rfl, rfl, hopen⟩
  | false =>
    show ∀ x ∈ init ++ [], x.terminal = false
    rwa [List.append_nil]

/-- The transfer is the one registered for its sid, so that messages of its stream reach it. -/
def Live (t : Transfers C) (ss : SsGreynet C) : Prop := t.reg.sid2ss ss.sid = some ss

instance (t : Transfers C) (ss : SsGreynet C) : Decidable (Live t ss) :=
  inferInstanceAs (Decidable (_ = _))

/-- The transfer has left `m_sid2ss`, and nobody else is registered for its sid; the object may well
    live on, for as long as playdar or a timer holds it. -/
def Gone (t : Transfers C) (ss : SsGreynet C) : Prop := t.reg.sid2ss ss.sid = none

/-- A handler of the header timer runs for a transfer that has left `m_sid2ss`: it was queued
    before, and nothing takes it back. -/
def Late (t : Transfers C) (ss : SsGreynet C) (e : Event C) : Prop :=
  e = .timeoutCb ss ∧ (t.ss ss).queuedTimeouts ≠ 0 ∧ ¬ Live t ss

/-- The event neither starts a transfer with this sid or this adaptor nor drives the adaptor:
    whatever it is about, it is about others, or something that the transfer itself is told. -/
structure Elsewhere (ss : SsGreynet C) (aa : AdaptorId) (e : Event C) : Prop where
  starts : ∀ ss' aa' ready uuid, e = .startReply ss' aa' ready uuid →
    ss'.sid ≠ ss.sid ∧ aa' ≠ aa
  drives : ∀ call, e ≠ .adaptorCall aa call

/-- The adaptor is this transfer's alone, and the sid too: no other object that has been started has
    either. -/
structure Held (t : Transfers C) (ss : SsGreynet C) (aa : AdaptorId) : Prop where
  own : (t.ss ss).aa = some aa
  adaptor : ∀ x, x ≠ ss → (t.ss x).aa ≠ some aa
  sid : ∀ x, x ≠ ss → x.sid = ss.sid → (t.ss x).aa = none

/-- **What an event is to a transfer**, with the calls its adaptor is made.  Four kinds, and three
    of them are as they should be; the last one is the timer's. -/
inductive Turn (t : Transfers C) (ss : SsGreynet C) (e : Event C) (t' : Transfers C) :
    List AdaptorCall → Prop
  /-- it says something to a running transfer -/
  | running {calls : List AdaptorCall} (hlive : Live t ss)
      (hsame : t'.reg.sid2ss ss.sid = t.reg.sid2ss ss.sid)
      (hcalls : ∀ x ∈ calls, x.terminal = false) : Turn t ss e t' calls
  /-- it says nothing to the transfer -/
  | silent (hsame : t'.reg.sid2ss ss.sid = t.reg.sid2ss ss.sid) (hlate : ¬ Late t ss e) :
      Turn t ss e t' []
  /-- it ends a running transfer -/
  | ending {init : List AdaptorCall} {call : AdaptorCall} (hlive : Live t ss) (hgone : Gone t' ss)
      (hcall : call.terminal = true) (hinit : ∀ x ∈ init, x.terminal = false) :
      Turn t ss e t' (init ++ [call])
  /-- the timer ends a transfer that is over -/
  | late (hlate : Late t ss e) (hgone : Gone t' ss) : Turn t ss e t' [.writeCancel]

section

variable {t t' : Transfers C} {ss : SsGreynet C} {aa : AdaptorId} {e : Event C}
  {out : List (Action C)}

/-- An event that is elsewhere leaves them this transfer's alone: only `start_reply` gives out
    adaptors. -/
theorem held_step (hs : t.Sound) (hheld : Held t ss aa) (he : Elsewhere ss aa e)
    (hok : step t e = .ok (t', out)) : Held t' ss aa := by
  refine ⟨?_, fun x hx => ?_, fun x hx hsid => ?_⟩
  · rcases aa_step hs hok ss with ⟨aa', ready, uuid, rfl, -⟩ | hsame
    · exact absurd rfl (he.starts _ _ _ _ rfl).1
    · rw [hsame, hheld.own]
  · rcases aa_step hs hok x with ⟨aa', ready, uuid, rfl, haa⟩ | hsame
    · rw [haa]
      exact fun h => (he.starts _ _ _ _ rfl).2 (Option.some.inj h)
    · rw [hsame]
      exact hheld.adaptor x hx
  · rcases aa_step hs hok x with ⟨aa', ready, uuid, rfl, -⟩ | hsame
    · exact absurd hsid (he.starts _ _ _ _ rfl).1
    · rw [hsame]
      exact hheld.sid x hx hsid

/-- Nobody else has the sid, so whoever is registered for it is this transfer. -/
theorem Held.live_of_sid (hs : t.Sound) (hheld : Held t ss aa) {x : SsGreynet C}
    (hx : t.reg.sid2ss ss.sid = some x) : x = ss := by
  by_contra hne
  exact (hs.started _ _ hx).1 (hheld.sid x hne (hs.reg _ _ hx).1)

/-- So it is registered, or nobody is. -/
theorem Held.gone_or_live (hs : t.Sound) (hheld : Held t ss aa) : Gone t ss ∨ Live t ss := by
  rcases hx : t.reg.sid2ss ss.sid with _ | x
  · exact Or.inl hx
  · exact Or.inr (hheld.live_of_sid hs hx ▸ hx)

omit [LinearOrder C] in
/-- The lines of an adaptor in a script for one adaptor are all of it, or none. -/
theorem linesFor_map (aa aa' : AdaptorId) (calls : List AdaptorCall) :
    linesFor aa' (calls.map fun call => (aa, call)) = if aa = aa' then calls else [] := by
  induction calls with
  | nil => simp [linesFor]
  | cons x calls ih =>
    have hcons : linesFor aa' ((x :: calls).map fun call => (aa, call)) =
        (if aa = aa' then [x] else []) ++
          linesFor aa' (calls.map fun call => (aa, call)) := rfl
    rw [hcons, ih]
    by_cases h : aa = aa'
    · simp [h]
    · simp [h]

/-- What a transfer is told reaches the adaptor if it is this transfer, and does not if it is
    another one, whose adaptor is another too. -/
theorem Held.linesFor_told (hheld : Held t ss aa) (o : Option (SsGreynet C))
    (calls : List AdaptorCall) :
    linesFor aa (script.told t o calls) = if o = some ss then calls else [] := by
  rcases o with _ | x
  · rfl
  · rw [script.told, Option.bind_some]
    by_cases hx : x = ss
    · obtain rfl := hx
      rw [hheld.own, if_pos rfl]
      simp only
      rw [linesFor_map, if_pos rfl]
    · rw [if_neg (by simpa using hx)]
      rcases haa : (t.ss x).aa with _ | aa'
      · rfl
      · simp only
        rw [linesFor_map, if_neg]
        rintro rfl
        exact hheld.adaptor x hx haa

/-- An event that tells one transfer something, and then takes it out of `m_sid2ss` or not. -/
theorem Held.turn_of_told (hs : t.Sound) (hheld : Held t ss aa) (he : Elsewhere ss aa e)
    (hok : step t e = .ok (t', out)) (o : Option (SsGreynet C)) (calls : List AdaptorCall)
    (ends : Bool) (hscript : t.script e = script.told t o calls) (hclosing : Closing ends calls)
    (hended : t.endedSids e = if ends then o.toList.map SsGreynet.sid else [])
    (hone : ∀ x, o = some x → x.sid = ss.sid → x = ss) (hlive : o = some ss → Live t ss)
    (hlate : ¬ Late t ss e) : Turn t ss e t' (callsOn aa out) := by
  rw [step_callsOn hs hok aa, hscript, hheld.linesFor_told]
  have hsid := sid2ss_step hs hok (s := ss.sid) fun ss' aa' uuid h => (he.starts _ _ _ _ h).1
  rw [hended] at hsid
  -- is it this transfer that is told something, or another one?
  by_cases ho : o = some ss
  · rw [if_pos ho]
    unfold Closing at hclosing
    cases ends with
    | true =>
      obtain ⟨init, call, rfl, hcall, hinit⟩ := hclosing
      refine .ending (hlive ho) ?_ hcall hinit
      rw [ho] at hsid
      simpa [Gone] using hsid
    | false => exact .running (hlive ho) hsid hclosing
  · rw [if_neg ho]
    refine .silent ?_ hlate
    -- the sid that is taken out is another, for the sid tells the two apart
    rw [hsid, if_neg]
    intro hin
    cases ends with
    | true =>
      obtain ⟨x, hx, hxsid⟩ := List.mem_map.mp hin
      have hox : o = some x := by simpa using hx
      exact ho (hone x hox hxsid ▸ hox)
    | false => cases hin

/-- An event that is no timeout of this transfer is not late for it. -/
theorem not_late_of_ne (h : e ≠ .timeoutCb ss) : ¬ Late t ss e :=
  fun hlate => h hlate.1

/-- The calls on the adaptor while the sids of a lost connection are cancelled: one `write_cancel`
    if the transfer is live and its sid is among them. -/
theorem Held.linesFor_cancelCalls (hs : t.Sound) (hheld : Held t ss aa) {sids : List Sid}
    (hnodup : sids.Nodup) : linesFor aa (t.cancelCalls sids) =
      if ss.sid ∈ sids ∧ Live t ss then [.writeCancel] else [] := by
  induction sids with
  | nil => simp [cancelCalls, linesFor]
  | cons s sids ih =>
    obtain ⟨hnew, hrest⟩ := List.nodup_cons.mp hnodup
    have hcons : t.cancelCalls (s :: sids) =
        script.told t (t.reg.sid2ss s) [.writeCancel] ++ t.cancelCalls sids := by
      rw [cancelCalls, List.filterMap_cons, script.told]
      rcases t.reg.sid2ss s with _ | x
      · rfl
      · rw [Option.bind_some, Option.bind_some]
        cases (t.ss x).aa <;> rfl
    have happend : ∀ xs ys : List (AdaptorId × AdaptorCall),
        linesFor aa (xs ++ ys) = linesFor aa xs ++ linesFor aa ys := fun xs ys =>
      List.flatMap_append
    rw [hcons, happend, hheld.linesFor_told, ih hrest]
    -- a sid is listed once, so the transfer is cancelled here or further on
    by_cases hss : t.reg.sid2ss s = some ss
    · have hsid := (hs.reg _ _ hss).1
      rw [if_pos hss, if_neg (by rw [hsid]; exact fun h => hnew h.1),
        if_pos ⟨hsid ▸ List.mem_cons_self .., by rw [Live, hsid, hss]⟩]
      rfl
    · rw [if_neg hss, List.nil_append]
      refine if_congr ?_ rfl rfl
      rw [List.mem_cons]
      constructor
      · exact fun h => ⟨Or.inr h.1, h.2⟩
      · rintro ⟨rfl | hin, hlive⟩
        · exact absurd hlive hss
        · exact ⟨hin, hlive⟩

/-- A handler of the header timer runs: for a transfer that is over it is late, and for a running
    one it is the end. -/
theorem turn_timeoutCb (hs : t.Sound) (hheld : Held t ss aa) {x : SsGreynet C}
    (he : Elsewhere ss aa (.timeoutCb x)) (hok : step t (.timeoutCb x) = .ok (t', out)) :
    Turn t ss (.timeoutCb x) t' (callsOn aa out) := by
  by_cases hq : (t.ss x).queuedTimeouts = 0
  · refine hheld.turn_of_told hs he hok none [] false
      (by rw [script, if_pos hq]; rfl) (by simp [Closing]) (by simp [endedSids, target, hq])
      (by simp) (by simp) ?_
    rintro ⟨hx, hq', -⟩
    obtain rfl := Event.timeoutCb.inj hx
    exact hq' hq
  · have hscript : t.script (.timeoutCb x) = script.told t (some x) [.writeCancel] := by
      rw [script, if_neg hq]
    have hended : t.endedSids (.timeoutCb x) = [x.sid] := by simp [endedSids, target, hq]
    -- its transfer is over: the adaptor is told the end a second time
    by_cases hlate : Late t ss (.timeoutCb x)
    · obtain rfl := Event.timeoutCb.inj hlate.1
      rw [step_callsOn hs hok aa, hscript, hheld.linesFor_told, if_pos rfl]
      refine .late hlate ?_
      have hsid := sid2ss_step hs hok (s := x.sid) fun _ _ _ h => by cases h
      rw [Gone, hsid, hended, if_pos (List.mem_singleton_self _)]
    · refine hheld.turn_of_told hs he hok _ _ true hscript
        ⟨[], .writeCancel, rfl, rfl, by simp⟩ hended ?_ ?_ hlate
      · intro y hy hysid
        obtain rfl := Option.some.inj hy
        by_contra hne
        exact hs.waiting x (Or.inr hq) (hheld.sid x hne hysid)
      · intro hx
        obtain rfl := Option.some.inj hx
        by_contra hnot
        exact hlate ⟨rfl, hq, hnot⟩

/-- A connection goes: the running transfers gathered under it are cancelled, this one perhaps among
    them. -/
theorem turn_terminated (hs : t.Sound) (hheld : Held t ss aa) {conn : C}
    (hok : step t (.connectionTerminated conn) = .ok (t', out)) :
    Turn t ss (.connectionTerminated conn) t' (callsOn aa out) := by
  have hnodup := (cancelSids_ok _ hs hok).nodup
  have hsid := sid2ss_step hs hok (s := ss.sid) fun _ _ _ h => by cases h
  rw [step_callsOn hs hok aa, script, hheld.linesFor_cancelCalls hs hnodup]
  by_cases hin : ss.sid ∈ t.activeSids conn ∧ Live t ss
  · rw [if_pos hin]
    show Turn t ss _ t' ([] ++ [.writeCancel])
    refine .ending hin.2 ?_ rfl (by simp)
    rw [Gone, hsid, endedSids, if_pos hin.1]
  · rw [if_neg hin]
    refine .silent ?_ (not_late_of_ne (by simp))
    rw [hsid, endedSids]
    split
    · -- listed, but not running
      rename_i hmem
      rcases hheld.gone_or_live hs with hgone | hl
      · exact hgone.symm
      · exact absurd ⟨hmem, hl⟩ hin
    · rfl

/-- **Every event is one of the four turns.**  Two kinds of events are done above; the others tell
    one transfer something, and `Held.turn_of_told` says what that is to this one. -/
theorem turn_step (hs : t.Sound) (hheld : Held t ss aa) (he : Elsewhere ss aa e)
    (hok : step t e = .ok (t', out)) : Turn t ss e t' (callsOn aa out) := by
  have hregistered : ∀ s x, t.reg.sid2ss s = some x → x.sid = ss.sid → x = ss := by
    intro s x hx hsid
    refine hheld.live_of_sid hs ?_
    rw [← hsid, (hs.reg _ _ hx).1, hx]
  have hlive : ∀ s, t.reg.sid2ss s = some ss → Live t ss := by
    intro s hx
    rw [Live, (hs.reg _ _ hx).1, hx]
  have hsid := sid2ss_step hs hok (s := ss.sid) fun ss' aa' uuid h => (he.starts _ _ _ _ h).1
  cases e with
  | siddata conn msgp =>
    refine hheld.turn_of_told hs he hok _ _ _ rfl (closing_dataCall msgp.payload) ?_
      (hregistered _) (hlive _) (not_late_of_ne (by simp))
    by_cases hz : msgp.payload.length = 0 <;> simp [endedSids, target, hz]
  | sidheaders conn msgp =>
    refine hheld.turn_of_told hs he hok _ _ _ rfl (closing_headerCalls _) ?_ (hregistered _)
      (hlive _) (not_late_of_ne (by simp))
    show (if abortsHeaders msgp.payload then _ else none).toList.map _ = _
    rw [abortsHeaders]
    cases (splitAt msgp.payload '\n').any statusAborts <;> rfl
  | sidfail conn msgp =>
    exact hheld.turn_of_told hs he hok _ _ true rfl ⟨[], .writeCancel, rfl, rfl, by simp⟩ rfl
      (hregistered _) (hlive _) (not_late_of_ne (by simp))
  | timeoutCb x => exact turn_timeoutCb hs hheld he hok
  | connectionTerminated conn => exact turn_terminated hs hheld hok
  | startReply x aa' ready uuid =>
    -- another transfer, with another adaptor
    obtain ⟨hxsid, haa⟩ := he.starts _ _ _ _ rfl
    have hnone : callsOn aa out = [] := by
      rw [step_callsOn hs hok aa, script]
      split
      · rfl
      · simp [linesFor, haa]
    rw [hnone]
    refine .silent ?_ (not_late_of_ne (by simp))
    rw [hsid, if_neg]
    cases ready with
    | true => simp [endedSids, target]
    | false => simpa [endedSids, target] using hxsid.symm
  | timerExpires x =>
    exact hheld.turn_of_told hs he hok none [] false rfl
      (by simp [Closing]) rfl (by simp) (by simp) (not_late_of_ne (by simp))
  | newAdaptor conn sid =>
    exact hheld.turn_of_told hs he hok none [] false rfl
      (by simp [Closing]) rfl (by simp) (by simp) (not_late_of_ne (by simp))
  | adaptorCall aa' call =>
    have hne : aa' ≠ aa := by
      rintro rfl
      exact he.drives call rfl
    rw [step_callsOn hs hok aa, script]
    have hnone : linesFor aa [(aa', call)] = [] := by simp [linesFor, hne]
    rw [hnone]
    exact .silent hsid (not_late_of_ne (by simp))

end

/-! ## Over whole runs -/

/-- No call follows one that ends the transfer; so there is at most one of those, and it is the last
    call. -/
def EndsOnce (calls : List AdaptorCall) : Prop := calls.Pairwise fun call _ => call.terminal = false

/-- Saying nothing that ends the transfer does not matter to what follows. -/
theorem endsOnce_running {calls rest : List AdaptorCall} (h : ∀ x ∈ calls, x.terminal = false) :
    EndsOnce (calls ++ rest) ↔ EndsOnce rest := by
  rw [EndsOnce, List.pairwise_append]
  constructor
  · exact fun hp => hp.2.1
  · intro hrest
    refine ⟨?_, hrest, fun x hx y _ => h x hx⟩
    exact List.pairwise_of_forall_mem_list fun x hx y _ => h x hx

/-- Once the end has been told, nothing may follow it, whatever it is. -/
theorem endsOnce_ending {init rest : List AdaptorCall} {call : AdaptorCall}
    (hcall : call.terminal = true) (hinit : ∀ x ∈ init, x.terminal = false) :
    EndsOnce (init ++ [call] ++ rest) ↔ rest = [] := by
  rw [List.append_assoc, endsOnce_running hinit]
  constructor
  · intro h
    obtain ⟨hall, -⟩ := List.pairwise_cons.mp h
    refine List.eq_nil_iff_forall_not_mem.mpr fun x hx => ?_
    have := hall x hx
    rw [hcall] at this
    cases this
  · rintro rfl
    exact List.pairwise_singleton ..

/-- What an adaptor is told over a history, in order. -/
def callsOver (aa : AdaptorId) (hist : List (Runs.Step (Transfers C) (Event C) (Action C))) :
    List AdaptorCall := hist.flatMap fun st => callsOn aa st.out

/-- A transfer that is over is told nothing more, but for the timer.  By induction on the history,
    the adaptor being this transfer's alone throughout. -/
theorem Held.calls_gone {ss : SsGreynet C} {aa : AdaptorId}
    (hist : List (Runs.Step (Transfers C) (Event C) (Action C))) :
    ∀ {t u : Transfers C}, Runs.Run step (· = t) hist u → t.Sound → Held t ss aa → Gone t ss →
      (∀ st ∈ hist, Elsewhere ss aa st.event) →
      (callsOver aa hist = [] ↔ ∀ st ∈ hist, ¬ Late st.pre ss st.event) := by
  induction hist with
  | nil =>
    intro t u _ _ _ _ _
    simp [callsOver]
  | cons st hist ih =>
    intro t u hr hs hheld hgone he
    obtain ⟨rfl, hok, hrest⟩ := hr.head
    have hcons : callsOver aa (st :: hist) = callsOn aa st.out ++ callsOver aa hist := rfl
    have hnot : ¬ Live st.pre ss := fun hlive => by
      rw [Live, hgone] at hlive
      cases hlive
    rw [hcons, List.forall_mem_cons]
    have ih := ih hrest (sound_step hs hok)
      (held_step hs hheld (he st (List.mem_cons_self ..)) hok)
    have ih := fun hg => ih hg fun x hx => he x (List.mem_cons_of_mem _ hx)
    generalize hmade : callsOn aa st.out = calls
    have hturn := turn_step hs hheld (he st (List.mem_cons_self ..)) hok
    rw [hmade] at hturn
    -- of the four turns only two are open to a transfer that is over
    cases hturn with
    | running hlive => exact absurd hlive hnot
    | silent hsame hlate =>
      rw [List.nil_append, ih (hsame.trans hgone)]
      exact ⟨fun h => ⟨hlate, h⟩, fun h => h.2⟩
    | ending hlive => exact absurd hlive hnot
    | late hlate _ =>
      constructor
      · intro h
        cases h
      · exact fun h => absurd hlate h.1

/-- A running transfer is told its end once, unless the timer tells it again.  By induction on the
    history: up to the end, by the turns; from there on, by `Held.calls_gone`. -/
theorem Held.endsOnce_live {ss : SsGreynet C} {aa : AdaptorId}
    (hist : List (Runs.Step (Transfers C) (Event C) (Action C))) :
    ∀ {t u : Transfers C}, Runs.Run step (· = t) hist u → t.Sound → Held t ss aa → Live t ss →
      (∀ st ∈ hist, Elsewhere ss aa st.event) →
      (EndsOnce (callsOver aa hist) ↔ ∀ st ∈ hist, ¬ Late st.pre ss st.event) := by
  induction hist with
  | nil =>
    intro t u _ _ _ _ _
    simp [callsOver, EndsOnce]
  | cons st hist ih =>
    intro t u hr hs hheld hlive he
    obtain ⟨rfl, hok, hrest⟩ := hr.head
    have hcons : callsOver aa (st :: hist) = callsOn aa st.out ++ callsOver aa hist := rfl
    have hnot : ¬ Late st.pre ss st.event := fun hlate => hlate.2.2 hlive
    have hs' := sound_step hs hok
    have hheld' := held_step hs hheld (he st (List.mem_cons_self ..)) hok
    have he' : ∀ x ∈ hist, Elsewhere ss aa x.event := fun x hx => he x (List.mem_cons_of_mem _ hx)
    rw [hcons, List.forall_mem_cons]
    generalize hmade : callsOn aa st.out = calls
    have hturn := turn_step hs hheld (he st (List.mem_cons_self ..)) hok
    rw [hmade] at hturn
    cases hturn with
    | running _ hsame hcalls =>
      rw [endsOnce_running hcalls, ih hrest hs' hheld' (hsame.trans hlive) he']
      exact ⟨fun h => ⟨hnot, h⟩, fun h => h.2⟩
    | silent hsame _ =>
      rw [List.nil_append, ih hrest hs' hheld' (hsame.trans hlive) he']
      exact ⟨fun h => ⟨hnot, h⟩, fun h => h.2⟩
    | ending _ hgone hcall hinit =>
      -- from here on the transfer is over
      rw [endsOnce_ending hcall hinit, hheld'.calls_gone hist hrest hs' hgone he']
      exact ⟨fun h => ⟨hnot, h⟩, fun h => h.2⟩
    | late hlate _ => exact absurd hlate hnot

/-- Neither the sid nor the adaptor has been used yet, by any transfer. -/
structure Unused (t : Transfers C) (ss : SsGreynet C) (aa : AdaptorId) : Prop where
  gone : Gone t ss
  adaptor : ∀ x, (t.ss x).aa ≠ some aa
  sid : ∀ x, x.sid = ss.sid → (t.ss x).aa = none

/-- An adaptor is called for its transfer, or by who starts the transfer or drives it; there is
    nobody else who would call it. -/
theorem script_calls {t : Transfers C} {e : Event C} {aa : AdaptorId} {call : AdaptorCall}
    (h : (aa, call) ∈ t.script e) : (∃ x, (t.ss x).aa = some aa) ∨
      (∃ ss ready uuid, e = .startReply ss aa ready uuid) ∨ e = .adaptorCall aa call := by
  -- four of the events tell a registered transfer something, and that has the adaptor
  have htold : ∀ {o : Option (SsGreynet C)} {calls : List AdaptorCall},
      (aa, call) ∈ script.told t o calls → ∃ x, (t.ss x).aa = some aa := by
    intro o calls hin
    obtain ⟨x, -, haa, -⟩ := mem_told hin
    exact ⟨x, haa⟩
  cases e with
  | startReply ss aa' ready uuid =>
    rw [script] at h
    split at h
    · cases h
    · obtain ⟨rfl, -⟩ := Prod.mk.inj (List.mem_singleton.mp h)
      exact Or.inr (Or.inl ⟨ss, ready, uuid, rfl⟩)
  | siddata conn msgp => exact Or.inl (htold h)
  | sidheaders conn msgp => exact Or.inl (htold h)
  | sidfail conn msgp => exact Or.inl (htold h)
  | timeoutCb ss =>
    rw [script] at h
    split at h
    · cases h
    · exact Or.inl (htold h)
  | connectionTerminated conn =>
    rw [script, cancelCalls] at h
    obtain ⟨s, -, hs⟩ := List.mem_filterMap.mp h
    obtain ⟨ss, -, hss⟩ := Option.bind_eq_some_iff.mp hs
    obtain ⟨aa', haa, he⟩ := Option.map_eq_some_iff.mp hss
    obtain ⟨rfl, -⟩ := Prod.mk.inj he
    exact Or.inl ⟨ss, haa⟩
  | adaptorCall aa' call' =>
    obtain ⟨rfl, rfl⟩ := Prod.mk.inj (List.mem_singleton.mp h)
    exact Or.inr (Or.inr rfl)
  | timerExpires => cases h
  | newAdaptor => cases h

/-- Before the transfer starts nobody talks to its adaptor, and an event elsewhere leaves it unused
    ... -/
theorem unused_step {t t' : Transfers C} {ss : SsGreynet C} {aa : AdaptorId} {e : Event C}
    {out : List (Action C)} (hs : t.Sound) (hun : Unused t ss aa) (he : Elsewhere ss aa e)
    (hok : step t e = .ok (t', out)) : Unused t' ss aa ∧ callsOn aa out = [] := by
  refine ⟨⟨?_, fun x => ?_, fun x hx => ?_⟩, ?_⟩
  · have hsid := sid2ss_step hs hok (s := ss.sid) fun ss' aa' uuid h => (he.starts _ _ _ _ h).1
    rw [Gone, hsid, hun.gone, ite_self]
  · rcases aa_step hs hok x with ⟨aa', ready, uuid, rfl, haa⟩ | hsame
    · rw [haa]
      exact fun h => (he.starts _ _ _ _ rfl).2 (Option.some.inj h)
    · rw [hsame]
      exact hun.adaptor x
  · rcases aa_step hs hok x with ⟨aa', ready, uuid, rfl, -⟩ | hsame
    · exact absurd hx (he.starts _ _ _ _ rfl).1
    · rw [hsame]
      exact hun.sid x hx
  · refine List.eq_nil_iff_forall_not_mem.mpr fun call hin => ?_
    rw [step_callsOn hs hok aa, mem_linesFor] at hin
    rcases script_calls hin with ⟨x, hx⟩ | ⟨x, ready, uuid, rfl⟩ | rfl
    · exact hun.adaptor x hx
    · exact (he.starts _ _ _ _ rfl).2 rfl
    · exact he.drives call rfl

/-- ... over a whole run. -/
theorem run_unused {ss : SsGreynet C} {aa : AdaptorId}
    {hist : List (Runs.Step (Transfers C) (Event C) (Action C))} {t : Transfers C}
    (hr : Runs.Run step (· = empty) hist t) (he : ∀ st ∈ hist, Elsewhere ss aa st.event) :
    Unused t ss aa ∧ callsOver aa hist = [] := by
  induction hr with
  | start h0 =>
    obtain rfl := h0
    exact ⟨⟨rfl, by simp [empty], by simp [empty]⟩, rfl⟩
  | @snoc hist t t' e out hr hs ih =>
    obtain ⟨hun, hnone⟩ := ih fun st hst => he st (List.mem_append_left _ hst)
    have hlast := he ⟨t, e, t', out⟩ List.mem_concat_self
    obtain ⟨hun', hcalls⟩ := unused_step (Reachable.sound ⟨hist, hr⟩) hun hlast hs
    refine ⟨hun', ?_⟩
    rw [callsOver, List.flatMap_append, List.flatMap_singleton, hcalls, List.append_nil]
    exact hnone

/-- Starting it: on a connection that is ready the transfer is live and nothing has been said; on
    one that is not, it has been cancelled at once. -/
theorem startReply_turn {t t' : Transfers C} {ss : SsGreynet C} {aa : AdaptorId} {ready : Bool}
    {uuid : String} {out : List (Action C)} (hs : t.Sound) (hun : Unused t ss aa)
    (hok : step t (.startReply ss aa ready uuid) = .ok (t', out)) :
    Held t' ss aa ∧ ((Live t' ss ∧ callsOn aa out = []) ∨
      (Gone t' ss ∧ callsOn aa out = [.writeCancel])) := by
  -- the adaptor is set in either case; what it hears depends on the connection
  have hcalls := step_callsOn hs hok aa
  refine ⟨⟨?_, fun x hx => ?_, fun x hx hsid => ?_⟩, ?_⟩
  · cases ready with
    | true =>
      obtain ⟨t₁, heq, -, haa, -⟩ := startReply_ready t ss aa uuid
      rw [step, heq] at hok
      obtain ⟨rfl, -⟩ := Prod.mk.inj (Except.ok.inj hok)
      exact haa
    | false =>
      rw [step, startReply_notReady] at hok
      rw [((finishes_cancelHandler hok).quiet ss).aa, modifySs_self]
  · rcases aa_step hs hok x with ⟨aa', ready', uuid', he, -⟩ | hsame
    · exact absurd (Event.startReply.inj he).1.symm hx
    · rw [hsame]
      exact hun.adaptor x
  · rcases aa_step hs hok x with ⟨aa', ready', uuid', he, -⟩ | hsame
    · exact absurd (Event.startReply.inj he).1.symm hx
    · rw [hsame]
      exact hun.sid x hsid
  · cases ready with
    | true =>
      obtain ⟨t₁, heq, hreg, -⟩ := startReply_ready t ss aa uuid
      rw [step, heq] at hok
      obtain ⟨rfl, -⟩ := Prod.mk.inj (Except.ok.inj hok)
      exact Or.inl ⟨by rw [Live, hreg]; exact Function.update_self .., hcalls⟩
    | false =>
      refine Or.inr ⟨?_, ?_⟩
      · have hsid := sid2ss_step hs hok (s := ss.sid) fun ss' aa' uuid' he => by cases he
        rw [Gone, hsid, hun.gone, ite_self]
      · rw [hcalls]
        simp [script, linesFor]

/-- **A transfer ends exactly once, if the timer leaves it alone once it is over**: take any run
    in which `ss` is started once, with a sid and an adaptor nobody else uses.  Its adaptor is told
    at most one end, and nothing after it, exactly if no handler of the header timer runs for it
    when it has left `m_sid2ss`. -/
theorem ends_once_iff {h₁ h₂ : List (Runs.Step (Transfers C) (Event C) (Action C))}
    {st₀ : Runs.Step (Transfers C) (Event C) (Action C)} {u : Transfers C} {ss : SsGreynet C}
    {aa : AdaptorId} {ready : Bool} {uuid : String}
    (hr : Runs.Run step (· = empty) (h₁ ++ st₀ :: h₂) u)
    (hstart : st₀.event = .startReply ss aa ready uuid)
    (helse : ∀ st ∈ h₁ ++ h₂, Elsewhere ss aa st.event) :
    EndsOnce (callsOver aa (h₁ ++ st₀ :: h₂)) ↔
      ∀ st ∈ h₂, st.event = .timeoutCb ss → (st.pre.ss ss).queuedTimeouts ≠ 0 →
        st.pre.reg.sid2ss ss.sid = some ss := by
  obtain ⟨hr₁, hok, hr₂⟩ := hr.cut
  have he₂ : ∀ st ∈ h₂, Elsewhere ss aa st.event := fun st hst =>
    helse st (List.mem_append_right _ hst)
  -- before the start the adaptor has heard nothing
  obtain ⟨hun, hnone⟩ := run_unused hr₁ fun st hst => helse st (List.mem_append_left _ hst)
  have hs : st₀.pre.Sound := Reachable.sound ⟨h₁, hr₁⟩
  have hs' := sound_step hs hok
  rw [hstart] at hok
  obtain ⟨hheld, hturn⟩ := startReply_turn hs hun hok
  have hcalls : callsOver aa (h₁ ++ st₀ :: h₂) = callsOn aa st₀.out ++ callsOver aa h₂ := by
    rw [callsOver, List.flatMap_append]
    exact congrArg (· ++ _) hnone
  -- the condition of the statement is that no event is late
  have hlate : (∀ st ∈ h₂, ¬ Late st.pre ss st.event) ↔
      ∀ st ∈ h₂, st.event = .timeoutCb ss → (st.pre.ss ss).queuedTimeouts ≠ 0 →
        st.pre.reg.sid2ss ss.sid = some ss := by
    refine forall₂_congr fun st _ => ?_
    rw [Late, not_and, not_and, not_not]
    rfl
  rw [hcalls, ← hlate]
  rcases hturn with ⟨hlive, hsaid⟩ | ⟨hgone, hsaid⟩
  · rw [hsaid, List.nil_append]
    exact hheld.endsOnce_live h₂ hr₂ hs' hlive he₂
  · have hend : EndsOnce ([] ++ [.writeCancel] ++ callsOver aa h₂) ↔ callsOver aa h₂ = [] :=
      endsOnce_ending rfl (by simp)
    rw [hsaid]
    exact hend.trans (hheld.calls_gone h₂ hr₂ hs' hgone he₂)

/-- A transfer that is requested, and refused before its headers come; the wait of its timer is
    pending. -/
def refused : List (Event Nat) :=
  [.startReply ⟨0, 0, "s"⟩ (.playdar 0) true "u", .sidfail 0 ⟨.sidfail, "s", ""⟩]

/-- Its end is told once, by the SIDFAIL ... -/
theorem ends_once_refused : EndsOnce (callsOver (.playdar 0) (Runs.trace step empty refused)) := by
  obtain ⟨st₀, st₁, hh, h₀, h₁⟩ : ∃ st₀ st₁, Runs.trace step empty refused = [] ++ st₀ :: [st₁] ∧
      st₀.event = .startReply ⟨0, 0, "s"⟩ (.playdar 0) true "u" ∧
      st₁.event = .sidfail 0 ⟨.sidfail, "s", ""⟩ := ⟨_, _, rfl, rfl, rfl⟩
  have hr : Runs.Run step (· = empty) (Runs.trace step empty refused)
      (Runs.after step empty refused) := Runs.run_trace refused rfl
  rw [hh] at hr ⊢
  refine (ends_once_iff hr h₀ fun st hst => ?_).mpr fun st hst he => ?_
  · obtain rfl := List.mem_singleton.mp hst
    exact ⟨fun _ _ _ _ he => by simp [h₁] at he, fun _ he => by simp [h₁] at he⟩
  · obtain rfl := List.mem_singleton.mp hst
    simp [h₁] at he

/-- ... and, if playdar still holds the `ss_greynet` when its timer runs out, again. -/
theorem refused_ends_twice : ∃ u, Runs.Run step (· = empty)
      (Runs.trace step empty
        (refused ++ [.timerExpires ⟨0, 0, "s"⟩, .timeoutCb ⟨0, 0, "s"⟩])) u ∧
    ¬ EndsOnce (callsOver (.playdar 0) (Runs.trace step empty
      (refused ++ [.timerExpires ⟨0, 0, "s"⟩, .timeoutCb ⟨0, 0, "s"⟩]))) := by
  refine ⟨_, Runs.run_trace _ rfl, ?_⟩
  have hcalls : callsOver (.playdar 0) (Runs.trace step empty
      (refused ++ [.timerExpires ⟨0, 0, "s"⟩, .timeoutCb ⟨0, 0, "s"⟩])) =
        [.writeCancel, .writeCancel] := rfl
  rw [hcalls]
  intro h
  have := (List.pairwise_cons.mp h).1 .writeCancel (List.mem_singleton_self _)
  cases this

end Transfers

end Greynet
