/-
  The transfer maps over whole runs: what ends when, and what else it takes with it.

  Three properties of `m_sid2ss` and `m_conn2sid`, each with the exact condition under which the
  code has it:

  * `unregister_rightly_iff` — `unregister_sidtransfer(conn, sid)` ends, having removed that
    transfer and nothing else, exactly when `find(conn)` is `end()` or points at `sid`.  Two
    transfers on one connection may therefore only end in the order they were registered.
  * `isolates_iff` — `connection_terminated(conn)` cancels the transfers of `conn` and no other
    exactly when `conn` has none or no GREATER connection key has any: the walk over the multimap
    is compared with `end()`, not with the end of the key's range.
  * `agreement_iff` — the two maps agree after every event of a schedule exactly when every event
    is `Orderly`: no sid is requested while it is being transferred, and a transfer ends only
    while `find` on its connection points at it.

  The invariant under all three is `Transfers.Sound`; `Consistent` is the stronger one that the
  third is about.
-/
import Greynet.TransferSteps

namespace Greynet

variable {C : Type} [LinearOrder C]

namespace Transfers

/-! ## The cancelling loop of `connection_terminated` -/

/-- What cancelling a list of sids does, when it returns: the transfers of these sids are cancelled,
    in order, each of them is taken out of `m_sid2ss`, and their adaptors are the only ones that are
    called. -/
structure CancelsAll (t : Transfers C) (sids : List Sid) (t' : Transfers C)
    (out : List (Action C)) : Prop where
  /-- no sid is met twice -/
  nodup : sids.Nodup
  /-- the transfers cancelled are those the sids stood for at the start -/
  cancelled : sids.map t.reg.sid2ss = (cancelled out).map some
  sid2ss : ∀ s, t'.reg.sid2ss s = if s ∈ sids then none else t.reg.sid2ss s
  quiet : ∀ x, Quiet (t.ss x) (t'.ss x)
  sound : t'.Sound
  /-- the adaptors called are those of the transfers cancelled, with `write_cancel` -/
  calls : ∀ aa call, Action.adaptor aa call ∈ out →
    call = .writeCancel ∧ ∃ ss ∈ Transfers.cancelled out, (t.ss ss).aa = some aa

omit [LinearOrder C] in
/-- An adaptor calls no adaptor: what it does when it is called are messages on its connection. -/
theorem adaptor_mem_receive {a : GreynetAsyncadaptor C} {call : AdaptorCall} {aa : AdaptorId}
    {call' : AdaptorCall} : Action.adaptor aa call' ∉ (a.receive call).2 := by
  cases call with
  | writeContent buffer =>
    by_cases h : a.sentfirst <;>
      simp [GreynetAsyncadaptor.receive, GreynetAsyncadaptor.writeContent,
        GreynetAsyncadaptor.sendHeaders, h]
  | writeFinish =>
    by_cases h : a.sentfirst <;>
      simp [GreynetAsyncadaptor.receive, GreynetAsyncadaptor.writeFinish,
        GreynetAsyncadaptor.writeContent, GreynetAsyncadaptor.sendHeaders, h]
  | writeCancel => simp [GreynetAsyncadaptor.receive, GreynetAsyncadaptor.writeCancel]
  | setContentLength n => simp [GreynetAsyncadaptor.receive]
  | setMimeType m => simp [GreynetAsyncadaptor.receive]
  | setStatusCode n => simp [GreynetAsyncadaptor.receive]

/-- So a call reaches the adaptor that it is made on, and no other. -/
theorem adaptor_mem_adaptorCall {t : Transfers C} {aa aa' : AdaptorId} {call call' : AdaptorCall}
    (h : Action.adaptor aa' call' ∈ (t.adaptorCall aa call).2) : aa' = aa ∧ call' = call := by
  unfold adaptorCall at h
  split at h
  · simpa using h
  · split at h
    · simpa using h
    · rcases List.mem_cons.mp h with heq | hmem
      · simpa using heq
      · exact absurd hmem adaptor_mem_receive

/-- One round of the loop before the others.  The first transfer is out of `m_sid2ss` when the
    others come, so its sid is not met again, and theirs stand for what they stood for before. -/
theorem CancelsAll.cons {t t₁ t₂ : Transfers C} {s : Sid} {sids : List Sid} {ss : SsGreynet C}
    {out₁ out₂ : List (Action C)} (hs : t.Sound) (hss : t.reg.sid2ss s = some ss)
    (hc : t.cancelHandler ss = .ok (t₁, out₁)) (hrec : CancelsAll t₁ sids t₂ out₂) :
    CancelsAll t (s :: sids) t₂ (out₁ ++ out₂) := by
  obtain ⟨hsid, -⟩ := hs.reg s ss hss
  have hfin := finishes_cancelHandler hc
  obtain ⟨aa, haa, -, hsame, hout⟩ := cancelHandler_ok hc
  have hu := Registry.unregistered_of_ok hfin.reg
  have hout₁ : Transfers.cancelled out₁ = [ss] := by
    rw [hout]
    show ss :: Transfers.cancelled (t.adaptorCall aa .writeCancel).2 = [ss]
    rw [cancelled_adaptorCall]
  -- the sid just cancelled is gone, so the rest of the list cannot name it again
  have hnew : s ∉ sids := by
    intro hmem
    have hnone : t₁.reg.sid2ss s = none := by
      rw [hu.sid2ss, hsid, Function.update_self]
    have hin : t₁.reg.sid2ss s ∈ sids.map t₁.reg.sid2ss := List.mem_map_of_mem hmem
    rw [hrec.cancelled, hnone] at hin
    simp at hin
  have hold : ∀ s', s' ∈ sids → t₁.reg.sid2ss s' = t.reg.sid2ss s' := by
    intro s' hs'
    rw [hu.sid2ss, Function.update_of_ne]
    rintro rfl
    exact hnew (hsid ▸ hs')
  refine ⟨List.nodup_cons.mpr ⟨hnew, hrec.nodup⟩, ?_, fun s' => ?_,
    fun x => (hfin.quiet x).trans (hrec.quiet x), hrec.sound, fun aa' call hm => ?_⟩
  · rw [cancelled_append, hout₁, List.map_cons, hss, ← List.map_congr_left hold, hrec.cancelled]
    rfl
  · rw [hrec.sid2ss, hu.sid2ss, hsid]
    by_cases hs' : s' = s
    · subst hs'
      simp
    · simp [hs']
  · rw [cancelled_append, hout₁]
    rcases List.mem_append.mp hm with hm | hm
    · rw [hout] at hm
      obtain ⟨rfl, rfl⟩ := adaptor_mem_adaptorCall (by simpa using hm)
      exact ⟨rfl, ss, by simp, haa⟩
    · obtain ⟨hcall, ss', hss', haa'⟩ := hrec.calls aa' call hm
      exact ⟨hcall, ss', by simp [hss'], by rw [← haa', hsame]⟩

/-- What the second loop of `connection_terminated` does, by induction on the sids; each round is
    one `cancel_handler`.  A sid that came twice would be a null pointer the second time. -/
theorem cancelSids_ok (sids : List Sid) :
    ∀ {t t' : Transfers C} {out : List (Action C)}, t.Sound →
      t.cancelSids sids = .ok (t', out) → CancelsAll t sids t' out := by
  induction sids with
  | nil =>
    intro t t' out hs h
    obtain ⟨rfl, rfl⟩ := Prod.mk.inj (Except.ok.inj h)
    exact ⟨List.nodup_nil, rfl, fun s => by simp, fun x => .refl _, hs,
      fun aa call hm => by simp at hm⟩
  | cons s sids ih =>
    intro t t'' out'' hs h
    rw [cancelSids] at h
    cases hss : t.reg.sid2ss s with
    | none =>
      rw [hss] at h
      cases h
    -- the sid's transfer is cancelled, and the rest of the sids in the state after it
    | some ss =>
      rw [hss] at h
      simp only at h
      cases hc : t.cancelHandler ss with
      | error f =>
        rw [hc] at h
        cases h
      | ok x =>
        obtain ⟨t₁, out₁⟩ := x
        rw [hc] at h
        simp only at h
        cases hr : t₁.cancelSids sids with
        | error f =>
          rw [hr] at h
          cases h
        | ok y =>
          obtain ⟨t₂, out₂⟩ := y
          rw [hr] at h
          obtain ⟨rfl, rfl⟩ := Prod.mk.inj (Except.ok.inj h)
          exact .cons hs hss hc (ih ((finishes_cancelHandler hc).sound hs) hr)

/-- When the walk over a list of pairs gets through: each pair stands for a live transfer of its
    connection, no sid is met twice, and under every key the walk takes the pairs from the front.
    What it leaves under each key is `rest`. -/
theorem cancelSids_walk (rest : C → List Sid) (walk : List (C × Sid)) :
    ∀ {t : Transfers C}, t.Sound →
      (∀ p ∈ walk, ∃ ss, t.reg.sid2ss p.2 = some ss ∧ ss.conn = p.1) →
      (walk.map Prod.snd).Nodup →
      (∀ d, t.reg.conn2sid.values d =
        (walk.filter fun p => p.1 = d).map Prod.snd ++ rest d) →
      ∃ t' out, t.cancelSids (walk.map Prod.snd) = .ok (t', out) ∧
        ∀ d, t'.reg.conn2sid.values d = rest d := by
  induction walk with
  | nil =>
    intro t _ _ _ hval
    exact ⟨t, [], rfl, fun d => by simpa using hval d⟩
  | cons p walk ih =>
    intro t hs hlive hnd hval
    obtain ⟨c, s⟩ := p
    obtain ⟨ss, hss, hconn⟩ := hlive (c, s) (List.mem_cons_self ..)
    simp only at hss hconn
    subst hconn
    obtain ⟨hsid, -⟩ := hs.reg s ss hss
    subst hsid
    rw [List.map_cons, List.nodup_cons] at hnd
    -- the pair that is walked over first is the first one under its key
    have hhere : t.reg.conn2sid.values ss.conn = ss.sid ::
        ((walk.filter fun p => p.1 = ss.conn).map Prod.snd ++ rest ss.conn) := by
      rw [hval ss.conn]
      simp
    -- so the unregistering loop finds its sid in its first iteration, and ends
    have hfirst : ∃ r, t.reg.unregisterSidtransfer ss.conn ss.sid = .ok r := by
      rw [Registry.unregisterSidtransfer_isOk]
      intro s hs
      rw [Registry.firstSid, hhere] at hs
      exact (Option.some.inj hs).symm
    obtain ⟨⟨t₁, out₁⟩, hc⟩ := (cancelHandler_isOk (hs.started _ _ hss).1).mpr hfirst
    have hfin := finishes_cancelHandler hc
    have hu := Registry.unregistered_of_ok hfin.reg
    -- the pairs behind it are still live, as no sid comes twice, and nothing else has moved
    obtain ⟨t₂, out₂, hrest, hleft⟩ := ih (t := t₁) (hfin.sound hs)
      (fun q hq => by
        obtain ⟨x, hx, hxc⟩ := hlive q (List.mem_cons_of_mem _ hq)
        refine ⟨x, ?_, hxc⟩
        rw [hu.sid2ss, Function.update_of_ne]
        · exact hx
        · intro he
          have hin : q.2 ∈ walk.map Prod.snd := List.mem_map_of_mem hq
          exact hnd.1 (he ▸ hin))
      hnd.2
      (fun d => by
        by_cases hd : d = ss.conn
        · subst hd
          rw [hu.here, hhere, List.erase_cons_head]
        · rw [hu.others d hd, hval d, List.filter_cons_of_neg (by simpa using Ne.symm hd)])
    refine ⟨t₂, out₁ ++ out₂, ?_, hleft⟩
    rw [List.map_cons, cancelSids, hss]
    simp only [hc, hrest]

/-- A step that changes one `ss_greynet`, which has an adaptor afterwards, keeps the state sound:
    the others are as they were, and nothing new is registered but perhaps that one. -/
theorem Sound.one_changed {t t' : Transfers C} (hs : t.Sound) (ss : SsGreynet C)
    (hreg : t'.reg.Sound)
    (hold : ∀ s x, x ≠ ss → t'.reg.sid2ss s = some x → t.reg.sid2ss s = some x)
    (hother : ∀ x, x ≠ ss → t'.ss x = t.ss x) (haa : (t'.ss ss).aa ≠ none)
    (htm : ∀ s, t'.reg.sid2ss s = some ss → (t'.ss ss).timer ≠ none) : t'.Sound := by
  refine ⟨hreg, fun s x hx => ?_, fun x hw => ?_⟩
  · by_cases hxs : x = ss
    · subst hxs
      exact ⟨haa, htm s hx⟩
    · rw [hother x hxs]
      exact hs.started s x (hold s x hxs hx)
  · by_cases hxs : x = ss
    · subst hxs
      exact haa
    · rw [hother x hxs] at hw ⊢
      exact hs.waiting x hw

/-- **The invariant of every run**: every event that returns keeps the state sound.  One case for
    each of the things that an event can do (`step_does`). -/
theorem sound_step {t t' : Transfers C} {e : Event C} {out : List (Action C)} (hs : t.Sound)
    (h : step t e = .ok (t', out)) : t'.Sound := by
  cases step_does h with
  | requests ss aa uuid he hreg haa htimer hother =>
    refine hs.one_changed ss (hreg ▸ Registry.sound_register hs.reg ss)
      (fun s x hxs hx => ?_) hother (by simp [haa]) fun _ _ => by simp [htimer]
    rw [hreg] at hx
    simp only [Registry.registerSidtransfer] at hx
    by_cases he : s = ss.sid
    · subst he
      rw [Function.update_self] at hx
      exact absurd (Option.some.inj hx).symm hxs
    · rwa [Function.update_of_ne he] at hx
  -- it is set up first, and then finished from that state
  | refuses ss aa uuid t₀ he hreg haa htimer hother hfin =>
    refine hfin.sound (hs.one_changed ss (hreg ▸ hs.reg) (fun _ _ _ hx => hreg ▸ hx) hother
      (by simp [haa]) fun s hx => ?_)
    rw [htimer]
    exact (hs.started s ss (hreg ▸ hx)).2
  | ends ss _ hfin => exact hfin.sound hs
  -- the timer becomes a queued handler, which needs the adaptor just as the timer did
  | expires ss he hwaits ht =>
    subst ht
    have haa := hs.waiting ss (Or.inl (by rw [hwaits]; simp))
    exact hs.one_changed ss hs.reg (fun _ _ _ hx => hx)
      (fun _ hxs => modifySs_ne _ _ hxs) (by rwa [modifySs_self]) fun _ _ => by simp
  | terminates conn he hall => exact (cancelSids_ok _ hs hall).sound
  | leaves _ hl => exact hl.sound hs

/-- So every state that a run reaches is sound. -/
theorem Reachable.sound {t : Transfers C} (h : Reachable t) : t.Sound :=
  Runs.Reachable.invariant (I := Sound) (fun _ h0 => h0 ▸ sound_empty)
    (fun _ _ _ _ hs hstep => sound_step hs hstep) h

/-- The state after starting transfers one after the other on ready connections; a start that fails,
    which none does here, is passed over. -/
def startAll (sss : List (SsGreynet C)) : Transfers C :=
  sss.foldl (fun t ss => match t.startReply ss (.playdar 0) true "" with
    | .ok x => x.1
    | .error _ => t) empty

/-- It is reached by a run, the one that starts them. -/
theorem reachable_startAll (sss : List (SsGreynet C)) : Reachable (startAll sss) := by
  have hfold : ∀ (sss : List (SsGreynet C)) (t : Transfers C), Reachable t →
      Reachable (sss.foldl (fun t ss => match t.startReply ss (.playdar 0) true "" with
        | .ok x => x.1
        | .error _ => t) t) := by
    intro sss
    induction sss with
    | nil => intro t ht; exact ht
    | cons ss sss ih =>
      intro t ht
      obtain ⟨t', heq, -⟩ := startReply_ready t ss (.playdar 0) ""
      rw [List.foldl_cons, heq]
      exact ih t' (Runs.Reachable.next (e := .startReply ss (.playdar 0) true "") ht heq)
  exact hfold sss empty (.start rfl)

/-! ## Unregistering one transfer -/

/-- `unregister_sidtransfer(conn, sid)` ends, and has removed that transfer and nothing else.  The
    loop is given any number of rounds here, not only those of the model's bound. -/
def UnregistersRightly (r : Registry C) (conn : C) (sid : Sid) : Prop :=
  ∃ fuel m, Runs.loop (Registry.unregisterIter conn sid) fuel r.conn2sid = some m ∧
    r.Unregistered conn sid ⟨Function.update r.sid2ss sid none, m⟩

/-- `find(conn)` is `end()` or points at `sid`: the condition under which the loop does its job,
    said of the map before the call. -/
def FindsFirst (r : Registry C) (conn : C) (sid : Sid) : Prop :=
  ∀ s, r.firstSid conn = some s → s = sid

/-- The loop does its job on ANY registry, reachable or not, exactly if the model's
    `unregister_sidtransfer` returns; so its bound loses nothing. -/
theorem unregistersRightly_of_isOk {r : Registry C} {conn : C} {sid : Sid} :
    UnregistersRightly r conn sid ↔ ∃ r', r.unregisterSidtransfer conn sid = .ok r' := by
  constructor
  · rintro ⟨fuel, m, hm, -⟩
    exact ⟨⟨_, m⟩, Registry.unregisterSidtransfer_ok.mpr ⟨rfl, fuel, hm⟩⟩
  · rintro ⟨r', hr⟩
    have hu := Registry.unregistered_of_ok hr
    obtain ⟨hsid, fuel, hm⟩ := Registry.unregisterSidtransfer_ok.mp hr
    exact ⟨fuel, r'.conn2sid, hm, rfl, hu.here, hu.others⟩

/-- What an event with a target does, when it returns: its target is unregistered, and nothing
    else. -/
theorem unregistered_step {t t' : Transfers C} {e : Event C} {ss : SsGreynet C}
    {out : List (Action C)} (htar : target t e = some ss) (h : step t e = .ok (t', out)) :
    t.reg.Unregistered ss.conn ss.sid t'.reg := by
  rcases step_reg h with ⟨ss', htar', hreg, -⟩ | ⟨hn, -⟩ | ⟨_, _, _, rfl, -⟩ | ⟨conn, rfl, -⟩
  · rw [htar] at htar'
    obtain rfl := Option.some.inj htar'
    exact Registry.unregistered_of_ok hreg
  · rw [htar] at hn
    cases hn
  · cases htar
  · cases htar

/-- **Unregistering works exactly when `find` points at the transfer**: called on any connection
    and sid, and through every event of a run that ends a transfer. -/
theorem unregister_rightly_iff (t : Transfers C) (ht : Reachable t) :
    (∀ (conn : C) (sid : Sid),
      UnregistersRightly t.reg conn sid ↔ FindsFirst t.reg conn sid) ∧
    (∀ (e : Event C) (ss : SsGreynet C), target t e = some ss →
      ((∃ t' out, step t e = .ok (t', out) ∧ t.reg.Unregistered ss.conn ss.sid t'.reg) ↔
        FindsFirst t.reg ss.conn ss.sid)) := by
  constructor
  · intro conn sid
    rw [unregistersRightly_of_isOk, FindsFirst, Registry.unregisterSidtransfer_isOk]
  · intro e ss htar
    have hterm : ∀ conn, e ≠ .connectionTerminated conn := by
      rintro conn rfl
      cases htar
    have hok := step_isOk ht.sound hterm
    rw [FindsFirst, ← Registry.unregisterSidtransfer_isOk]
    constructor
    · rintro ⟨t', out, hstep, -⟩
      exact hok.mp ⟨_, hstep⟩ ss htar
    · intro hr
      obtain ⟨⟨t', out⟩, hstep⟩ := hok.mpr fun ss' htar' => by
        rw [htar] at htar'
        exact Option.some.inj htar' ▸ hr
      exact ⟨t', out, hstep, unregistered_step htar hstep⟩

/-- Two transfers on connection 0, `"a"` registered first.  That is all it takes: two songs asked of
    one peer. -/
def twoOnOne : Transfers Nat := startAll [⟨0, 0, "a"⟩, ⟨1, 0, "b"⟩]

/-- The first of the two can end, since `find` points at its pair ... -/
theorem unregister_rightly_first : UnregistersRightly twoOnOne.reg 0 "a" := by
  refine ((unregister_rightly_iff twoOnOne (reachable_startAll _)).1 0 "a").mpr ?_
  intro s hs
  have hfirst : twoOnOne.reg.firstSid 0 = some "a" := by decide
  rw [hfirst] at hs
  exact (Option.some.inj hs).symm

/-- ... but if the second ends first, the loop never does: `find` returns the pair of `"a"` again
    and again. -/
theorem unregister_second_hangs :
    Reachable twoOnOne ∧ ¬ UnregistersRightly twoOnOne.reg 0 "b" := by
  refine ⟨reachable_startAll _, ?_⟩
  rintro ⟨fuel, m, hm, -⟩
  have hagain : Registry.unregisterIter 0 "b" twoOnOne.reg.conn2sid =
      .again twoOnOne.reg.conn2sid := rfl
  rw [Runs.loop_stuck hagain] at hm
  cases hm

/-! ## A connection dies -/

/-- `ss` is the transfer registered for its sid, and `conn` is its connection; these are the ones
    that ought to go when the connection does. -/
def RegisteredFor (t : Transfers C) (conn : C) (ss : SsGreynet C) : Prop :=
  t.reg.sid2ss ss.sid = some ss ∧ ss.conn = conn

/-- The transfers of `conn` are cancelled, once each, and no other transfer notices: neither its
    entries in the two maps nor its adaptor. -/
structure Isolated (t : Transfers C) (conn : C) (t' : Transfers C) (out : List (Action C)) :
    Prop where
  once : (cancelled out).Nodup
  exactly : ∀ ss, ss ∈ cancelled out ↔ RegisteredFor t conn ss
  /-- only adaptors of transfers of `conn` are called, with `write_cancel` -/
  calls : ∀ aa call, Action.adaptor aa call ∈ out →
    call = .writeCancel ∧ ∃ ss, RegisteredFor t conn ss ∧ (t.ss ss).aa = some aa
  keptSid : ∀ s ss, t.reg.sid2ss s = some ss → ss.conn ≠ conn → t'.reg.sid2ss s = some ss
  keptConn : ∀ d, d ≠ conn → t'.reg.conn2sid.values d = t.reg.conn2sid.values d
  goneSid : ∀ s ss, t'.reg.sid2ss s = some ss → ss.conn ≠ conn
  goneConn : t'.reg.conn2sid.values conn = []

/-- `connection_terminated(conn)` returns and isolates the transfers of `conn`.  That it returns is
    part of it, for the loop that cancels them may be the one that never ends. -/
def IsolatesTransfers (t : Transfers C) (conn : C) : Prop :=
  ∃ t' out, t.connectionTerminated conn = .ok (t', out) ∧ Isolated t conn t' out

/-- Every pair of `conn` stands for a live transfer of `conn`, and no pair occurs twice.  Otherwise
    the second loop meets a sid that is nobody's and follows a null pointer, or cancels somebody
    else's. -/
def LivePairs (t : Transfers C) (conn : C) : Prop :=
  (t.reg.conn2sid.values conn).Nodup ∧
  ∀ s ∈ t.reg.conn2sid.values conn, ∃ ss, t.reg.sid2ss s = some ss ∧ ss.conn = conn

/-- No connection with a greater key has a pair, so that the end of the multimap is the end of this
    connection's range. -/
def NoneAbove (t : Transfers C) (conn : C) : Prop :=
  ∀ d, conn < d → t.reg.conn2sid.values d = []

/-- The sids gathered: those of `conn`, then those of every greater key, since the iterator that
    starts at `find(conn)` is compared with `end()` and with nothing else. -/
theorem activeSids_eq {t : Transfers C} {conn : C} (h : t.reg.conn2sid.values conn ≠ []) :
    t.activeSids conn = t.reg.conn2sid.values conn ++
      (t.reg.conn2sid.entries.filter (conn < ·.1)).map Prod.snd := by
  rw [activeSids, Multimap.fromFound_eq h, List.map_append, List.map_map]
  congr 1
  exact List.map_id _

/-- With no pair of `conn`, `find` is `end()` and nothing happens. -/
theorem connectionTerminated_none {t : Transfers C} {conn : C}
    (h : t.reg.conn2sid.values conn = []) : t.connectionTerminated conn = .ok (t, []) := by
  rw [connectionTerminated, activeSids, Multimap.fromFound_eq_nil.mpr h]
  rfl

/-- A transfer cancelled by `connection_terminated` is the one registered for a gathered sid, and
    every such transfer is cancelled. -/
theorem CancelsAll.mem_cancelled {t t' : Transfers C} {sids : List Sid} {out : List (Action C)}
    (h : CancelsAll t sids t' out) (hs : t.Sound) {ss : SsGreynet C} :
    ss ∈ Transfers.cancelled out ↔ ss.sid ∈ sids ∧ t.reg.sid2ss ss.sid = some ss := by
  have hmem : ss ∈ Transfers.cancelled out ↔ some ss ∈ sids.map t.reg.sid2ss := by
    rw [h.cancelled]
    simp
  rw [hmem, List.mem_map]
  constructor
  · rintro ⟨s, hin, hss⟩
    obtain ⟨rfl, -⟩ := hs.reg s ss hss
    exact ⟨hin, hss⟩
  · rintro ⟨hin, hss⟩
    exact ⟨ss.sid, hin, hss⟩

/-- No transfer is cancelled twice, since no sid is met twice. -/
theorem CancelsAll.nodup_cancelled {t t' : Transfers C} {sids : List Sid} {out : List (Action C)}
    (h : CancelsAll t sids t' out) (hs : t.Sound) : (Transfers.cancelled out).Nodup := by
  have hsids : (Transfers.cancelled out).map SsGreynet.sid = sids := by
    have hall : ∀ (sids : List Sid) (sss : List (SsGreynet C)),
        sids.map t.reg.sid2ss = sss.map some → sss.map SsGreynet.sid = sids := by
      intro sids
      induction sids with
      | nil => intro sss he; cases sss with | nil => rfl | cons _ _ => cases he
      | cons s sids ih =>
        intro sss he
        cases sss with
        | nil => cases he
        | cons ss sss =>
          obtain ⟨hhead, htail⟩ := List.cons.inj he
          rw [List.map_cons, (hs.reg s ss hhead).1, ih sss htail]
    exact hall sids _ h.cancelled
  exact List.Nodup.of_map SsGreynet.sid (hsids ▸ h.nodup)

/-- A connection with pairs isolates its transfers only if no greater key has any: whatever sid
    is gathered, its transfer is cancelled, hence must be one of `conn`. -/
theorem inOrder_of_isolates {t : Transfers C} (hs : t.Sound) {conn : C}
    (hsome : t.reg.conn2sid.values conn ≠ []) (hiso : IsolatesTransfers t conn) :
    NoneAbove t conn ∧ LivePairs t conn := by
  obtain ⟨t', out, hterm, hiso⟩ := hiso
  have hall := cancelSids_ok _ hs hterm
  have hnd := hall.nodup
  rw [activeSids_eq hsome, List.nodup_append] at hnd
  have hlive : ∀ s ∈ t.activeSids conn, ∃ ss, t.reg.sid2ss s = some ss ∧ ss.conn = conn := by
    intro s hin
    have hmem : t.reg.sid2ss s ∈ (Transfers.cancelled out).map some :=
      hall.cancelled ▸ List.mem_map_of_mem hin
    obtain ⟨ss, hss, heq⟩ := List.mem_map.mp hmem
    exact ⟨ss, heq.symm, ((hiso.exactly ss).mp hss).2⟩
  rw [activeSids_eq hsome] at hlive
  refine ⟨fun d hd => ?_, hnd.1, fun s hin => hlive s (List.mem_append_left _ hin)⟩
  rw [List.eq_nil_iff_forall_not_mem]
  intro s hin
  have habove : s ∈ (t.reg.conn2sid.entries.filter (conn < ·.1)).map Prod.snd := by
    refine List.mem_map.mpr ⟨(d, s), List.mem_filter.mpr ⟨?_, by simpa using hd⟩, rfl⟩
    exact Multimap.mem_values.mp hin
  obtain ⟨ss, hss, hconn⟩ := hlive s (List.mem_append_right _ habove)
  have hown : s ∈ t.reg.conn2sid.values conn := hconn ▸ (hs.reg s ss hss).2
  exact hnd.2.2 s hown s habove rfl

/-- So a connection without transfers isolates none, whatever the other connections have. -/
theorem isolates_none {t : Transfers C} (hs : t.Sound) {conn : C}
    (hnil : t.reg.conn2sid.values conn = []) : IsolatesTransfers t conn := by
  have hnone : ∀ ss, ¬ RegisteredFor t conn ss := by
    rintro ss ⟨hss, rfl⟩
    have hmem := (hs.reg _ ss hss).2
    rw [hnil] at hmem
    cases hmem
  refine ⟨t, [], connectionTerminated_none hnil, List.nodup_nil, fun ss => ?_,
    fun aa call h => by simp at h, fun s ss h _ => h, fun d _ => rfl, fun s ss h hc => ?_, hnil⟩
  · exact ⟨fun h => (by cases h), fun h => absurd h (hnone ss)⟩
  · exact hnone ss ⟨(hs.reg s ss h).1.symm ▸ h, hc⟩

/-- With nothing under a greater key, only the connection's own sids are gathered, in the order in
    which they were registered ... -/
theorem NoneAbove.activeSids {t : Transfers C} {conn : C} (h : NoneAbove t conn) :
    t.activeSids conn = t.reg.conn2sid.values conn := by
  by_cases hnil : t.reg.conn2sid.values conn = []
  · rw [Transfers.activeSids, Multimap.fromFound_eq_nil.mpr hnil, hnil]
    rfl
  · have hgone : t.reg.conn2sid.entries.filter (conn < ·.1) = [] := by
      rw [List.filter_eq_nil_iff]
      intro e he hlt
      have hin : e.2 ∈ t.reg.conn2sid.values e.1 := Multimap.mem_values.mpr he
      rw [h e.1 (of_decide_eq_true hlt)] at hin
      cases hin
    rw [activeSids_eq hnil, hgone, List.map_nil, List.append_nil]

/-- ... and then the walk gets through them from the front: each of them is the first pair of its
    connection when its turn comes, so the loop of `unregister_sidtransfer` ends. -/
theorem connectionTerminated_ok {t : Transfers C} (hs : t.Sound) {conn : C}
    (habove : NoneAbove t conn) (hpairs : LivePairs t conn) :
    ∃ t' out, t.connectionTerminated conn = .ok (t', out) ∧
      ∀ d, t'.reg.conn2sid.values d = if d = conn then [] else t.reg.conn2sid.values d := by
  have hsids : t.activeSids conn =
      ((t.reg.conn2sid.values conn).map fun s => (conn, s)).map Prod.snd := by
    rw [habove.activeSids, List.map_map]
    exact (List.map_id _).symm
  unfold connectionTerminated
  rw [hsids]
  refine cancelSids_walk _ _ hs (fun p hp => ?_) ?_ fun d => ?_
  · obtain ⟨s, hin, rfl⟩ := List.mem_map.mp hp
    exact hpairs.2 s hin
  · rw [← hsids, habove.activeSids]
    exact hpairs.1
  · by_cases hd : d = conn
    · subst hd
      simp [List.filter_map, Function.comp_def]
    · simp [List.filter_map, Function.comp_def, Ne.symm hd, hd]

/-- So a connection whose pairs are live, with nothing under a greater key, isolates its
    transfers. -/
theorem isolates_inOrder {t : Transfers C} (hs : t.Sound) {conn : C}
    (habove : NoneAbove t conn) (hpairs : LivePairs t conn) : IsolatesTransfers t conn := by
  obtain ⟨t', out, hok, hleft⟩ := connectionTerminated_ok hs habove hpairs
  have hall := cancelSids_ok _ hs hok
  rw [habove.activeSids] at hall
  -- the pairs of the connection are its transfers, and each of them is cancelled
  have hexactly : ∀ ss, ss ∈ cancelled out ↔ RegisteredFor t conn ss := by
    intro ss
    rw [hall.mem_cancelled hs]
    constructor
    · rintro ⟨hin, hss⟩
      obtain ⟨ss', hss', hconn⟩ := hpairs.2 _ hin
      rw [hss] at hss'
      exact ⟨hss, Option.some.inj hss' ▸ hconn⟩
    · rintro ⟨hss, rfl⟩
      exact ⟨(hs.reg _ ss hss).2, hss⟩
  refine ⟨t', out, hok, hall.nodup_cancelled hs, hexactly, fun aa call h => ?_,
    fun s ss hss hne => ?_, fun d hd => by rw [hleft, if_neg hd], fun s ss hss hconn => ?_,
    by rw [hleft, if_pos rfl]⟩
  · obtain ⟨hcall, ss, hin, haa⟩ := hall.calls aa call h
    exact ⟨hcall, ss, (hexactly ss).mp hin, haa⟩
  · -- the transfers of other connections stay registered
    rw [hall.sid2ss, if_neg, hss]
    intro hin
    obtain ⟨ss', hss', hconn⟩ := hpairs.2 s hin
    rw [hss] at hss'
    exact hne (Option.some.inj hss' ▸ hconn)
  · rw [hall.sid2ss] at hss
    split at hss
    · cases hss
    · rename_i hnot
      exact hnot (hconn ▸ (hs.reg s ss hss).2)

/-- **`connection_terminated` isolates the transfers of a connection exactly when** it has none,
    or its pairs are in order and no GREATER connection key has any. -/
theorem isolates_iff (t : Transfers C) (ht : Reachable t) (conn : C) :
    IsolatesTransfers t conn ↔
      t.reg.conn2sid.values conn = [] ∨ (NoneAbove t conn ∧ LivePairs t conn) := by
  constructor
  · intro hiso
    by_cases hnil : t.reg.conn2sid.values conn = []
    · exact Or.inl hnil
    · exact Or.inr (inOrder_of_isolates ht.sound hnil hiso)
  · rintro (hnil | ⟨habove, hpairs⟩)
    · exact isolates_none ht.sound hnil
    · exact isolates_inOrder ht.sound habove hpairs

/-- One transfer on each of two connections; connections are pointers, and 0 is the smaller key. -/
def oneOnEach : Transfers Nat := startAll [⟨0, 0, "a"⟩, ⟨1, 1, "b"⟩]

/-- Losing the connection with the greater key leaves the other transfer alone ... -/
theorem isolates_greatest : IsolatesTransfers oneOnEach 1 := by
  refine (isolates_iff oneOnEach (reachable_startAll _) 1).mpr (Or.inr ⟨fun d hd => ?_, ?_, ?_⟩)
  · have hentries : oneOnEach.reg.conn2sid.entries = [(0, "a"), (1, "b")] := by decide
    rw [Multimap.values, hentries]
    have h0 : ¬ (0 = d) := by omega
    have h1 : ¬ (1 = d) := by omega
    simp [h0, h1]
  · decide
  · intro s hin
    have hvalues : oneOnEach.reg.conn2sid.values 1 = ["b"] := by decide
    rw [hvalues, List.mem_singleton] at hin
    subst hin
    exact ⟨⟨1, 1, "b"⟩, by decide, rfl⟩

/-- ... but losing the smaller one cancels the transfer of the greater one as well: its pair comes
    before `end()`. -/
theorem terminating_smaller_cancels_greater :
    Reachable oneOnEach ∧ ¬ IsolatesTransfers oneOnEach 0 := by
  refine ⟨reachable_startAll _, ?_⟩
  rintro ⟨t', out, hterm, hiso⟩
  have hcancelled : (oneOnEach.connectionTerminated 0).map (fun x => cancelled x.2) =
      .ok [⟨0, 0, "a"⟩, ⟨1, 1, "b"⟩] := by decide
  rw [hterm] at hcancelled
  have hboth : cancelled out = [⟨0, 0, "a"⟩, ⟨1, 1, "b"⟩] := Except.ok.inj hcancelled
  have hin : (⟨1, 1, "b"⟩ : SsGreynet Nat) ∈ cancelled out := by rw [hboth]; simp
  have hconn := ((hiso.exactly _).mp hin).2
  simp at hconn

/-! ## The two maps in agreement -/

/-- The pairs of `m_conn2sid` are those of the transfers in `m_sid2ss`, each once: what one map says
    of a transfer the other says too. -/
structure Consistent (r : Registry C) : Prop where
  pairs : ∀ conn s, (conn, s) ∈ r.conn2sid.entries ↔ ∃ ss, r.sid2ss s = some ss ∧ ss.conn = conn
  once : r.conn2sid.entries.Nodup

/-- Two empty maps agree. -/
theorem consistent_empty : Consistent (Registry.empty : Registry C) := by
  refine ⟨fun conn s => ⟨fun h => (by cases h), ?_⟩, List.nodup_nil⟩
  rintro ⟨ss, hss, -⟩
  cases hss

/-- The pairs under one connection, read through `values`: its sids are those of the transfers that
    are its own. -/
theorem Consistent.mem_values {r : Registry C} (h : Consistent r) {conn : C} {s : Sid} :
    s ∈ r.conn2sid.values conn ↔ ∃ ss, r.sid2ss s = some ss ∧ ss.conn = conn := by
  rw [Multimap.mem_values, h.pairs]

/-- To agree it is enough to agree connection by connection, each sid once. -/
theorem consistent_of_values {r : Registry C}
    (hpairs : ∀ conn s, s ∈ r.conn2sid.values conn ↔ ∃ ss, r.sid2ss s = some ss ∧ ss.conn = conn)
    (honce : ∀ conn, (r.conn2sid.values conn).Nodup) : Consistent r :=
  ⟨fun conn s => by rw [← Multimap.mem_values, hpairs], Multimap.nodup_entries.mpr honce⟩

/-- The step returns, keeps the maps in agreement, and removes no registration but those of the
    transfer it ends and of transfers it cancels. -/
def KeepsAgreement (t : Transfers C) (e : Event C) : Prop :=
  ∃ t' out, step t e = .ok (t', out) ∧ Consistent t'.reg ∧
    ∀ s ss, t.reg.sid2ss s = some ss →
      t'.reg.sid2ss s = some ss ∨ target t e = some ss ∨ ss ∈ cancelled out

/-- A transfer that is ended is registered and the first of its connection, or neither its sid
    nor its connection has a registration. -/
def EndsCleanly (r : Registry C) (ss : SsGreynet C) : Prop :=
  (r.sid2ss ss.sid = some ss ∧ r.firstSid ss.conn = some ss.sid) ∨
  (r.sid2ss ss.sid = none ∧ r.firstSid ss.conn = none)

/-- No sid is requested while it is being transferred, and every transfer ends cleanly: a condition
    on the event and the state before it. -/
def Orderly (t : Transfers C) (e : Event C) : Prop :=
  (∀ ss aa uuid, e = .startReply ss aa true uuid → t.reg.sid2ss ss.sid = none) ∧
  ∀ ss, target t e = some ss → EndsCleanly t.reg ss

/-- Registering a sid that is being transferred leaves its old pair without an owner, or makes
    it occur twice. -/
theorem consistent_register_iff {r : Registry C} (h : Consistent r) (hs : r.Sound)
    (ss : SsGreynet C) :
    Consistent (r.registerSidtransfer ss.conn ss.sid ss) ↔ r.sid2ss ss.sid = none := by
  have hself : (r.registerSidtransfer ss.conn ss.sid ss).conn2sid.values ss.conn =
      r.conn2sid.values ss.conn ++ [ss.sid] := Multimap.values_insert_self ..
  have hother : ∀ d, d ≠ ss.conn →
      (r.registerSidtransfer ss.conn ss.sid ss).conn2sid.values d = r.conn2sid.values d :=
    fun d hd => Multimap.values_insert_ne _ _ hd
  constructor
  · intro h'
    by_contra hne
    obtain ⟨old, hold⟩ := Option.ne_none_iff_exists'.mp hne
    have hin := (hs ss.sid old hold).2
    by_cases hc : old.conn = ss.conn
    · have hnd := Multimap.nodup_entries.mp h'.once ss.conn
      rw [hself, List.nodup_append] at hnd
      exact hnd.2.2 ss.sid (hc ▸ hin) ss.sid (by simp) rfl
    · -- the old pair is still there, and the transfer now found under the sid is not its owner
      rw [← hother _ hc, h'.mem_values] at hin
      obtain ⟨x, hx, hxc⟩ := hin
      simp only [Registry.registerSidtransfer, Function.update_self] at hx
      exact hc (hxc ▸ congrArg SsGreynet.conn (Option.some.inj hx).symm)
  · intro hnone
    have hnew : ∀ d, ss.sid ∉ r.conn2sid.values d := by
      intro d hin
      obtain ⟨x, hx, -⟩ := h.mem_values.mp hin
      rw [hnone] at hx
      cases hx
    have hold : ∀ s, s ≠ ss.sid →
        (r.registerSidtransfer ss.conn ss.sid ss).sid2ss s = r.sid2ss s :=
      fun s he => Function.update_of_ne he _ _
    have hnow : (r.registerSidtransfer ss.conn ss.sid ss).sid2ss ss.sid = some ss :=
      Function.update_self ..
    refine consistent_of_values (fun d s => ?_) (fun d => ?_)
    · by_cases he : s = ss.sid
      · subst he
        rw [hnow]
        by_cases hd : d = ss.conn
        · subst hd
          rw [hself]
          simp
        · rw [hother d hd]
          constructor
          · intro hin
            exact absurd hin (hnew d)
          · rintro ⟨x, hx, hxc⟩
            obtain rfl := Option.some.inj hx
            exact absurd hxc.symm hd
      · rw [hold s he, ← h.mem_values]
        by_cases hd : d = ss.conn
        · subst hd
          rw [hself]
          simp [he]
        · rw [hother d hd]
    · by_cases hd : d = ss.conn
      · subst hd
        rw [hself, List.nodup_append]
        refine ⟨Multimap.nodup_entries.mp h.once _, List.nodup_singleton _, ?_⟩
        rintro a ha b hb rfl
        exact hnew _ (List.mem_singleton.mp hb ▸ ha)
      · rw [hother d hd]
        exact Multimap.nodup_entries.mp h.once _

/-- Unregistering that keeps the agreement and touches no other transfer is a clean end: had the sid
    been another transfer's, that one would have left `m_sid2ss`. -/
theorem endsCleanly_of_unregister {r r' : Registry C} (h : Consistent r) (hs : r.Sound)
    {ss : SsGreynet C} (hr : r.unregisterSidtransfer ss.conn ss.sid = .ok r')
    (h' : Consistent r') (hown : ∀ s x, r.sid2ss s = some x → r'.sid2ss s = some x ∨ x = ss) :
    EndsCleanly r ss := by
  have hu := Registry.unregistered_of_ok hr
  have hfirst := Registry.unregisterSidtransfer_isOk.mp ⟨r', hr⟩
  have hgone : r'.sid2ss ss.sid = none := by rw [hu.sid2ss, Function.update_self]
  cases hf : r.firstSid ss.conn with
  | some s =>
    obtain rfl := hfirst s hf
    have hin : ss.sid ∈ r.conn2sid.values ss.conn := List.mem_of_mem_head? hf
    obtain ⟨x, hx, -⟩ := h.mem_values.mp hin
    rcases hown _ x hx with hx' | rfl
    · rw [hgone] at hx'
      cases hx'
    · exact Or.inl ⟨hx, hf⟩
  -- nothing to erase: then the sid was registered for nobody, or a pair would have stayed behind
  | none =>
    refine Or.inr ⟨?_, hf⟩
    by_contra hne
    obtain ⟨x, hx⟩ := Option.ne_none_iff_exists'.mp hne
    have hin := (hs _ x hx).2
    have hnil : r.conn2sid.values ss.conn = [] := List.head?_eq_none_iff.mp hf
    have hxc : x.conn ≠ ss.conn := by
      intro hc
      rw [hc, hnil] at hin
      cases hin
    rw [← hu.others _ hxc, h'.mem_values, hgone] at hin
    obtain ⟨_, hx', -⟩ := hin
    cases hx'

/-- Taking out a sid keeps the agreement, if the sid is under no other connection; else a pair would
    stay behind that stands for nobody. -/
theorem consistent_unregistered {r r' : Registry C} {conn : C} {sid : Sid}
    (hu : r.Unregistered conn sid r') (h : Consistent r)
    (hothers : ∀ d, d ≠ conn → sid ∉ r.conn2sid.values d) : Consistent r' := by
  have hgone : r'.sid2ss sid = none := by rw [hu.sid2ss, Function.update_self]
  have hold : ∀ s, s ≠ sid → r'.sid2ss s = r.sid2ss s := by
    intro s he
    rw [hu.sid2ss, Function.update_of_ne he]
  -- no sid comes twice under a key, so erasing it once takes it out
  have hnd : ∀ d, (r.conn2sid.values d).Nodup := Multimap.nodup_entries.mp h.once
  refine consistent_of_values (fun d s => ?_) (fun d => ?_)
  · by_cases he : s = sid
    · subst he
      rw [hgone]
      refine ⟨fun hin => ?_, by rintro ⟨x, hx, -⟩; cases hx⟩
      by_cases hd : d = conn
      · subst hd
        rw [hu.here] at hin
        exact absurd hin (hnd d).not_mem_erase
      · rw [hu.others d hd] at hin
        exact absurd hin (hothers d hd)
    · rw [hold s he, ← h.mem_values]
      by_cases hd : d = conn
      · subst hd
        rw [hu.here]
        exact List.mem_erase_of_ne he
      · rw [hu.others d hd]
  · by_cases hd : d = conn
    · subst hd
      rw [hu.here]
      exact (hnd _).erase _
    · rw [hu.others d hd]
      exact hnd d

/-- A clean end keeps the agreement and touches no other transfer; and it returns, since `find`
    points at the pair. -/
theorem EndsCleanly.unregister {r : Registry C} (h : Consistent r) {ss : SsGreynet C}
    (hclean : EndsCleanly r ss) :
    ∃ r', r.unregisterSidtransfer ss.conn ss.sid = .ok r' ∧ Consistent r' ∧
      ∀ s x, r.sid2ss s = some x → r'.sid2ss s = some x ∨ x = ss := by
  have hfirst : ∀ s, r.firstSid ss.conn = some s → s = ss.sid := by
    intro s hf
    rcases hclean with ⟨-, hf'⟩ | ⟨-, hf'⟩
    · rw [hf] at hf'
      exact Option.some.inj hf'
    · rw [hf] at hf'
      cases hf'
  -- nobody but `ss` is registered for the sid
  have howner : ∀ x, r.sid2ss ss.sid = some x → x = ss := by
    intro x hx
    rcases hclean with ⟨hss, -⟩ | ⟨hss, -⟩
    · rw [hss] at hx
      exact (Option.some.inj hx).symm
    · rw [hss] at hx
      cases hx
  have hothers : ∀ d, d ≠ ss.conn → ss.sid ∉ r.conn2sid.values d := by
    intro d hd hin
    obtain ⟨x, hx, hxc⟩ := h.mem_values.mp hin
    exact hd (hxc ▸ congrArg SsGreynet.conn (howner x hx))
  obtain ⟨r', hr⟩ := Registry.unregisterSidtransfer_isOk.mpr hfirst
  have hu := Registry.unregistered_of_ok hr
  refine ⟨r', hr, consistent_unregistered hu h hothers, fun s x hx => ?_⟩
  by_cases he : s = ss.sid
  · subst he
    exact Or.inr (howner x hx)
  · exact Or.inl (by rw [hu.sid2ss, Function.update_of_ne he, hx])

/-- Unregistering returns, keeps the agreement and touches no other transfer exactly when it is
    a clean end. -/
theorem endsCleanly_iff {r : Registry C} (h : Consistent r) (hs : r.Sound) (ss : SsGreynet C) :
    (∃ r', r.unregisterSidtransfer ss.conn ss.sid = .ok r' ∧ Consistent r' ∧
      ∀ s x, r.sid2ss s = some x → r'.sid2ss s = some x ∨ x = ss) ↔ EndsCleanly r ss := by
  constructor
  · rintro ⟨r', hr, h', hown⟩
    exact endsCleanly_of_unregister h hs hr h' hown
  · intro hclean
    exact hclean.unregister h

/-- With the maps in agreement `connection_terminated` returns and leaves them so, whatever it
    walks over: each pair stands for a live transfer, and the walk takes every key's pairs from
    the front. -/
theorem consistent_terminated {t : Transfers C} (h : Consistent t.reg) (hs : t.Sound) (conn : C) :
    ∃ t' out, t.connectionTerminated conn = .ok (t', out) ∧ Consistent t'.reg := by
  by_cases hnil : t.reg.conn2sid.values conn = []
  · exact ⟨t, [], connectionTerminated_none hnil, h⟩
  · -- a sid stands under one key only, as the transfer it is registered for has one connection
    have hsids : ∀ p q, p ∈ t.reg.conn2sid.entries → q ∈ t.reg.conn2sid.entries → p.2 = q.2 →
        p = q := by
      rintro ⟨c, s⟩ ⟨c', s'⟩ hp hq he
      simp only at he
      subst he
      obtain ⟨x, hx, rfl⟩ := (h.pairs _ _).mp hp
      obtain ⟨y, hy, rfl⟩ := (h.pairs _ _).mp hq
      rw [hx] at hy
      rw [Option.some.inj hy]
    have hsub : (t.reg.conn2sid.fromFound conn).Sublist t.reg.conn2sid.entries :=
      List.dropWhile_sublist _
    -- the walk empties the keys from `conn` on, and nothing below
    obtain ⟨t', out, hok, hleft⟩ := cancelSids_walk
      (fun d => if conn ≤ d then [] else t.reg.conn2sid.values d) (t.reg.conn2sid.fromFound conn) hs
      (fun p hp => (h.pairs p.1 p.2).mp (hsub.subset hp))
      (List.Nodup.map_on (fun p hp q hq he => hsids p q (hsub.subset hp) (hsub.subset hq) he)
        (h.once.sublist hsub))
      (fun d => by
        rw [Multimap.values_fromFound hnil]
        split <;> simp)
    have hall : CancelsAll t (t.activeSids conn) t' out := cancelSids_ok _ hs hok
    -- the sids gathered are those under the keys from `conn` on
    have hgathered : ∀ d s, s ∈ t.reg.conn2sid.values d →
        (s ∈ t.activeSids conn ↔ conn ≤ d) := by
      intro d s hin
      rw [activeSids, List.mem_map]
      constructor
      · rintro ⟨p, hp, rfl⟩
        obtain rfl := congrArg Prod.fst (hsids p (d, p.2) (hsub.subset hp)
          (Multimap.mem_values.mp hin) rfl)
        exact ((Multimap.mem_fromFound hnil).mp hp).2
      · intro hle
        exact ⟨(d, s), (Multimap.mem_fromFound hnil).mpr ⟨Multimap.mem_values.mp hin, hle⟩, rfl⟩
    refine ⟨t', out, hok, consistent_of_values (fun d s => ?_) (fun d => ?_)⟩
    · rw [hleft, hall.sid2ss]
      by_cases hgone : s ∈ t.activeSids conn
      · rw [if_pos hgone]
        refine ⟨fun hin => ?_, by rintro ⟨x, hx, -⟩; cases hx⟩
        split at hin
        · cases hin
        · rename_i hnot
          exact absurd ((hgathered d s hin).mp hgone) hnot
      · rw [if_neg hgone, ← h.mem_values]
        by_cases hle : conn ≤ d
        · rw [if_pos hle]
          exact ⟨fun hin => (by cases hin), fun hin => absurd ((hgathered d s hin).mpr hle) hgone⟩
        · rw [if_neg hle]
    · rw [hleft]
      split
      · exact List.nodup_nil
      · exact Multimap.nodup_entries.mp h.once d

/-- One step: from maps in agreement, it keeps them so exactly when it is orderly.  A connection
    that closes always is, and the other events by what they do to the maps. -/
theorem keepsAgreement_iff {t : Transfers C} (h : Consistent t.reg) (hs : t.Sound) (e : Event C) :
    KeepsAgreement t e ↔ Orderly t e := by
  constructor
  · rintro ⟨t', out, hstep, h', hown⟩
    rcases step_reg hstep with ⟨ss, htar, hreg, hcan⟩ | ⟨htar, -, -⟩ |
      ⟨ss, aa, uuid, rfl, hreg, -⟩ | ⟨conn, rfl, -⟩
    · refine ⟨?_, fun x hx => ?_⟩
      · rintro x aa uuid rfl
        cases htar
      · rw [htar] at hx
        obtain rfl := Option.some.inj hx
        refine (endsCleanly_iff h hs.reg ss).mp ⟨t'.reg, hreg, h', fun s x hx => ?_⟩
        rcases hown s x hx with hkept | htar' | hin
        · exact Or.inl hkept
        · rw [htar] at htar'
          exact Or.inr (Option.some.inj htar').symm
        · exact Or.inr (hcan x hin)
    · refine ⟨?_, fun x hx => ?_⟩
      · -- not the target of a step that ends: it is being registered
        rintro x aa uuid rfl
        obtain ⟨t₁, heq, hreg, -⟩ := startReply_ready t x aa uuid
        rw [step, heq] at hstep
        obtain ⟨rfl, -⟩ := Prod.mk.inj (Except.ok.inj hstep)
        exact (consistent_register_iff h hs.reg x).mp (hreg ▸ h')
      · rw [htar] at hx
        cases hx
    · refine ⟨?_, fun x hx => (by cases hx)⟩
      rintro x aa' uuid' he
      cases he
      exact (consistent_register_iff h hs.reg ss).mp (hreg ▸ h')
    · exact ⟨fun x aa uuid he => (by cases he), fun x hx => (by cases hx)⟩
  · rintro ⟨hstart, hend⟩
    -- a closing connection cancels whoever is on it, in any order, so it is always orderly
    by_cases hterm : ∃ conn, e = .connectionTerminated conn
    · obtain ⟨conn, rfl⟩ := hterm
      obtain ⟨t', out, hok, h'⟩ := consistent_terminated h hs conn
      have hall := cancelSids_ok _ hs hok
      refine ⟨t', out, hok, h', fun s ss hss => ?_⟩
      rw [hall.sid2ss]
      by_cases hin : s ∈ t.activeSids conn
      · obtain ⟨hsid, -⟩ := hs.reg s ss hss
        subst hsid
        exact Or.inr (Or.inr ((hall.mem_cancelled hs).mpr ⟨hin, hss⟩))
      · rw [if_neg hin]
        exact Or.inl hss
    · have hok := step_isOk hs (e := e) fun conn he => hterm ⟨conn, he⟩
      obtain ⟨⟨t', out⟩, hstep⟩ := hok.mpr fun ss htar => by
        obtain ⟨r, hr, -⟩ := (endsCleanly_iff h hs.reg ss).mpr (hend ss htar)
        exact ⟨r, hr⟩
      refine ⟨t', out, hstep, ?_⟩
      rcases step_reg hstep with ⟨ss, htar, hreg, -⟩ | ⟨-, hreg, -⟩ |
        ⟨ss, aa, uuid, rfl, hreg, -⟩ | ⟨conn, rfl, -⟩
      · obtain ⟨r, hr, hcons, hkept⟩ := (endsCleanly_iff h hs.reg ss).mpr (hend ss htar)
        rw [hreg] at hr
        obtain rfl := Except.ok.inj hr
        refine ⟨hcons, fun s x hx => ?_⟩
        rcases hkept s x hx with hkept | rfl
        · exact Or.inl hkept
        · exact Or.inr (Or.inl htar)
      · rw [hreg]
        exact ⟨h, fun s x hx => Or.inl hx⟩
      · have hnone := hstart ss aa uuid rfl
        rw [hreg]
        refine ⟨(consistent_register_iff h hs.reg ss).mpr hnone, fun s x hx => Or.inl ?_⟩
        have he : s ≠ ss.sid := by
          rintro rfl
          rw [hnone] at hx
          cases hx
        simp only [Registry.registerSidtransfer]
        rwa [Function.update_of_ne he]
      · exact absurd ⟨conn, rfl⟩ hterm

/-- **The maps stay in agreement along a schedule exactly when all of it is orderly.**  From
    `keepsAgreement_iff` by induction on the schedule: up to the first event that is not orderly the
    maps agree, and there they cease to. -/
theorem agreement_iff (es : List (Event C)) :
    Runs.Along step KeepsAgreement (empty : Transfers C) es ↔
      Runs.Along step Orderly (empty : Transfers C) es := by
  refine Runs.along_congr (I := fun _ _ => True) (J := fun t => Consistent t.reg ∧ t.Sound)
    (fun t e ht _ => keepsAgreement_iff ht.1 ht.2 e) ?_ es empty
    ⟨consistent_empty, sound_empty⟩ (fun _ _ _ => trivial)
  rintro t e t' out ⟨-, hs⟩ - ⟨t₁, out₁, hstep₁, hcons, -⟩ hstep
  rw [hstep] at hstep₁
  obtain ⟨rfl, rfl⟩ := Prod.mk.inj (Except.ok.inj hstep₁)
  exact ⟨hcons, sound_step hs hstep⟩

/-- The same sid asked of two peers: the second registration takes `m_sid2ss` over and leaves the
    first pair in `m_conn2sid`. -/
theorem two_peers_one_sid_disagree :
    ¬ Runs.Along step KeepsAgreement (empty : Transfers Nat)
      [.startReply ⟨0, 0, "a"⟩ (.playdar 0) true "u0",
       .startReply ⟨1, 1, "a"⟩ (.playdar 1) true "u1"] := by
  rintro ⟨-, hnext⟩
  obtain ⟨⟨t', out, hstep, hcons, -⟩, -⟩ := hnext _ _ rfl
  obtain ⟨rfl, -⟩ := Prod.mk.inj (Except.ok.inj hstep)
  have hleft := (hcons.pairs 0 "a").mp (by decide)
  obtain ⟨ss, hss, hconn⟩ := hleft
  have howner : ss = ⟨1, 1, "a"⟩ := (Option.some.inj hss).symm
  rw [howner] at hconn
  simp at hconn

end Transfers

end Greynet
