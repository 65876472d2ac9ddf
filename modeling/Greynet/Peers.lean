/-
  The list of playdar peers, over whole runs of the bot.

  Source: `jbot.cpp` (`handleRosterPresence`, `handleSelfPresence`, `handleDiscoInfo`).

  1. What one event does to one full JID (`OneStep`): it is listed afterwards if it is announced,
     or was listed and does not go offline; and only a JID that is not listed is announced.
  2. `announced_once` — so in every run a JID is listed exactly while it has been announced since it
     was last offline, and it goes offline between any two announcements.
  3. `probes_rightly_iff` — whom a presence has probed.  It is meant to be the JIDs that are not
     listed, but what is looked up is the contact's bare JID.
-/
import Greynet.Jbot

namespace Greynet

namespace Jbot

/-! ## One event

  Of all full JIDs each is looked at for itself.  An event changes the list at one of them at most,
  and whether it is announced is decided by whether it was listed. -/

/-- The full JID `f` goes offline, by a presence that says so. -/
def Offline (f : String) (e : Event) : Prop :=
  ∃ item resource presence, e.presence = some (item, resource, presence) ∧
    presence.offline = true ∧ (Jid.mk item.jid resource).full = f

/-- The new-peer callback is called for `f`. -/
def Announces (f : String) (st : Runs.Step Jbot Event Call) : Prop := .newPeer f ∈ st.out

/-- A peer that is found is listed afterwards, ... -/
theorem mem_addPeer {j : Jbot} {f g : String} :
    f ∈ (j.addPeer g).1.playdarpeers ↔ f = g ∨ f ∈ j.playdarpeers := by
  unfold addPeer
  by_cases hg : g ∈ j.playdarpeers
  · rw [if_pos hg]
    constructor
    · exact Or.inr
    · rintro (rfl | hf)
      · exact hg
      · exact hf
  · rw [if_neg hg]
    exact Finset.mem_insert

/-- ... is announced if it was not listed before, ... -/
theorem newPeer_mem_addPeer {j : Jbot} {f g : String} :
    .newPeer f ∈ (j.addPeer g).2 ↔ f = g ∧ g ∉ j.playdarpeers := by
  unfold addPeer
  by_cases hg : g ∈ j.playdarpeers <;> simp [hg]

/-- ... and is announced once. -/
theorem length_addPeer (j : Jbot) (g : String) : (j.addPeer g).2.length ≤ 1 := by
  unfold addPeer
  split <;> simp

/-- What a step means for one full JID. -/
structure OneStep (f : String) (st : Runs.Step Jbot Event Call) : Prop where
  once : st.out.count (.newPeer f) ≤ 1
  new : Announces f st → f ∉ st.pre.playdarpeers
  listed : f ∈ st.post.playdarpeers ↔
    Announces f st ∨ (f ∈ st.pre.playdarpeers ∧ ¬ Offline f st.event)

/-- Nobody is announced, and nobody goes offline. -/
theorem oneStep_quiet {f : String} {st : Runs.Step Jbot Event Call} (hsame : st.post = st.pre)
    (hquiet : .newPeer f ∉ st.out) (hoff : ¬ Offline f st.event) : OneStep f st := by
  refine ⟨?_, fun ha => absurd ha hquiet, ?_⟩
  · rw [List.count_eq_zero_of_not_mem hquiet]
    exact Nat.zero_le _
  · rw [hsame]
    constructor
    · exact fun hf => Or.inr ⟨hf, hoff⟩
    · rintro (ha | ⟨hf, -⟩)
      · exact absurd ha hquiet
      · exact hf

/-- A peer is found; then gloox may be asked something. -/
theorem oneStep_addPeer {f g : String} {st : Runs.Step Jbot Event Call} {rest : List Call}
    (hpost : st.post = (st.pre.addPeer g).1) (hout : st.out = (st.pre.addPeer g).2 ++ rest)
    (hrest : ∀ x, Call.newPeer x ∉ rest) (hoff : ¬ Offline f st.event) : OneStep f st := by
  have hann : Announces f st ↔ f = g ∧ g ∉ st.pre.playdarpeers := by
    rw [Announces, hout, List.mem_append, or_iff_left (hrest f), newPeer_mem_addPeer]
  refine ⟨?_, fun ha => ?_, ?_⟩
  · rw [hout, List.count_append, List.count_eq_zero_of_not_mem (hrest f)]
    exact List.count_le_length.trans (length_addPeer st.pre g)
  · obtain ⟨rfl, hnew⟩ := hann.mp ha
    exact hnew
  · rw [hpost, mem_addPeer, hann]
    by_cases hg : f = g
    · subst hg
      by_cases hin : f ∈ st.pre.playdarpeers <;> simp [hin, hoff]
    · simp [hg, hoff]

/-- **What every step means for one full JID**: one case for each way of `Does`. -/
theorem oneStep {own : String} {j j' : Jbot} {e : Event} {out : List Call}
    (hok : step own j e = .ok (j', out)) (f : String) : OneStep f ⟨j, e, j', out⟩ := by
  -- a presence other than offline takes nobody from the list
  have honline : ∀ {item resource presence}, e.presence = some (item, resource, presence) →
      presence.offline = false → ¬ Offline f e := by
    rintro item resource presence he hon ⟨item', resource', presence', he', hoff, -⟩
    rw [he] at he'
    obtain ⟨-, -, rfl⟩ := Option.some.inj he'
    rw [hon] at hoff
    cases hoff
  -- and what is no presence does not either
  have hnone : e.presence = none → ¬ Offline f e := by
    rintro he ⟨item, resource, presence, he', -⟩
    rw [he] at he'
    cases he'
  cases step_does hok with
  | leaves item resource presence he hoff =>
    refine ⟨Nat.zero_le _, fun ha => (by cases ha), ?_⟩
    -- what is struck from the list is the full JID, with the resource that went away
    have hgone : Offline f e ↔ f = (Jid.mk item.jid resource).full := by
      constructor
      · rintro ⟨item', resource', presence', he', -, hf⟩
        rw [he] at he'
        obtain ⟨rfl, rfl, -⟩ := Option.some.inj he'
        exact hf.symm
      · rintro rfl
        exact ⟨item, resource, presence, he, hoff, rfl⟩
    rw [hgone]
    simp [Announces, and_comm]
  | ignores item resource presence he hon =>
    exact oneStep_quiet rfl (by simp) (honline he hon)
  | detects item resource presence he hon =>
    exact oneStep_addPeer rfl rfl (by simp) (honline he hon)
  | probes item resource presence he hon => exact oneStep_quiet rfl (by simp) (honline he hon)
  | answers sender features he =>
    refine oneStep_addPeer rfl (List.append_nil _).symm (by simp) (hnone ?_)
    rw [he]
    rfl
  | denies sender features he =>
    subst he
    exact oneStep_quiet rfl (by simp) (hnone rfl)
  | hears sender body he =>
    subst he
    exact oneStep_quiet rfl (by simp) (hnone rfl)
  | quits sender he =>
    subst he
    exact oneStep_quiet rfl (by simp) (hnone rfl)
  | subscribes jid he =>
    subst he
    exact oneStep_quiet rfl (by simp) (hnone rfl)
  | prints he =>
    subst he
    exact oneStep_quiet rfl (by simp) (hnone rfl)

/-! ## Announcements over a run

  With what a step means, the rest is about a set that one kind of step adds to and another takes
  from; that is `Runs.Since`. -/

/-- The list holds who has been announced since being offline last. -/
theorem Run.listed {own : String} {hist : History} {j : Jbot} (hr : Run own hist j) (f : String) :
    f ∈ j.playdarpeers ↔ Runs.Since (Announces f) (fun st => Offline f st.event) hist := by
  refine Runs.Run.invariant
    (I := fun hist j => f ∈ j.playdarpeers ↔
      Runs.Since (Announces f) (fun st => Offline f st.event) hist) ?_ ?_ hr
  · rintro j rfl
    exact iff_of_false (Finset.notMem_empty f) (Runs.not_since_nil _ _)
  · intro hist j e j' out _ ih hok
    rw [Runs.since_snoc, ← ih]
    exact (oneStep hok f).listed

/-- **Every peer is announced once for each time it is online**: in every run, a full JID is in the
    list exactly if it has been announced since it went offline last, no step announces it twice,
    and between two steps that announce it it goes offline. -/
theorem announced_once {own : String} {hist : History} {j : Jbot} (hr : Run own hist j)
    (f : String) :
    (f ∈ j.playdarpeers ↔ Runs.Since (Announces f) (fun st => Offline f st.event) hist) ∧
    (∀ st ∈ hist, st.out.count (.newPeer f) ≤ 1) ∧
    ∀ h₁ st h₂ st' h₃, hist = h₁ ++ st :: (h₂ ++ st' :: h₃) → Announces f st →
      Announces f st' → ∃ mid ∈ h₂, Offline f mid.event := by
  have hcut : ∀ h₁ st h₂, hist = h₁ ++ st :: h₂ → Run own h₁ st.pre ∧ OneStep f st := by
    rintro h₁ st h₂ rfl
    obtain ⟨hpre, hok, -⟩ := Runs.Run.cut hr
    exact ⟨hpre, oneStep hok f⟩
  refine ⟨hr.listed f, fun st hst => ?_, fun h₁ st h₂ st' h₃ hh ha ha' => ?_⟩
  · obtain ⟨h₁, h₂, hh⟩ := List.append_of_mem hst
    exact (hcut h₁ st h₂ hh).2.once
  · refine Runs.Each.between (fun before x after hx hann hsince => ?_) hh ha ha'
    obtain ⟨hpre, hone⟩ := hcut before x after hx
    exact hone.new hann ((hpre.listed f).mpr hsince)

/-- The contact `alice@x`. -/
def alice : RosterItem := ⟨"alice@x", by decide⟩

/-- She comes online, says that she has playdar, goes and comes again. -/
def visits : List Event :=
  [.rosterPresence alice "playdar" .available,
   .discoInfo ⟨"alice@x", "playdar"⟩ ["playdar:resolver"],
   .rosterPresence alice "playdar" .unavailable,
   .rosterPresence alice "playdar" .chat]

/-- The second visit is announced, and she is listed for it. -/
theorem announced_alice :
    Runs.Since (Announces "alice@x/playdar") (fun st => Offline "alice@x/playdar" st.event)
      (Runs.trace (step "me@x/playdar") {} visits) :=
  (announced_once (Runs.run_trace visits rfl) "alice@x/playdar").1.mp (by decide)

/-! ## Whom a presence has probed

  The list holds full JIDs, and `handleRosterPresence` looks up the bare one to see whether the peer
  is in it.  So it is right only where the two are listed alike. -/

/-- A presence that is not offline has its full JID probed exactly if that is not in the list. -/
def ProbesRightly (st : Runs.Step Jbot Event Call) : Prop :=
  ∀ item resource presence, st.event.presence = some (item, resource, presence) →
    presence.offline = false →
    ((∃ jid : Jid, .getDiscoInfo jid ∈ st.out ∧ jid.full = (Jid.mk item.jid resource).full) ↔
      (Jid.mk item.jid resource).full ∉ st.pre.playdarpeers)

/-- The contact's bare JID and the full one are both in the list, or both not. -/
def ListedAlike (st : Runs.Step Jbot Event Call) : Prop :=
  ∀ item resource presence, st.event.presence = some (item, resource, presence) →
    presence.offline = false →
    (item.jid ∈ st.pre.playdarpeers ↔ (Jid.mk item.jid resource).full ∈ st.pre.playdarpeers)

/-- What is probed is what is not listed under its bare JID. -/
theorem probed_iff {own : String} {j j' : Jbot} {e : Event} {out : List Call}
    (hok : step own j e = .ok (j', out)) {item : RosterItem} {resource : String}
    {presence : PresenceType} (he : e.presence = some (item, resource, presence))
    (hon : presence.offline = false) :
    (∃ jid : Jid, .getDiscoInfo jid ∈ out ∧ jid.full = (Jid.mk item.jid resource).full) ↔
      item.jid ∉ j.playdarpeers := by
  -- the presence of the statement is that of the case
  have hthis : ∀ {item' resource' presence'}, e.presence = some (item', resource', presence') →
      item' = item ∧ resource' = resource ∧ presence' = presence := by
    intro item' resource' presence' he'
    rw [he] at he'
    obtain ⟨rfl, rfl, rfl⟩ := Option.some.inj he'
    exact ⟨rfl, rfl, rfl⟩
  cases step_does hok with
  | leaves item' resource' presence' he' hoff =>
    obtain ⟨rfl, rfl, rfl⟩ := hthis he'
    rw [hon] at hoff
    cases hoff
  | ignores item' resource' presence' he' _ hin =>
    obtain ⟨rfl, rfl, rfl⟩ := hthis he'
    exact iff_of_false (by simp) (not_not_intro hin)
  | detects item' resource' presence' he' _ hnot =>
    obtain ⟨rfl, rfl, rfl⟩ := hthis he'
    exact iff_of_true ⟨_, by simp, rfl⟩ hnot
  | probes item' resource' presence' he' _ hnot =>
    obtain ⟨rfl, rfl, rfl⟩ := hthis he'
    exact iff_of_true ⟨_, by simp, rfl⟩ hnot
  | answers sender features he' | denies sender features he' | hears sender body he'
  | quits sender he' | subscribes jid he' | prints he' =>
    rw [he'] at he
    cases he

/-- **A presence has the right JIDs probed exactly if the bare and the full JID are listed alike**,
    at all events of a run. -/
theorem probes_rightly_iff {own : String} {hist : History} {j : Jbot} (hr : Run own hist j) :
    (∀ st ∈ hist, ProbesRightly st) ↔ ∀ st ∈ hist, ListedAlike st := by
  have hone : ∀ st ∈ hist, ProbesRightly st ↔ ListedAlike st := by
    intro st hst
    obtain ⟨h₁, h₂, rfl⟩ := List.append_of_mem hst
    obtain ⟨-, hok, -⟩ := Runs.Run.cut hr
    refine forall₃_congr fun item resource presence => forall₂_congr fun he hon => ?_
    rw [probed_iff hok he hon]
    exact not_iff_not
  exact forall₂_congr hone

/-- A contact without a resource is probed when it comes online, and again while it has not said
    that it has playdar. -/
theorem probes_bare_alice : (Runs.trace (step "me@x/playdar") {}
    [.rosterPresence alice "" .available, .rosterPresence alice "" .away]).Forall
      ProbesRightly := by
  rw [List.forall_iff_forall_mem]
  refine (probes_rightly_iff (Runs.run_trace _ rfl)).mpr ?_
  intro st hst item resource presence he _
  have hempty : resource = "" := by
    rcases List.mem_cons.mp (Runs.event_mem_trace _ hst) with hev | hev
    · rw [hev] at he
      exact (Prod.mk.inj (Prod.mk.inj (Option.some.inj he)).2).1.symm
    · rw [List.mem_singleton.mp hev] at he
      exact (Prod.mk.inj (Prod.mk.inj (Option.some.inj he)).2).1.symm
  subst hempty
  exact Iff.rfl

/-- One that is listed is probed again when she is just away. -/
theorem away_alice_is_probed : ¬ ∀ st ∈ Runs.trace (step "me@x/playdar") {}
    [.rosterPresence alice "playdar" .available, .rosterPresence alice "playdar" .away],
      ProbesRightly st := by
  intro h
  have hprobed := h _ (List.mem_cons_of_mem _ (List.mem_cons_self ..)) alice "playdar" .away rfl rfl
  exact hprobed.mp ⟨⟨"alice@x", "playdar"⟩, by decide, rfl⟩ (by decide)

end Jbot

end Greynet
