/-
  One direction of a channel between two parties, whose traffic opens with one greeting.

  The writer greets once and then sends other messages only; the reader waits for the greeting,
  takes it, and from then on takes whatever comes, or it refuses and takes nothing more.  Messages
  arrive in the order they were sent.

  1. `Writes`, `Takes` — what one step can do at the writer's end and at the reader's.
  2. `Flows` — the invariant: what is on the way, by what the two have done.  It is kept by both
     (`Flows.write`, `Flows.take`), so also by a step that does both.
  3. What the reader can rely on (`Flows.head`, `Flows.tail`), and when nothing is on the way
     (`Flows.idle`).
-/
import Mathlib.Data.List.Basic

namespace Greetings

variable {M : Type}

/-- What the writer does: it greets, or sends other messages once it has. -/
inductive Writes (Hello Mine : M → Prop) (spoke spoke' : Prop) (ms : List M) : Prop
  | greets (m : M) (hbefore : ¬ spoke) (hafter : spoke') (hm : Mine m) (hms : ms = [m])
  | sends (hsame : spoke' ↔ spoke) (hms : ∀ m ∈ ms, ¬ Hello m) (hspoke : ms ≠ [] → spoke)

/-- What the reader does with the messages on the way to it: it leaves them, it takes the next one,
    or it refuses that and shuts. -/
inductive Takes (heard shut heard' shut' : Prop) (wire wire' : List M) : Prop
  | nothing (hsame : heard' ↔ heard) (hshut : shut → shut') (hwire : wire' = wire)
  /-- it takes the next one, as the greeting or after it -/
  | next (m : M) (hopen : ¬ shut) (hheard : heard') (hwire : wire = m :: wire')
  /-- it refuses the greeting -/
  | refuses (m : M) (hnot : ¬ heard') (hshut : shut') (hwire : wire = m :: wire')

/-- What is on the way, while nobody has spoken, while the greeting is still to be heard, and after
    that. -/
structure Flows (Hello Mine : M → Prop) (spoke heard shut : Prop) (wire : List M) : Prop where
  silent : ¬ spoke → wire = [] ∧ ¬ heard
  first : spoke → ¬ heard → ¬ shut → ∃ m rest, wire = m :: rest ∧ Mine m ∧ ∀ m' ∈ rest, ¬ Hello m'
  later : heard → ∀ m ∈ wire, ¬ Hello m

variable {Hello Mine : M → Prop} {spoke spoke' heard heard' shut shut' : Prop}
  {wire wire' ms : List M}

/-- A channel just made, with nothing on it and two ends that have neither spoken nor heard. -/
theorem flows_nil (hspoke : ¬ spoke) (hheard : ¬ heard) : Flows Hello Mine spoke heard shut [] :=
  ⟨fun _ => ⟨rfl, hheard⟩, fun h => absurd h hspoke, fun h => absurd h hheard⟩

/-- **Writing keeps the invariant.**  The greeting goes in front of an empty queue, and what is not
    one goes behind. -/
theorem Flows.write (h : Flows Hello Mine spoke heard shut wire)
    (hw : Writes Hello Mine spoke spoke' ms) :
    Flows Hello Mine spoke' heard shut (wire ++ ms) := by
  cases hw with
  | greets m hbefore hafter hm hms =>
    obtain ⟨hnil, hnot⟩ := h.silent hbefore
    subst hms
    rw [hnil]
    exact ⟨fun hno => absurd hafter hno,
      fun _ _ _ => ⟨m, [], rfl, hm, fun m' hm' => by cases hm'⟩, fun hyes => absurd hyes hnot⟩
  -- whoever has not greeted writes nothing, so in front there is no change
  | sends hsame hms hspoke =>
    refine ⟨fun hno => ?_, fun hs hnot hopen => ?_, fun hyes m hm => ?_⟩
    · have hold : ¬ spoke := fun hs => hno (hsame.mpr hs)
      obtain ⟨hnil, hnot⟩ := h.silent hold
      have hmsnil : ms = [] := by
        by_contra hne
        exact hold (hspoke hne)
      rw [hnil, hmsnil]
      exact ⟨rfl, hnot⟩
    · obtain ⟨m, rest, hwire, hm, hrest⟩ := h.first (hsame.mp hs) hnot hopen
      refine ⟨m, rest ++ ms, by rw [hwire, List.cons_append], hm, fun m' hm' => ?_⟩
      rcases List.mem_append.mp hm' with hm' | hm'
      · exact hrest m' hm'
      · exact hms m' hm'
    · rcases List.mem_append.mp hm with hm | hm
      · exact h.later hyes m hm
      · exact hms m hm

/-- **Reading keeps the invariant.**  What is taken first is the greeting, and behind it there is no
    other. -/
theorem Flows.take (h : Flows Hello Mine spoke heard shut wire)
    (ht : Takes heard shut heard' shut' wire wire') :
    Flows Hello Mine spoke heard' shut' wire' := by
  -- where something is on the way, the writer has greeted
  have hspoke : ∀ m, wire = m :: wire' → spoke := by
    intro m hwire
    by_contra hno
    rw [(h.silent hno).1] at hwire
    cases hwire
  cases ht with
  | nothing hsame hshut hwire =>
    subst hwire
    refine ⟨fun hno => ?_, fun hs hnot hopen => ?_, fun hyes => h.later (hsame.mp hyes)⟩
    · exact ⟨(h.silent hno).1, fun hyes => (h.silent hno).2 (hsame.mp hyes)⟩
    · exact h.first hs (fun hyes => hnot (hsame.mpr hyes)) fun hsh => hopen (hshut hsh)
  | next m hopen hheard hwire =>
    refine ⟨fun hno => absurd (hspoke m hwire) hno, fun _ hnot => absurd hheard hnot,
      fun _ m' hm' => ?_⟩
    by_cases hyes : heard
    · exact h.later hyes m' (hwire ▸ List.mem_cons_of_mem _ hm')
    · obtain ⟨m₀, rest, hw, -, hrest⟩ := h.first (hspoke m hwire) hyes hopen
      obtain ⟨-, rfl⟩ := List.cons.inj (hw.symm.trans hwire)
      exact hrest m' hm'
  | refuses m hnot hshut hwire =>
    exact ⟨fun hno => absurd (hspoke m hwire) hno, fun _ _ hopen => absurd hshut hopen,
      fun hyes => absurd hyes hnot⟩

/-- The next message of a reader that waits is a greeting, and one of the writer's own, ... -/
theorem Flows.head (h : Flows Hello Mine spoke heard shut wire) (hnot : ¬ heard) (hopen : ¬ shut)
    {m : M} (hwire : wire = m :: wire') : Mine m := by
  have hspoke : spoke := by
    by_contra hno
    rw [(h.silent hno).1] at hwire
    cases hwire
  obtain ⟨m₀, rest, hw, hm, -⟩ := h.first hspoke hnot hopen
  obtain ⟨rfl, -⟩ := List.cons.inj (hw.symm.trans hwire)
  exact hm

/-- ... and once it has taken one, no other is. -/
theorem Flows.tail (h : Flows Hello Mine spoke heard shut wire) (hyes : heard) {m : M}
    (hwire : wire = m :: wire') : ¬ Hello m :=
  h.later hyes m (hwire ▸ List.mem_cons_self ..)

/-- If nothing is on the way, a reader that has not shut has heard what there was. -/
theorem Flows.idle (h : Flows Hello Mine spoke heard shut []) (hspoke : spoke) (hopen : ¬ shut) :
    heard := by
  by_contra hnot
  obtain ⟨m, rest, hw, -⟩ := h.first hspoke hnot hopen
  cases hw

end Greetings
