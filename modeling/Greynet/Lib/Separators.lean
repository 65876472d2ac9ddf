/-
  Lists cut in two at the first separator.

  `find` and `substr` are the operations of a C++ string, over any list: a search from a position
  on, and a part of the list, which is OUT OF RANGE (`none`) if it starts after the end.

  1. `cut sep l` — what comes before the first `sep` and what comes after it.
  2. `cut_append_iff` — joining and cutting are inverse exactly if the first part has no separator.
  3. `substr_of_find` — the two parts of a cut, taken out by position: never out of range.
-/
import Mathlib.Data.List.TakeWhile

namespace Separators

variable {α : Type} [DecidableEq α]

/-- The first place of `a` from `pos` on, counted from the beginning of the list. -/
def find (l : List α) (a : α) (pos : Nat) : Option Nat := ((l.drop pos).idxOf? a).map (pos + ·)

omit [DecidableEq α] in
/-- The `len` elements from `pos` on, or as many as there are; none at all is a possible answer, and
    a start behind the end is not. -/
def substr (l : List α) (pos len : Nat) : Option (List α) :=
  if pos ≤ l.length then some ((l.drop pos).take len) else none

/-- What is before the first `sep`, and what is after it.  Without one there is nothing to cut. -/
def cut (sep : α) (l : List α) : Option (List α × List α) :=
  if sep ∈ l then some (l.takeWhile (· ≠ sep), (l.dropWhile (· ≠ sep)).drop 1) else none

/-! ## Cutting

  The first part never has a separator in it, and the second may. -/

/-- What was joined at a separator is cut there, if none comes earlier.  What follows it does not
    matter. -/
theorem cut_append {sep : α} {a : List α} (ha : sep ∉ a) (b : List α) :
    cut sep (a ++ sep :: b) = some (a, b) := by
  have hall : ∀ x ∈ a, decide (x ≠ sep) = true := by
    intro x hx
    have hne : x ≠ sep := fun he => ha (he ▸ hx)
    simpa using hne
  rw [cut, if_pos (by simp), List.takeWhile_append_of_pos hall, List.dropWhile_append_of_pos hall]
  simp

/-- **The parts of a cut** are the list's, and there is no separator in the first one. -/
theorem cut_eq_some {sep : α} {l a b : List α} :
    cut sep l = some (a, b) ↔ l = a ++ sep :: b ∧ sep ∉ a := by
  constructor
  · intro h
    by_cases hin : sep ∈ l
    · obtain ⟨a', b', rfl, ha'⟩ := List.eq_append_cons_of_mem hin
      rw [cut_append ha'] at h
      obtain ⟨rfl, rfl⟩ := Prod.mk.inj (Option.some.inj h)
      exact ⟨rfl, ha'⟩
    · rw [cut, if_neg hin] at h
      cases h
  · rintro ⟨rfl, ha⟩
    exact cut_append ha b

/-- There is nothing to cut where there is no separator. -/
theorem cut_eq_none {sep : α} {l : List α} : cut sep l = none ↔ sep ∉ l := by
  rw [cut]
  split <;> simp_all

/-- **Joining and cutting are inverse exactly if the first part has no separator.** -/
theorem cut_append_iff {sep : α} {a b : List α} :
    cut sep (a ++ sep :: b) = some (a, b) ↔ sep ∉ a := by
  rw [cut_eq_some]
  exact and_iff_right rfl

/-! ## Cutting by position

  With the position that `find` answers, both parts begin within the list, so `substr` answers both
  times. -/

/-- A search fails where there is nothing to cut, so the two can be used for each other. -/
theorem find_eq_none {l : List α} {a : α} {pos : Nat} :
    find l a pos = none ↔ cut a (l.drop pos) = none := by
  rw [find, Option.map_eq_none_iff, List.idxOf?_eq_none_iff, cut_eq_none]

/-- What the two `substr`s answer are the parts of the cut.  Neither is out of range, as what was
    found is in the list. -/
theorem substr_of_find {l : List α} {sep : α} {pos k : Nat} (h : find l sep pos = some k) :
    ∃ a b, cut sep (l.drop pos) = some (a, b) ∧ substr l pos (k - pos) = some a ∧
      substr l (k + 1) (l.length - (k + 1)) = some b := by
  obtain ⟨i, hi, rfl⟩ := Option.map_eq_some_iff.mp h
  obtain ⟨hlt, hsep, hbefore⟩ := List.idxOf?_eq_some_iff.mp hi
  rw [List.length_drop] at hlt
  -- the separator is at `i`, and not before
  have hcut : l.drop pos = (l.drop pos).take i ++ sep :: (l.drop pos).drop (i + 1) := by
    rw [← hsep, List.getElem_cons_drop, List.take_append_drop]
  have hnot : sep ∉ (l.drop pos).take i := by
    intro hin
    obtain ⟨j, hj, hget⟩ := List.mem_iff_getElem.mp hin
    rw [List.getElem_take] at hget
    rw [List.length_take] at hj
    exact hbefore j (by omega) hget
  refine ⟨_, _, cut_eq_some.mpr ⟨hcut, hnot⟩, ?_, ?_⟩
  · rw [substr, if_pos (by omega), Nat.add_sub_cancel_left]
  · rw [substr, if_pos (by omega), List.drop_drop, Nat.add_assoc, List.take_of_length_le]
    rw [List.length_drop]

end Separators
