/-
  Counting in lists that lose one element at a time, and sums where one term changes.

  A queue from which any element may be taken next is a list with `eraseIdx`.  What the element
  taken counted for is what the rest no longer counts (`countP_eraseIdx`).  Where one of many
  parties moves, one term of a sum over them changes; what it loses the whole sum loses
  (`sum_le_of_one`).
-/
import Mathlib.Algebra.BigOperators.Group.Finset.Basic
import Mathlib.Algebra.Order.BigOperators.Group.Finset
import Mathlib.Data.List.Perm.Basic

namespace Tally

variable {α : Type}

/-! ## Taking one element -/

/-- The element taken and the rest are all there were, in some order, and the order does not matter
    for counting. -/
theorem perm_eraseIdx {l : List α} {i : Nat} {a : α} (h : l[i]? = some a) :
    List.Perm (a :: l.eraseIdx i) l := by
  obtain ⟨hi, rfl⟩ := List.getElem?_eq_some_iff.mp h
  exact List.getElem_cons_eraseIdx_perm hi

/-- So what the rest counts is what the list counts, less the element. -/
theorem countP_eraseIdx {l : List α} {i : Nat} {a : α} (h : l[i]? = some a) (p : α → Bool) :
    (l.eraseIdx i).countP p + (if p a then 1 else 0) = l.countP p := by
  rw [← (perm_eraseIdx h).countP_eq, List.countP_cons]

/-! ## One term of a sum -/

/-- One term loses at least `c` and no other grows: then the sum loses at least `c`. -/
theorem sum_le_of_one {N : Type} [Fintype N] {f g : N → Nat} {n : N} {c : Nat}
    (hn : g n + c ≤ f n) (hother : ∀ m, m ≠ n → g m ≤ f m) : (∑ m, g m) + c ≤ ∑ m, f m := by
  classical
  rw [← Finset.add_sum_erase _ f (Finset.mem_univ n),
    ← Finset.add_sum_erase _ g (Finset.mem_univ n)]
  have hrest : ∑ m ∈ Finset.univ.erase n, g m ≤ ∑ m ∈ Finset.univ.erase n, f m :=
    Finset.sum_le_sum fun m hm => hother m (Finset.ne_of_mem_erase hm)
  omega

end Tally
