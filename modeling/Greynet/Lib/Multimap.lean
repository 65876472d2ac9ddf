/-
  The ordered multimap of the C++ standard library: pairs kept in key order, equal keys in the
  order they were inserted.

  `Multimap K V` carries the order as a field, so an unordered one cannot be built.  Four
  operations, named after the container's: `insert`, `find` (the first pair with a key),
  `eraseFound` (`erase` of what `find` returned) and `fromFound` (everything an iterator walks
  over from what `find` returned to `end()`).

  Every later fact goes through `values m k`, the list of values under one key in order:
  `find` sees its head, `insert` appends to it, `eraseFound` drops its head, and none of them
  touches the list of another key.
-/
import Mathlib.Data.List.Basic
import Mathlib.Data.List.Nodup
import Mathlib.Data.List.TakeWhile
import Mathlib.Order.Lattice

/-- Pairs in key order; pairs with equal keys stand in the order they were inserted in. -/
structure Multimap (K V : Type) [LinearOrder K] where
  entries : List (K × V)
  ordered : entries.Pairwise fun a b => a.1 ≤ b.1

namespace Multimap

variable {K V : Type} [LinearOrder K]

instance [DecidableEq V] : DecidableEq (Multimap K V) := fun a b =>
  decidable_of_iff (a.entries = b.entries) (by cases a; cases b; simp)

/-- The empty multimap. -/
def empty : Multimap K V := ⟨[], List.Pairwise.nil⟩

/-- The values under one key, in order, which is the order they were inserted in. -/
def values (m : Multimap K V) (k : K) : List V :=
  (m.entries.filter fun e => e.1 = k).map Prod.snd

/-- `find(k)`: the first pair with key `k`, `none` for `end()`.  The standard leaves open which of
    several pairs it is; here it is the first, as it is where `find` goes by the lower bound. -/
def find (m : Multimap K V) (k : K) : Option (K × V) := m.entries.find? fun e => e.1 = k

/-- The pairs an iterator visits from `find(k)` to `end()`.  It does not stop where the key does. -/
def fromFound (m : Multimap K V) (k : K) : List (K × V) := m.entries.dropWhile fun e => e.1 ≠ k

/-- What is inserted stands between the smaller or equal keys and the greater ones, so the order is
    kept. -/
theorem insert_ordered (m : Multimap K V) (k : K) (v : V) :
    (m.entries.filter (·.1 ≤ k) ++ (k, v) :: m.entries.filter (k < ·.1)).Pairwise
      fun a b => a.1 ≤ b.1 := by
  rw [List.pairwise_append, List.pairwise_cons]
  refine ⟨m.ordered.filter _, ⟨?_, m.ordered.filter _⟩, ?_⟩
  · intro b hb
    exact le_of_lt (of_decide_eq_true (List.mem_filter.mp hb).2)
  · intro a ha b hb
    have hak : a.1 ≤ k := of_decide_eq_true (List.mem_filter.mp ha).2
    rcases List.mem_cons.mp hb with rfl | hb
    · exact hak
    · exact le_trans hak (le_of_lt (of_decide_eq_true (List.mem_filter.mp hb).2))

/-- `insert`: behind the pairs whose key is at most `k`. -/
def insert (m : Multimap K V) (k : K) (v : V) : Multimap K V :=
  ⟨m.entries.filter (·.1 ≤ k) ++ (k, v) :: m.entries.filter (k < ·.1), m.insert_ordered k v⟩

/-- `erase(find(k))`: the first pair with key `k` goes, and if there is none, nothing does. -/
def eraseFound (m : Multimap K V) (k : K) : Multimap K V :=
  ⟨m.entries.eraseP fun e => e.1 = k, m.ordered.sublist List.eraseP_sublist⟩

/-! ## Everything read through `values`

  What an operation does is said by what becomes of each key's values; the order of the keys does
  not come into it. -/

/-- A value stands under a key exactly if the pair is in the map, at whatever place. -/
theorem mem_values {m : Multimap K V} {k : K} {v : V} : v ∈ m.values k ↔ (k, v) ∈ m.entries := by
  simp only [values, List.mem_map, List.mem_filter, decide_eq_true_eq, Prod.exists]
  constructor
  · rintro ⟨k', v', ⟨hm, rfl⟩, rfl⟩
    exact hm
  · intro hm
    exact ⟨k, v, ⟨hm, rfl⟩, rfl⟩

/-- A pair occurs as often as its value does under its key: the values are the pairs, sorted by
    key. -/
theorem count_values [DecidableEq V] (m : Multimap K V) (k : K) (v : V) :
    (m.values k).count v = m.entries.count (k, v) := by
  simp only [values]
  induction m.entries with
  | nil => rfl
  | cons e es ih =>
    by_cases he : e.1 = k
    · obtain ⟨k', v'⟩ := e
      obtain rfl := he
      simp only [List.filter_cons, decide_true, if_true, List.map_cons, List.count_cons, ih,
        beq_iff_eq, Prod.mk.injEq, true_and]
    · have hne : e ≠ (k, v) := fun h => he (congrArg Prod.fst h)
      rw [List.filter_cons_of_neg (by simpa using he), List.count_cons_of_ne hne, ih]

/-- No pair occurs twice exactly when no value occurs twice under one key. -/
theorem nodup_entries [DecidableEq V] {m : Multimap K V} :
    m.entries.Nodup ↔ ∀ k, (m.values k).Nodup := by
  simp only [List.nodup_iff_count_le_one, count_values]
  exact ⟨fun h k v => h (k, v), fun h e => h e.1 e.2⟩

/-- What is found is the first value under the key, ... -/
theorem find_eq (m : Multimap K V) (k : K) :
    m.find k = (m.values k).head?.map fun v => (k, v) := by
  simp only [find, values]
  induction m.entries with
  | nil => rfl
  | cons e es ih =>
    by_cases he : e.1 = k
    · rw [List.find?_cons_of_pos (by simpa using he), List.filter_cons_of_pos (by simpa using he)]
      simp [← he]
    · rw [List.find?_cons_of_neg (by simpa using he), List.filter_cons_of_neg (by simpa using he)]
      exact ih

/-- ... and nothing if there is none. -/
theorem find_eq_none {m : Multimap K V} {k : K} : m.find k = none ↔ m.values k = [] := by
  rw [find_eq]
  cases m.values k <;> simp

/-- A pair that is found has the key that was looked for. -/
theorem find_eq_some {m : Multimap K V} {k : K} {e : K × V} :
    m.find k = some e ↔ e.1 = k ∧ (m.values k).head? = some e.2 := by
  rw [find_eq]
  cases e
  cases m.values k with
  | nil => simp
  | cons v vs => simp [eq_comm]

/-- What is inserted comes last under its key, behind the values that were there, ... -/
theorem values_insert_self (m : Multimap K V) (k : K) (v : V) :
    (m.insert k v).values k = m.values k ++ [v] := by
  have hle : m.entries.filter (fun e => decide (e.1 = k) && decide (e.1 ≤ k)) =
      m.entries.filter fun e => e.1 = k := by
    apply List.filter_congr
    intro e _
    by_cases he : e.1 = k <;> simp [he]
  have hlt : m.entries.filter (fun e => decide (e.1 = k) && decide (k < e.1)) = [] := by
    rw [List.filter_eq_nil_iff]
    intro e _
    by_cases he : e.1 = k <;> simp [he]
  simp only [values, insert, List.filter_append, List.filter_cons, decide_true, if_true,
    List.filter_filter, hle, hlt, List.map_append, List.map_cons, List.map_nil]

/-- ... and under no other. -/
theorem values_insert_ne (m : Multimap K V) {k k' : K} (v : V) (hne : k' ≠ k) :
    (m.insert k v).values k' = m.values k' := by
  simp only [values, insert, List.filter_append, List.filter_cons, decide_eq_false hne.symm,
    Bool.false_eq_true, if_false, List.filter_filter]
  congr 1
  rcases lt_or_gt_of_ne hne with hlt | hgt
  · -- the pairs with key `k'` all lie before the inserted one
    have hgone : m.entries.filter (fun e => decide (e.1 = k') && decide (k < e.1)) = [] := by
      rw [List.filter_eq_nil_iff]
      intro e _
      by_cases he : e.1 = k' <;> simp [he, le_of_lt hlt]
    rw [hgone, List.append_nil]
    apply List.filter_congr
    intro e _
    by_cases he : e.1 = k' <;> simp [he, le_of_lt hlt]
  · -- they all lie behind it
    have hgone : m.entries.filter (fun e => decide (e.1 = k') && decide (e.1 ≤ k)) = [] := by
      rw [List.filter_eq_nil_iff]
      intro e _
      by_cases he : e.1 = k' <;> simp [he, hgt]
    rw [hgone, List.nil_append]
    apply List.filter_congr
    intro e _
    by_cases he : e.1 = k' <;> simp [he, hgt]

/-- What is erased was the first under its key, and the rest move up, ... -/
theorem values_eraseFound_self (m : Multimap K V) (k : K) :
    (m.eraseFound k).values k = (m.values k).tail := by
  simp only [values, eraseFound]
  induction m.entries with
  | nil => rfl
  | cons e es ih =>
    by_cases he : e.1 = k
    · simp [he]
    · rw [List.eraseP_cons_of_neg (by simpa using he), List.filter_cons_of_neg (by simpa using he),
        List.filter_cons_of_neg (by simpa using he)]
      exact ih

/-- ... and the other keys keep theirs. -/
theorem values_eraseFound_ne (m : Multimap K V) {k k' : K} (hne : k' ≠ k) :
    (m.eraseFound k).values k' = m.values k' := by
  simp only [values, eraseFound]
  congr 1
  induction m.entries with
  | nil => rfl
  | cons e es ih =>
    by_cases he : e.1 = k
    · have he' : e.1 ≠ k' := fun h => hne (h.symm.trans he)
      rw [List.eraseP_cons_of_pos (by simpa using he), List.filter_cons_of_neg (by simpa using he')]
    · rw [List.eraseP_cons_of_neg (by simpa using he), List.filter_cons, List.filter_cons, ih]

/-! ## What the iterator walks over

  An iterator goes on beyond the key it was found at.  So the walk takes all pairs of that key and
  all of the greater ones. -/

/-- The pairs below, at and above a key, in this order, are all of them.  With this a walk from a
    key can be read off. -/
theorem entries_split (m : Multimap K V) (k : K) :
    m.entries = m.entries.filter (·.1 < k) ++
      ((m.values k).map (fun v => (k, v)) ++ m.entries.filter (k < ·.1)) := by
  -- the values under `k`, with their key put back, are the pairs with that key
  have hkey : (m.values k).map (fun v => (k, v)) = m.entries.filter fun e => e.1 = k := by
    rw [values, List.map_map]
    conv_rhs => rw [← List.map_id (m.entries.filter fun e => e.1 = k)]
    apply List.map_congr_left
    intro e he
    have hek : e.1 = k := of_decide_eq_true (List.mem_filter.mp he).2
    simp [← hek]
  rw [hkey]
  obtain ⟨l, hord⟩ := m
  clear hkey
  simp only
  -- by induction on the ordered list, so that what follows a pair has no smaller key
  induction l with
  | nil => rfl
  | cons e es ih =>
    obtain ⟨hhead, htail⟩ := List.pairwise_cons.mp hord
    have hrec := ih htail
    have hnolt : k ≤ e.1 → es.filter (fun x => decide (x.1 < k)) = [] := by
      intro hke
      rw [List.filter_eq_nil_iff]
      intro x hx
      simpa using le_trans hke (hhead x hx)
    -- the first pair is below, at or above `k`; from `k` on nothing below can follow
    rcases lt_trichotomy e.1 k with hlt | heq | hgt
    · simp only [List.filter_cons, hlt, decide_true, if_true, ne_of_lt hlt, decide_false,
        Bool.false_eq_true, if_false, not_lt_of_gt hlt, List.cons_append, ← hrec]
    · rw [hnolt (le_of_eq heq.symm), List.nil_append] at hrec
      simp only [List.filter_cons, heq, lt_irrefl, decide_false, Bool.false_eq_true, if_false,
        decide_true, if_true, hnolt (le_of_eq heq.symm), List.nil_append, List.cons_append, ← hrec]
    · have hnoeq : es.filter (fun x => decide (x.1 = k)) = [] := by
        rw [List.filter_eq_nil_iff]
        intro x hx
        simpa using ne_of_gt (lt_of_lt_of_le hgt (hhead x hx))
      rw [hnolt (le_of_lt hgt), hnoeq, List.nil_append, List.nil_append] at hrec
      simp only [List.filter_cons, not_lt_of_gt hgt, decide_false, Bool.false_eq_true, if_false,
        ne_of_gt hgt, hgt, decide_true, if_true, hnolt (le_of_lt hgt), hnoeq, List.nil_append,
        ← hrec]

/-- Nothing is walked over exactly when the key is absent, for then `find` answers `end()`. -/
theorem fromFound_eq_nil {m : Multimap K V} {k : K} : m.fromFound k = [] ↔ m.values k = [] := by
  rw [fromFound, List.dropWhile_eq_nil_iff, values, List.map_eq_nil_iff, List.filter_eq_nil_iff]
  simp

/-- **The walk does not stop at the key's last pair**: from a key that is present it covers that
    key's pairs and then those of every GREATER key. -/
theorem fromFound_eq {m : Multimap K V} {k : K} (hk : m.values k ≠ []) :
    m.fromFound k = (m.values k).map (fun v => (k, v)) ++ m.entries.filter (k < ·.1) := by
  have hbelow : ∀ e ∈ m.entries.filter (fun e => decide (e.1 < k)), decide (e.1 ≠ k) = true := by
    intro e he
    have hlt : e.1 < k := of_decide_eq_true (List.mem_filter.mp he).2
    simpa using ne_of_lt hlt
  rw [fromFound, entries_split m k, List.dropWhile_append_of_pos hbelow]
  cases hv : m.values k with
  | nil => exact absurd hv hk
  | cons v vs =>
    rw [← hv, ← entries_split m k, hv]
    simp

/-- The walk from a present key covers the pairs whose key is at least that one, those of other keys
    as well ... -/
theorem mem_fromFound {m : Multimap K V} {k : K} (hk : m.values k ≠ []) {e : K × V} :
    e ∈ m.fromFound k ↔ e ∈ m.entries ∧ k ≤ e.1 := by
  rw [fromFound_eq hk, List.mem_append, List.mem_map, List.mem_filter, decide_eq_true_eq]
  constructor
  · rintro (⟨v, hv, rfl⟩ | ⟨he, hlt⟩)
    · exact ⟨mem_values.mp hv, le_refl _⟩
    · exact ⟨he, le_of_lt hlt⟩
  · rintro ⟨he, hle⟩
    rcases lt_or_eq_of_le hle with hlt | rfl
    · exact Or.inr ⟨he, hlt⟩
    · exact Or.inl ⟨e.2, mem_values.mpr he, rfl⟩

/-- ... and takes all of a key's pairs or none. -/
theorem values_fromFound {m : Multimap K V} {k : K} (hk : m.values k ≠ []) (d : K) :
    ((m.fromFound k).filter fun e => e.1 = d).map Prod.snd = if k ≤ d then m.values d else [] := by
  rw [fromFound_eq hk, List.filter_append, List.filter_filter, List.filter_map, Function.comp_def]
  rcases lt_trichotomy d k with hlt | rfl | hgt
  · have habove : m.entries.filter (fun e => decide (e.1 = d) && decide (k < e.1)) = [] := by
      rw [List.filter_eq_nil_iff]
      intro e _
      by_cases he : e.1 = d <;> simp [he, le_of_lt hlt]
    rw [habove, if_neg (not_le_of_gt hlt)]
    simp [ne_of_gt hlt]
  · have habove : m.entries.filter (fun e => decide (e.1 = d) && decide (d < e.1)) = [] := by
      rw [List.filter_eq_nil_iff]
      intro e _
      by_cases he : e.1 = d <;> simp [he]
    rw [habove, if_pos (le_refl d)]
    simp [Function.comp_def]
  · have habove : m.entries.filter (fun e => decide (e.1 = d) && decide (k < e.1)) =
        m.entries.filter fun e => e.1 = d := by
      apply List.filter_congr
      intro e _
      by_cases he : e.1 = d <;> simp [he, hgt]
    rw [habove, if_pos (le_of_lt hgt)]
    simp [values, ne_of_lt hgt]

end Multimap
