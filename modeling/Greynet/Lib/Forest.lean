/-
  Trees that grow at the leaves, given by a parent map, and what flows up them.

  1. `Grown parent root L` — the nodes of `L` (newest first) have joined one at a time, each under
     a node that was there before it.  It does not depend on the parents of other nodes
     (`Grown.congr`), so it can be kept while the map is being built.
  2. `Path parent root n l` — following parents from `n` visits `l` and ends at the root; from a
     node that has joined it does so without visiting a node twice (`Grown.path`).
  3. `Grown.flow` — if every node passes on what is its own and what its children pass on, then
     what a node passes on is the sum over the nodes whose path goes through it (`Grown.flow_univ`
     over a finite type).
-/
import Mathlib.Algebra.BigOperators.Group.Finset.Basic
import Mathlib.Algebra.BigOperators.Group.List.Basic
import Mathlib.Algebra.GroupWithZero.Nat
import Mathlib.Data.List.Nodup

namespace Forest

variable {N : Type}

/-- A tree grown from `root`; the empty list is the tree before its root.  Each constructor adds one
    node in front, so the list is the tree's own history. -/
inductive Grown (parent : N → Option N) (root : N) : List N → Prop
  | nil : Grown parent root []
  | root (h : parent root = none) : Grown parent root [root]
  | grow {L : List N} {n p : N} (hL : Grown parent root L) (hn : n ∉ L) (hp : p ∈ L)
      (hnp : parent n = some p) : Grown parent root (n :: L)

/-- The nodes met on the way from a node to the root, the node itself first and the root last. -/
inductive Path (parent : N → Option N) (root : N) : N → List N → Prop
  | root (h : parent root = none) : Path parent root root [root]
  | step {n p : N} {l : List N} (hnp : parent n = some p) (hp : Path parent root p l) :
      Path parent root n (n :: l)

/-- `n` is on the way from `m` to the root: what goes from `m` to the root goes through `n`. -/
def OnPath (parent : N → Option N) (root n m : N) : Prop := ∃ l, Path parent root m l ∧ n ∈ l

variable {parent : N → Option N} {root : N} {L : List N}

/-! ## Growing

  A node joins once, under one that is there; so no node is its own ancestor, and a later node
  changes nothing for an earlier one. -/

/-- No node joins twice, since a node that joins was not there. -/
theorem Grown.nodup (h : Grown parent root L) : L.Nodup := by
  induction h with
  | nil => exact List.nodup_nil
  | root => exact List.nodup_singleton _
  | grow _ hn _ _ ih => exact List.nodup_cons.mpr ⟨hn, ih⟩

/-- The parent of a node that has joined has joined too, and earlier. -/
theorem Grown.parent_mem (h : Grown parent root L) {n p : N} (hn : n ∈ L)
    (hp : parent n = some p) : p ∈ L := by
  induction h with
  | nil => cases hn
  | root h =>
    obtain rfl := List.mem_singleton.mp hn
    rw [h] at hp
    cases hp
  | grow _ _ hpL hnp ih =>
    rcases List.mem_cons.mp hn with rfl | hn
    · rw [hnp] at hp
      obtain rfl := Option.some.inj hp
      exact List.mem_cons_of_mem _ hpL
    · exact List.mem_cons_of_mem _ (ih hn)

/-- Only the parents of the nodes that have joined count, so the map may change for all others. -/
theorem Grown.congr {parent' : N → Option N} (h : Grown parent root L)
    (he : ∀ n ∈ L, parent' n = parent n) : Grown parent' root L := by
  induction h with
  | nil => exact .nil
  | root h => exact .root ((he _ (List.mem_singleton_self _)).trans h)
  | grow _ hn hp hnp ih =>
    exact .grow (ih fun n hn => he n (List.mem_cons_of_mem _ hn)) hn hp
      ((he _ (List.mem_cons_self ..)).trans hnp)

/-! ## Paths

  From each node there is one way to the root, so being on it is decided by the next step. -/

/-- There is one path at most, for a parent map is a function. -/
theorem Path.unique {n : N} {l l' : List N} (h : Path parent root n l)
    (h' : Path parent root n l') : l = l' := by
  induction h generalizing l' with
  | root h =>
    cases h' with
    | root => rfl
    | step hnp =>
      rw [h] at hnp
      cases hnp
  | step hnp _ ih =>
    cases h' with
    | root h =>
      rw [h] at hnp
      cases hnp
    | step hnp' hp' =>
      rw [hnp] at hnp'
      obtain rfl := Option.some.inj hnp'
      rw [ih hp']

/-- **From every node the parents lead to the root**, through nodes that have joined and through
    none of them twice. -/
theorem Grown.path (h : Grown parent root L) {n : N} (hn : n ∈ L) :
    ∃ l, Path parent root n l ∧ l.Nodup ∧ ∀ m ∈ l, m ∈ L := by
  induction h generalizing n with
  | nil => cases hn
  | root h =>
    obtain rfl := List.mem_singleton.mp hn
    exact ⟨_, .root h, List.nodup_singleton _, fun m hm => hm⟩
  | grow _ hnew hpL hnp ih =>
    rcases List.mem_cons.mp hn with rfl | hn
    · obtain ⟨l, hl, hnd, hsub⟩ := ih hpL
      refine ⟨_, .step hnp hl, List.nodup_cons.mpr ⟨fun hin => hnew (hsub _ hin), hnd⟩, ?_⟩
      intro m hm
      rcases List.mem_cons.mp hm with rfl | hm
      · exact List.mem_cons_self ..
      · exact List.mem_cons_of_mem _ (hsub m hm)
    · obtain ⟨l, hl, hnd, hsub⟩ := ih hn
      exact ⟨l, hl, hnd, fun m hm => List.mem_cons_of_mem _ (hsub m hm)⟩

/-- What is on the path of a node that has joined has joined, all the way to the root. -/
theorem OnPath.mem (h : Grown parent root L) {n m : N} (hm : m ∈ L)
    (hon : OnPath parent root n m) : n ∈ L := by
  obtain ⟨l, hl, hnd, hsub⟩ := h.path hm
  obtain ⟨l', hl', hn⟩ := hon
  exact hsub n (hl'.unique hl ▸ hn)

/-- Each node is on its own path, ... -/
theorem onPath_self (h : Grown parent root L) {n : N} (hn : n ∈ L) :
    OnPath parent root n n := by
  obtain ⟨l, hl, -⟩ := h.path hn
  refine ⟨l, hl, ?_⟩
  cases hl with
  | root => exact List.mem_singleton_self _
  | step => exact List.mem_cons_self ..

/-- ... and apart from it, the path is its parent's.  This is the step of every induction on
    paths. -/
theorem onPath_step {n m p : N} (hp : parent m = some p) (hne : n ≠ m) :
    OnPath parent root n m ↔ OnPath parent root n p := by
  constructor
  · rintro ⟨l, hl, hn⟩
    cases hl with
    | root h =>
      rw [h] at hp
      cases hp
    | step hnp hl =>
      rw [hp] at hnp
      obtain rfl := Option.some.inj hnp
      rcases List.mem_cons.mp hn with rfl | hn
      · exact absurd rfl hne
      · exact ⟨_, hl, hn⟩
  · rintro ⟨l, hl, hn⟩
    exact ⟨_, .step hp hl, List.mem_cons_of_mem _ hn⟩

/-- Every path ends at the root, so the root is on all of them. -/
theorem onPath_root {m : N} {l : List N} (h : Path parent root m l) :
    OnPath parent root root m := by
  induction h with
  | root h => exact ⟨_, .root h, List.mem_singleton_self _⟩
  | step hnp _ ih =>
    obtain ⟨l, hl, hr⟩ := ih
    exact ⟨_, .step hnp hl, List.mem_cons_of_mem _ hr⟩

/-! ## What flows up

  By induction on how the tree has grown: the node that has joined last has no children, and adds
  what is its own to every node on its path. -/

/-- Where nothing is added nothing comes together, however many there are. -/
theorem sum_eq_zero {l : List N} {f : N → Nat} (h : ∀ n ∈ l, f n = 0) : (l.map f).sum = 0 := by
  rw [List.sum_eq_zero]
  intro x hx
  obtain ⟨n, hn, rfl⟩ := List.mem_map.mp hx
  exact h n hn

variable [DecidableEq N]

open Classical in
/-- In a list without repetitions, the sum of what only one of its members has. -/
theorem sum_single {l : List N} (hl : l.Nodup) {p : N} (hp : p ∈ l) (x : Nat) (f : N → Prop) :
    (l.map fun m => if f m ∧ m = p then x else 0).sum = if f p then x else 0 := by
  induction l with
  | nil => cases hp
  | cons a l ih =>
    obtain ⟨ha, hl⟩ := List.nodup_cons.mp hl
    rw [List.map_cons, List.sum_cons]
    rcases List.mem_cons.mp hp with rfl | hp
    · rw [sum_eq_zero fun m hm => ?_]
      · simp
      · rw [if_neg]
        rintro ⟨-, rfl⟩
        exact ha hm
    · have hne : a ≠ p := by
        rintro rfl
        exact ha hp
      rw [ih hl hp, if_neg (fun h => hne h.2), Nat.zero_add]

open Classical in
/-- **What flows up a tree**: `own` is what each node adds, `total` what it passes on.  By induction
    on the tree as it grows: a new leaf adds its own to every node on its path, and to no other. -/
theorem Grown.flow {own total : N → Nat} (h : Grown parent root L)
    (htotal : ∀ n ∈ L, total n =
      own n + (L.map fun c => if parent c = some n then total c else 0).sum) :
    ∀ n ∈ L, total n = (L.map fun m => if OnPath parent root n m then own m else 0).sum := by
  induction h generalizing own with
  | nil =>
    intro n hn
    cases hn
  | root h =>
    intro n hn
    have hself : OnPath parent root n n := onPath_self (.root h) hn
    obtain rfl := List.mem_singleton.mp hn
    rw [htotal n hn]
    simp [h, hself]
  | @grow L new p hL hnew hpL hnp ih =>
    have hgrown : Grown parent root (new :: L) := .grow hL hnew hpL hnp
    -- nothing flows into the new leaf
    have hleaf : total new = own new := by
      rw [htotal new (List.mem_cons_self ..), sum_eq_zero, Nat.add_zero]
      intro c hc
      rw [if_neg]
      intro hcn
      rcases List.mem_cons.mp hc with rfl | hc
      · rw [hnp] at hcn
        exact hnew (Option.some.inj hcn ▸ hpL)
      · exact hnew (hL.parent_mem hc hcn)
    intro n hn
    rw [List.map_cons, List.sum_cons]
    rcases List.mem_cons.mp hn with rfl | hn
    · rw [if_pos (onPath_self hgrown (List.mem_cons_self ..)), hleaf, sum_eq_zero, Nat.add_zero]
      intro m hm
      rw [if_neg]
      intro hon
      exact hnew (hon.mem hL hm)
    · have hne : n ≠ new := fun he => hnew (he ▸ hn)
      -- for the old tree the leaf's share is its parent's own
      have hold := @ih (fun m => own m + if m = p then own new else 0) (by
        intro m hm
        rw [htotal m (List.mem_cons_of_mem _ hm), List.map_cons, List.sum_cons, hnp, hleaf]
        simp only [Option.some.injEq, eq_comm (a := p)]
        omega) n hn
      rw [hold, onPath_step hnp hne]
      have hsplit : ∀ m, (if OnPath parent root n m then own m + (if m = p then own new else 0)
          else 0) = (if OnPath parent root n m then own m else 0) +
            (if OnPath parent root n m ∧ m = p then own new else 0) := by
        intro m
        by_cases ho : OnPath parent root n m <;> simp [ho]
      simp only [hsplit]
      rw [List.sum_map_add, sum_single hL.nodup hpL, Nat.add_comm]

/-- Where only the nodes of the tree have parents, only they have paths to its root; the others are
    their own roots. -/
theorem OnPath.mem_of_parents {n m : N} (hroot : root ∈ L)
    (hout : ∀ k, k ∉ L → parent k = none) (hon : OnPath parent root n m) : m ∈ L := by
  obtain ⟨l, hl, -⟩ := hon
  cases hl with
  | root => exact hroot
  | step hnp =>
    by_contra hm
    rw [hout m hm] at hnp
    cases hnp

open Classical in
/-- `Grown.flow`, summed over all nodes of a finite type.  Those outside of the tree add nothing to
    either side. -/
theorem Grown.flow_univ [Fintype N] {own total : N → Nat} (h : Grown parent root L)
    (hroot : root ∈ L) (hout : ∀ k, k ∉ L → parent k = none)
    (htotal : ∀ n ∈ L, total n = own n + ∑ c, if parent c = some n then total c else 0) :
    ∀ n ∈ L, total n = ∑ m, if OnPath parent root n m then own m else 0 := by
  have hsum : ∀ f : N → Nat, (∀ k, k ∉ L → f k = 0) → ∑ m, f m = (L.map f).sum := by
    intro f hf
    rw [← List.sum_toFinset f h.nodup]
    refine (Finset.sum_subset (Finset.subset_univ _) fun k _ hk => hf k ?_).symm
    rwa [List.mem_toFinset] at hk
  intro n hn
  rw [hsum _ fun k hk => if_neg fun hon => hk (hon.mem_of_parents hroot hout)]
  refine h.flow (fun n hn => ?_) n hn
  rw [htotal n hn, hsum]
  intro k hk
  rw [hout k hk]
  rfl

end Forest
