/-
  Transducers: a state, and for each input a next state and some outputs.

  `feed f s is` runs the transducer `f` over a list of inputs.  It is a monoid action on the
  states with outputs (`feed_append`); what holds of the outputs of one input holds of those of
  all (`feed_out`), also while the states keep an invariant (`feed_invariant`), and outputs that can
  be read off the inputs one by one can be read off the list (`feed_reads`).
-/
import Mathlib.Data.List.Basic

namespace Transducers

variable {S S' I O O' : Type}

/-- The inputs taken one after the other, with their outputs in the same order. -/
def feed (f : S → I → S × List O) : S → List I → S × List O
  | s, [] => (s, [])
  | s, i :: is => ((feed f (f s i).1 is).1, (f s i).2 ++ (feed f (f s i).1 is).2)

variable {f : S → I → S × List O}

/-- No inputs give no outputs, ... -/
@[simp] theorem feed_nil (s : S) : feed f s [] = (s, []) := rfl

/-- ... one input more gives what it gives, and the rest follow in the state after it, ... -/
theorem feed_cons (s : S) (i : I) (is : List I) :
    feed f s (i :: is) = ((feed f (f s i).1 is).1, (f s i).2 ++ (feed f (f s i).1 is).2) := rfl

/-- ... and one input alone is a step of the transducer. -/
theorem feed_singleton (s : S) (i : I) : feed f s [i] = f s i := by
  rw [feed_cons, feed_nil, List.append_nil]

/-- **Feeding a list in two parts** is feeding the first, and then the second in the state it has
    led to. -/
theorem feed_append (is js : List I) : ∀ s, feed f s (is ++ js) =
    ((feed f (feed f s is).1 js).1, (feed f s is).2 ++ (feed f (feed f s is).1 js).2) := by
  induction is with
  | nil => intro s; simp
  | cons i is ih =>
    intro s
    rw [List.cons_append, feed_cons, ih, feed_cons, List.append_assoc]

/-- What holds of the outputs of every input holds of the outputs of a list, whatever the states
    are. -/
theorem feed_out {P : O → Prop} (hf : ∀ s i, ∀ o ∈ (f s i).2, P o) (is : List I) :
    ∀ s, ∀ o ∈ (feed f s is).2, P o := by
  induction is with
  | nil => intro s o ho; cases ho
  | cons i is ih =>
    intro s o ho
    rcases List.mem_append.mp ho with ho | ho
    · exact hf s i o ho
    · exact ih _ o ho

/-- What every input keeps is kept by a list, and so is what holds of the outputs meanwhile. -/
theorem feed_invariant {J : S → Prop} {P : O → Prop}
    (hf : ∀ s i, J s → J (f s i).1 ∧ ∀ o ∈ (f s i).2, P o) (is : List I) :
    ∀ s, J s → J (feed f s is).1 ∧ ∀ o ∈ (feed f s is).2, P o := by
  induction is with
  | nil => exact fun s hs => ⟨hs, fun o ho => by cases ho⟩
  | cons i is ih =>
    intro s hs
    obtain ⟨hnext, hout⟩ := hf s i hs
    obtain ⟨hlast, hrest⟩ := ih _ hnext
    refine ⟨hlast, fun o ho => ?_⟩
    rcases List.mem_append.mp ho with ho | ho
    · exact hout o ho
    · exact hrest o ho

/-- What the outputs are read as, if that depends on the inputs only, as long as the states keep an
    invariant ... -/
theorem feed_reads_of {J : S → Prop} {p : O → Option O'} {g : I → List O'}
    (hJ : ∀ s i, J s → J (f s i).1) (hf : ∀ s i, J s → (f s i).2.filterMap p = g i)
    (is : List I) : ∀ s, J s → (feed f s is).2.filterMap p = is.flatMap g := by
  induction is with
  | nil => exact fun s _ => rfl
  | cons i is ih =>
    intro s hs
    rw [feed_cons, List.filterMap_append, hf s i hs, ih _ (hJ s i hs), List.flatMap_cons]

/-- ... or in any state. -/
theorem feed_reads {p : O → Option O'} {g : I → List O'}
    (hf : ∀ s i, (f s i).2.filterMap p = g i) (is : List I) (s : S) :
    (feed f s is).2.filterMap p = is.flatMap g :=
  feed_reads_of (J := fun _ => True) (fun _ _ _ => trivial) (fun s i _ => hf s i) is s trivial

end Transducers
