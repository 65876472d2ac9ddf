/-
  Computations that put things out as they go, and then return or FAIL.

  A function into `Except F (S × List O)` forgets what a call that failed had put out before.
  `Traced F O S` keeps it: the outputs are there whatever the result is.

  1. `emit`, `fail`, `lift`, `bind` — putting out and going on, failing, a step without outputs, and
     one computation after the other.
  2. `returned` — the outputs of failed computations forgotten.  It goes through `bind`
     (`returned_bind_ok`), so a computation can be compared with a function into `Except` part by
     part.
-/
import Mathlib.Data.List.Basic

/-- What a computation puts out, and its result, each by itself: the one does not depend on the
    other. -/
structure Traced (F O S : Type) where
  out : List O
  result : Except F S

namespace Traced

variable {F O S T : Type}

/-- Put out some things and go on, in the state that comes with them. -/
def emit (x : S × List O) : Traced F O S := ⟨x.2, .ok x.1⟩

/-- Stop, with nothing put out here; what came before stays. -/
def fail (f : F) : Traced F O S := ⟨[], .error f⟩

/-- A step that puts out nothing, and may fail. -/
def lift (x : Except F S) : Traced F O S := ⟨[], x⟩

/-- One computation, and if it returns another one, whose outputs come behind. -/
def bind (x : Traced F O S) (k : S → Traced F O T) : Traced F O T :=
  match x.result with
  | .error f => ⟨x.out, .error f⟩
  | .ok s => ⟨x.out ++ (k s).out, (k s).result⟩

/-- The outputs are kept only if the computation returns, which is how a function into `Except` has
    it. -/
def returned (x : Traced F O S) : Except F (S × List O) :=
  match x.result with
  | .error f => .error f
  | .ok s => .ok (s, x.out)

/-- What is put out first comes first, ... -/
@[simp] theorem bind_emit (x : S × List O) (k : S → Traced F O T) :
    bind (emit x) k = ⟨x.2 ++ (k x.1).out, (k x.1).result⟩ := rfl

/-- ... and is kept if the computation returns at once. -/
theorem returned_emit (x : S × List O) : (emit x : Traced F O S).returned = .ok x := rfl

/-- A step without outputs returns none, if it returns. -/
theorem returned_lift (x : Except F S) :
    (lift x : Traced F O S).returned = x.map fun s => (s, []) := by
  cases x <;> rfl

/-- **Forgetting goes through `bind`**: if the first computation fails, so does the whole, ... -/
theorem returned_bind_error {x : Traced F O S} {f : F} (h : x.returned = .error f)
    (k : S → Traced F O T) : (bind x k).returned = .error f := by
  obtain ⟨out, result⟩ := x
  cases result with
  | error f' => exact congrArg Except.error (Except.error.inj h)
  | ok s => cases h

/-- ... and if it returns, the whole does what the second one does, with the outputs of both. -/
theorem returned_bind_ok {x : Traced F O S} {s : S} {out : List O} (h : x.returned = .ok (s, out))
    (k : S → Traced F O T) :
    (bind x k).returned = (k s).returned.map fun y => (y.1, out ++ y.2) := by
  obtain ⟨out', result⟩ := x
  cases result with
  | error f => cases h
  | ok s' =>
    obtain ⟨rfl, rfl⟩ := Prod.mk.inj (Except.ok.inj h)
    simp only [bind, returned]
    cases (k s').result <;> rfl

/-- After an `emit` the whole fails exactly if the rest does, as the `emit` cannot. -/
theorem returned_bind_emit (x : S × List O) (k : S → Traced F O T) :
    (bind (emit x) k).returned = (k x.1).returned.map fun y => (y.1, x.2 ++ y.2) :=
  returned_bind_ok (returned_emit x) k

end Traced
