/-
  Runs of a fallible step function, and fuel-bounded loops.

  A transition system here is a function `step : S → E → Except F (S × List O)`: from a state
  and an event it computes the next state and what was sent out, or it FAILS with a fault.
  Five layers, all over arbitrary types:

  1. `Run step init h s` — `h` is the history of a completed run from a state satisfying `init`
     to `s`, one `Step` record per event.  A faulting event does not extend a run.
  2. `Each P h` — every step of the history `h` satisfies `P`, given the history before it;
     `Since P Q h` — there has been no `Q` since some `P`.  If no `P` comes while there has been
     none, any two are separated by a `Q` (`Each.between`).
  3. `Along step P s es` — the property `P` of (state, event) pairs holds at every event of the
     SCHEDULE `es`, for as long as the system keeps stepping.  This is the form for statements
     that also say the step returns.
  4. `play step s es` — the state a fault-free schedule leads to, and the rule for two runs side by
     side (`play_alike`): steps that take related states to related states, with outputs that go
     together, do so along whole schedules.
  5. `loop body fuel s` — a `while` loop given an iteration bound, with the rule that a body
     which goes round without changing the state never ends (`loop_stuck`).
-/
import Mathlib.Algebra.BigOperators.Group.List.Basic
import Mathlib.Algebra.GroupWithZero.Nat
import Mathlib.Data.List.Induction

namespace Runs

variable {S E F O : Type}

/-! ## Histories -/

/-- One completed step: the state it starts in, the event, the state it ends in, the outputs.  A
    history is a list of these, the oldest first. -/
structure Step (S E O : Type) where
  pre : S
  event : E
  post : S
  out : List O

/-- `Run step init h s`: the events of `h`, in order, lead from a state satisfying `init` to `s`. -/
inductive Run (step : S → E → Except F (S × List O)) (init : S → Prop) :
    List (Step S E O) → S → Prop
  | start {s : S} (h0 : init s) : Run step init [] s
  | snoc {h : List (Step S E O)} {s s' : S} {e : E} {out : List O}
      (hr : Run step init h s) (hs : step s e = .ok (s', out)) :
      Run step init (h ++ [⟨s, e, s', out⟩]) s'

/-- `s` is reached by some run, whichever it is. -/
def Reachable (step : S → E → Except F (S × List O)) (init : S → Prop) (s : S) : Prop :=
  ∃ h, Run step init h s

variable {step : S → E → Except F (S × List O)} {init : S → Prop}

/-- By none at all, from where a run may start, ... -/
theorem Reachable.start {s : S} (h0 : init s) : Reachable step init s := ⟨[], .start h0⟩

/-- ... or by one step more. -/
theorem Reachable.next {s s' : S} {e : E} {out : List O} (hr : Reachable step init s)
    (hs : step s e = .ok (s', out)) : Reachable step init s' := by
  obtain ⟨h, hr⟩ := hr
  exact ⟨_, .snoc hr hs⟩

/-- **The invariant rule**: what holds initially and is preserved by every step holds of every
    reachable state. -/
theorem Reachable.invariant {I : S → Prop} (h0 : ∀ s, init s → I s)
    (hstep : ∀ s e s' out, I s → step s e = .ok (s', out) → I s')
    {s : S} (hr : Reachable step init s) : I s := by
  obtain ⟨h, hr⟩ := hr
  induction hr with
  | start hi => exact h0 _ hi
  | snoc _ hs ih => exact hstep _ _ _ _ ih hs

/-- The invariant rule for an invariant that also reads the history.  It may use that there is a run
    up to the step in question, so other invariants can be used in the proof. -/
theorem Run.invariant {I : List (Step S E O) → S → Prop} (h0 : ∀ s, init s → I [] s)
    (hstep : ∀ h s e s' out, Run step init h s → I h s → step s e = .ok (s', out) →
      I (h ++ [⟨s, e, s', out⟩]) s')
    {h : List (Step S E O)} {s : S} (hr : Run step init h s) : I h s := by
  induction hr with
  | start hi => exact h0 _ hi
  | snoc hr hs ih => exact hstep _ _ _ _ _ hr ih hs

/-- The end of a run is reached by it. -/
theorem Run.reachable {h : List (Step S E O)} {s : S} (hr : Run step init h s) :
    Reachable step init s := ⟨h, hr⟩

/-- A run can be cut at any of its steps: what comes before is a run to the step's first state,
    the step is one of the system's, and what comes after is a run from its last state. -/
theorem Run.cut {h₁ : List (Step S E O)} {st : Step S E O} :
    ∀ {h₂ : List (Step S E O)} {s : S}, Run step init (h₁ ++ st :: h₂) s →
      Run step init h₁ st.pre ∧ step st.pre st.event = .ok (st.post, st.out) ∧
      Run step (· = st.post) h₂ s := by
  intro h₂
  induction h₂ using List.reverseRecOn with
  | nil =>
    intro s hr
    generalize hh : h₁ ++ [st] = h at hr
    cases hr with
    | start _ => simp at hh
    | snoc hr hs =>
      obtain ⟨rfl, hst⟩ := List.append_inj' hh rfl
      obtain rfl := (List.cons.inj hst).1
      exact ⟨hr, hs, .start rfl⟩
  -- the last step is the run's last, and what is before it is cut by the induction hypothesis
  | append_singleton h₂ last ih =>
    intro s hr
    generalize hh : h₁ ++ st :: (h₂ ++ [last]) = h at hr
    cases hr with
    | start _ => simp at hh
    | snoc hr hs =>
      rw [← List.cons_append, ← List.append_assoc] at hh
      obtain ⟨rfl, hl⟩ := List.append_inj' hh rfl
      obtain rfl := (List.cons.inj hl).1
      obtain ⟨hr₁, hs₁, hr₂⟩ := ih hr
      exact ⟨hr₁, hs₁, .snoc hr₂ hs⟩

/-- The first step of a run starts where the run does, and the rest is a run from where it ends. -/
theorem Run.head {st : Step S E O} {h : List (Step S E O)} {s s' : S}
    (hr : Run step (· = s) (st :: h) s') :
    st.pre = s ∧ step st.pre st.event = .ok (st.post, st.out) ∧ Run step (· = st.post) h s' := by
  have hr' : Run step (· = s) ([] ++ st :: h) s' := hr
  obtain ⟨hstart, hok, hrest⟩ := hr'.cut
  refine ⟨?_, hok, hrest⟩
  generalize hnil : ([] : List (Step S E O)) = h' at hstart
  cases hstart with
  | start h0 => exact h0
  | snoc _ _ => simp at hnil

/-- Runs compose: the second goes on where the first has ended. -/
theorem Run.append {h₁ h₂ : List (Step S E O)} {s s' : S} (hr₁ : Run step init h₁ s)
    (hr₂ : Run step (· = s) h₂ s') : Run step init (h₁ ++ h₂) s' := by
  induction hr₂ with
  | start hi =>
    obtain rfl := hi
    rwa [List.append_nil]
  | snoc _ hs ih =>
    rw [← List.append_assoc]
    exact .snoc ih hs

/-- **The projection rule**: if every step of one system is, seen through `f`, a run of another,
    then what `f` sees of a reachable state is reachable. -/
theorem Reachable.project {S' E' O' : Type} {step' : S' → E' → Except F (S' × List O')}
    {init' : S' → Prop} {f : S → S'} (h0 : ∀ s, init s → init' (f s))
    (hstep : ∀ s e s' out, step s e = .ok (s', out) → ∃ h, Run step' (· = f s) h (f s'))
    {s : S} (hr : Reachable step init s) : Reachable step' init' (f s) :=
  hr.invariant (I := fun s => Reachable step' init' (f s)) (fun s hs => .start (h0 s hs))
    fun s e s' out hI hs => by
      obtain ⟨h₁, hr₁⟩ := hI
      obtain ⟨h₂, hr₂⟩ := hstep s e s' out hs
      exact ⟨_, hr₁.append hr₂⟩

/-- **The projection rule, with histories**: if `part` makes of every step of one system a step of
    another between what `f` sees, or nothing where `f` sees no change, it makes a run of a run. -/
theorem Run.project {S' E' O' : Type} {step' : S' → E' → Except F (S' × List O')}
    {init' : S' → Prop} {f : S → S'} {part : Step S E O → Option (Step S' E' O')}
    (h0 : ∀ s, init s → init' (f s))
    (hstep : ∀ s e s' out, Reachable step init s → step s e = .ok (s', out) →
      (part ⟨s, e, s', out⟩ = none ∧ f s' = f s) ∨
      ∃ e' out', part ⟨s, e, s', out⟩ = some ⟨f s, e', f s', out'⟩ ∧
        step' (f s) e' = .ok (f s', out'))
    {h : List (Step S E O)} {s : S} (hr : Run step init h s) :
    Run step' init' (h.filterMap part) (f s) := by
  induction hr with
  | start hi => exact .start (h0 _ hi)
  | snoc hr hs ih =>
    rw [List.filterMap_append]
    rcases hstep _ _ _ _ hr.reachable hs with ⟨hnone, hsame⟩ | ⟨e', out', hsome, hs'⟩
    · rw [List.filterMap_cons_none hnone, List.filterMap_nil, List.append_nil, hsame]
      exact ih
    · rw [List.filterMap_cons_some hsome, List.filterMap_nil]
      exact .snoc ih hs'

/-- One step is a run, from the state it starts in. -/
theorem Run.one {s s' : S} {e : E} {out : List O} (hs : step s e = .ok (s', out)) :
    Run step (· = s) [⟨s, e, s', out⟩] s' :=
  .snoc (h := []) (.start rfl) hs

/-- **The potential rule**: what the steps of a run cost together is paid for by the drop of a
    potential, if that is true of each of them. -/
theorem Run.cost_le (cost : Step S E O → Nat) (pot : S → Nat) {I : S → E → Prop}
    (hstep : ∀ s e s' out, I s e → step s e = .ok (s', out) →
      cost ⟨s, e, s', out⟩ + pot s' ≤ pot s)
    {h : List (Step S E O)} {s : S} (hr : Run step init h s)
    (hI : ∀ st ∈ h, I st.pre st.event) :
    ∃ s₀, init s₀ ∧ (h.map cost).sum + pot s ≤ pot s₀ := by
  induction hr with
  | start h0 => exact ⟨_, h0, by simp⟩
  | @snoc h s s' e out _ hs ih =>
    obtain ⟨s₀, h0, hle⟩ := ih fun st hst => hI st (List.mem_append_left _ hst)
    have hlast : cost ⟨s, e, s', out⟩ + pot s' ≤ pot s :=
      hstep s e s' out (hI _ List.mem_concat_self) hs
    refine ⟨s₀, h0, ?_⟩
    rw [List.map_append, List.sum_append, List.map_singleton, List.sum_singleton]
    omega

/-! ## Playing a schedule

  A schedule is a list of events, so a run can be given by one and evaluated.  What happens after a
  fault is not looked at. -/

/-- The history of the schedule `es` from `s`, up to the first fault.  It can be evaluated, and so
    can what is said of it. -/
def trace (step : S → E → Except F (S × List O)) : S → List E → List (Step S E O)
  | _, [] => []
  | s, e :: es =>
    match step s e with
    | .ok (s', out) => ⟨s, e, s', out⟩ :: trace step s' es
    | .error _ => []

/-- The state the schedule `es` leads to from `s`, up to the first fault, where it stays. -/
def after (step : S → E → Except F (S × List O)) : S → List E → S
  | s, [] => s
  | s, e :: es =>
    match step s e with
    | .ok (s', _) => after step s' es
    | .error _ => s

/-- A schedule played from an initial state is a run, also if it does not get to its end. -/
theorem run_trace (es : List E) : ∀ {init : S → Prop} {s : S}, init s →
    Run step init (trace step s es) (after step s es) := by
  induction es with
  | nil => intro init s h0; exact .start h0
  | cons e es ih =>
    intro init s h0
    rw [trace, after]
    cases hs : step s e with
    | error f => exact .start h0
    | ok x =>
      have hone : Run step init ([] ++ [⟨s, e, x.1, x.2⟩]) x.1 := .snoc (.start h0) hs
      exact hone.append (ih rfl)

/-- What happens in the history of a schedule is in the schedule, since nothing else can happen. -/
theorem event_mem_trace {st : Step S E O} (es : List E) :
    ∀ {s : S}, st ∈ trace step s es → st.event ∈ es := by
  induction es with
  | nil => intro s h; cases h
  | cons e es ih =>
    intro s h
    rw [trace] at h
    cases hs : step s e with
    | error f =>
      rw [hs] at h
      cases h
    | ok x =>
      rw [hs] at h
      rcases List.mem_cons.mp h with rfl | h
      · exact List.mem_cons_self ..
      · exact List.mem_cons_of_mem _ (ih h)

/-- So is the event of one of its steps. -/
theorem mem_of_event {st : Step S E O} {es : List E} {s : S} {e : E} (hst : st ∈ trace step s es)
    (he : st.event = e) : e ∈ es := he ▸ event_mem_trace es hst

/-- A step of a schedule in two parts belongs to one of them. -/
theorem mem_trace_append {st : Step S E O} (es es' : List E) :
    ∀ {s : S}, st ∈ trace step s (es ++ es') →
      st ∈ trace step s es ∨ st ∈ trace step (after step s es) es' := by
  induction es with
  | nil => exact fun h => Or.inr h
  | cons e es ih =>
    intro s h
    rw [List.cons_append, trace] at h
    rw [trace, after]
    cases hs : step s e with
    | error f =>
      rw [hs] at h
      cases h
    | ok x =>
      rw [hs] at h
      rcases List.mem_cons.mp h with rfl | h
      · exact Or.inl (List.mem_cons_self ..)
      · exact (ih h).imp_left (List.mem_cons_of_mem _)

/-- The first step of a schedule starts where the schedule does; any other has its event in the
    rest. -/
theorem mem_trace_cons {st : Step S E O} {s : S} {e : E} {es : List E}
    (h : st ∈ trace step s (e :: es)) :
    (st.pre = s ∧ st.event = e) ∨ st.event ∈ es := by
  rw [trace] at h
  cases hs : step s e with
  | error f =>
    rw [hs] at h
    cases h
  | ok x =>
    rw [hs] at h
    rcases List.mem_cons.mp h with rfl | h
    · exact Or.inl ⟨rfl, rfl⟩
    · exact Or.inr (event_mem_trace es h)

/-! ## Properties at every position of a history

  A property of a step may refer to all that came before it.  What it says of a run then holds of
  each part that the run begins with. -/

/-- `P` holds of every step of `h`, given the history before it.  The history is what such a `P` is
    allowed to remember. -/
def Each (P : List (Step S E O) → Step S E O → Prop) (h : List (Step S E O)) : Prop :=
  ∀ h₁ st h₂, h = h₁ ++ st :: h₂ → P h₁ st

/-- It holds of one step more if it holds of that step too, which is the form inductions on runs
    use. -/
theorem each_snoc {P : List (Step S E O) → Step S E O → Prop} {h : List (Step S E O)}
    {st : Step S E O} : Each P (h ++ [st]) ↔ Each P h ∧ P h st := by
  constructor
  · intro hP
    refine ⟨fun h₁ st' h₂ hh => hP h₁ st' (h₂ ++ [st]) ?_, hP h st [] rfl⟩
    rw [hh, List.append_assoc, List.cons_append]
  · rintro ⟨hP, hst⟩ h₁ st' h₂ hh
    rcases List.eq_nil_or_concat h₂ with rfl | ⟨h₂', last, rfl⟩
    · obtain ⟨rfl, hl⟩ := List.append_inj' hh rfl
      obtain rfl := (List.cons.inj hl).1
      exact hst
    · rw [List.concat_eq_append, ← List.cons_append, ← List.append_assoc] at hh
      exact hP h₁ st' h₂' (List.append_inj' hh rfl).1

/-- What holds at every position holds at every position of a prefix. -/
theorem Each.of_append {P : List (Step S E O) → Step S E O → Prop} {h h' : List (Step S E O)}
    (hP : Each P (h ++ h')) : Each P h := by
  intro h₁ st h₂ hh
  refine hP h₁ st (h₂ ++ h') ?_
  rw [hh, List.append_assoc, List.cons_append]

/-- A history may also be taken apart at its first step. -/
theorem each_cons {P : List (Step S E O) → Step S E O → Prop} {st : Step S E O}
    {h : List (Step S E O)} (hst : P [] st) (hP : Each (fun before => P (st :: before)) h) :
    Each P (st :: h) := by
  rintro (_ | ⟨st₁, h₁⟩) st' h₂ hh
  · obtain ⟨rfl, -⟩ := List.cons.inj hh
    exact hst
  · obtain ⟨rfl, hrest⟩ := List.cons.inj hh
    exact hP h₁ st' h₂ hrest

/-- A property of what an event finds holds at every step of a schedule, if it holds of each event
    after the ones before it. -/
theorem each_trace {P : List (Step S E O) → S → E → Prop} (es : List E) : ∀ {s : S},
    (∀ n e, es[n]? = some e → P (trace step s (es.take n)) (after step s (es.take n)) e) →
      Each (fun before st => P before st.pre st.event) (trace step s es) := by
  induction es generalizing P with
  | nil =>
    intro s _ h₁ st h₂ hh
    cases h₁ <;> cases hh
  | cons e es ih =>
    intro s hP
    rw [trace]
    cases hs : step s e with
    | error f =>
      intro h₁ st h₂ hh
      cases h₁ <;> cases hh
    | ok x =>
      refine each_cons (hP 0 e rfl) (ih (P := fun before => P (⟨s, e, x.1, x.2⟩ :: before)) ?_)
      intro n e' he
      have hnext := hP (n + 1) e' he
      simpa only [List.take_succ_cons, trace, after, hs] using hnext

/-- A step of `h` satisfies `P`, and none after it satisfies `Q`: something is the case since
    then. -/
def Since (P Q : Step S E O → Prop) (h : List (Step S E O)) : Prop :=
  ∃ h₁ st h₂, h = h₁ ++ st :: h₂ ∧ P st ∧ ∀ st' ∈ h₂, ¬ Q st'

/-- Nothing has happened in the empty history. -/
theorem not_since_nil (P Q : Step S E O → Prop) : ¬ Since P Q [] := by
  rintro ⟨h₁, st, h₂, hh, -⟩
  cases h₁ <;> cases hh

/-- One step later it has happened now, or had and has not been undone.  If both come in one step,
    it has happened. -/
theorem since_snoc {P Q : Step S E O → Prop} {h : List (Step S E O)} {st : Step S E O} :
    Since P Q (h ++ [st]) ↔ P st ∨ (Since P Q h ∧ ¬ Q st) := by
  constructor
  · rintro ⟨h₁, st', h₂, hh, hP, hQ⟩
    rcases List.eq_nil_or_concat h₂ with rfl | ⟨h₂', last, rfl⟩
    · obtain ⟨-, hl⟩ := List.append_inj' hh rfl
      exact Or.inl ((List.cons.inj hl).1 ▸ hP)
    · rw [List.concat_eq_append] at hh hQ
      rw [← List.cons_append, ← List.append_assoc] at hh
      obtain ⟨rfl, hl⟩ := List.append_inj' hh rfl
      obtain rfl := (List.cons.inj hl).1
      exact Or.inr ⟨⟨h₁, st', h₂', rfl, hP, fun x hx => hQ x (List.mem_append_left _ hx)⟩,
        hQ st List.mem_concat_self⟩
  · rintro (hP | ⟨⟨h₁, st', h₂, rfl, hP, hQ⟩, hlast⟩)
    · exact ⟨h, st, [], rfl, hP, fun x hx => by cases hx⟩
    · refine ⟨h₁, st', h₂ ++ [st], by rw [List.append_assoc, List.cons_append], hP, fun x hx => ?_⟩
      rcases List.mem_append.mp hx with hx | hx
      · exact hQ x hx
      · exact List.mem_singleton.mp hx ▸ hlast

/-- **The separation rule**: if every `P` comes when there has been none since the last `Q`, then
    between any two of them there is a `Q`. -/
theorem Each.between {P Q : Step S E O → Prop} {h : List (Step S E O)}
    (hP : Each (fun before st => P st → ¬ Since P Q before) h)
    {h₁ h₂ h₃ : List (Step S E O)} {st st' : Step S E O} (hh : h = h₁ ++ st :: (h₂ ++ st' :: h₃))
    (hst : P st) (hst' : P st') : ∃ mid ∈ h₂, Q mid := by
  by_contra hno
  have hlast : h = (h₁ ++ st :: h₂) ++ st' :: h₃ := by
    rw [hh, List.append_assoc, List.cons_append]
  exact hP _ st' h₃ hlast hst' ⟨h₁, st, h₂, rfl, hst, fun x hx hQ => hno ⟨x, hx, hQ⟩⟩

/-- A run's prefix up to and including a step is a run, to where that step ends. -/
theorem Run.upTo {h₁ : List (Step S E O)} {st : Step S E O} {h₂ : List (Step S E O)} {s : S}
    (hr : Run step init (h₁ ++ st :: h₂) s) : Run step init (h₁ ++ [st]) st.post := by
  obtain ⟨hr₁, hs, -⟩ := hr.cut
  exact .snoc hr₁ hs

/-! ## Two runs side by side

  For statements that compare what two systems put out, or one system in two states. -/

/-- The state the schedule `es` leads to from `s`, if no event of it is a fault, and else that
    fault. -/
def play (step : S → E → Except F (S × List O)) : S → List E → Except F S
  | s, [] => .ok s
  | s, e :: es =>
    match step s e with
    | .ok (s', _) => play step s' es
    | .error f => .error f

/-- A schedule without faults is a run. -/
theorem play_run (es : List E) : ∀ {s t : S}, play step s es = .ok t →
    ∃ h, Run step (· = s) h t := by
  induction es with
  | nil =>
    intro s t hplay
    obtain rfl := Except.ok.inj hplay
    exact ⟨[], .start rfl⟩
  | cons e es ih =>
    intro s t hplay
    rw [play] at hplay
    cases hs : step s e with
    | error f =>
      rw [hs] at hplay
      cases hplay
    | ok x =>
      rw [hs] at hplay
      obtain ⟨h, hr⟩ := ih hplay
      exact ⟨_, (Run.one hs).append hr⟩

variable {S' E' O' : Type} {step' : S' → E' → Except F (S' × List O')}

/-- Two results of a step that go together: both have the same fault, or related states and
    outputs. -/
inductive Alike (R : S → S' → Prop) (B : List O → List O' → Prop) :
    Except F (S × List O) → Except F (S' × List O') → Prop
  | ok {s : S} {s' : S'} {out : List O} {out' : List O'} (hs : R s s') (hout : B out out') :
      Alike R B (.ok (s, out)) (.ok (s', out'))
  | error (f : F) : Alike R B (.error f) (.error f)

variable {R : S → S' → Prop} {A : E → E' → Prop} {B : List O → List O' → Prop}

/-- **The two-run rule**: if related events take related states to results that go together, then
    so do related schedules. -/
theorem play_alike
    (hstep : ∀ s s' e e', R s s' → A e e' → Alike R B (step s e) (step' s' e'))
    {es : List E} {es' : List E'} (hes : List.Forall₂ A es es') :
    ∀ {s : S} {s' : S'} {t : S}, R s s' → play step s es = .ok t →
      ∃ t', play step' s' es' = .ok t' ∧ R t t' := by
  induction hes with
  | nil =>
    intro s s' t hR hplay
    obtain rfl := Except.ok.inj hplay
    exact ⟨s', rfl, hR⟩
  | @cons e e' es es' he _ ih =>
    intro s s' t hR hplay
    rw [play] at hplay ⊢
    have halike := hstep s s' e e' hR he
    cases hs : step s e with
    | error f =>
      rw [hs] at hplay
      cases hplay
    | ok x =>
      rw [hs] at hplay halike
      generalize hs' : step' s' e' = result at halike
      cases halike with
      | ok hnext => exact ih hnext hplay

/-- ... and the outputs of the two runs go together step by step. -/
theorem trace_alike
    (hstep : ∀ s s' e e', R s s' → A e e' → Alike R B (step s e) (step' s' e'))
    {es : List E} {es' : List E'} (hes : List.Forall₂ A es es') :
    ∀ {s : S} {s' : S'}, R s s' → List.Forall₂ (fun st st' => B st.out st'.out)
      (trace step s es) (trace step' s' es') := by
  induction hes with
  | nil => exact fun _ => .nil
  | @cons e e' es es' he _ ih =>
    intro s s' hR
    rw [trace, trace]
    have halike := hstep s s' e e' hR he
    generalize step s e = result at halike
    generalize step' s' e' = result' at halike
    cases halike with
    | ok hnext hout => exact .cons hout (ih hnext)
    | error f => exact .nil

/-! ## Schedules -/

/-- `P` holds at every event of the schedule `es`, as far as the system gets with it. -/
def Along (step : S → E → Except F (S × List O)) (P : S → E → Prop) : S → List E → Prop
  | _, [] => True
  | s, e :: es => P s e ∧ ∀ s' out, step s e = .ok (s', out) → Along step P s' es

/-- Two step properties that agree wherever `I` holds agree along every schedule, if the first
    one keeps `I`. -/
theorem along_congr {P Q I : S → E → Prop} {J : S → Prop}
    (hI : ∀ s e, J s → I s e → (P s e ↔ Q s e))
    (hJ : ∀ s e s' out, J s → I s e → P s e → step s e = .ok (s', out) → J s') :
    ∀ (es : List E) (s : S), J s → (∀ s e, J s → I s e) →
      (Along step P s es ↔ Along step Q s es) := by
  intro es
  induction es with
  | nil => intro s _ _; exact Iff.rfl
  | cons e es ih =>
    intro s hs hall
    constructor
    · rintro ⟨hp, hnext⟩
      refine ⟨(hI s e hs (hall s e hs)).mp hp, fun s' out hstep => ?_⟩
      have hs' := hJ s e s' out hs (hall s e hs) hp hstep
      exact (ih s' hs' hall).mp (hnext s' out hstep)
    · rintro ⟨hq, hnext⟩
      have hp := (hI s e hs (hall s e hs)).mpr hq
      refine ⟨hp, fun s' out hstep => ?_⟩
      have hs' := hJ s e s' out hs (hall s e hs) hp hstep
      exact (ih s' hs' hall).mpr (hnext s' out hstep)

/-! ## Loops

  A `while` loop of a language with side effects may not end.  Its body is a function here, and the
  loop has a bound on how often it runs; that it ends is said by some bound being enough. -/

/-- What one evaluation of a loop's condition and body does: it goes round, or it leaves. -/
inductive Iter (S R : Type) where
  /-- the body has run and the condition is evaluated again -/
  | again (s : S)
  /-- the loop is left -/
  | exit (r : R)

/-- The loop, run for at most `fuel` iterations: `none` when they do not end it.  The bound is not
    the loop's own, so what counts is whether there is one that does. -/
def loop {R : Type} (body : S → Iter S R) : Nat → S → Option R
  | 0, _ => none
  | fuel + 1, s =>
    match body s with
    | .again s' => loop body fuel s'
    | .exit r => some r

/-- The loop ends, with result `r`, after some number of iterations. -/
def Ends {R : Type} (body : S → Iter S R) (s : S) (r : R) : Prop :=
  ∃ fuel, loop body fuel s = some r

/-- What ends within a bound ends within the next, ... -/
theorem loop_succ {R : Type} {body : S → Iter S R} :
    ∀ {fuel : Nat} {s : S} {r : R}, loop body fuel s = some r → loop body (fuel + 1) s = some r
  | 0, s, r, h => by rw [loop] at h; cases h
  | fuel + 1, s, r, h => by
    rw [loop] at h ⊢
    cases hb : body s with
    | again s' =>
      rw [hb] at h
      exact loop_succ h
    | exit r' =>
      rw [hb] at h
      exact h

/-- ... and within any greater one. -/
theorem loop_mono {R : Type} {body : S → Iter S R} {f f' : Nat} {s : S} {r : R} (hf : f ≤ f')
    (h : loop body f s = some r) : loop body f' s = some r := by
  induction hf with
  | refl => exact h
  | step _ ih => exact loop_succ ih

/-- The result of a loop does not depend on the bound, so there is at most one. -/
theorem Ends.unique {R : Type} {body : S → Iter S R} {s : S} {r r' : R} (h : Ends body s r)
    (h' : Ends body s r') : r = r' := by
  obtain ⟨f, hf⟩ := h
  obtain ⟨f', hf'⟩ := h'
  have h1 := loop_mono (Nat.le_max_left f f') hf
  have h2 := loop_mono (Nat.le_max_right f f') hf'
  exact Option.some.inj (h1.symm.trans h2)

/-- **A body that goes round without changing the state never ends**, whatever the bound.  By
    induction on the bound: after one iteration all is as it was, and there is less of it. -/
theorem loop_stuck {R : Type} {body : S → Iter S R} {s : S} (hb : body s = .again s) :
    ∀ fuel, loop body fuel s = none
  | 0 => rfl
  | fuel + 1 => by
    rw [loop, hb]
    exact loop_stuck hb fuel

end Runs
