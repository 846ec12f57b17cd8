import Mathlib.Init

/-! # Computations that may fail

Rules for `Except`: what an ended computation says about its parts, and the invariant rule for a
loop that stops at the first error.  The second part is about computations that also change a state
and keep what they have changed when they fail.
-/

namespace Foundations.Fallible

variable {ε α β State : Type} {outcome : Except ε α}

/-- `if !condition { return Err(error) }`. -/
def require (condition : Prop) [Decidable condition] (error : ε) : Except ε Unit :=
  if condition then .ok () else .error error

@[simp] theorem require_eq_ok {condition : Prop} [Decidable condition] {error : ε} {value : Unit} :
    require condition error = .ok value ↔ condition := by
  unfold require
  split <;> simp_all

@[simp] theorem bind_eq_ok {first : Except ε α} {next : α → Except ε β} {result : β} :
    (first >>= next) = .ok result ↔ ∃ value, first = .ok value ∧ next value = .ok result := by
  cases first with
  | ok value =>
    constructor
    · exact fun ended => ⟨value, rfl, ended⟩
    · rintro ⟨other, same, ended⟩
      cases same
      exact ended
  | error error =>
    constructor
    · intro ended
      cases ended
    · rintro ⟨other, same, _⟩
      cases same

@[simp] theorem mapError_eq_ok {ε' : Type} {change : ε → ε'} {result : α} :
    outcome.mapError change = .ok result ↔ outcome = .ok result := by
  cases outcome with
  | ok value =>
    show (Except.ok value : Except ε' α) = .ok result ↔ _
    rw [Except.ok.injEq, Except.ok.injEq]
  | error error =>
    constructor
    · intro failed
      cases failed
    · intro failed
      cases failed

theorem foldlM_keeps {step : State → α → Except ε State} {inv : State → Prop}
    (keeps : ∀ {state item next}, inv state → step state item = .ok next → inv next)
    {items : List α} {state last : State} (ran : items.foldlM step state = .ok last)
    (initially : inv state) : inv last := by
  induction items generalizing state with
  | nil =>
    cases ran
    exact initially
  | cons item items ih => grind [bind_eq_ok]

/-! ## With a state -/

/-- The program ends well, with this value and in this state. -/
def Ends (program : ExceptT ε (StateM State) α) (before : State) (value : α) (after : State) :
    Prop :=
  program.run.run before = (.ok value, after)

/-- From this state the program ends well or with one of these errors. -/
def Throws (allowed : ε → Prop) (program : ExceptT ε (StateM State) α) (before : State) : Prop :=
  ∀ ⦃error after⦄, program.run.run before = (.error error, after) → allowed error

/-- A result that does not depend on the state. -/
def decided (outcome : Except ε α) : ExceptT ε (StateM State) α := ExceptT.mk (pure outcome)

theorem run_bind (first : ExceptT ε (StateM State) α) (next : α → ExceptT ε (StateM State) β)
    (before : State) :
    (first >>= next).run.run before =
      match first.run.run before with
      | (.ok value, between) => (next value).run.run between
      | (.error error, between) => (.error error, between) := by
  show ExceptT.bindCont next (first before).1 (first before).2 = _
  show _ = match first before with
    | (.ok value, between) => (next value).run.run between
    | (.error error, between) => (.error error, between)
  obtain ⟨outcome, between⟩ := first before
  cases outcome <;> rfl

variable {before after : State} {value : α} {next : α → ExceptT ε (StateM State) β}
  {first : ExceptT ε (StateM State) α}

@[simp] theorem ends_pure {result : α} :
    Ends (pure result : ExceptT ε (StateM State) α) before value after ↔
      result = value ∧ before = after := by
  constructor
  · intro ended
    cases ended
    exact ⟨rfl, rfl⟩
  · rintro ⟨rfl, rfl⟩
    rfl

@[simp] theorem ends_decided :
    Ends (decided outcome) before value after ↔ outcome = .ok value ∧ before = after := by
  constructor
  · intro ended
    cases ended
    exact ⟨rfl, rfl⟩
  · rintro ⟨rfl, rfl⟩
    rfl

@[simp] theorem ends_bind {result : β} : Ends (first >>= next) before result after ↔
      ∃ value between, Ends first before value between ∧ Ends (next value) between result after := by
  unfold Ends
  rw [run_bind]
  constructor
  · grind
  · grind

namespace Throws

variable {allowed : ε → Prop}

theorem pure (value : α) :
    Throws allowed (Pure.pure value : ExceptT ε (StateM State) α) before := by
  intro _ _ failed
  cases failed

theorem decided (fine : ∀ error, outcome = .error error → allowed error) :
    Throws allowed (Fallible.decided outcome) before := by
  intro error after failed
  cases failed
  exact fine error rfl

theorem bind (fine : Throws allowed first before)
    (rest : ∀ value between, Ends first before value between → Throws allowed (next value) between) :
    Throws allowed (first >>= next) before := by
  intro error after failed
  rw [run_bind] at failed
  split at failed
  next value between started =>
    exact rest value between started failed
  next earlier between stopped =>
    cases failed
    exact fine stopped

end Throws

end Foundations.Fallible
