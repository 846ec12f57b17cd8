import SteelInspection.Foundations.Program

/-! # Sequential runs that may stop at any call

A session is one run of a program from beginning to end, or up to the point where its process
stops.  What every call meets (a fault, a value from outside) is given by a list of environments;
when the list is used up, the process stops in front of its next call.

A check looks at every call with the environment it meets, or with none where the process stops.
`Walks` is the weakest precondition under the check: it walks the program and demands `good` of every
call and `post` of the answer.  `Ensures` demands `stopped` of every state in which the check lets the
process stop.  `Issues` says in which states a program makes its calls; an invariant that every such
call keeps is then an invariant of the program, without another look at the program.
-/

namespace Foundations

variable {State Input Env Call : Type} {Reply : Call → Type} {α β : Type} {script : List Env}
  {value : α} {next : β → Program Call Reply α} {other last : α → State → Prop}
  {allowed : Call → Prop} {good : Call → State → Prop} {knows stopped : State → Prop}

/-- What a call does in a sequential run. -/
abbrev Effects (State Env Call : Type) (Reply : Call → Type) :=
  Env → (request : Call) → State → Reply request × State

/-- A check of a call in a state; no environment stands for the stop in front of the call. -/
abbrev Check (State Env Call : Type) := Call → Option Env → State → Bool

namespace Program

/-- The answer, unless the process stopped, and the state that is left. -/
def execute (effects : Effects State Env Call Reply) :
    Program Call Reply α → List Env → State → Option α × State
  | .pure value, _, state => (some value, state)
  | .diverge, _, state => (none, state)
  | .call _ _, [], state => (none, state)
  | .call request next, environment :: script, state =>
    (next (effects environment request state).1).execute effects script
      (effects environment request state).2

/-- Every call of the run, and the stop if there is one, passes the check. -/
def passes (effects : Effects State Env Call Reply) (check : Check State Env Call) :
    Program Call Reply α → List Env → State → Bool
  | .pure _, _, _ => true
  | .diverge, _, _ => true
  | .call request _, [], state => check request none state
  | .call request next, environment :: script, state =>
    check request (some environment) state &&
      (next (effects environment request state).1).passes effects check script
        (effects environment request state).2

/-- In every run that passes the check each call meets `good` in the state it is made in, the answer
meets `post`, and the state in which the program diverges meets `stopped`. -/
def Walks (effects : Effects State Env Call Reply) (check : Check State Env Call)
    (good : Call → State → Prop) (stopped : State → Prop) (post : α → State → Prop) :
    Program Call Reply α → State → Prop
  | .pure value, state => post value state
  | .diverge, state => stopped state
  | .call request next, state =>
    good request state ∧
    ∀ environment, check request (some environment) state = true →
      Walks effects check good stopped post (next (effects environment request state).1)
        (effects environment request state).2

/-- The answer meets `post`, and the state in which the process stops meets `stopped`. -/
abbrev Ensures (effects : Effects State Env Call Reply) (check : Check State Env Call)
    (stopped : State → Prop) (post : α → State → Prop) : Program Call Reply α → State → Prop :=
  Walks effects check (fun request state => check request none state = true → stopped state) stopped
    post

/-- Each call meets `good`, and the answer meets `post`. -/
abbrev Issues (effects : Effects State Env Call Reply) (check : Check State Env Call)
    (good : Call → State → Prop) (post : α → State → Prop) : Program Call Reply α → State → Prop :=
  Walks effects check good (fun _ => True) post

variable {effects : Effects State Env Call Reply} {check : Check State Env Call}

variable {state : State} {post : α → State → Prop} {program : Program Call Reply α}

theorem Ensures.execute (ensured : program.Ensures effects check stopped post state)
    (passed : program.passes effects check script state = true) :
    (∀ value, (program.execute effects script state).1 = some value →
      post value (program.execute effects script state).2) ∧
    ((program.execute effects script state).1 = none →
      stopped (program.execute effects script state).2) := by
  induction program generalizing script state with
  | pure value =>
    refine ⟨fun other answered => ?_, nofun⟩
    cases answered
    exact ensured
  | diverge => exact ⟨nofun, fun _ => ensured⟩
  | call request next ih =>
    cases script with
    | nil => exact ⟨nofun, fun _ => ensured.1 passed⟩
    | cons env script =>
      simp only [passes, Bool.and_eq_true] at passed
      exact ih _ (ensured.2 env passed.1) passed.2

/-- A check that always says yes lets every run pass. -/
theorem passes_of_always (always : ∀ request env state, check request env state = true)
    (program : Program Call Reply α) (script : List Env) (state : State) :
    program.passes effects check script state = true := by
  induction program generalizing script state with
  | pure value | diverge => rfl
  | call request next ih =>
    cases script with
    | nil => exact always request none state
    | cons env script =>
      simp only [passes, always, Bool.true_and]
      exact ih _ script _

/-! ## The rules -/

theorem Walks.pure (holds : post value state) :
    (Program.pure value : Program Call Reply α).Walks effects check good stopped post state := holds

theorem Walks.diverge :
    (Program.diverge : Program Call Reply α).Issues effects check good post state := trivial

theorem Walks.mono (walks : program.Walks effects check good stopped post state)
    (implies : ∀ value after, post value after → other value after) :
    program.Walks effects check good stopped other state := by
  induction program generalizing state with
  | pure value => exact implies value state walks
  | diverge => exact walks
  | call request next ih => exact ⟨walks.1, fun env passed => ih _ (walks.2 env passed)⟩

theorem Walks.weaken {better : Call → State → Prop}
    (walks : program.Walks effects check good stopped post state)
    (weakens : ∀ request state, good request state → better request state) :
    program.Walks effects check better stopped post state := by
  induction program generalizing state with
  | pure value | diverge => exact walks
  | call request next ih =>
    exact ⟨weakens _ _ walks.1, fun env passed => ih _ (walks.2 env passed)⟩

theorem Walks.bind {post : β → State → Prop} {program : Program Call Reply β}
    (walks : program.Walks effects check good stopped post state)
    (continues : ∀ value after, post value after →
      (next value).Walks effects check good stopped last after) :
    (program >>= next).Walks effects check good stopped last state := by
  induction program generalizing state with
  | pure value => exact continues value state walks
  | diverge => exact walks
  | call request rest ih => exact ⟨walks.1, fun env passed => ih _ (walks.2 env passed)⟩

theorem Walks.ask (request : Call) {post : Reply request → State → Prop}
    (holds : good request state) (returns : ∀ env, check request (some env) state = true →
      post (effects env request state).1 (effects env request state).2) :
    (Program.ask request : Program Call Reply (Reply request)).Walks effects check good stopped post
      state :=
  ⟨holds, returns⟩

section

variable {ε : Type} {post : Except ε β → State → Prop} {last : Except ε α → State → Prop}
  {program : Attempt Call Reply ε β} {next : β → Attempt Call Reply ε α}

theorem Walks.attempt (walks : program.run.Walks effects check good stopped post state)
    (continues : ∀ value after, post (.ok value) after →
      (next value).run.Walks effects check good stopped last after)
    (fails : ∀ error after, post (.error error) after → last (.error error) after) :
    (program >>= next).run.Walks effects check good stopped last state := by
  refine walks.bind fun outcome after holds => ?_
  cases outcome with
  | ok value => exact continues value after holds
  | error error => exact fails error after holds

/-- The rule for a step after which every error is passed on. -/
theorem Walks.andThen {failed : State → Prop} {post : β → State → Prop} {last : α → State → Prop}
    (walks : program.run.Walks effects check good stopped (Returns post failed) state)
    (continues : ∀ value after, post value after →
      (next value).run.Walks effects check good stopped (Returns last failed) after) :
    (program >>= next).run.Walks effects check good stopped (Returns last failed) state :=
  walks.attempt continues fun _ _ failed => failed

end

/-- The frame rule: a fact that every call of the program keeps is there when it ends and wherever
it stops. -/
theorem Walks.of_calls
    (fine : ∀ {request state}, allowed request → knows state → good request state)
    (stops : ∀ {state}, knows state → stopped state)
    (keeps : ∀ {request env state}, allowed request → knows state → knows (effects env request state).2)
    (calls : program.Calls allowed) (known : knows state) :
    program.Walks effects check good stopped (fun _ => knows) state := by
  induction program generalizing state with
  | pure value => exact known
  | diverge => exact stops known
  | call request next ih =>
    obtain ⟨first, rest⟩ := calls_call.mp calls
    exact ⟨fine first known, fun env _ => ih _ (rest _) (keeps first known)⟩

theorem Issues.ensures {invariant : State → Prop}
    (issues : program.Issues effects check good post state)
    (keeps : ∀ {request env state}, good request state → check request (some env) state = true →
      invariant state → invariant (effects env request state).2)
    (holds : invariant state) :
    program.Ensures effects check invariant (fun value after => invariant after ∧ post value after)
      state := by
  induction program generalizing state with
  | pure value => exact ⟨holds, issues⟩
  | diverge => exact holds
  | call request next ih =>
    exact ⟨fun _ => holds, fun env passed => ih _ (issues.2 env passed) (keeps issues.1 passed holds)⟩

/-- The effects over states that carry a note of what has happened. -/
def annotated {Note : Type} (effects : Effects State Env Call Reply)
    (note : Env → Call → State → Note → Note) : Effects (State × Note) Env Call Reply :=
  fun environment request state =>
    ((effects environment request state.1).1,
      (effects environment request state.1).2, note environment request state.1 state.2)

theorem Issues.forget {Note : Type} (note : Env → Call → State → Note → Note) (noted : Note)
    (issues : program.Issues (annotated effects note)
      (fun request env state => check request env state.1)
      (fun request state => good request state.1) (fun value after => post value after.1)
      (state, noted)) :
    program.Issues effects check good post state := by
  induction program generalizing state noted with
  | pure value => exact issues
  | diverge => trivial
  | call request next ih =>
    exact ⟨issues.1, fun env passed => ih _ _ (issues.2 env passed)⟩

theorem Issues.annotate {Note : Type} {note : Env → Call → State → Note → Note}
    {checked : Check (State × Note) Env Call} {noted : Note}
    (issues : program.Issues effects (fun _ _ _ => true) good post state) :
    program.Issues (annotated effects note) checked (fun request state => good request state.1)
      (fun value after => post value after.1) (state, noted) := by
  induction program generalizing state noted with
  | pure value => exact issues
  | diverge => trivial
  | call request next ih =>
    exact ⟨issues.1, fun env _ => ih _ (issues.2 env rfl)⟩

end Program

/-! ## Runs without choices

Where the effect of a call is fixed, a program is a function on the state. -/

namespace Program

/-- The answer, unless the program diverges, and the state that is left. -/
def interpret (effects : (request : Call) → State → Reply request × State) :
    Program Call Reply α → State → Option α × State
  | .pure value, state => (some value, state)
  | .diverge, state => (none, state)
  | .call request next, state =>
    (next (effects request state).1).interpret effects (effects request state).2

variable {effects : (request : Call) → State → Reply request × State}
  {program : Program Call Reply α} {post : α → State → Prop}

/-- The effects as those of a sequential run that never stops. -/
abbrev steady (effects : (request : Call) → State → Reply request × State) :
    Effects State Unit Call Reply := fun _ => effects

def neverStops : Check State Unit Call := fun _ environment _ => environment.isSome

theorem Ensures.interpret {state : State}
    (ensured : program.Ensures (steady effects) neverStops stopped post state) :
    (∀ value, (program.interpret effects state).1 = some value →
      post value (program.interpret effects state).2) ∧
    ((program.interpret effects state).1 = none → stopped (program.interpret effects state).2) := by
  induction program generalizing state with
  | pure value =>
    refine ⟨fun other answered => ?_, nofun⟩
    cases answered
    exact ensured
  | diverge => exact ⟨nofun, fun _ => ensured⟩
  | call request next ih => exact ih _ (ensured.2 () rfl)

/-- The effects with an endless supply of environments, one for each call. -/
def supplied (effects : Effects State Env Call Reply) (supply : Nat → Env) (request : Call)
    (state : State × Nat) : Reply request × (State × Nat) :=
  let ran := effects (supply state.2) request state.1
  (ran.1, ran.2, state.2 + 1)

/-- Code that never stops comes to its end. -/
theorem Ensures.supplied {effects : Effects State Env Call Reply} {check : Check State Env Call}
    {supply : Nat → Env}
    (passes : ∀ count request state, check request (some (supply count)) state = true)
    {state : State} (ensured : program.Ensures effects check (fun _ => False) post state)
    (count : Nat) :
    ∃ value after, program.interpret (Program.supplied effects supply) (state, count) =
      (some value, after) ∧ post value after.1 := by
  induction program generalizing state count with
  | pure value => exact ⟨value, _, rfl, ensured⟩
  | diverge => exact ensured.elim
  | call request next ih => exact ih _ (ensured.2 _ (passes count request state)) (count + 1)

-- proofs use the rules above; unfolding `Walks` would run the program
attribute [irreducible] Walks

end Program

/-- A program that is run again and again over one state, each time with an input, and the steps
and inputs that count as calm. -/
structure Service (State Input Env Call : Type) (Reply : Call → Type) (α : Type) where
  effects : Effects State Env Call Reply
  program : Input → Program Call Reply α
  admissible : Input → State → Bool
  check : Check State Env Call

namespace Service

variable (service : Service State Input Env Call Reply α)

/-- One session: the answer, unless the process stopped, and the state that is left. -/
def session (input : Input) (script : List Env) (state : State) : Option α × State :=
  (service.program input).execute service.effects script state

def Calm (input : Input) (script : List Env) (state : State) : Prop :=
  service.admissible input state = true ∧
    (service.program input).passes service.effects service.check script state = true

instance (input : Input) (script : List Env) (state : State) :
    Decidable (service.Calm input script state) := by
  unfold Calm; infer_instance

/-- The states between the sessions of all runs whose sessions are calm. -/
inductive Reachable (initial : State) : State → Prop where
  | start : Reachable initial initial
  | session {state : State} {input : Input} {script : List Env} (reached : Reachable initial state)
      (calm : service.Calm input script state) :
      Reachable initial (service.session input script state).2

/-- The same service without conditions on its sessions. -/
def free : Service State Input Env Call Reply α :=
  { service with admissible := fun _ _ => true, check := fun _ _ _ => true }

/-- A list of sessions, one after the other. -/
def run (sessions : List (Input × List Env)) (state : State) : State :=
  sessions.foldl (fun state session => (service.session session.1 session.2 state).2) state

/-- Every session of the list is calm. -/
def calmRun : List (Input × List Env) → State → Bool
  | [], _ => true
  | (input, script) :: rest, state =>
    decide (service.Calm input script state) && calmRun rest (service.session input script state).2

variable {state initial : State}

theorem reachable_run (reached : service.Reachable initial state)
    {sessions : List (Input × List Env)} (calm : service.calmRun sessions state = true) :
    service.Reachable initial (service.run sessions state) := by
  induction sessions generalizing state with
  | nil => exact reached
  | cons session rest ih =>
    simp only [calmRun, Bool.and_eq_true, decide_eq_true_eq] at calm
    exact ih (.session reached calm.1) calm.2

variable {service}

section Ensured

variable {invariant : State → Prop} {post : Input → α → State → Prop} (starts : invariant initial)
  (ensured : ∀ input state, service.admissible input state = true → invariant state →
    (service.program input).Ensures service.effects service.check invariant
      (fun value after => invariant after ∧ post input value after) state)
include starts ensured

/-- What holds at the start and is kept by every session, finished or not, holds between the
sessions of every run. -/
theorem reachable_invariant (reached : service.Reachable initial state) : invariant state := by
  induction reached with
  | start => exact starts
  | @session state input script reached calm ih =>
    obtain ⟨answers, stops⟩ := (ensured input state calm.1 ih).execute calm.2
    cases answered : (service.session input script state).1 with
    | none => exact stops answered
    | some value => exact (answers value answered).1

/-- Every answer given in a calm session of a run meets its postcondition, and the invariant holds
when it is given. -/
theorem reachable_answer (reached : service.Reachable initial state) {input : Input}
    (calm : service.Calm input script state)
    (answered : (service.session input script state).1 = some value) :
    invariant (service.session input script state).2 ∧
      post input value (service.session input script state).2 :=
  ((ensured input state calm.1 (reachable_invariant starts ensured reached)).execute calm.2).1
    value answered

end Ensured

section Kept

variable {invariant : State → Prop} {good : Input → State → Call → State → Prop}
  {post : Input → α → State → Prop} (starts : invariant initial)
  (issues : ∀ input start, (service.program input).Issues service.effects service.check
    (good input start) (post input) start)
  (keeps : ∀ {input start request env state}, service.admissible input start = true →
    invariant start → good input start request state →
    service.check request (some env) state = true → invariant state →
    invariant (service.effects env request state).2)
include issues keeps

/-- A session ensures what all of its calls keep. -/
theorem ensured_of_issues (input : Input) (start : State)
    (admitted : service.admissible input start = true) (holds : invariant start) :
    (service.program input).Ensures service.effects service.check invariant
      (fun value after => invariant after ∧ post input value after) start :=
  (issues input start).ensures (fun allowed passed => keeps admitted holds allowed passed) holds

include starts in
/-- What holds at the start and is kept by the calls of every session holds between the sessions of
every run. -/
theorem reachable_kept {state : State} (reached : service.Reachable initial state) : invariant state :=
  reachable_invariant starts (ensured_of_issues issues keeps) reached

end Kept

end Service

end Foundations
