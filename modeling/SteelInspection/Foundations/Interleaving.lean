import SteelInspection.Foundations.Program

/-! # Interleaved programs and rely-guarantee reasoning

Threads run programs over one shared state; a step lets one thread make its next call.  A run may
be limited to steps that meet a side condition (`undisturbed`), which is how statements of the form
"in every run in which nothing happens between this read and that write" are made.

The proof rule is rely-guarantee.  `Safe` walks a program call by call: whatever the other threads
did in between (`rely`), the precondition `good` of the next call holds there, and the rest of the
program is safe at the state the call leaves.  `Discipline.reachable_safe` turns the sequential
facts about every handler into a fact about all interleavings.
-/

namespace Foundations

variable {State Thread Env Call : Type} {Reply : Call → Type} {α β : Type}

/-- What one call does: `none` when the call has to wait (a lock that is taken). -/
abbrev Semantics (State Thread Env Call : Type) (Reply : Call → Type) :=
  Thread → Env → (request : Call) → State → Option (Reply request × State)

/-- The shared state, and for each thread the program it still has to run. -/
structure Machine (State Thread Call : Type) (Reply : Call → Type) (α : Type) where
  shared : State
  threads : Thread → Option (Program Call Reply α)

/-- A scheduling decision: start a program on a thread, or let a thread make its next call. -/
inductive Action (Thread Env Call : Type) (Reply : Call → Type) (α : Type) where
  | spawn (thread : Thread) (program : Program Call Reply α)
  | advance (thread : Thread) (environment : Env)

variable {action : Action Thread Env Call Reply α} {request : Call}

namespace Machine

/-- The answer a thread has given, if it has come to its end. -/
def answer? (machine : Machine State Thread Call Reply α) (thread : Thread) : Option α :=
  match machine.threads thread with
  | some (.pure value) => some value
  | _ => none

/-- The call a thread makes next. -/
def nextCall? (machine : Machine State Thread Call Reply α) (thread : Thread) : Option Call :=
  match machine.threads thread with
  | some (.call request _) => some request
  | _ => none

variable {thread : Thread} {machine next : Machine State Thread Call Reply α}
  {semantics : Semantics State Thread Env Call Reply}

theorem answer?_eq_some {value : α} :
    machine.answer? thread = some value ↔ machine.threads thread = some (.pure value) := by
  constructor
  · intro found
    unfold answer? at found
    split at found
    · grind
    · cases found
  · intro answered
    simp only [answer?, answered]

theorem nextCall?_eq_some : machine.nextCall? thread = some request ↔
      ∃ next, machine.threads thread = some (.call request next) := by
  constructor
  · intro found
    unfold nextCall? at found
    split at found
    · grind
    · cases found
  · rintro ⟨next, running⟩
    simp only [nextCall?, running]

variable [DecidableEq Thread]

def start (shared : State) : Machine State Thread Call Reply α := ⟨shared, fun _ => none⟩

/-- Replaces the program of one thread. -/
def resume (machine : Machine State Thread Call Reply α) (shared : State) (thread : Thread)
    (program : Program Call Reply α) : Machine State Thread Call Reply α :=
  ⟨shared, fun other => if other = thread then some program else machine.threads other⟩

/-- A thread accepts a new program when it has none or has answered. -/
def step (semantics : Semantics State Thread Env Call Reply)
    (machine : Machine State Thread Call Reply α) :
    Action Thread Env Call Reply α → Option (Machine State Thread Call Reply α)
  | .spawn thread program =>
    match machine.threads thread with
    | none | some (.pure _) => some (machine.resume machine.shared thread program)
    | some (.call _ _) | some .diverge => none
  | .advance thread environment =>
    match machine.threads thread with
    | some (.call request next) =>
      match semantics thread environment request machine.shared with
      | some (reply, shared) => some (machine.resume shared thread (next reply))
      | none => none
    | _ => none

/-- Runs a schedule; `none` when one of its actions is not enabled, or makes a call that does not
pass the check. -/
def runChecked (semantics : Semantics State Thread Env Call Reply)
    (check : Thread → Call → State → Bool) :
    Machine State Thread Call Reply α → List (Action Thread Env Call Reply α) →
      Option (Machine State Thread Call Reply α)
  | machine, [] => some machine
  | machine, action :: actions =>
    match machine.step semantics action with
    | none => none
    | some next =>
      match action with
      | .spawn _ _ => next.runChecked semantics check actions
      | .advance thread _ =>
        if (machine.nextCall? thread).all fun request => check thread request machine.shared then
          next.runChecked semantics check actions
        else none

section

variable (machine : Machine State Thread Call Reply α)

theorem runChecked_append (semantics : Semantics State Thread Env Call Reply)
    (check : Thread → Call → State → Bool) (first second : List (Action Thread Env Call Reply α)) :
    machine.runChecked semantics check (first ++ second) =
      (machine.runChecked semantics check first).bind
        fun next => next.runChecked semantics check second := by
  induction first generalizing machine with
  | nil => rfl
  | cons action first ih =>
    simp only [List.cons_append, runChecked]
    split
    · rfl
    split
    · exact ih _
    · split
      · exact ih _
      · rfl

theorem resume_threads_self (shared : State) (thread : Thread) (program : Program Call Reply α) :
    (machine.resume shared thread program).threads thread = some program := by
  simp [resume]

theorem resume_threads_other (shared : State) {other : Thread} (program : Program Call Reply α)
    (different : other ≠ thread) :
    (machine.resume shared thread program).threads other = machine.threads other := by
  simp [resume, different]

end

theorem idle_of_spawn {program : Program Call Reply α}
    (stepped : machine.step semantics (.spawn thread program) = some next) :
    machine.threads thread = none ∨ ∃ value, machine.threads thread = some (.pure value) := by
  simp only [step] at stepped
  split at stepped
  next idle =>
    exact .inl idle
  next value answered =>
    exact .inr ⟨value, answered⟩
  · cases stepped
  · cases stepped

theorem step_cases (stepped : machine.step semantics action = some next) :
    (∃ thread program, action = .spawn thread program ∧
      next = machine.resume machine.shared thread program) ∨
    (∃ thread env request continuation reply shared, action = .advance thread env ∧
      machine.threads thread = some (.call request continuation) ∧
      semantics thread env request machine.shared = some (reply, shared) ∧
      next = machine.resume shared thread (continuation reply)) := by
  cases action with
  | spawn thread program =>
    left
    simp only [step] at stepped
    split at stepped
    · exact ⟨thread, program, rfl, (Option.some.inj stepped).symm⟩
    · exact ⟨thread, program, rfl, (Option.some.inj stepped).symm⟩
    · cases stepped
    · cases stepped
  | advance thread env =>
    right
    simp only [step] at stepped
    split at stepped
    · grind
    · cases stepped

theorem shared_of_advance {env : Env} {reply : Reply request} {after : State}
    (asks : machine.nextCall? thread = some request)
    (ran : semantics thread env request machine.shared = some (reply, after))
    (stepped : machine.step semantics (.advance thread env) = some next) : next.shared = after := by
  obtain ⟨continuation, running⟩ := nextCall?_eq_some.mp asks
  simp only [step, running, ran, Option.some.injEq] at stepped
  rw [← stepped, resume]

end Machine

/-- The rules a system runs under: what a call does, which programs may be started on a thread,
which steps count as undisturbed, and where the shared state starts. -/
structure Rules (State Thread Env Call : Type) (Reply : Call → Type) (α : Type) where
  semantics : Semantics State Thread Env Call Reply
  handler : Thread → Program Call Reply α → Prop
  undisturbed : Thread → Call → State → Prop
  initial : State → Prop

namespace Rules

variable [DecidableEq Thread]

def Allowed (rules : Rules State Thread Env Call Reply α)
    (machine : Machine State Thread Call Reply α) : Action Thread Env Call Reply α → Prop
  | .spawn thread program => rules.handler thread program
  | .advance thread _ =>
    ∀ request, machine.nextCall? thread = some request →
      rules.undisturbed thread request machine.shared

/-- The states of all runs whose steps are allowed. -/
inductive Reachable (rules : Rules State Thread Env Call Reply α) :
    Machine State Thread Call Reply α → Prop where
  | start {shared : State} (initial : rules.initial shared) : Reachable rules (.start shared)
  | step {machine next : Machine State Thread Call Reply α}
      {action : Action Thread Env Call Reply α} (reached : Reachable rules machine)
      (allowed : rules.Allowed machine action)
      (stepped : machine.step rules.semantics action = some next) : Reachable rules next

/-- Allowed steps from one machine to another, with the actions taken. -/
inductive Path (rules : Rules State Thread Env Call Reply α) :
    Machine State Thread Call Reply α → List (Action Thread Env Call Reply α) →
      Machine State Thread Call Reply α → Prop where
  | done {machine : Machine State Thread Call Reply α} : Path rules machine [] machine
  | step {machine next last : Machine State Thread Call Reply α}
      {action : Action Thread Env Call Reply α} {actions : List (Action Thread Env Call Reply α)}
      (allowed : rules.Allowed machine action)
      (stepped : machine.step rules.semantics action = some next)
      (rest : Path rules next actions last) : Path rules machine (action :: actions) last

variable {actions : List (Action Thread Env Call Reply α)}
  {last machine : Machine State Thread Call Reply α} {rules : Rules State Thread Env Call Reply α}

theorem Path.reachable (path : rules.Path machine actions last) (reached : rules.Reachable machine) :
    rules.Reachable last := by
  induction path with
  | done => exact reached
  | step allowed stepped _ ih =>
    exact ih (.step reached allowed stepped)

theorem Allowed.keeps {next : Machine State Thread Call Reply α}
    (allowed : rules.Allowed machine action)
    (stepped : machine.step rules.semantics action = some next) {inv : State → Prop}
    (initially : inv machine.shared)
    (keeps : ∀ {thread env request reply after}, machine.nextCall? thread = some request →
      rules.undisturbed thread request machine.shared →
      rules.semantics thread env request machine.shared = some (reply, after) → inv after) :
    inv next.shared := by
  obtain ⟨thread, program, rfl, rfl⟩ |
    ⟨thread, env, request, continuation, reply, shared, rfl, running, ran, rfl⟩ :=
    Machine.step_cases stepped
  · exact initially
  · have asked : machine.nextCall? thread = some request :=
      Machine.nextCall?_eq_some.mpr ⟨continuation, running⟩
    exact keeps asked (allowed request asked) ran

theorem Path.keeps (path : rules.Path machine actions last) (inv : State → Prop)
    (initially : inv machine.shared)
    (keeps : ∀ {thread env request shared reply after}, inv shared →
      rules.undisturbed thread request shared →
      rules.semantics thread env request shared = some (reply, after) → inv after) :
    inv last.shared := by
  induction path with
  | done => exact initially
  | step allowed stepped _ ih =>
    exact ih
      (allowed.keeps stepped initially fun _ calm ran => keeps initially calm ran)

/-- Every call of every run keeps `inv`. -/
abbrev Keeps (rules : Rules State Thread Env Call Reply α) (inv : State → Prop) : Prop :=
  ∀ {machine}, rules.Reachable machine → inv machine.shared →
    ∀ {thread env request reply after}, machine.nextCall? thread = some request →
      rules.undisturbed thread request machine.shared →
      rules.semantics thread env request machine.shared = some (reply, after) → inv after

/-- What every call of every run keeps still holds at the end of a path that continues a run. -/
theorem Path.invariant (path : rules.Path machine actions last) (reached : rules.Reachable machine)
    (inv : State → Prop) (initially : inv machine.shared) (keeps : rules.Keeps inv) :
    inv last.shared := by
  induction path with
  | done => exact initially
  | step allowed stepped _ ih =>
    exact ih (.step reached allowed stepped)
      (allowed.keeps stepped initially fun asked calm ran =>
        keeps reached initially asked calm ran)

/-- The same system without the side condition on its steps. -/
def free (rules : Rules State Thread Env Call Reply α) : Rules State Thread Env Call Reply α :=
  { rules with undisturbed := fun _ _ _ => True }

/-- The same system without the steps that make one of these calls. -/
def avoiding (rules : Rules State Thread Env Call Reply α) (forbidden : Call → Prop) :
    Rules State Thread Env Call Reply α :=
  { rules with
    undisturbed := fun thread request shared =>
      rules.undisturbed thread request shared ∧ ¬ forbidden request }

omit [DecidableEq Thread] in
theorem Allowed.of_avoiding {forbidden : Call → Prop}
    (allowed : (rules.avoiding forbidden).Allowed machine action) :
    rules.Allowed machine action := by
  cases action with
  | spawn thread program => exact allowed
  | advance thread env => exact fun request next => (allowed request next).1

section

variable (reached : rules.Reachable machine)
include reached

theorem Reachable.transfer {other : Rules State Thread Env Call Reply α}
    (initial : ∀ {shared}, rules.initial shared → other.initial shared)
    (handlers : ∀ {thread program}, rules.handler thread program → other.handler thread program)
    (executes : ∀ {thread env request shared reply after},
      rules.semantics thread env request shared = some (reply, after) →
      ∃ elsewhere, other.semantics thread elsewhere request shared = some (reply, after))
    (calm : ∀ {machine}, rules.Reachable machine → other.Reachable machine →
      ∀ {thread request}, machine.nextCall? thread = some request →
      rules.undisturbed thread request machine.shared →
      other.undisturbed thread request machine.shared) : other.Reachable machine := by
  induction reached with
  | start started => exact .start (initial started)
  | @step machine next action reached allowed stepped ih =>
    obtain ⟨thread, program, rfl, -⟩ |
      ⟨thread, env, request, continuation, reply, shared, rfl, running, ran, rfl⟩ :=
      Machine.step_cases stepped
    · have started : other.Allowed machine (.spawn thread program) := handlers allowed
      exact .step ih started stepped
    obtain ⟨elsewhere, same⟩ := executes ran
    have quiet : other.Allowed machine (.advance thread elsewhere) := fun asked found =>
      calm reached ih found (allowed asked found)
    refine .step ih quiet ?_
    simp only [Machine.step, running, same]

theorem Reachable.free : rules.free.Reachable machine :=
  reached.transfer (fun initial => initial) (fun handler => handler)
    (fun ran => ⟨_, ran⟩) fun _ _ _ _ _ _ => trivial

/-- The same system without the steps that fail to meet `fact`. -/
def assuming (rules : Rules State Thread Env Call Reply α) (fact : Thread → Call → State → Prop) :
    Rules State Thread Env Call Reply α :=
  { rules with
    undisturbed := fun thread request shared =>
      rules.undisturbed thread request shared ∧ fact thread request shared }

/-- What every call of every run meets can be assumed of each step. -/
theorem Reachable.assuming {fact : Thread → Call → State → Prop}
    (holds : ∀ {machine}, rules.Reachable machine →
      ∀ {thread request}, machine.nextCall? thread = some request →
      fact thread request machine.shared) : (rules.assuming fact).Reachable machine := by
  refine reached.transfer (fun initial => initial) (fun handler => handler) ?_ ?_
  · exact fun ran => ⟨_, ran⟩
  · exact fun earlier _ _ _ next calm => ⟨calm, holds earlier next⟩

/-- What holds at the start and is kept by every call of every run holds in every run. -/
theorem Reachable.invariant (inv : State → Prop)
    (initially : ∀ {shared}, rules.initial shared → inv shared) (keeps : rules.Keeps inv) :
    inv machine.shared := by
  induction reached with
  | start initial => exact initially initial
  | step reached allowed stepped ih =>
    exact allowed.keeps stepped ih fun asked calm ran =>
      keeps reached ih asked calm ran

/-- What holds of the programs that are started, and of what is left of a program after each of its
calls, holds of all programs that run. -/
theorem reachable_programs {holds : Thread → Program Call Reply α → Prop}
    (handlers : ∀ thread program, rules.handler thread program → holds thread program)
    (rests : ∀ {thread request next}, holds thread (.call request next) → ∀ reply,
      holds thread (next reply))
    {thread : Thread} {program : Program Call Reply α}
    (running : machine.threads thread = some program) : holds thread program := by
  induction reached generalizing thread program with
  | start initial => cases running
  | @step machine next action reached admitted stepped ih =>
    obtain ⟨started, code, rfl, rfl⟩ |
      ⟨moved, env, request, continuation, reply, shared, rfl, before, ran, rfl⟩ :=
      Machine.step_cases stepped
    · by_cases same : thread = started
      · subst same
        rw [Machine.resume_threads_self, Option.some.injEq] at running
        exact running ▸ handlers thread code admitted
      · rw [Machine.resume_threads_other _ _ _ same] at running
        exact ih running
    · by_cases same : thread = moved
      · subst same
        rw [Machine.resume_threads_self, Option.some.injEq] at running
        exact running ▸ rests (ih before) reply
      · rw [Machine.resume_threads_other _ _ _ same] at running
        exact ih running

end

/-- Every program that a schedule starts is a handler. -/
def Spawns (handler : Thread → Program Call Reply α → Prop) :
    List (Action Thread Env Call Reply α) → Prop
  | [] => True
  | .spawn thread program :: actions => handler thread program ∧ Spawns handler actions
  | .advance _ _ :: actions => Spawns handler actions

/-- A schedule that starts only handlers and passes a check for the side condition is a path. -/
theorem path_runChecked (rules : Rules State Thread Env Call Reply α)
    {check : Thread → Call → State → Bool}
    (sound : ∀ thread request shared, check thread request shared = true →
      rules.undisturbed thread request shared)
    (ran : machine.runChecked rules.semantics check actions = some last)
    (spawned : Spawns rules.handler actions) : rules.Path machine actions last := by
  induction actions generalizing machine with
  | nil =>
    simp only [Machine.runChecked, Option.some.injEq] at ran
    exact ran ▸ .done
  | cons action actions ih =>
    simp only [Machine.runChecked] at ran
    split at ran
    · cases ran
    rename_i next stepped
    cases action with
    | spawn thread program => exact .step spawned.1 stepped (ih ran spawned.2)
    | advance thread env =>
      simp only at ran
      split at ran
      next passed =>
        refine .step (fun request found => sound thread request _ ?_) stepped (ih ran spawned)
        simpa [found] using passed
      · cases ran

/-- A schedule that can be run shows that a machine with these facts is reachable. -/
theorem exists_reachable {facts : Machine State Thread Call Reply α → β} {value : β}
    (check : Thread → Call → State → Bool) (shared : State)
    (actions : List (Action Thread Env Call Reply α))
    (sound : ∀ thread request shared, check thread request shared = true →
      rules.undisturbed thread request shared)
    (initial : rules.initial shared) (spawned : Spawns rules.handler actions)
    (seen : ((Machine.start shared).runChecked rules.semantics check actions).map facts =
      some value) : ∃ machine, rules.Reachable machine ∧ facts machine = value := by
  obtain ⟨machine, ran, same⟩ := Option.map_eq_some_iff.mp seen
  exact ⟨machine, (path_runChecked rules sound ran spawned).reachable (.start initial), same⟩

end Rules

/-- The proof obligations of a rely-guarantee argument, one call at a time. -/
structure Discipline (rules : Rules State Thread Env Call Reply α) where
  /-- Holds of the shared state between any two calls. -/
  inv : State → Prop
  /-- What the other threads may do while this one waits. -/
  rely : Thread → State → State → Prop
  /-- What has to hold of the state when this thread makes this call. -/
  good : Thread → Call → State → Prop
  rely_refl : ∀ thread shared, rely thread shared shared
  rely_trans : ∀ thread {first second third}, rely thread first second →
    rely thread second third → rely thread first third
  inv_initial : ∀ {shared}, rules.initial shared → inv shared
  inv_call : ∀ {thread environment request shared reply next}, inv shared →
    good thread request shared → rules.undisturbed thread request shared →
    rules.semantics thread environment request shared = some (reply, next) → inv next
  rely_call : ∀ {thread other environment request shared reply next}, other ≠ thread →
    inv shared → good thread request shared → rules.undisturbed thread request shared →
    rules.semantics thread environment request shared = some (reply, next) →
    rely other shared next

namespace Discipline

variable {rules : Rules State Thread Env Call Reply α}

/-- From `shared` on, whatever the others do, every call of the program meets its precondition and
the answer meets `post`. -/
def Safe (discipline : Discipline rules) (thread : Thread) (post : β → State → Prop) :
    Program Call Reply β → State → Prop
  | .pure value, shared => post value shared
  | .diverge, _ => True
  | .call request next, shared =>
    ∀ current, discipline.rely thread shared current → discipline.inv current →
      discipline.good thread request current ∧
      (rules.undisturbed thread request current → ∀ environment reply after,
        rules.semantics thread environment request current = some (reply, after) →
          discipline.inv after → Safe discipline thread post (next reply) after)

/-- The same without a demand on the answer. -/
abbrev Obeys (discipline : Discipline rules) (thread : Thread) :
    Program Call Reply β → State → Prop :=
  discipline.Safe thread fun _ _ => True

variable {discipline : Discipline rules} {thread : Thread}

variable {post : β → State → Prop} {shared : State} {program : Program Call Reply β}
  {known : Thread → Option α → State → Prop} {machine : Machine State Thread Call Reply α}
  {allowed : Call → Prop} {knows : State → Prop} {γ : Type} {last : γ → State → Prop}

theorem Safe.pure {value : β} (holds : post value shared) :
    discipline.Safe thread post (.pure value) shared := holds

theorem Safe.diverge : discipline.Safe thread post .diverge shared := trivial

section

variable (safe : discipline.Safe thread post program shared)
include safe

theorem Safe.mono {other : β → State → Prop}
    (implies : ∀ value current, post value current → other value current) :
    discipline.Safe thread other program shared := by
  induction program generalizing shared with
  | pure value => exact implies _ _ safe
  | diverge => trivial
  | call request next ih =>
    intro current relied kept
    obtain ⟨holds, rest⟩ := safe current relied kept
    exact ⟨holds, fun calm env reply after ran afterKept =>
      ih reply (rest calm env reply after ran afterKept)⟩

theorem Safe.bind {next : β → Program Call Reply γ}
    (continues : ∀ value current, post value current →
      discipline.Safe thread last (next value) current) :
    discipline.Safe thread last (program >>= next) shared := by
  induction program generalizing shared with
  | pure value => exact continues value shared safe
  | diverge => trivial
  | call request rest ih =>
    intro current relied kept
    obtain ⟨holds, remaining⟩ := safe current relied kept
    exact ⟨holds, fun calm env reply after ran afterKept =>
      ih reply (remaining calm env reply after ran afterKept)⟩

end

theorem Safe.ask (request : Call) {post : Reply request → State → Prop}
    (holds : ∀ current, discipline.rely thread shared current → discipline.inv current →
      discipline.good thread request current)
    (returns : ∀ current, discipline.rely thread shared current → discipline.inv current →
      rules.undisturbed thread request current →
      ∀ env reply after, rules.semantics thread env request current = some (reply, after) →
      discipline.inv after → post reply after) :
    discipline.Safe thread post (Program.ask request) shared :=
  fun current relied kept => ⟨holds current relied kept,
    fun calm env reply after ran afterKept =>
      returns current relied kept calm env reply after ran afterKept⟩

/-- The rule for a call whose reply does not matter. -/
theorem Safe.ask_any (request : Call)
    (holds : ∀ current, discipline.rely thread shared current → discipline.inv current →
      discipline.good thread request current) :
    discipline.Obeys thread (Program.ask request) shared :=
  .ask request holds fun _ _ _ _ _ _ _ _ _ => trivial

/-- The rule for a call where what matters is known and kept by the others. -/
theorem Safe.knowing (request : Call) {post : Reply request → State → Prop}
    (known : ∀ {current}, discipline.rely thread shared current → knows current)
    (holds : ∀ {current}, knows current → discipline.good thread request current)
    (returns : ∀ {current env reply after}, knows current →
      rules.semantics thread env request current = some (reply, after) → post reply after) :
    discipline.Safe thread post (Program.ask request) shared :=
  .ask request (fun _ relied _ => holds (known relied))
    fun _ relied _ _ _ _ _ ran _ => returns (known relied) ran

theorem Safe.attempt {ε : Type} {post : Except ε β → State → Prop}
    {last : Except ε γ → State → Prop} {program : Attempt Call Reply ε β}
    {next : β → Attempt Call Reply ε γ} (safe : discipline.Safe thread post program.run shared)
    (continues : ∀ value current, post (.ok value) current →
      discipline.Safe thread last (next value).run current)
    (fails : ∀ error current, post (.error error) current → last (.error error) current) :
    discipline.Safe thread last (program >>= next).run shared := by
  refine safe.bind fun outcome current holds => ?_
  cases outcome with
  | ok value => exact continues value current holds
  | error error => exact fails error current holds

/-- The rule for a step after which every error is passed on. -/
theorem Safe.andThen {ε : Type} {failed : State → Prop} {program : Attempt Call Reply ε β}
    {next : β → Attempt Call Reply ε γ}
    (safe : discipline.Safe thread (Returns post failed) program.run shared)
    (continues : ∀ value current, post value current →
      discipline.Safe thread (Returns last failed) (next value).run current) :
    discipline.Safe thread (Returns last failed) (program >>= next).run shared :=
  safe.attempt continues fun _ _ failed => failed

section lift

variable {Part : Type} {PartReply : Part → Type} {embed : Part → Call}
  {back : ∀ request, Reply (embed request) → PartReply request}

theorem Safe.lift_bind {post : β → State → Prop} {program : Program Part PartReply β}
    {next : β → Program Part PartReply γ} {shared : State}
    (safe : discipline.Safe thread post (program.lift embed back) shared)
    (continues : ∀ value current, post value current →
      discipline.Safe thread last ((next value).lift embed back) current) :
    discipline.Safe thread last ((program >>= next).lift embed back) shared := by
  rw [Program.lift_bind]
  exact safe.bind continues

end lift

section

variable
  (stable : ∀ {shared current}, discipline.rely thread shared current → knows shared →
    knows current)
include stable

/-- The frame rule: a fact that the others keep and that every call of the program keeps is still
there when the program ends. -/
theorem Safe.of_calls
    (holds : ∀ {request shared}, allowed request → discipline.inv shared → knows shared →
      discipline.good thread request shared)
    (keeps : ∀ {request env shared reply after}, allowed request → discipline.inv shared →
      knows shared → rules.undisturbed thread request shared →
      rules.semantics thread env request shared = some (reply, after) → knows after)
    (calls : program.Calls allowed) (known : knows shared) :
    discipline.Safe thread (fun _ => knows) program shared := by
  induction program generalizing shared with
  | pure value => exact known
  | diverge => trivial
  | call request next ih =>
    intro current relied kept
    obtain ⟨first, rest⟩ := Program.calls_call.mp calls
    have stillKnown := stable relied known
    exact ⟨holds first kept stillKnown, fun calm env reply after ran _ =>
      ih reply (rest reply) (keeps first kept stillKnown calm ran)⟩

/-- A fact that neither the others nor the calls of the program can end is carried along. -/
theorem Safe.carry
    (keeps : ∀ {request env shared reply after}, allowed request →
      rules.semantics thread env request shared = some (reply, after) → knows shared → knows after)
    (calls : program.Calls allowed) (safe : discipline.Safe thread post program shared)
    (known : knows shared) :
    discipline.Safe thread (fun value current => post value current ∧ knows current) program
      shared := by
  induction program generalizing shared with
  | pure value => exact ⟨safe, known⟩
  | diverge => trivial
  | call request next ih =>
    intro current relied kept
    obtain ⟨holds, rest⟩ := safe current relied kept
    obtain ⟨first, later⟩ := Program.calls_call.mp calls
    exact ⟨holds, fun calm env reply after ran afterKept =>
      ih reply (later reply) (rest calm env reply after ran afterKept)
        (keeps first ran (stable relied known))⟩

end

theorem Safe.of_any
    (holds : ∀ {request shared}, discipline.inv shared → discipline.good thread request shared)
    (meets : ∀ value shared, post value shared) (program : Program Call Reply β) (shared : State) :
    discipline.Safe thread post program shared :=
  (Safe.of_calls (fun _ _ => trivial) (fun _ kept _ => holds kept) (fun _ _ _ _ _ => trivial)
    (Program.calls_any program) trivial).mono fun value current _ => meets value current

/-- A thread stays safe while the others move, when they keep what its answer has to meet. -/
theorem Safe.rely {current : State} (safe : discipline.Safe thread post program shared)
    (relied : discipline.rely thread shared current)
    (stable : ∀ {value shared current}, discipline.rely thread shared current → post value shared →
      post value current) : discipline.Safe thread post program current := by
  cases program with
  | pure _ => exact stable relied safe
  | diverge => trivial
  | call request next =>
    intro later further kept
    exact safe later (discipline.rely_trans thread relied further) kept

/-- What is known of a thread between its programs, by the answer it has given if any; while one
runs, that it will be known at the end. -/
def Settles (discipline : Discipline rules) (known : Thread → Option α → State → Prop)
    (machine : Machine State Thread Call Reply α) (thread : Thread) : Prop :=
  match machine.threads thread with
  | none => known thread none machine.shared
  | some program =>
    discipline.Safe thread (fun value => known thread (some value)) program machine.shared

theorem Settles.of_none (idle : machine.threads thread = none) :
    discipline.Settles known machine thread ↔ known thread none machine.shared := by
  simp only [Settles, idle]

theorem Settles.of_some {program : Program Call Reply α}
    (running : machine.threads thread = some program) : discipline.Settles known machine thread ↔
      discipline.Safe thread (fun value => known thread (some value)) program machine.shared := by
  simp only [Settles, running]

theorem Settles.rests (settles : discipline.Settles known machine thread)
    (idle : machine.threads thread = none ∨ ∃ value, machine.threads thread = some (.pure value)) :
    ∃ answer, known thread answer machine.shared := by
  rcases idle with idle | ⟨value, answered⟩
  · exact ⟨none, (Settles.of_none idle).mp settles⟩
  · exact ⟨some value, (Settles.of_some answered).mp settles⟩

variable [DecidableEq Thread]

theorem Settles.resume_other {other : Thread} (settles : discipline.Settles known machine other)
    (different : other ≠ thread) (relied : discipline.rely other machine.shared shared)
    (stable : ∀ {thread answer shared current}, discipline.rely thread shared current →
      known thread answer shared → known thread answer current) (program : Program Call Reply α) :
    discipline.Settles known (machine.resume shared thread program) other := by
  have same := Machine.resume_threads_other machine shared program different
  cases running : machine.threads other with
  | none =>
    rw [running] at same
    exact (Settles.of_none same).mpr (stable relied ((Settles.of_none running).mp settles))
  | some code =>
    rw [running] at same
    exact (Settles.of_some same).mpr (((Settles.of_some running).mp settles).rely relied stable)

section Knowing

variable (discipline known)
  (initially : ∀ {thread shared}, rules.initial shared → known thread none shared)
  (stable : ∀ {thread answer shared current}, discipline.rely thread shared current →
    known thread answer shared → known thread answer current)
  (handlers : ∀ thread program answer shared, rules.handler thread program → discipline.inv shared →
    known thread answer shared →
    discipline.Safe thread (fun value => known thread (some value)) program shared)
include initially stable handlers

/-- The invariant holds and every thread settles in every reachable machine, provided every
handler is safe from any state that satisfies the invariant. -/
theorem reachable_settles (reached : rules.Reachable machine) :
    discipline.inv machine.shared ∧ ∀ thread, discipline.Settles known machine thread := by
  induction reached with
  | start initial =>
    exact ⟨discipline.inv_initial initial, fun _ => (Settles.of_none rfl).mpr (initially initial)⟩
  | @step machine next action reached allowed stepped ih =>
    obtain ⟨kept, settles⟩ := ih
    obtain ⟨thread, program, rfl, rfl⟩ |
      ⟨thread, env, request, continuation, reply, shared, rfl, running, ran, rfl⟩ :=
      Machine.step_cases stepped
    · refine ⟨kept, fun other => ?_⟩
      by_cases same : other = thread
      · subst same
        obtain ⟨answer, resting⟩ := (settles other).rests (Machine.idle_of_spawn stepped)
        exact (Settles.of_some (Machine.resume_threads_self _ _ _ _)).mpr
          (handlers other program answer machine.shared allowed kept resting)
      · exact (settles other).resume_other same (discipline.rely_refl other _) stable program
    · have calm : rules.undisturbed thread request machine.shared :=
        allowed request (Machine.nextCall?_eq_some.mpr ⟨continuation, running⟩)
      obtain ⟨holds, remaining⟩ := (Settles.of_some running).mp (settles thread) machine.shared
        (discipline.rely_refl thread machine.shared) kept
      have nextKept : discipline.inv shared := discipline.inv_call kept holds calm ran
      refine ⟨nextKept, fun other => ?_⟩
      by_cases same : other = thread
      · subst same
        exact (Settles.of_some (Machine.resume_threads_self _ _ _ _)).mpr
          (remaining calm env reply shared ran nextKept)
      · exact (settles other).resume_other same
          (discipline.rely_call same kept holds calm ran) stable _

/-- The precondition of a call holds whenever a thread of a reachable machine is about to make it,
provided every handler is safe from what is known between two programs. -/
theorem reachable_good_knowing (reached : rules.Reachable machine) {thread : Thread}
    (next : machine.nextCall? thread = some request) :
    discipline.good thread request machine.shared := by
  obtain ⟨kept, settles⟩ := discipline.reachable_settles known initially stable handlers reached
  obtain ⟨continuation, running⟩ := Machine.nextCall?_eq_some.mp next
  exact ((Settles.of_some running).mp (settles thread) machine.shared
    (discipline.rely_refl thread _) kept).1

end Knowing

section

variable (discipline)
include discipline

/-- What the answer of a thread has to meet still holds in every machine after it. -/
theorem reachable_answer (post : Thread → α → State → Prop)
    (stable : ∀ {thread value shared current}, discipline.rely thread shared current →
      post thread value shared → post thread value current)
    (handlers : ∀ thread program shared, rules.handler thread program → discipline.inv shared →
      discipline.Safe thread (post thread) program shared)
    (reached : rules.Reachable machine) {thread : Thread} {value : α}
    (answered : machine.answer? thread = some value) : post thread value machine.shared := by
  have settles := (discipline.reachable_settles
    (fun thread answer shared => ∀ value, answer = some value → post thread value shared)
    (fun _ => nofun) (fun relied known value given => stable relied (known value given))
    (fun thread program _ shared handler inv _ =>
      (handlers thread program shared handler inv).mono
        fun value current holds other given => Option.some.inj given ▸ holds) reached).2 thread
  exact Settles.of_some (Machine.answer?_eq_some.mp answered) |>.mp settles value rfl

variable
  (handlers : ∀ thread program shared, rules.handler thread program → discipline.inv shared →
    discipline.Obeys thread program shared)
  (reached : rules.Reachable machine)
include handlers reached

theorem reachable_safe :
    discipline.inv machine.shared ∧ ∀ thread program, machine.threads thread = some program →
      discipline.Obeys thread program machine.shared := by
  obtain ⟨kept, settles⟩ := discipline.reachable_settles (fun _ _ _ => True) (fun _ => trivial)
    (fun _ _ => trivial)
    (fun thread program _ shared handler inv _ => handlers thread program shared handler inv) reached
  exact ⟨kept, fun thread program running => (Settles.of_some running).mp (settles thread)⟩

/-- The same for handlers that are safe from any state. -/
theorem reachable_good {thread : Thread} (next : machine.nextCall? thread = some request) :
    discipline.good thread request machine.shared :=
  discipline.reachable_good_knowing (fun _ _ _ => True) (fun _ => trivial) (fun _ _ => trivial)
    (fun thread program _ shared handler inv _ => handlers thread program shared handler inv)
    reached next

end

-- proofs about a program use the rules above; unfolding `Safe` would run the program
attribute [irreducible] Safe

end Discipline

end Foundations
