import SteelInspection.Tasks.Discipline
import SteelInspection.Tasks.Operations

/-! # Blocked tasks and the retry of what blocks them

The worker decides that a task is blocked in one statement and writes it in a later one; a retry
requeues a task and then the tasks that are blocked behind it.  In every run in which the worker's
decision still stands when it is written, a task that is blocked while no request is in progress is
blocked for a reason that is still there.  `retry_leaves_task_blocked` is a run in which it does
not stand: the retry comes between the decision and the write, and the task stays blocked behind a
dependency that succeeds.
-/

namespace SteelInspection.Tasks

open Foundations Discipline

/-- The dependency belongs to another chain, session or material. -/
def mismatched (task dependency : ProductionTask) : Bool :=
  dependency.chainId ≠ task.chainId || dependency.sessionId ≠ task.sessionId ||
    dependency.materialId ≠ task.materialId

/-- The dependency is missing, mismatched, or itself failed, cancelled, interrupted or blocked. -/
def blockJustified (tasks : TaskTable) (task : ProductionTask) : Bool :=
  (tasks.find? task.dependsOnTaskId).all fun dependency =>
    mismatched task dependency || dependency.status.isRetryable

def AllJustified (tasks : TaskTable) : Prop :=
  ∀ row ∈ tasks.rows, row.status = .blocked → blockJustified tasks row = true

instance (tasks : TaskTable) : Decidable (AllJustified tasks) :=
  inferInstanceAs (Decidable (∀ row ∈ tasks.rows, _ → _))

/-- The write of `mark_production_task_blocked` finds the task in the situation in which it was
decided: it depends on itself, or its dependency still blocks it.  A task that is no longer queued
is not written. -/
def blockUndisturbed : Call → Shared → Bool
  | .execute (.markBlocked id _), shared =>
    (shared.tasks.find? id).all fun row =>
      row.status ≠ .queued || row.dependsOnTaskId = row.id || blockJustified shared.tasks row
  | _, _ => true

inductive RetryHandler : Thread → Code TaskAnswer → Prop where
  | worker (offline : Bool) (fuel : Nat) : RetryHandler .worker (startWorker offline fuel)
  | retry (request fuel : Nat) (body : Option Json) (actor : String) :
    RetryHandler (.admin request) (retryResponse fuel body actor)

/-- The statements of a retry request are answered; those of the worker may fail. -/
def Env.answering (env : Env) : Thread → Env
  | .worker => env
  | .admin _ => { env with connection := .works }

/-- The worker and any number of retry requests. -/
def retryRules : Rules Shared Thread Env Call Call.Reply TaskAnswer where
  semantics thread env := semantics thread (env.answering thread)
  handler := RetryHandler
  undisturbed _ request shared := blockUndisturbed request shared = true
  initial shared := shared.adminLock = none ∧ AllJustified shared.tasks

/-- No operation is in progress: every request has been answered, and the worker is about to look
for its next task. -/
structure Idle (machine : Machine Shared Thread Call Call.Reply TaskAnswer) : Prop where
  requests : ∀ request, machine.threads (.admin request) = none ∨
    ∃ answer, machine.threads (.admin request) = some (.pure answer)
  worker : machine.threads .worker = none ∨ ∃ fuel, machine.threads .worker = some (workerLoop fuel)

/-! ## What every call of a run meets -/

/-- The calls of a thread, as far as the blocked tasks depend on them. -/
def HandlerCalls : Thread → Call → Prop
  | .worker, _ => True
  | .admin _, request => RetryCalls request

variable {thread : Thread} {machine : Machine Shared Thread Call Call.Reply TaskAnswer}
  {row : ProductionTask} {id : TaskId}

theorem handlerCalls {program : Code TaskAnswer} (handler : RetryHandler thread program) :
    program.Calls (HandlerCalls thread) := by
  cases handler with
  | worker offline fuel => exact Program.calls_any _
  | retry request fuel body actor => exact calls_retryResponse fuel body actor

section

variable (reached : retryRules.Reachable machine)
include reached

theorem handlerCalls_next {request : Call} (next : machine.nextCall? thread = some request) :
    HandlerCalls thread request := by
  obtain ⟨continuation, running⟩ := Machine.nextCall?_eq_some.mp next
  have calls := Rules.reachable_programs reached (fun _ _ handler => handlerCalls handler)
    (fun calls => (Program.calls_call.mp calls).2) running
  exact (Program.calls_call.mp calls).1

/-- Runs with retry requests only are runs of the queue in which no cancel request is disturbed. -/
theorem queue_reachable : queueRules.Reachable machine := by
  refine reached.transfer (fun initial => initial.1) ?_ ?_ ?_
  · intro thread program handler
    cases handler with
    | worker offline fuel => exact .worker offline fuel
    | retry request fuel body actor => exact .retry request fuel body actor
  · exact fun ran => ⟨_, ran⟩
  · intro machine reached queueReached thread request next _
    have permitted := reachable_permitted queueReached next
    have calls := handlerCalls_next reached next
    show cancelUndisturbed request machine.shared = true
    unfold cancelUndisturbed
    split
    · -- neither the worker nor a retry request writes a cancellation
      cases thread with
      | worker => exact permitted.elim
      | admin _ => exact calls.elim
    · rfl

def Orderly (thread : Thread) (request : Call) (shared : Shared) : Prop :=
  Permitted thread request shared ∧ HandlerCalls thread request

theorem orderly_reachable : (retryRules.assuming Orderly).Reachable machine :=
  reached.assuming fun earlier _ _ next =>
    ⟨reachable_permitted (queue_reachable earlier) next, handlerCalls_next earlier next⟩

end

/-! ## Blocked tasks that a retry has still to reach -/

/-- Every blocked task is blocked for a reason, or waits to be requeued: a retry has requeued what it
depends on (`frontier`), or has already read it as blocked behind that (`dependents`). -/
def Pending (frontier dependents : List TaskId) (tasks : TaskTable) : Prop :=
  ∀ row ∈ tasks.rows, row.status = .blocked →
    blockJustified tasks row = true ∨ row.dependsOnTaskId ∈ frontier ∨ row.id ∈ dependents

theorem allJustified_iff_pending {tasks : TaskTable} : AllJustified tasks ↔ Pending [] [] tasks := by
  simp [AllJustified, Pending]

theorem Statement.identity_before {statement : Statement} {now : String} {before : ProductionTask}
    (origin : row = before ∨ id = statement.target ∧ statement.guard before = true ∧
      row = statement.change now before) : row.identity = before.identity := by
  rcases origin with rfl | ⟨-, -, rfl⟩
  · rfl
  · exact Statement.identity_change statement now before

section Statements

variable {statement : Statement} {now : String} {tasks : TaskTable}
variable {frontier wider dependents remaining : List TaskId}

section

variable
  (keeps : ∀ row, tasks.find? statement.target = some row → statement.guard row = true →
    row.status.isRetryable = true → (statement.change now row).status.isRetryable = true ∨
      statement.target ∈ wider)
include keeps

/-- A reason for a task to be blocked outlasts a statement, unless the statement requeues the
dependency; then the dependency has to be on the frontier. -/
theorem blockJustified_execute {task other : ProductionTask} (same : other.identity = task.identity)
    (justified : blockJustified tasks task = true) :
    blockJustified (statement.execute now tasks) other = true ∨ other.dependsOnTaskId ∈ wider := by
  have depends : other.dependsOnTaskId = task.dependsOnTaskId :=
    congrArg TaskIdentity.dependsOnTaskId same
  cases found : (statement.execute now tasks).find? other.dependsOnTaskId with
  | none => exact .inl (by rw [blockJustified, found, Option.all_none])
  | some dependency =>
    obtain ⟨before, present, origin⟩ := Statement.find?_before found
    rw [blockJustified, ← depends, present, Option.all_some, Bool.or_eq_true] at justified
    have mismatch : mismatched other dependency = mismatched task before := by
      have sameDependency := Statement.identity_before origin
      simp only [ProductionTask.identity, TaskIdentity.mk.injEq] at same sameDependency
      simp only [mismatched, same, sameDependency]
    rcases justified with elsewhere | retryable
    · left
      rw [blockJustified, found, Option.all_some, mismatch, elsewhere, Bool.true_or]
    rcases origin with rfl | ⟨target, holds, rfl⟩
    · left
      rw [blockJustified, found, Option.all_some, retryable, Bool.or_true]
    rw [target] at present
    rcases keeps before present holds retryable with still | reached
    · left
      rw [blockJustified, found, Option.all_some, still, Bool.or_true]
    · exact .inr (target ▸ reached)

theorem Pending.execute (pending : Pending frontier dependents tasks)
    (blocks : ∀ row, tasks.find? statement.target = some row → statement.guard row = true →
      (statement.change now row).status = .blocked → row.status = .blocked ∨
      row.dependsOnTaskId = row.id ∨ blockJustified tasks row = true)
    (widens : ∀ id ∈ frontier, id ∈ wider) (settles : ∀ id ∈ dependents, id ∈ remaining ∨
      ∀ row, (statement.execute now tasks).find? id = some row → row.status ≠ .blocked) :
    Pending wider remaining (statement.execute now tasks) := by
  intro row mem blocked
  have found := Table.mem_rows_iff.mp mem
  obtain ⟨before, present, origin⟩ := Statement.find?_before found
  have same := Statement.identity_before origin
  have depends : row.dependsOnTaskId = before.dependsOnTaskId :=
    congrArg TaskIdentity.dependsOnTaskId same
  have sameId : before.id = row.id := Table.find?_key present
  have excuse : (before.dependsOnTaskId = before.id ∨ blockJustified tasks before = true) ∨
      before.dependsOnTaskId ∈ frontier ∨ before.id ∈ dependents := by
    have earlier : before.status = .blocked → (blockJustified tasks before = true ∨
        before.dependsOnTaskId ∈ frontier ∨ before.id ∈ dependents) :=
      pending before (Table.mem_rows_iff.mpr (sameId ▸ present))
    rcases origin with rfl | ⟨target, holds, rfl⟩
    · grind
    · grind
  rcases excuse with (itself | justified) | waiting | listed
  · -- the task is its own dependency, and is blocked now
    left
    rw [blockJustified, depends, itself, sameId, found, Option.all_some, blocked]
    exact Bool.or_true _
  · grind [blockJustified_execute]
  · exact .inr (.inl (depends ▸ widens _ waiting))
  · grind

end

end Statements

section Steps

variable {env : Env} {request : Call} {shared after : Shared} {reply : request.Reply}
variable {frontier dependents : List TaskId} {statement : Statement}

section

variable (permitted : Permitted .worker request shared)
include permitted

/-- Apart from blocking it, the worker changes the status of a task only while the task is queued or
running, and never to blocked. -/
theorem worker_statement (now : String)
    (asked : request = .execute statement ∨ request = .update statement)
    (found : shared.tasks.find? statement.target = some row)
    (holds : statement.guard row = true) :
    (∃ id reason, statement = .markBlocked id reason ∧ request = .execute (.markBlocked id reason)) ∨
    (statement.change now row).status = row.status ∨
    (row.status.isRetryable = false ∧ (statement.change now row).status ≠ .blocked) := by
  have status := statusOf_of_find found
  rcases asked with rfl | rfl
  · cases statement with
    | markBlocked id reason => exact .inl ⟨id, reason, rfl, rfl⟩
    | claim id attempts =>
      have waiting : row.status = .queued ∧ row.cancelRequested = false := by
        simpa [Statement.guard] using holds
      exact .inr (.inr ⟨by rw [waiting.1]; rfl, fun impossible => by cases impossible⟩)
    | progress id phase percent => exact .inr (.inl rfl)
    | _ => exact permitted.elim
  · cases statement with
    | finish id next percent result error =>
      have running : row.status = .running := by simpa using status.symm.trans permitted.1
      refine .inr (.inr ⟨by rw [running]; rfl, ?_⟩)
      rintro rfl
      cases permitted.2
    | recover id cancelled =>
      have running : row.status = .running := by simpa using status.symm.trans permitted
      refine .inr (.inr ⟨by rw [running]; rfl, ?_⟩)
      cases cancelled <;> exact fun impossible => by cases impossible
    | _ => exact permitted.elim

theorem worker_lock (ran : semantics .worker env request shared = some (reply, after)) :
    after.adminLock = shared.adminLock := by
  refine adminLock_after .worker request ?_ ?_ ran
  · rintro rfl
    exact permitted
  · rintro rfl
    exact permitted

theorem Pending.worker (calm : blockUndisturbed request shared = true)
    (ran : semantics .worker env request shared = some (reply, after))
    (pending : Pending frontier dependents shared.tasks) :
    Pending frontier dependents after.tasks := by
  obtain ⟨sameTasks, -⟩ | ⟨_, _, rfl, _, _⟩ | ⟨statement, asked, rfl⟩ | ⟨rfl, _, _⟩ | ⟨rfl, _⟩ :=
    semantics_cases ran
  · exact sameTasks ▸ pending
  · exact permitted.elim
  · refine pending.execute ?_ ?_ (fun _ mem => mem) (fun _ mem => .inl mem)
    · intro row found holds retryable
      left
      rcases worker_statement permitted env.timestamp asked found holds with
        ⟨id, reason, rfl, -⟩ | same | ⟨active, -⟩
      · rfl
      · rw [same]
        exact retryable
      · rw [active] at retryable
        cases retryable
    · intro row found holds blocked
      rcases worker_statement permitted env.timestamp asked found holds with
        ⟨id, reason, rfl, rfl⟩ | same | ⟨-, other⟩
      · have waiting : row.status = .queued := by simpa [Statement.guard] using holds
        have present : shared.tasks.find? id = some row := found
        right
        simpa [blockUndisturbed, present, waiting] using calm
      · exact .inl (same ▸ blocked)
      · exact (other blocked).elim
  · exact permitted.elim
  · exact permitted.elim

end

end Steps

/-! ## Rely and guarantee -/

/-- The worker relies on nothing here.  A request that holds the lock keeps it, and the tasks that
are blocked without an excuse do not become more; a request that does not hold it is not given it. -/
def RetryRely : Thread → Shared → Shared → Prop
  | .worker, _, _ => True
  | .admin request, shared, current =>
    (Locked request shared → Locked request current ∧ ∀ frontier dependents,
      Pending frontier dependents shared.tasks → Pending frontier dependents current.tasks) ∧
    (¬Locked request shared → ¬Locked request current)

/-- The lock is given back when no blocked task waits to be requeued. -/
def RetryGood : Thread → Call → Shared → Prop
  | .admin _, .unlockAdmin, shared => Pending [] [] shared.tasks
  | _, _, _ => True

/-- While nobody holds the lock, every blocked task is blocked for a reason. -/
structure RetryInv (shared : Shared) : Prop where
  holder : shared.adminLock ≠ some .worker
  justified : shared.adminLock = none → Pending [] [] shared.tasks

section Obligations

variable {thread other : Thread} {env : Env} {request : Call} {shared after : Shared}
variable {reply : request.Reply}

variable (calm : blockUndisturbed request shared = true) (orderly : Orderly thread request shared)
  (ran : semantics thread env request shared = some (reply, after))
include calm orderly ran

theorem retryInv_call (kept : RetryInv shared) (good : RetryGood thread request shared) :
    RetryInv after := by
  cases thread with
  | worker =>
    have sameLock := worker_lock orderly.1 ran
    refine ⟨sameLock ▸ kept.holder, fun unlocked => ?_⟩
    exact (kept.justified (sameLock ▸ unlocked)).worker orderly.1 calm ran
  | admin holder =>
    obtain ⟨sameTasks, sameLock⟩ | ⟨_, _, rfl, _, _⟩ | ⟨statement, asked, rfl⟩ | ⟨rfl, _, rfl⟩ |
      ⟨rfl, rfl⟩ := semantics_cases ran
    · exact ⟨sameLock ▸ kept.holder, fun unlocked => sameTasks ▸ kept.justified (sameLock ▸ unlocked)⟩
    · exact orderly.2.elim
    · have locked : Locked holder shared := by
        obtain ⟨permitted, -⟩ := orderly
        rcases asked with rfl | rfl <;> cases statement <;>
          first
          | exact permitted.elim
          | exact permitted
          | exact permitted.1
      refine ⟨kept.holder, fun unlocked => ?_⟩
      cases locked.symm.trans unlocked
    · exact ⟨nofun, nofun⟩
    · exact ⟨nofun, fun _ => good⟩

theorem retryRely_call (different : other ≠ thread) : RetryRely other shared after := by
  cases other with
  | worker => trivial
  | admin waiting =>
    cases thread with
    | worker =>
      have sameLock := worker_lock orderly.1 ran
      refine ⟨fun locked => ⟨sameLock.trans locked, fun frontier dependents pending => ?_⟩,
        fun unlocked locked => unlocked (sameLock.symm.trans locked)⟩
      exact pending.worker orderly.1 calm ran
    | admin holder =>
      have others : waiting ≠ holder := fun equal => different (equal ▸ rfl)
      refine ⟨fun locked => ?_, fun unlocked locked => ?_⟩
      · obtain ⟨sameTasks, sameLock⟩ := unchanged_after_other_admin others locked orderly.1 ran
        exact ⟨sameLock.trans locked, fun frontier dependents pending => sameTasks ▸ pending⟩
      obtain ⟨-, sameLock⟩ | ⟨_, _, _, _, rfl⟩ | ⟨_, _, rfl⟩ | ⟨_, _, rfl⟩ | ⟨_, rfl⟩ :=
        semantics_cases ran
      · exact unlocked (sameLock.symm.trans locked)
      · exact unlocked locked
      · exact unlocked locked
      · cases locked
        exact others rfl
      · cases locked

end Obligations

def retryDiscipline : Discipline (retryRules.assuming Orderly) where
  inv := RetryInv
  rely := RetryRely
  good := RetryGood
  rely_refl thread shared := by
    cases thread with
    | worker => trivial
    | admin request => exact ⟨fun locked => ⟨locked, fun _ _ pending => pending⟩, fun unlocked => unlocked⟩
  rely_trans thread first second third before after := by
    cases thread with
    | worker => trivial
    | admin request =>
      refine ⟨fun locked => ?_, fun unlocked => after.2 (before.2 unlocked)⟩
      obtain ⟨held, kept⟩ := before.1 locked
      obtain ⟨stillHeld, stillKept⟩ := after.1 held
      exact ⟨stillHeld, fun frontier dependents pending =>
        stillKept frontier dependents (kept frontier dependents pending)⟩
  inv_initial initial :=
    ⟨by rw [initial.1]; exact nofun, fun _ => allJustified_iff_pending.mp initial.2⟩
  inv_call kept good calm executed := retryInv_call calm.1 calm.2 executed kept good
  rely_call different _ _ calm executed := retryRely_call calm.1 calm.2 executed different

/-! ## The retry request -/

/-- What a retry request knows between two calls. -/
structure Holding (request : Nat) (frontier dependents : List TaskId) (shared : Shared) : Prop where
  locked : Locked request shared
  pending : Pending frontier dependents shared.tasks

/-- The calls of a request that only read, or write nothing but the audit log. -/
def Reads : Call → Prop
  | .find _ | .appendAuditLog _ => True
  | _ => False

section Retry

variable {request : Nat} {frontier dependents : List TaskId} {shared current : Shared}

theorem Holding.rely (holding : Holding request frontier dependents shared)
    (relied : RetryRely (.admin request) shared current) :
    Holding request frontier dependents current := by
  obtain ⟨held, kept⟩ := relied.1 holding.locked
  exact ⟨held, kept _ _ holding.pending⟩

theorem holding_frame {β : Type} {program : Code β} (calls : program.Calls Reads)
    (holding : Holding request frontier dependents shared) :
    retryDiscipline.Safe (.admin request) (fun _ => Holding request frontier dependents) program
      shared := by
  refine Safe.of_calls ?_ ?_ ?_ calls holding
  · exact fun relied known => known.rely relied
  · intro asked shared reads _ _
    cases asked <;> trivial
  intro asked env shared reply after reads _ known _ ran
  obtain ⟨sameTasks, sameLock⟩ | ⟨_, _, rfl, _, _⟩ | ⟨statement, asked, rfl⟩ | ⟨rfl, _, rfl⟩ |
    ⟨rfl, rfl⟩ := semantics_cases ran
  · exact ⟨sameLock.trans known.locked, sameTasks ▸ known.pending⟩
  · exact reads.elim
  · rcases asked with rfl | rfl <;> exact reads.elim
  · exact reads.elim
  · exact reads.elim

/-- The write of the retry: what was blocked behind the task has now to be requeued.  Without a row
to write there is nothing to requeue. -/
theorem retry_write_safe (id : TaskId) (maxAttempts : Int)
    (holding : Holding request [] [] shared) :
    retryDiscipline.Safe (.admin request) (fun outcome =>
      Holding request (if outcome.isOk then [id] else []) [])
      (update (.retry id maxAttempts)).run shared := by
  refine Safe.knowing (Call.update (.retry id maxAttempts)) holding.rely (fun _ => trivial) ?_
  intro current env reply after known ran
  simp only [Rules.assuming, retryRules, semantics, Env.answering, Connection.write] at ran
  split at ran
  · cases ran
    refine ⟨known.locked, known.pending.execute ?_ ?_ ?_ ?_⟩
    · exact fun _ _ _ _ => .inr List.mem_cons_self
    · exact fun _ _ _ impossible => by cases impossible
    · exact fun _ impossible => by cases impossible
    · exact fun _ impossible => by cases impossible
  next missing =>
    cases ran
    refine ⟨known.locked, known.pending.execute ?_ ?_ ?_ ?_⟩
    · intro row found _ _
      rw [Statement.find?_execute_target, found] at missing
      cases missing
    · exact fun _ _ _ impossible => by cases impossible
    · exact fun _ impossible => by cases impossible
    · exact fun _ impossible => by cases impossible

/-- The tasks blocked behind the head of the frontier, as the request reads them. -/
theorem selectBlockedDependents_safe (parent : TaskId)
    (holding : Holding request (parent :: frontier) [] shared) :
    retryDiscipline.Safe (.admin request) (fun outcome current => ∃ rows, outcome = .ok rows ∧
      Holding request frontier (rows.map (·.id)) current)
      (ask (.selectBlockedDependents parent)) shared := by
  refine Safe.knowing (Call.selectBlockedDependents parent) holding.rely (fun _ => trivial) ?_
  intro current env reply after known ran
  cases ran
  refine ⟨_, rfl, known.locked, fun row mem blocked => ?_⟩
  rcases known.pending row mem blocked with justified | waiting | listed
  · exact .inl justified
  · grind [Table.mem_select_iff, Table.mem_rows_iff]
  · cases listed

theorem requeued_ne_blocked {now : String} {tasks : TaskTable}
    (found : ((Statement.requeueBlocked id).execute now tasks).find? id = some row) :
    row.status ≠ .blocked := by
  have target := @Statement.find?_execute_target tasks (.requeueBlocked id) now
  obtain ⟨before, -, rfl⟩ := Option.map_eq_some_iff.mp (target.symm.trans found)
  split
  · exact nofun
  next other =>
    simpa [Statement.guard] using other

/-- Requeueing one task: it is no longer blocked, and what is blocked behind it is next. -/
theorem requeue_write_safe (id : TaskId)
    (holding : Holding request frontier (id :: dependents) shared) :
    retryDiscipline.Safe (.admin request) (fun outcome current => ∃ affected, outcome = .ok affected ∧
      Holding request (if affected = 1 then id :: frontier else frontier) dependents current)
      (Tasks.execute (.requeueBlocked id)).run shared := by
  refine Safe.knowing (Call.execute (.requeueBlocked id)) holding.rely (fun _ => trivial) ?_
  intro current env reply after known ran
  cases ran
  refine ⟨_, rfl, known.locked, known.pending.execute ?_ ?_ ?_ ?_⟩
  · -- a blocked row is the one row the statement changes
    intro row found holds _
    right
    have one : current.tasks.affected (Statement.requeueBlocked id).condition = 1 := by
      refine Table.affected_of_key (fun other selected => ?_) found ?_
      · simp only [Statement.condition, Bool.and_eq_true, decide_eq_true_eq] at selected
        exact selected.1
      · simp [Statement.condition, Table.find?_key found, holds]
    rw [if_pos one]
    exact List.mem_cons_self
  · exact fun _ _ _ impossible => by cases impossible
  · grind
  · grind [requeued_ne_blocked]

theorem requeueDependents_safe (rows : List ProductionTask) (requeued : Nat)
    (holding : Holding request frontier (rows.map (·.id)) shared) :
    retryDiscipline.Safe (.admin request) (fun outcome current => ∃ next count,
      outcome = .ok (next, count) ∧ Holding request next [] current)
      (requeueDependents rows frontier requeued).run shared := by
  induction rows generalizing frontier requeued shared with
  | nil => exact .pure ⟨frontier, requeued, rfl, holding⟩
  | cons row rows ih =>
    refine Safe.attempt (requeue_write_safe row.id holding) ?_ ?_
    · grind
    · rintro _ _ ⟨_, impossible, _⟩
      cases impossible

/-- The loop ends when the frontier is empty, and then no blocked task waits any more. -/
theorem requeueFrontier_safe (fuel requeued : Nat) (holding : Holding request frontier [] shared) :
    retryDiscipline.Safe (.admin request) (fun outcome current => ∃ count, outcome = .ok count ∧
      Holding request [] [] current) (requeueFrontier fuel frontier requeued).run shared := by
  induction fuel generalizing frontier requeued shared with
  | zero => exact .diverge
  | succ fuel ih =>
    cases frontier with
    | nil => exact .pure ⟨requeued, rfl, holding⟩
    | cons parent frontier =>
      refine Safe.attempt (selectBlockedDependents_safe parent holding) ?_ ?_
      · rintro rows afterSelect ⟨_, ⟨⟩, known⟩
        refine Safe.attempt (requeueDependents_safe rows requeued known) ?_ ?_
        · rintro ⟨next, count⟩ afterRequeue ⟨_, _, ⟨⟩, rest⟩
          exact ih count rest
        · rintro _ _ ⟨_, _, impossible, _⟩
          cases impossible
      · rintro _ _ ⟨_, impossible, _⟩
        cases impossible

section

variable (holding : Holding request [] [] shared)
include holding

theorem requeueProductionTask_safe (fuel : Nat) (model : ProductionTask) :
    retryDiscipline.Safe (.admin request) (fun _ => Holding request [] [])
      (requeueProductionTask fuel model).run shared := by
  refine Safe.attempt (retry_write_safe model.id _ holding) ?_ ?_
  · intro updated afterWrite known
    refine Safe.attempt (requeueFrontier_safe fuel 0 known) ?_ ?_
    · rintro _ last ⟨_, _, done⟩
      exact .pure done
    · rintro _ _ ⟨_, impossible, _⟩
      cases impossible
  · exact fun _ _ known => known

theorem retryProductionTask_safe (fuel : Nat) (id : TaskId) :
    retryDiscipline.Safe (.admin request) (fun _ => Holding request [] [])
      (retryProductionTask fuel id).run shared := by
  refine Safe.attempt (holding_frame (.ask (Call.find id) trivial) holding) ?_
    (fun _ _ known => known)
  intro found current known
  cases found with
  | none => exact .pure known
  | some model =>
    dsimp only
    split
    · exact .pure known
    split
    · refine Safe.attempt
        (holding_frame (calls_dependencyState (fun _ => trivial) model) known) ?_
        (fun _ _ still => still)
      intro state afterState still
      cases state with
      | ready => exact requeueProductionTask_safe still fuel model
      | waiting | blocked _ => exact .pure still
    · exact requeueProductionTask_safe known fuel model

theorem retryGuarded_holding (fuel : Nat) (id : TaskId) (actor : String) :
    retryDiscipline.Safe (.admin request) (fun _ => Holding request [] [])
      (retryGuarded fuel id actor) shared := by
  refine (holding_frame (.ask (Call.find id) trivial) holding).bind fun found current known => ?_
  split
  · exact .pure known
  · exact .pure known
  split
  · exact .pure known
  refine (retryProductionTask_safe known fuel id).bind fun outcome afterRetry still => ?_
  split
  · exact .pure still
  · exact .pure still
  · split
    · exact .pure still
    · exact (holding_frame (.bind (.ask (Call.appendAuditLog _) trivial) fun _ => .pure)
        still).bind fun _ _ last => .pure last

end

def AtRest : Thread → Shared → Prop
  | .worker, _ => True
  | .admin request, shared => ¬Locked request shared

theorem lockAdmin_safe :
    retryDiscipline.Safe (.admin request) (fun locked current =>
      if locked then Holding request [] [] current else ¬Locked request current)
      (ask .lockAdmin) shared := by
  refine Safe.ask Call.lockAdmin (fun _ _ _ => trivial) ?_
  intro current _ kept _ env reply after ran _
  simp only [Rules.assuming, retryRules, semantics, Env.answering] at ran
  split at ran
  next unlocked =>
    cases ran
    exact fun locked => by cases unlocked.symm.trans locked
  next unlocked =>
    cases ran
    exact ⟨rfl, kept.justified unlocked⟩
  · cases ran

theorem retryResponse_safe (fuel : Nat) (body : Option Json) (actor : String)
    (rests : ¬Locked request shared) :
    retryDiscipline.Safe (.admin request) (fun _ => AtRest (.admin request))
      (retryResponse fuel body actor) shared := by
  unfold retryResponse
  split
  · exact .pure rests
  refine lockAdmin_safe.bind fun locked current known => ?_
  cases locked with
  | false => exact .pure known
  | true =>
    refine (retryGuarded_holding known fuel _ actor).bind fun answer afterRetry held => ?_
    have unlocks : retryDiscipline.Safe (.admin request) (fun _ => AtRest (.admin request))
        (ask .unlockAdmin) afterRetry := by
      refine Safe.knowing Call.unlockAdmin held.rely (·.pending) fun _ ran => ?_
      cases ran
      exact nofun
    exact unlocks.bind fun _ _ resting => .pure resting

end Retry

/-! ## Every run -/

theorem retryHandler_safe (thread : Thread) (program : Code TaskAnswer) (shared : Shared)
    (handler : RetryHandler thread program) (rests : AtRest thread shared) :
    retryDiscipline.Safe thread (fun _ => AtRest thread) program shared := by
  cases handler with
  | worker offline fuel =>
    exact .of_any (fun _ => trivial) (fun _ _ => trivial) _ shared
  | retry request fuel body actor => exact retryResponse_safe fuel body actor rests

/-- In every run of the worker and any number of retry requests in which the worker blocks a task
only while its dependency blocks it, no task is left blocked without a reason once no operation is in
progress. -/
theorem blocked_for_a_reason {machine}
    (reached : retryRules.Reachable machine) (idle : Idle machine) :
    AllJustified machine.shared.tasks := by
  obtain ⟨kept, settles⟩ := retryDiscipline.reachable_settles (fun thread _ => AtRest thread)
    (fun {thread shared} initial => by
      cases thread with
      | worker => trivial
      | admin request => exact fun locked => by cases initial.1.symm.trans locked)
    (fun {thread} _ _ _ relied rests => by
      cases thread with
      | worker => trivial
      | admin request => exact relied.2 rests)
    (fun thread program _ shared handler _ rests =>
      retryHandler_safe thread program shared handler rests)
    (orderly_reachable reached)
  have unlocked : machine.shared.adminLock = none := by
    cases lock : machine.shared.adminLock with
    | none => rfl
    | some thread =>
      cases thread with
      | worker => exact (kept.holder lock).elim
      | admin request =>
        obtain ⟨_, rests⟩ := (settles (.admin request)).rests (idle.requests request)
        exact (rests lock).elim
  exact allJustified_iff_pending.mpr (kept.justified unlocked)

/-! ## A retry between the decision and the write -/

/-- A failed capture, and the algorithm run that waits for it. -/
def failedCapture : ProductionTask :=
  { ProductionTaskInput.row
      { id := "TASK-1", idempotencyKey := "capture-once:1", kind := .captureOnce, materialId := "M1"
        sessionId := "S1", chainId := "S1", dependsOnTaskId := ""
        dependencyPolicy := .requireSuccess, payload := "\x7b\x7d", actor := "operator"
        maxAttempts := 1 } "0" with status := .failed }

def waitingRun : ProductionTask :=
  ProductionTaskInput.row
    { id := "TASK-2", idempotencyKey := "algorithm-run:2", kind := .algorithmRun, materialId := "M1"
      sessionId := "S1", chainId := "S1", dependsOnTaskId := "TASK-1"
      dependencyPolicy := .requireSuccess, payload := "\x7b\x7d", actor := "operator"
      maxAttempts := 1 } "1"

def waitingBehindFailure : Shared where
  tasks := ⟨[failedCapture, waitingRun], by decide⟩
  auditLog := []
  sequence := 0
  adminLock := none

def retryCapture : Code TaskAnswer :=
  retryResponse 3 (some (.obj [("taskId", .str "TASK-1")])) "operator"

def turns (thread : Thread) (count : Nat) : List (Action Thread Env Call Call.Reply TaskAnswer) :=
  List.replicate count (.advance thread {})

/-- The worker reads the capture as failed; the retry requeues it and is answered; then the worker
blocks the run behind it, claims the capture and finishes it. -/
def overtakenBlock : List (Action Thread Env Call Call.Reply TaskAnswer) :=
  .spawn .worker (startWorker false 3) :: turns .worker 3 ++
    .spawn (.admin 0) retryCapture :: turns (.admin 0) 7 ++ turns .worker 19

/-- The retry after the worker has written its decision: both tasks are requeued, and both succeed. -/
def orderlyRetry : List (Action Thread Env Call Call.Reply TaskAnswer) :=
  .spawn .worker (startWorker false 3) :: turns .worker 4 ++
    .spawn (.admin 0) retryCapture :: turns (.admin 0) 9 ++ turns .worker 18

def runRetry (check : Thread → Call → Shared → Bool)
    (actions : List (Action Thread Env Call Call.Reply TaskAnswer)) :
    Option (Machine Shared Thread Call Call.Reply TaskAnswer) :=
  Machine.runChecked retryRules.semantics check (.start waitingBehindFailure) actions

/-- A run after which the worker looks for its next task and the one request has been answered. -/
theorem idle_of_run {check actions} (fuel : Nat)
    (ran : runRetry check actions = some machine)
    (worker : (runRetry check actions).map (·.threads .worker) = some (some (workerLoop fuel)))
    (answered : (runRetry check actions).any fun last => (last.answer? (.admin 0)).isSome)
    (others : ∀ request, (runRetry check actions).map (·.threads (.admin (request + 1))) = some none) :
    Idle machine := by
  rw [ran] at worker answered
  refine ⟨fun request => ?_, .inr ⟨fuel, Option.some.inj worker⟩⟩
  cases request with
  | zero =>
    obtain ⟨answer, given⟩ := Option.isSome_iff_exists.mp answered
    exact .inr ⟨answer, Machine.answer?_eq_some.mp given⟩
  | succ request => simp_all

/-- Without the side condition a task stays blocked behind a dependency that has succeeded. -/
theorem retry_leaves_task_blocked : ¬ ∀ machine,
      retryRules.free.Reachable machine → Idle machine → AllJustified machine.shared.tasks := by
  intro justified
  obtain ⟨machine, ran, stuck⟩ : ∃ machine, runRetry (fun _ _ _ => true) overtakenBlock =
      some machine ∧ decide (AllJustified machine.shared.tasks) = false :=
    Option.map_eq_some_iff.mp (by decide +kernel)
  have reached : retryRules.free.Reachable machine :=
    (Rules.path_runChecked retryRules.free (fun _ _ _ _ => trivial)
      ran ⟨.worker false 3, .retry 0 3 _ _, trivial⟩).reachable (.start ⟨rfl, by decide⟩)
  have idle : Idle machine := idle_of_run 2 ran rfl (by decide +kernel) (fun _ => rfl)
  exact of_decide_eq_false stuck (justified machine reached idle)

/-- The retry that follows the write requeues the capture and the run behind it. -/
theorem orderlyRetry_requeues :
    ∃ machine, retryRules.Reachable machine ∧
      Idle machine ∧ statusOf machine.shared "TASK-1" = some .succeeded ∧
      statusOf machine.shared "TASK-2" = some .queued ∧ AllJustified machine.shared.tasks := by
  let check : Thread → Call → Shared → Bool := fun _ request shared =>
    blockUndisturbed request shared
  obtain ⟨machine, ran, statuses⟩ : ∃ machine, runRetry check orderlyRetry = some machine ∧
      (statusOf machine.shared "TASK-1", statusOf machine.shared "TASK-2") =
        (some .succeeded, some .queued) :=
    Option.map_eq_some_iff.mp (by decide +kernel)
  have reached : retryRules.Reachable machine :=
    (Rules.path_runChecked retryRules (fun _ _ _ passed => passed)
      ran ⟨.worker false 3, .retry 0 3 _ _, trivial⟩).reachable (.start ⟨rfl, by decide⟩)
  have idle : Idle machine := idle_of_run 2 ran rfl (by decide +kernel) (fun _ => rfl)
  rw [Prod.mk.injEq] at statuses
  exact ⟨machine, reached, idle, statuses.1, statuses.2, blocked_for_a_reason reached idle⟩

end SteelInspection.Tasks
