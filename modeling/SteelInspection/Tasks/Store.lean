import Mathlib.Data.List.Sort
import SteelInspection.Foundations.Interleaving
import SteelInspection.Foundations.Table
import SteelInspection.Service.Database
import SteelInspection.Service.Http

/-! # The production task table and its statements

The rows of `production_task`, the statements the service sends for them, and what each statement
does.  A statement is one atomic call; the clock, the faults of the database connection and what a
provider answers come from the environment.
-/

namespace SteelInspection.Tasks

open Foundations

abbrev TaskId := String

inductive TaskStatus where
  | queued | running | succeeded | failed | cancelled | interrupted | blocked
  deriving DecidableEq, Repr

def TaskStatus.text : TaskStatus → String
  | .queued => "queued"
  | .running => "running"
  | .succeeded => "succeeded"
  | .failed => "failed"
  | .cancelled => "cancelled"
  | .interrupted => "interrupted"
  | .blocked => "blocked"

def TaskStatus.isTerminal : TaskStatus → Bool
  | .succeeded | .failed | .cancelled | .interrupted | .blocked => true
  | .queued | .running => false

/-- The statuses a retry starts from, and the ones whose dependents are blocked. -/
def TaskStatus.isRetryable : TaskStatus → Bool
  | .failed | .cancelled | .interrupted | .blocked => true
  | .queued | .running | .succeeded => false

/-- The kinds `normalize_kind` knows; a row written by another version may carry any other text. -/
inductive TaskKind where
  | captureOnce | algorithmRun | steelInfo | steelIn | steelOut | triggerEvent
  | other (text : String)
  deriving DecidableEq, Repr

def TaskKind.text : TaskKind → String
  | .captureOnce => "capture-once"
  | .algorithmRun => "algorithm-run"
  | .steelInfo => "steel-info"
  | .steelIn => "steel-in"
  | .steelOut => "steel-out"
  | .triggerEvent => "trigger-event"
  | .other text => text

inductive DependencyPolicy where
  | requireSuccess | alwaysRun
  deriving DecidableEq, Repr

structure ProductionTask where
  id : TaskId
  idempotencyKey : String
  kind : TaskKind
  materialId : String
  sessionId : String
  chainId : String
  dependsOnTaskId : TaskId
  dependencyPolicy : DependencyPolicy
  blockedReason : String
  status : TaskStatus
  phase : String
  payload : String
  result : String
  error : String
  actor : String
  progress : Int
  attempts : Int
  maxAttempts : Int
  cancelRequested : Bool
  createdAt : String
  startedAt : String
  finishedAt : String
  updatedAt : String
  deriving DecidableEq, Repr

structure ProductionTaskInput where
  id : TaskId
  idempotencyKey : String
  kind : TaskKind
  materialId : String
  sessionId : String
  chainId : String
  dependsOnTaskId : TaskId
  dependencyPolicy : DependencyPolicy
  payload : String
  actor : String
  maxAttempts : Int

/-- What `task_target` reads of an open material session. -/
structure MaterialSession where
  id : String
  materialId : String

/-- `i32::clamp` and `i64::clamp`. -/
def clamp (value low high : Int) : Int := max low (min value high)

/-- The row `insert_production_task` writes. -/
def ProductionTaskInput.row (input : ProductionTaskInput) (now : String) : ProductionTask where
  id := input.id
  idempotencyKey := input.idempotencyKey
  kind := input.kind
  materialId := input.materialId
  sessionId := input.sessionId
  chainId := input.chainId
  dependsOnTaskId := input.dependsOnTaskId
  dependencyPolicy := input.dependencyPolicy
  blockedReason := ""
  status := .queued
  phase := "queued"
  payload := input.payload
  result := ""
  error := ""
  actor := input.actor
  progress := 0
  attempts := 0
  maxAttempts := clamp input.maxAttempts 1 10
  cancelRequested := false
  createdAt := now
  startedAt := ""
  finishedAt := ""
  updatedAt := now

abbrev TaskTable := Table ProductionTask ProductionTask.id

/-! ## Statements that change rows -/

/-- The `UPDATE` statements of the service.  Those of `finish_production_task`,
`request_cancel_production_task`, `retry_production_task` and the restart recovery name a row by
its primary key only; the others also name the status the row must have. -/
inductive Statement where
  | markBlocked (id : TaskId) (reason : String)
  | requeueBlocked (id : TaskId)
  | claim (id : TaskId) (attempts : Int)
  | progress (id : TaskId) (phase : String) (percent : Int)
  | finish (id : TaskId) (status : TaskStatus) (percent : Int) (result error : String)
  | cancel (id : TaskId) (queued : Bool)
  | retry (id : TaskId) (maxAttempts : Int)
  | recover (id : TaskId) (cancelled : Bool)
  deriving DecidableEq

namespace Statement

def target : Statement → TaskId
  | .markBlocked id _ | .requeueBlocked id | .claim id _ | .progress id _ _ | .finish id _ _ _ _
  | .cancel id _ | .retry id _ | .recover id _ => id

/-- The part of the `WHERE` clause beyond the primary key. -/
def guard : Statement → ProductionTask → Bool
  | .markBlocked _ _, row => row.status = .queued
  | .requeueBlocked _, row => row.status = .blocked
  | .claim _ _, row => row.status = .queued && !row.cancelRequested
  | .progress _ _ _, row => row.status = .running
  | .finish _ _ _ _ _, _ | .cancel _ _, _ | .retry _ _, _ | .recover _ _, _ => true

def change (now : String) : Statement → ProductionTask → ProductionTask
  | .markBlocked _ reason, row =>
    { row with
      status := .blocked, phase := "blocked", progress := 0, blockedReason := reason
      error := reason, finishedAt := now, updatedAt := now }
  | .requeueBlocked _, row =>
    { row with
      status := .queued, phase := "waiting-dependency", blockedReason := "", error := ""
      finishedAt := "", updatedAt := now }
  | .claim _ attempts, row =>
    { row with
      status := .running, phase := "executing", progress := 5, attempts := attempts
      blockedReason := "", startedAt := now, finishedAt := "", updatedAt := now }
  | .progress _ phase percent, row =>
    { row with phase := Text.trim phase, progress := clamp percent 0 99, updatedAt := now }
  | .finish _ status percent result error, row =>
    { row with
      status := status, phase := status.text, progress := clamp percent 0 100, result := result
      error := error, finishedAt := if status.isTerminal then now else "", updatedAt := now }
  | .cancel _ queued, row =>
    if queued then
      { row with
        cancelRequested := true, status := .cancelled, phase := "cancelled"
        error := "cancelled before execution", finishedAt := now, updatedAt := now }
    else { row with cancelRequested := true, updatedAt := now }
  | .retry _ maxAttempts, row =>
    { row with
      status := .queued, phase := "queued", progress := 0, maxAttempts := maxAttempts
      cancelRequested := false, blockedReason := "", result := "", error := "", startedAt := ""
      finishedAt := "", updatedAt := now }
  | .recover _ cancelled, row =>
    { row with
      status := if cancelled then .cancelled else .interrupted
      phase := if cancelled then "cancelled" else "interrupted"
      progress := 0
      error := if cancelled then "cancelled during service restart"
        else "execution interrupted by service restart; explicit retry required"
      startedAt := "", finishedAt := now, updatedAt := now }

theorem change_id (now : String) (statement : Statement) (row : ProductionTask) :
    (statement.change now row).id = row.id := by
  cases statement with
  | cancel id queued => cases queued <;> rfl
  | _ => rfl

def condition (statement : Statement) (row : ProductionTask) : Bool :=
  decide (row.id = statement.target) && statement.guard row

def execute (statement : Statement) (now : String) (tasks : TaskTable) : TaskTable :=
  tasks.updateWhere statement.condition (statement.change now) (change_id now statement)

variable {tasks : TaskTable} {statement : Statement}

theorem find?_execute_other {now : String} {id : TaskId} (different : id ≠ statement.target) :
    (statement.execute now tasks).find? id = tasks.find? id := by
  rw [execute, Table.find?_updateWhere]
  cases found : tasks.find? id with
  | none => rfl
  | some row =>
    have elsewhere : row.id ≠ statement.target := Table.find?_key found ▸ different
    simp [condition, elsewhere]

theorem find?_execute_target {now : String} :
    (statement.execute now tasks).find? statement.target =
      (tasks.find? statement.target).map fun row =>
        if statement.guard row then statement.change now row else row := by
  rw [execute, Table.find?_updateWhere]
  cases found : tasks.find? statement.target with
  | none => rfl
  | some row => simp [condition, Table.find?_key found]

/-- What a statement can do to a row: nothing, or its change when the row is the one it names. -/
theorem find?_execute (statement : Statement) (now : String) {id : TaskId} {row : ProductionTask}
    (found : tasks.find? id = some row) : (statement.execute now tasks).find? id = some row ∨
      (id = statement.target ∧ statement.guard row = true ∧
        (statement.execute now tasks).find? id = some (statement.change now row)) := by
  by_cases same : id = statement.target
  · subst same
    rw [find?_execute_target, found]
    by_cases holds : statement.guard row = true
    · exact .inr ⟨rfl, holds, by simp [holds]⟩
    · exact .inl (by simp [holds])
  · exact .inl (by rw [find?_execute_other same, found])

/-- The row that a row comes from, and what the statement made of it. -/
theorem find?_before {now : String} {id : TaskId} {row : ProductionTask}
    (found : (statement.execute now tasks).find? id = some row) :
    ∃ before, tasks.find? id = some before ∧ (row = before ∨
      id = statement.target ∧ statement.guard before = true ∧ row = statement.change now before) := by
  rw [execute, Table.find?_updateWhere] at found
  obtain ⟨before, present, changed⟩ := Option.map_eq_some_iff.mp found
  refine ⟨before, present, ?_⟩
  split at changed
  next applies =>
    simp only [condition, Bool.and_eq_true, decide_eq_true_eq] at applies
    exact .inr ⟨(Table.find?_key present).symm.trans applies.1, applies.2, changed.symm⟩
  · exact .inl changed.symm

end Statement

/-! ## Calls -/

inductive Call where
  | find (id : TaskId)
  | findByIdempotencyKey (key : String)
  | latestInChain (chainId : String)
  | latestForSession (sessionId : String)
  | latestUnresolved (materialId : Option String)
  | latestOpenMaterialSession
  | countOpen
  | selectQueued
  | selectRunning
  | selectDependents (parent : TaskId)
  | selectBlockedDependents (parent : TaskId)
  | insert (input : ProductionTaskInput)
  /-- An `UPDATE`, answered with the number of rows it changed. -/
  | execute (statement : Statement)
  /-- An `UPDATE` by primary key, answered with the row as it is then. -/
  | update (statement : Statement)
  | appendAuditLog (entry : AuditEntry)
  | nextSequence
  | currentTimeMillis
  | runtimeIsDraining
  | lockAdmin
  | unlockAdmin
  | lockCommand
  | unlockCommand
  /-- `execute_task`: the side effects of a task on cameras, algorithms and sessions. -/
  | dispatch (task : ProductionTask)

abbrev Call.Reply : Call → Type
  | .find _ | .findByIdempotencyKey _ | .latestInChain _ | .latestForSession _
  | .latestUnresolved _ => Except DbErr (Option ProductionTask)
  | .latestOpenMaterialSession => Except DbErr (Option MaterialSession)
  | .countOpen => Except DbErr Nat
  | .selectQueued | .selectRunning | .selectDependents _ | .selectBlockedDependents _ =>
    Except DbErr (List ProductionTask)
  | .insert _ | .update _ => Except DbErr ProductionTask
  | .execute _ => Except DbErr Nat
  | .appendAuditLog _ => Except DbErr Unit
  | .nextSequence | .currentTimeMillis => Nat
  | .runtimeIsDraining | .lockAdmin | .lockCommand => Bool
  | .unlockAdmin | .unlockCommand => Unit
  | .dispatch _ => HttpResponse

/-- What the outside contributes to one call. -/
structure Env where
  now : Nat := 0
  connection : Connection := .works
  openSession : Option MaterialSession := none
  draining : Bool := false
  poisoned : Bool := false
  response : HttpResponse := ⟨200, "OK", "", none⟩

def Env.timestamp (env : Env) : String := toString env.now

inductive Thread where
  | worker
  | admin (request : Nat)
  deriving DecidableEq

/-- The task table with what the handlers share besides it. -/
structure Shared where
  tasks : TaskTable
  auditLog : List AuditEntry
  sequence : Nat
  adminLock : Option Thread

/-- The rows of a query in the order the query asks for. -/
def latest (tasks : List ProductionTask) : Option ProductionTask :=
  (tasks.insertionSort fun first second =>
    second.createdAt < first.createdAt ∨
      (first.createdAt = second.createdAt ∧ second.id ≤ first.id)).head?

def inCreationOrder (tasks : List ProductionTask) : List ProductionTask :=
  tasks.insertionSort fun first second =>
    first.createdAt < second.createdAt ∨ (first.createdAt = second.createdAt ∧ first.id ≤ second.id)

/-- What a call answers and does; `none` when the admin lock is taken. -/
def semantics : Semantics Shared Thread Env Call Call.Reply
  | thread, env, request, shared =>
    match request with
    | .find id => some (env.connection.query (shared.tasks.find? id) shared)
    | .findByIdempotencyKey key =>
      some (env.connection.query (latest (shared.tasks.select (·.idempotencyKey = key))) shared)
    | .latestInChain chainId =>
      some (env.connection.query (latest (shared.tasks.select (·.chainId = chainId))) shared)
    | .latestForSession sessionId =>
      some (env.connection.query (latest (shared.tasks.select (·.sessionId = sessionId))) shared)
    | .latestUnresolved materialId =>
      some (env.connection.query (latest (shared.tasks.select fun row =>
        row.status ≠ .succeeded && materialId.all (row.materialId = ·))) shared)
    | .latestOpenMaterialSession => some (env.connection.query env.openSession shared)
    | .countOpen =>
      some (env.connection.query
        (shared.tasks.affected fun row => row.status = .queued || row.status = .running) shared)
    | .selectQueued =>
      some (env.connection.query (inCreationOrder (shared.tasks.select fun row =>
        row.status = .queued && !row.cancelRequested)) shared)
    | .selectRunning => some (env.connection.query (shared.tasks.select (·.status = .running)) shared)
    | .selectDependents parent =>
      some (env.connection.query (shared.tasks.select fun row =>
        row.dependsOnTaskId = parent && row.dependencyPolicy = .requireSuccess &&
          row.status = .queued) shared)
    | .selectBlockedDependents parent =>
      some (env.connection.query (shared.tasks.select fun row =>
        row.dependsOnTaskId = parent && row.status = .blocked) shared)
    | .insert input =>
      let row := input.row env.timestamp
      -- idx_production_task_idempotency is a unique index
      if shared.tasks.rows.any (·.idempotencyKey = row.idempotencyKey) then
        some (env.connection.write (.error ⟨"UNIQUE constraint failed: production_task.idempotency_key"⟩)
          shared shared)
      else
        match shared.tasks.insert row with
        | some tasks => some (env.connection.write (.ok row) shared { shared with tasks })
        | none => some (env.connection.write (.error ⟨"UNIQUE constraint failed: production_task.id"⟩)
            shared shared)
    | .execute statement =>
      some (env.connection.write (.ok (shared.tasks.affected statement.condition)) shared
        { shared with tasks := statement.execute env.timestamp shared.tasks })
    | .update statement =>
      let tasks := statement.execute env.timestamp shared.tasks
      match tasks.find? statement.target with
      | some row => some (env.connection.write (.ok row) shared { shared with tasks })
      | none => some (env.connection.write (.error ⟨"None of the records are updated"⟩)
          shared { shared with tasks })
    | .appendAuditLog entry =>
      some (env.connection.write (.ok ()) shared { shared with auditLog := shared.auditLog ++ [entry] })
    | .nextSequence => some (shared.sequence, { shared with sequence := shared.sequence + 1 })
    | .currentTimeMillis => some (env.now, shared)
    | .runtimeIsDraining => some (env.draining, shared)
    | .lockAdmin =>
      match env.poisoned, shared.adminLock with
      | true, none => some (false, shared)
      | false, none => some (true, { shared with adminLock := some thread })
      | _, some _ => none
    | .unlockAdmin => some ((), { shared with adminLock := none })
    | .lockCommand => some (!env.poisoned, shared)
    | .unlockCommand => some ((), shared)
    | .dispatch _ => some (env.response, shared)

end SteelInspection.Tasks
