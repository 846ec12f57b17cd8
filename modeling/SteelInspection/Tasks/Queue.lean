import SteelInspection.Tasks.Store

/-! # The queue functions of the database layer

Each function is written as the source has it, one call for one statement.  Loops that the source
bounds only by the content of the table take fuel.
-/

namespace SteelInspection.Tasks

open Foundations

abbrev Code := Program Call Call.Reply

abbrev Db := Attempt Call Call.Reply DbErr

abbrev ask (request : Call) : Code request.Reply := Program.ask request

def findProductionTask (id : TaskId) : Db (Option ProductionTask) :=
  ExceptT.mk (ask (.find id))

def findProductionTaskByIdempotencyKey (key : String) : Db (Option ProductionTask) :=
  if (Text.trim key).isEmpty then pure none
  else ExceptT.mk (ask (.findByIdempotencyKey key))

def latestProductionTaskInChain (chainId : String) : Db (Option ProductionTask) :=
  if (Text.trim chainId).isEmpty then pure none
  else ExceptT.mk (ask (.latestInChain chainId))

def latestProductionTaskForSession (sessionId : String) : Db (Option ProductionTask) :=
  if (Text.trim sessionId).isEmpty then pure none
  else ExceptT.mk (ask (.latestForSession sessionId))

def latestUnresolvedProductionTask (materialId : Option String) : Db (Option ProductionTask) :=
  ExceptT.mk (ask (.latestUnresolved
    (materialId.filter fun value => !(Text.trim value).isEmpty)))

def insertProductionTask (input : ProductionTaskInput) : Db ProductionTask :=
  ExceptT.mk (ask (.insert input))

def execute (statement : Statement) : Db Nat := ExceptT.mk (ask (.execute statement))

def update (statement : Statement) : Db ProductionTask := ExceptT.mk (ask (.update statement))

inductive DependencyState where
  | ready
  | waiting
  | blocked (reason : String)
  deriving DecidableEq, Repr

/-- What the dependency row that was found means for the task. -/
def dependencyStateOf (task dependency : ProductionTask) : DependencyState :=
  if dependency.chainId ≠ task.chainId ∨ dependency.sessionId ≠ task.sessionId ∨
      dependency.materialId ≠ task.materialId then
    .blocked ("dependency_chain_mismatch:" ++ dependency.id)
  else if task.dependencyPolicy = .alwaysRun then
    if dependency.status.isTerminal then .ready else .waiting
  else
    match dependency.status with
    | .succeeded => .ready
    | .failed | .cancelled | .interrupted | .blocked =>
      .blocked ("dependency_" ++ dependency.status.text ++ ":" ++ dependency.id)
    | .queued | .running => .waiting

def productionTaskDependencyState (task : ProductionTask) : Db DependencyState :=
  if (Text.trim task.dependsOnTaskId).isEmpty then pure .ready
  else if task.dependsOnTaskId = task.id then pure (.blocked ("dependency_cycle:" ++ task.id))
  else do
    match ← findProductionTask task.dependsOnTaskId with
    | none => pure (.blocked ("dependency_not_found:" ++ task.dependsOnTaskId))
    | some dependency => pure (dependencyStateOf task dependency)

def markProductionTaskBlocked (id : TaskId) (reason : String) : Db Bool := do
  let affected ← execute (.markBlocked id reason)
  pure (affected == 1)

/-- The `for dependent in dependents` loop of the propagation: the ids that were blocked go on the
frontier, whose top is the head of the list. -/
def blockDependents (reason : String) : List ProductionTask → List TaskId → Nat →
    Db (List TaskId × Nat)
  | [], frontier, blocked => pure (frontier, blocked)
  | dependent :: dependents, frontier, blocked => do
    if ← markProductionTaskBlocked dependent.id reason then
      blockDependents reason dependents (dependent.id :: frontier) (blocked + 1)
    else blockDependents reason dependents frontier blocked

def propagateFrontier : Nat → List TaskId → Nat → Db Nat
  | 0, _, _ => Attempt.diverge
  | _ + 1, [], blocked => pure blocked
  | fuel + 1, parent :: frontier, blocked => do
    let dependents ← ExceptT.mk (ask (.selectDependents parent))
    let parentTask ← findProductionTask parent
    let parentStatus := (parentTask.map (·.status.text)).getD "not_found"
    let (frontier, blocked) ←
      blockDependents ("dependency_" ++ parentStatus ++ ":" ++ parent) dependents frontier blocked
    propagateFrontier fuel frontier blocked

def propagateProductionTaskDependencyFailure (fuel : Nat) (parentId : TaskId) : Db Nat :=
  propagateFrontier fuel [parentId] 0

def requeueDependents : List ProductionTask → List TaskId → Nat → Db (List TaskId × Nat)
  | [], frontier, requeued => pure (frontier, requeued)
  | dependent :: dependents, frontier, requeued => do
    let affected ← execute (.requeueBlocked dependent.id)
    if affected == 1 then requeueDependents dependents (dependent.id :: frontier) (requeued + 1)
    else requeueDependents dependents frontier requeued

def requeueFrontier : Nat → List TaskId → Nat → Db Nat
  | 0, _, _ => Attempt.diverge
  | _ + 1, [], requeued => pure requeued
  | fuel + 1, parent :: frontier, requeued => do
    let dependents ← ExceptT.mk (ask (.selectBlockedDependents parent))
    let (frontier, requeued) ← requeueDependents dependents frontier requeued
    requeueFrontier fuel frontier requeued

def requeueBlockedProductionTaskDescendants (fuel : Nat) (parentId : TaskId) : Db Nat :=
  requeueFrontier fuel [parentId] 0

/-- How the pass over the queued rows ended: with a claimed row read back, or at its end, with the
flag `changed`. -/
inductive ClaimPass where
  | returned (task : Option ProductionTask)
  | finished (changed : Bool)

def claimPass : List ProductionTask → Bool → Db ClaimPass
  | [], changed => pure (.finished changed)
  | model :: queued, changed => do
    match ← productionTaskDependencyState model with
    | .waiting => claimPass queued changed
    | .blocked reason =>
      let blocked ← markProductionTaskBlocked model.id reason
      claimPass queued (changed || blocked)
    | .ready =>
      let affected ← execute (.claim model.id (model.attempts + 1))
      if affected == 1 then
        let task ← findProductionTask model.id
        pure (.returned task)
      else claimPass queued true

def claimNextProductionTask : Nat → Db (Option ProductionTask)
  | 0 => Attempt.diverge
  | fuel + 1 => do
    let queued ← ExceptT.mk (ask .selectQueued)
    if queued.isEmpty then pure none
    else
      match ← claimPass queued false with
      | .returned task => pure task
      | .finished false => pure none
      | .finished true => claimNextProductionTask fuel

def updateProductionTaskProgress (id : TaskId) (phase : String) (percent : Int) :
    Db (Option ProductionTask) := do
  let affected ← execute (.progress id phase percent)
  if affected == 0 then pure none else findProductionTask id

def finishProductionTask (fuel : Nat) (id : TaskId) (status : TaskStatus) (percent : Int)
    (result error : String) : Db (Option ProductionTask) := do
  match ← findProductionTask id with
  | none => pure none
  | some _ =>
    let updated ← update (.finish id status percent result error)
    if status.isRetryable then
      let _ ← propagateProductionTaskDependencyFailure fuel id
      pure (some updated)
    else pure (some updated)

def requestCancelProductionTask (fuel : Nat) (id : TaskId) : Db (Option ProductionTask) := do
  match ← findProductionTask id with
  | none => pure none
  | some model =>
    if model.status.isTerminal then pure (some model)
    else
      let queued := decide (model.status = .queued)
      let updated ← update (.cancel id queued)
      if queued then
        let _ ← propagateProductionTaskDependencyFailure fuel id
        pure (some updated)
      else pure (some updated)

/-- The part of `retry_production_task` after its checks. -/
def requeueProductionTask (fuel : Nat) (model : ProductionTask) : Db (Option ProductionTask) := do
  let updated ← update (.retry model.id (min (max model.maxAttempts (model.attempts + 1)) 10))
  let _ ← requeueBlockedProductionTaskDescendants fuel model.id
  pure (some updated)

def retryProductionTask (fuel : Nat) (id : TaskId) : Db (Option ProductionTask) := do
  match ← findProductionTask id with
  | none => pure none
  | some model =>
    if !model.status.isRetryable then pure (some model)
    else if model.status = .blocked then
      match ← productionTaskDependencyState model with
      | .ready => requeueProductionTask fuel model
      | .waiting | .blocked _ => pure (some model)
    else requeueProductionTask fuel model

def recoverTasks (fuel : Nat) : List ProductionTask → Nat → Db Nat
  | [], recovered => pure recovered
  | model :: tasks, recovered => do
    let _ ← update (.recover model.id model.cancelRequested)
    let _ ← propagateProductionTaskDependencyFailure fuel model.id
    recoverTasks fuel tasks (recovered + 1)

def recoverIncompleteProductionTasks (fuel : Nat) : Db Nat := do
  let tasks ← ExceptT.mk (ask .selectRunning)
  recoverTasks fuel tasks 0

end SteelInspection.Tasks
