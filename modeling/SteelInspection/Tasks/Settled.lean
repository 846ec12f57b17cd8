import SteelInspection.Tasks.Discipline

/-! # A settled task stays settled

Once a task has succeeded, failed, been cancelled or been interrupted, its status and its result
stay as they are until the task itself is retried, and the worker does not dispatch it.  The runs
this holds for are those in which the unguarded write of a cancel request finds the row as the
request read it; `cancel_overwrites_success` is a run in which it does not.
-/

namespace SteelInspection.Tasks

open Foundations

def TaskStatus.isEnded : TaskStatus → Bool
  | .succeeded | .failed | .cancelled | .interrupted => true
  | .queued | .running | .blocked => false

def retries (id : TaskId) : Call → Bool
  | .update (.retry target _) => target = id
  | _ => false

def Retries (id : TaskId) (request : Call) : Prop := retries id request = true

/-- The task ended with this row has kept its status and its result, and is not being dispatched. -/
def StaysSettled (row : ProductionTask) (machine : Machine Shared Thread Call Call.Reply TaskAnswer) :
    Prop :=
  (∃ later, machine.shared.tasks.find? row.id = some later ∧ later.status = row.status ∧
    later.result = row.result) ∧
  ∀ task, machine.nextCall? .worker = some (.dispatch task) → task.id ≠ row.id

/-- The status and the result of a task. -/
def outcomeOf (shared : Shared) (id : TaskId) : Option (TaskStatus × String) :=
  (shared.tasks.find? id).map fun row => (row.status, row.result)

variable {id : TaskId} {outcome : TaskStatus × String} {shared : Shared} {thread : Thread}
  {request : Call}

theorem Move.retries {before after : TaskStatus} (move : Move thread request id before after)
    (ended : before.isEnded = true) : Retries id request := by
  cases move with
  | claim | finish | recover | block | requeue => cases ended
  | cancel waiting => rcases waiting with rfl | rfl <;> cases ended
  | retry => exact decide_eq_true rfl

section

variable (permitted : Permitted thread request shared)
  (calm : CancelUndisturbed thread request shared)
include permitted calm

/-- No permitted statement but a retry of the task changes the outcome of an ended task. -/
theorem change_keeps_outcome {statement : Statement} {row : ProductionTask} (now : String)
    (asked : request = .execute statement ∨ request = .update statement)
    (ended : row.status.isEnded = true) (noRetry : ¬ Retries statement.target request)
    (found : shared.tasks.find? statement.target = some row) (holds : statement.guard row = true) :
    (statement.change now row).status = row.status ∧
      (statement.change now row).result = row.result := by
  have sameStatus : (statement.change now row).status = row.status := by
    rcases move_of_change permitted calm now asked found holds with same | move
    · exact same
    · exact (noRetry (move.retries ended)).elim
  refine ⟨sameStatus, ?_⟩
  cases statement with
  | finish id next percent result error =>
    -- besides a retry the only statement that writes a result: the worker makes it on running rows
    rcases asked with rfl | rfl <;> cases thread
    · exact permitted.elim
    · exact permitted.elim
    · have running := (statusOf_of_find found).symm.trans permitted.1
      rw [Option.some.inj running] at ended
      cases ended
    · exact permitted.elim
  | retry id maxAttempts =>
    rcases asked with rfl | rfl
    · cases thread <;> exact permitted.elim
    · exact (noRetry (decide_eq_true rfl)).elim
  | cancel id queued => cases queued <;> rfl
  | _ => rfl

theorem outcomeOf_after {env : Env} {after : Shared} {reply : request.Reply}
    (noRetry : ¬ Retries id request)
    (ran : semantics thread env request shared = some (reply, after))
    (ended : outcome.1.isEnded = true) (found : outcomeOf shared id = some outcome) :
    outcomeOf after id = some outcome := by
  obtain ⟨row, present, rfl⟩ := Option.map_eq_some_iff.mp found
  obtain ⟨sameTasks, _⟩ | ⟨input, tasks, rfl, inserted, rfl⟩ | ⟨statement, asked, rfl⟩ |
    ⟨rfl, _, rfl⟩ | ⟨rfl, rfl⟩ := semantics_cases ran
  · rw [outcomeOf, sameTasks]
    exact found
  · rw [outcomeOf, Table.find?_insert_of_found inserted present]
    rfl
  · rcases Statement.find?_execute statement env.timestamp present with
      same | ⟨rfl, holds, changed⟩
    · rw [outcomeOf, same]
      rfl
    · obtain ⟨sameStatus, sameResult⟩ :=
        change_keeps_outcome permitted calm env.timestamp asked ended noRetry present holds
      rw [outcomeOf, changed, Option.map_some, sameStatus, sameResult]
  · exact found
  · exact found

end

section

variable {machine}
  (reached : queueRules.Reachable machine) (ended : outcome.1.isEnded = true)
  (found : outcomeOf machine.shared id = some outcome)
include reached ended found

theorem step_keeps_outcome {next action}
    (allowed : (queueRules.avoiding (Retries id)).Allowed machine action)
    (stepped : machine.step semantics action = some next) :
    outcomeOf next.shared id = some outcome := by
  obtain ⟨thread, program, rfl, rfl⟩ |
    ⟨thread, env, request, continuation, reply, shared, rfl, running, ran, rfl⟩ :=
    Machine.step_cases stepped
  · exact found
  have asks : machine.nextCall? thread = some request :=
    Machine.nextCall?_eq_some.mpr ⟨continuation, running⟩
  obtain ⟨calm, noRetry⟩ := allowed request asks
  exact outcomeOf_after (reachable_permitted reached asks) calm noRetry ran ended found

/-- A whole stretch of a run: an ended task keeps its outcome while it is not retried. -/
theorem path_keeps_outcome {last actions}
    (path : (queueRules.avoiding (Retries id)).Path machine actions last) :
    queueRules.Reachable last ∧ outcomeOf last.shared id = some outcome := by
  induction path with
  | done => exact ⟨reached, found⟩
  | step allowed stepped _ ih =>
    exact ih (.step reached allowed.of_avoiding stepped)
      (step_keeps_outcome reached ended found allowed stepped)

end

theorem settled_until_retry {machine last : Machine Shared Thread Call Call.Reply TaskAnswer}
    {actions : List (Action Thread Env Call Call.Reply TaskAnswer)} {row : ProductionTask}
    (reached : queueRules.Reachable machine)
    (path : (queueRules.avoiding (Retries row.id)).Path machine actions last)
    (found : machine.shared.tasks.find? row.id = some row) (ended : row.status.isEnded = true) :
    StaysSettled row last := by
  have outcome : outcomeOf machine.shared row.id = some (row.status, row.result) := by
    rw [outcomeOf, found, Option.map_some]
  obtain ⟨lastReached, kept⟩ := path_keeps_outcome reached ended outcome path
  obtain ⟨later, present, settled⟩ := Option.map_eq_some_iff.mp kept
  rw [Prod.mk.injEq] at settled
  refine ⟨⟨later, present, settled⟩, ?_⟩
  intro task dispatches same
  have running : statusOf last.shared task.id = some .running :=
    reachable_permitted lastReached dispatches
  rw [same, statusOf_of_find present, settled.1] at running
  rw [show row.status = .running from Option.some.inj running] at ended
  cases ended

/-! ## A cancel request and the worker on one task -/

/-- One queued capture task. -/
def captureTask : ProductionTask :=
  ProductionTaskInput.row
    { id := "TASK-1", idempotencyKey := "capture-once:1", kind := .captureOnce, materialId := "M1"
      sessionId := "S1", chainId := "S1", dependsOnTaskId := "", dependencyPolicy := .requireSuccess
      payload := "\x7b\x7d", actor := "operator", maxAttempts := 1 } "0"

def oneQueuedTask : Shared where
  tasks := ⟨[captureTask], by decide⟩
  auditLog := []
  sequence := 0
  adminLock := none

def cancelCaptureTask : Code TaskAnswer :=
  cancelResponse 2 (some (.obj [("taskId", .str "TASK-1")])) "operator"

def workerSteps (count : Nat) : List (Action Thread Env Call Call.Reply TaskAnswer) :=
  List.replicate count (.advance .worker {})

def cancelSteps (count : Nat) : List (Action Thread Env Call Call.Reply TaskAnswer) :=
  List.replicate count (.advance (.admin 0) {})

/-- The cancel request reads the task as queued; before it writes, the worker claims, dispatches
and finishes the task. -/
def overtakenCancel : List (Action Thread Env Call Call.Reply TaskAnswer) :=
  .spawn (.admin 0) cancelCaptureTask :: .spawn .worker (startWorker false 2) ::
    (cancelSteps 3 ++ workerSteps 19)

/-- The row as the worker leaves it. -/
def capturedTask : ProductionTask :=
  { captureTask with
    status := .succeeded, phase := "succeeded", progress := 100, attempts := 1, startedAt := "0"
    finishedAt := "0" }

/-- Without the side condition a stored success is overwritten by `cancelled`. -/
theorem cancel_overwrites_success :
    ¬ ∀ (machine last : Machine Shared Thread Call Call.Reply TaskAnswer)
        (actions : List (Action Thread Env Call Call.Reply TaskAnswer)) (row : ProductionTask),
      queueRules.free.Reachable machine →
      (queueRules.free.avoiding (Retries row.id)).Path machine actions last →
      machine.shared.tasks.find? row.id = some row → row.status.isEnded = true →
      StaysSettled row last := by
  intro settled
  let check : Thread → Call → Shared → Bool := fun _ request _ => !retries "TASK-1" request
  obtain ⟨machine, ran, found⟩ : ∃ machine,
      Machine.runChecked semantics check (.start oneQueuedTask) overtakenCancel = some machine ∧
        machine.shared.tasks.find? "TASK-1" = some capturedTask :=
    Option.map_eq_some_iff.mp (by decide)
  obtain ⟨last, ranOn, overwritten⟩ : ∃ last,
      Machine.runChecked semantics check (.start oneQueuedTask) (overtakenCancel ++ cancelSteps 1) =
        some last ∧ statusOf last.shared "TASK-1" = some .cancelled :=
    Option.map_eq_some_iff.mp (by decide)
  rw [Machine.runChecked_append, ran, Option.bind_some] at ranOn
  have reached : queueRules.free.Reachable machine :=
    (Rules.path_runChecked queueRules.free (fun _ _ _ _ => trivial)
      ran ⟨.cancel 0 2 _ _, .worker false 2, trivial⟩).reachable (.start rfl)
  have path : (queueRules.free.avoiding (Retries "TASK-1")).Path machine (cancelSteps 1) last :=
    Rules.path_runChecked (queueRules.free.avoiding (Retries "TASK-1"))
      (fun _ request _ passed => ⟨trivial, by simpa [check, Retries] using passed⟩)
      ranOn trivial
  obtain ⟨⟨later, present, same, _⟩, _⟩ :=
    settled machine last (cancelSteps 1) capturedTask reached path found rfl
  have status : statusOf last.shared "TASK-1" = some later.status := statusOf_of_find present
  rw [status, same] at overwritten
  cases overwritten

/-- The same task finished by the worker before the cancel request comes: the request is turned
away and the task stays as it is. -/
theorem settled_until_retry_captured :
    ∃ (machine last : Machine Shared Thread Call Call.Reply TaskAnswer)
      (actions : List (Action Thread Env Call Call.Reply TaskAnswer)),
      queueRules.Reachable machine ∧
      (queueRules.avoiding (Retries capturedTask.id)).Path machine actions last ∧
      (last.answer? (.admin 0)).map (·.error) = some (some "production_task_is_terminal") ∧
      StaysSettled capturedTask last := by
  let check : Thread → Call → Shared → Bool := fun _ request shared =>
    cancelUndisturbed request shared && !retries "TASK-1" request
  let captured : List (Action Thread Env Call Call.Reply TaskAnswer) :=
    .spawn .worker (startWorker false 2) :: workerSteps 19
  let cancelled : List (Action Thread Env Call Call.Reply TaskAnswer) :=
    .spawn (.admin 0) cancelCaptureTask :: cancelSteps 3
  obtain ⟨machine, ran, found⟩ : ∃ machine,
      Machine.runChecked semantics check (.start oneQueuedTask) captured = some machine ∧
        machine.shared.tasks.find? "TASK-1" = some capturedTask :=
    Option.map_eq_some_iff.mp (by decide)
  obtain ⟨last, ranOn, answered⟩ : ∃ last,
      Machine.runChecked semantics check (.start oneQueuedTask) (captured ++ cancelled) = some last ∧
        (last.answer? (.admin 0)).map (·.error) = some (some "production_task_is_terminal") :=
    Option.map_eq_some_iff.mp (by decide)
  rw [Machine.runChecked_append, ran, Option.bind_some] at ranOn
  have reached : queueRules.Reachable machine :=
    (Rules.path_runChecked queueRules
      (fun _ _ _ passed => by simp only [check, Bool.and_eq_true] at passed; exact passed.1)
      ran ⟨.worker false 2, trivial⟩).reachable (.start rfl)
  have path : (queueRules.avoiding (Retries "TASK-1")).Path machine cancelled last :=
    Rules.path_runChecked (queueRules.avoiding (Retries "TASK-1"))
      (fun _ _ _ passed => by
        simp only [check, Bool.and_eq_true] at passed
        exact ⟨passed.1, by simpa [Retries] using passed.2⟩)
      ranOn ⟨.cancel 0 2 _ _, trivial⟩
  exact ⟨machine, last, cancelled, reached, path, answered,
    settled_until_retry reached path found rfl⟩

end SteelInspection.Tasks
