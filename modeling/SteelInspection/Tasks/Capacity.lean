import SteelInspection.Tasks.Admission

/-! # The length of the queue

Enqueue looks at the number of open tasks before it stores another one.  Retry does not: the task it
requeues, and every blocked task behind it, becomes one more open task whatever the capacity is.
-/

namespace SteelInspection.Tasks

open Foundations

def ProductionTask.isOpen (row : ProductionTask) : Bool :=
  row.status = .queued || row.status = .running

theorem openTasks_insert {tasks next : TaskTable} {row : ProductionTask}
    (inserted : tasks.insert row = some next) : openTasks next ≤ openTasks tasks + 1 := by
  have rows : next.rows = tasks.rows ++ [row] := Table.rows_insert inserted
  simp only [openTasks, Table.affected, Table.select, rows, List.filter_append, List.length_append]
  have last := List.length_filter_le (fun row : ProductionTask =>
    row.status = .queued || row.status = .running) [row]
  simp only [List.length_singleton] at last
  omega

/-- A statement adds at most the row that it names. -/
theorem openTasks_execute (statement : Statement) (now : String) (tasks : TaskTable) :
    openTasks (statement.execute now tasks) ≤ openTasks tasks + 1 := by
  have added := tasks.affected_updateWhere_le_add statement.condition ProductionTask.isOpen
    (Statement.change_id now statement)
  have one : tasks.affected statement.condition ≤ 1 := by
    apply Table.affected_le_one
    intro row holds
    simp only [Statement.condition, Bool.and_eq_true, decide_eq_true_eq] at holds
    exact holds.1
  exact Nat.le_trans added (Nat.add_le_add_left one _)

/-! ## The capacity along a run -/

/-- The enqueue requests of one configuration; a finish writes one of the worker's outcomes. -/
def asConfigured (configured : Option Nat) : Operation → Shared → Bool
  | .enqueue current _ _, _ => queueCapacity current = queueCapacity configured
  | .finish _ _ status _ _ _, _ => status.isOutcome
  | _, _ => true

/-- The statements that put a task back into the queue. -/
def Statement.requeues : Statement → Bool
  | .retry _ _ | .requeueBlocked _ => true
  | _ => false

/-- When a statement puts a task back into the queue, there is room for it. -/
def roomToRequeue (capacity : Nat) : Check Shared Env Call
  | .execute statement, some _, shared | .update statement, some _, shared =>
    !statement.requeues || openTasks shared.tasks < capacity
  | _, _, _ => true

variable {configured : Option Nat} {operation : Operation}

/-- The statements other than those that put a task back open none. -/
theorem openTasks_written {start shared : Shared} {statement : Statement} (now : String)
    (admitted : asConfigured configured operation start = true)
    (written : Written operation start statement shared) (requeues : statement.requeues = false) :
    openTasks (statement.execute now shared.tasks) ≤ openTasks shared.tasks := by
  apply shared.tasks.affected_updateWhere_le statement.condition ProductionTask.isOpen
  intro row holds isOpen
  simp only [Statement.condition, Bool.and_eq_true] at holds
  replace holds := holds.2
  cases written with
  | claim =>
    simp only [Statement.guard, Bool.and_eq_true, decide_eq_true_eq] at holds
    simp [ProductionTask.isOpen, holds.1]
  | markBlocked => simp [ProductionTask.isOpen, Statement.change] at isOpen
  | requeueBlocked => cases requeues
  | progress => exact isOpen
  | @finish fuel id status percent result error _ finishes same =>
    subst finishes
    have outcome : status.isOutcome = true := admitted
    cases status with
    | queued | running | interrupted | blocked => cases outcome
    | succeeded | failed | cancelled => simp [ProductionTask.isOpen, Statement.change] at isOpen
  | @cancel stored _ _ live => grind [ProductionTask.isOpen, Statement.change]
  | retry => cases requeues
  | @recover id cancelled _ running =>
    cases cancelled <;> simp [ProductionTask.isOpen, Statement.change] at isOpen

def WithinCapacity (configured : Option Nat) (shared : Shared) : Prop :=
  openTasks shared.tasks ≤ queueCapacity configured

theorem WithinCapacity.kept {start shared : Shared} {request : Call} {env : Env}
    (within : WithinCapacity configured shared)
    (admitted : asConfigured configured operation start = true)
    (issued : Issued operation start request shared)
    (passed : roomToRequeue (queueCapacity configured) request (some env) shared = true) :
    WithinCapacity configured (effects env request shared).2 := by
  unfold WithinCapacity
  obtain same | ⟨input, tasks, rfl, inserted, same⟩ | ⟨statement, asked, same⟩ :=
    tasks_cases env request shared
  · rw [same]
    exact within
  · rw [same]
    cases issued with
    | quiet leaves => exact leaves.elim
    | @insert current body actor enqueued _ _ operates checked unchanged accepted =>
      subst operates
      have capacity : queueCapacity current = queueCapacity configured := by
        simpa [asConfigured] using admitted
      have room := accepted.room
      rw [capacity] at room
      exact Nat.le_trans (openTasks_insert inserted) room
  · rw [same]
    cases requeues : statement.requeues with
    | false => exact Nat.le_trans (openTasks_written _ admitted (issued.written asked) requeues) within
    | true =>
      have room : openTasks shared.tasks < queueCapacity configured := by
        rcases asked with rfl | rfl <;> simpa [roomToRequeue, requeues] using passed
      exact Nat.le_trans (openTasks_execute statement env.timestamp shared.tasks) room

def configuredService (configured : Option Nat) :
    Service Shared Operation Env Call Call.Reply (Option ProductionTask) :=
  { taskService with admissible := asConfigured configured }

def roomyService (configured : Option Nat) :
    Service Shared Operation Env Call Call.Reply (Option ProductionTask) :=
  { configuredService configured with check := roomToRequeue (queueCapacity configured) }

/-- In every run in which tasks are put back into the queue only while there is room for them, the
open tasks stay within the capacity. -/
theorem openTasks_bounded {configured : Option Nat} {shared : Shared}
    (reached : (roomyService configured).Reachable emptyQueue shared) :
    openTasks shared.tasks ≤ queueCapacity configured := by
  have starts : WithinCapacity configured emptyQueue := Nat.zero_le _
  exact Service.reachable_kept starts (fun operation start => operation_issues operation _ start)
    (fun admitted _ issued passed within => WithinCapacity.kept within admitted issued passed) reached

/-- A capture fails, another one is enqueued behind it, and the first is retried. -/
def retriedCapture (configured : Option Nat) : List (Operation × List Env) :=
  let named : Option Json := some (.obj [("taskId", .str "TASK-100-00000000000000000000")])
  let calls : List Env := List.replicate 16 { now := 100 }
  [(.enqueue configured captureBody "operator", calls), (.claim 2, calls),
    (.finish 2 "TASK-100-00000000000000000000" .failed 100 "" "no frame", calls),
    (.enqueue configured captureBody "operator", calls), (.retry 2 named "operator", calls)]

theorem retriedCapture_bounded :
    ∃ shared, (roomyService (some 2)).Reachable emptyQueue shared ∧ openTasks shared.tasks = 2 ∧
      openTasks shared.tasks ≤ queueCapacity (some 2) := by
  have reached : (roomyService (some 2)).Reachable emptyQueue
      ((roomyService (some 2)).run (retriedCapture (some 2)) emptyQueue) :=
    Service.reachable_run _ .start (by decide +kernel)
  exact ⟨_, reached, by decide +kernel, openTasks_bounded reached⟩

/-- A queue with room for one task holds two after the retry. -/
theorem retry_exceeds_capacity :
    ¬∀ configured shared, (configuredService configured).Reachable emptyQueue shared →
      openTasks shared.tasks ≤ queueCapacity configured := by
  intro bounded
  have reached : (configuredService (some 1)).Reachable emptyQueue
      ((configuredService (some 1)).run (retriedCapture (some 1)) emptyQueue) :=
    Service.reachable_run _ .start (by decide +kernel)
  have exceeded : ¬openTasks
      ((configuredService (some 1)).run (retriedCapture (some 1)) emptyQueue).tasks ≤
        queueCapacity (some 1) := by decide +kernel
  exact exceeded (bounded (some 1) _ reached)

end SteelInspection.Tasks
