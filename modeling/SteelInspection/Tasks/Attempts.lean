import SteelInspection.Tasks.Admission

/-! # The attempts of a task

A claim counts an attempt and looks at no limit.  The limit is kept because a task that waits has an
attempt left: enqueue and retry see to that when they put it into the queue.  Retry cannot do so for
a task that has used up ten attempts, since it raises the limit to ten at most, but requeues the task
all the same.
-/

namespace SteelInspection.Tasks

open Foundations

/-- The attempts are within the limit, and a task that waits has one left. -/
structure WithinLimit (row : ProductionTask) : Prop where
  attempts : row.attempts ≤ row.maxAttempts
  limit : row.maxAttempts ≤ 10
  left : row.status = .queued ∨ row.status = .blocked → row.attempts < row.maxAttempts

def AllWithinLimit (shared : Shared) : Prop :=
  ∀ id row, shared.tasks.find? id = some row → WithinLimit row

/-- A change that counts no attempt and leaves no task waiting that did not wait before. -/
theorem WithinLimit.settle {row next : ProductionTask} (within : WithinLimit row)
    (attempts : next.attempts = row.attempts) (limit : next.maxAttempts = row.maxAttempts)
    (waits : next.status = .queued ∨ next.status = .blocked →
      row.status = .queued ∨ row.status = .blocked) : WithinLimit next := by
  refine ⟨?_, ?_, fun waiting => ?_⟩
  · rw [attempts, limit]
    exact within.attempts
  · rw [limit]
    exact within.limit
  · rw [attempts, limit]
    exact within.left (waits waiting)

/-- The operations that keep the limit: a retry asks for a task with less than ten attempts, and a
finish writes one of the worker's outcomes. -/
def keepsLimit : Operation → Shared → Bool
  | .retry _ body _, shared =>
    match taskIdFromBody body with
    | .ok id => (shared.tasks.find? id).all (·.attempts < 10)
    | .error _ => true
  | .finish _ _ status _ _ _, _ => status.isOutcome
  | _, _ => true

variable {operation : Operation}

/-- What a statement makes of a row that is within its limit. -/
theorem WithinLimit.change {start shared : Shared} {statement : Statement} {row : ProductionTask}
    (now : String) (within : WithinLimit row) (admitted : keepsLimit operation start = true)
    (written : Written operation start statement shared)
    (found : shared.tasks.find? statement.target = some row) (holds : statement.guard row = true) :
    WithinLimit (statement.change now row) := by
  cases written with
  | claim stored ready =>
    cases stored.symm.trans found
    simp only [Statement.guard, Bool.and_eq_true, decide_eq_true_eq] at holds
    have attempt := within.left (.inl holds.1)
    refine ⟨?_, within.limit, fun running => ?_⟩
    · show row.attempts + 1 ≤ row.maxAttempts
      omega
    · rcases running with impossible | impossible <;> cases impossible
  | markBlocked => exact within.settle rfl rfl fun _ => .inl (by simpa [Statement.guard] using holds)
  | requeueBlocked =>
    exact within.settle rfl rfl fun _ => .inr (by simpa [Statement.guard] using holds)
  | progress => exact within.settle rfl rfl fun waiting => waiting
  | @finish fuel id status percent result error _ finishes same =>
    subst finishes
    refine within.settle rfl rfl fun waiting => ?_
    have outcome : status.isOutcome = true := admitted
    rcases (waiting : status = .queued ∨ status = .blocked) with rfl | rfl <;> cases outcome
  | @cancel stored _ _ live =>
    by_cases queued : stored.status = .queued
    · -- a queued task is cancelled at once
      simp only [Statement.change, queued, decide_true, if_true]
      exact within.settle rfl rfl fun waiting => by
        rcases waiting with impossible | impossible <;> cases impossible
    · simp only [Statement.change, queued, decide_false, Bool.false_eq_true, if_false]
      exact within.settle rfl rfl fun waiting => waiting
  | @retry fuel body actor stored _ retries named same present retryable =>
    cases present.symm.trans found
    subst retries
    have fewer : row.attempts < 10 := by
      rw [same] at present
      simpa [keepsLimit, named, present] using admitted
    refine ⟨?_, ?_, fun _ => ?_⟩
    · show row.attempts ≤ min (max row.maxAttempts (row.attempts + 1)) 10
      omega
    · show min (max row.maxAttempts (row.attempts + 1)) 10 ≤ 10
      omega
    · show row.attempts < min (max row.maxAttempts (row.attempts + 1)) 10
      omega
  | @recover id cancelled _ running =>
    refine within.settle rfl rfl fun waiting => ?_
    cases cancelled <;> rcases waiting with impossible | impossible <;> cases impossible

theorem AllWithinLimit.kept {start shared : Shared} {request : Call} {env : Env}
    (within : AllWithinLimit shared) (admitted : keepsLimit operation start = true)
    (issued : Issued operation start request shared) :
    AllWithinLimit (effects env request shared).2 := by
  intro id row found
  obtain stored | ⟨input, -, -, rfl⟩ | ⟨statement, old, asked, rfl, stored, holds, rfl⟩ :=
    row_effects found
  · exact within id row stored
  · have limit : 1 ≤ clamp input.maxAttempts 1 10 ∧ clamp input.maxAttempts 1 10 ≤ 10 := by
      unfold clamp
      omega
    refine ⟨?_, limit.2, fun _ => ?_⟩
    · show 0 ≤ clamp input.maxAttempts 1 10
      omega
    · show 0 < clamp input.maxAttempts 1 10
      omega
  · exact (within _ old stored).change env.timestamp admitted (issued.written asked) stored holds

/-- The queue whose retries ask for tasks with less than ten attempts. -/
def limitedService : Service Shared Operation Env Call Call.Reply (Option ProductionTask) :=
  { taskService with admissible := keepsLimit }

/-- In every run in which no retry asks for a task that has had its ten attempts, the attempts of
every task are within its limit, and the limit within ten. -/
theorem attempts_bounded {shared : Shared} (reached : limitedService.Reachable emptyQueue shared) :
    ∀ row ∈ shared.tasks.rows, row.attempts ≤ row.maxAttempts ∧ row.maxAttempts ≤ 10 := by
  have starts : AllWithinLimit emptyQueue := fun _ _ => nofun
  have within := Service.reachable_kept starts
    (fun operation start => operation_issues operation _ start)
    (fun admitted _ issued _ within => AllWithinLimit.kept within admitted issued) reached
  intro row member
  have holds := within row.id row (Table.mem_rows_iff.mp member)
  exact ⟨holds.attempts, holds.limit⟩

/-- One capture that fails and is retried again and again, and is claimed once more at the end. -/
def failingCapture (retries : Nat) : List (Operation × List Env) :=
  let named : Option Json := some (.obj [("taskId", .str "TASK-100-00000000000000000000")])
  let calls : List Env := List.replicate 16 { now := 100 }
  (.enqueue none captureBody "operator", calls) ::
    (List.replicate retries [(.claim 2, calls),
      (.finish 2 "TASK-100-00000000000000000000" .failed 100 "" "no frame", calls),
      (.retry 2 named "operator", calls)]).flatten ++ [(.claim 2, calls)]

theorem failingCapture_bounded : ∃ shared, limitedService.Reachable emptyQueue shared ∧
      shared.tasks.rows.map (·.attempts) = [10] ∧
      ∀ row ∈ shared.tasks.rows, row.attempts ≤ row.maxAttempts ∧ row.maxAttempts ≤ 10 := by
  have reached : limitedService.Reachable emptyQueue
      (limitedService.run (failingCapture 9) emptyQueue) :=
    Service.reachable_run limitedService .start (by decide +kernel)
  exact ⟨_, reached, by decide +kernel, attempts_bounded reached⟩

/-- The tenth retry finds a task with ten attempts, and the claim after it counts the eleventh. -/
theorem tenth_retry_exceeds_limit : ¬∀ shared, taskService.Reachable emptyQueue shared →
      ∀ row ∈ shared.tasks.rows, row.attempts ≤ row.maxAttempts ∧ row.maxAttempts ≤ 10 := by
  intro bounded
  have reached : taskService.Reachable emptyQueue (taskService.run (failingCapture 10) emptyQueue) :=
    Service.reachable_run taskService .start (by decide +kernel)
  have exceeded : (taskService.run (failingCapture 10) emptyQueue).tasks.rows.map
      (fun row => (row.attempts, row.maxAttempts)) = [(11, 10)] := by decide +kernel
  obtain ⟨row, rows, counts⟩ := List.map_eq_singleton_iff.mp exceeded
  have within := (bounded _ reached row (by rw [rows]; exact List.mem_singleton_self row)).1
  simp only [Prod.mk.injEq] at counts
  omega

end SteelInspection.Tasks
