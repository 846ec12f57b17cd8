import SteelInspection.Foundations.Sequential
import SteelInspection.Tasks.Transitions

/-! # The queue as a service

The queue is asked one operation after the other: enqueue, claim, progress, finish, cancel, retry,
and the recovery after a restart.  An operation runs alone; any of its database calls may fail, and
the process may stop in front of any of them.
-/

namespace SteelInspection.Tasks

open Foundations

/-! ## Operations -/

/-- Operations run one at a time, so the admin lock is free whenever it is asked for. -/
def Shared.unlocked (shared : Shared) : Shared := { shared with adminLock := none }

theorem semantics_unlocked (env : Env) (request : Call) (shared : Shared) :
    (semantics (.admin 0) env request shared.unlocked).isSome := by
  cases request with
  | insert input =>
    simp only [semantics]
    split
    · rfl
    · split <;> rfl
  | update statement =>
    simp only [semantics]
    split <;> rfl
  | lockAdmin =>
    simp only [semantics, Shared.unlocked]
    cases env.poisoned <;> rfl
  | _ => rfl

def effects : Effects Shared Env Call Call.Reply := fun env request shared =>
  (semantics (.admin 0) env request shared.unlocked).get (semantics_unlocked env request shared)

theorem semantics_effects (env : Env) (request : Call) (shared : Shared) :
    semantics (.admin 0) env request shared.unlocked =
      some ((effects env request shared).1, (effects env request shared).2) :=
  (Option.some_get _).symm

inductive Operation where
  | enqueue (configured : Option Nat) (body : Option Json) (actor : String)
  | claim (fuel : Nat)
  | progress (id : TaskId) (phase : String) (percent : Int)
  | finish (fuel : Nat) (id : TaskId) (status : TaskStatus) (percent : Int) (result error : String)
  | cancel (fuel : Nat) (body : Option Json) (actor : String)
  | retry (fuel : Nat) (body : Option Json) (actor : String)
  | recover (fuel : Nat)

/-- The operation, answered with the task it hands to the worker. -/
def Operation.program : Operation → Code (Option ProductionTask)
  | .enqueue configured body actor => do
    let _ ← enqueueResponse (queueCapacity configured) body actor
    pure none
  | .claim fuel => do
    let claimed ← (claimNextProductionTask fuel).run
    pure (okFlatten claimed)
  | .progress id phase percent => do
    let _ ← (updateProductionTaskProgress id phase percent).run
    pure none
  | .finish fuel id status percent result error => do
    let _ ← (finishProductionTask fuel id status percent result error).run
    pure none
  | .cancel fuel body actor => do
    let _ ← cancelResponse fuel body actor
    pure none
  | .retry fuel body actor => do
    let _ ← retryResponse fuel body actor
    pure none
  | .recover fuel => do
    let _ ← (recoverIncompleteProductionTasks fuel).run
    pure none

def taskService : Service Shared Operation Env Call Call.Reply (Option ProductionTask) where
  effects := effects
  program := Operation.program
  admissible _ _ := true
  check _ _ _ := true

def emptyQueue : Shared := ⟨Table.empty, [], 0, none⟩

/-- The body of a request for one capture. -/
def captureBody : Option Json :=
  some (.obj [("kind", .str "capture-once"),
    ("payload", .obj [("materialId", .str "7"), ("sessionId", .str "S-7")])])

/-! ## Calls that leave the tasks alone -/

def LeavesTasks : Call → Prop
  | .insert _ | .execute _ | .update _ => False
  | _ => True

variable {request : Call} {shared : Shared} {env : Env} (statement : Statement) (now : String)
  (row : ProductionTask)

theorem LooksUp.leavesTasks (looks : LooksUp request) : LeavesTasks request := by
  cases request with
  | insert _ | execute _ | update _ => exact looks
  | _ => trivial

theorem tasks_cases (env : Env) (request : Call) (shared : Shared) :
    (effects env request shared).2.tasks = shared.tasks ∨ (∃ input tasks, request = .insert input ∧
      shared.tasks.insert (input.row env.timestamp) = some tasks ∧
      (effects env request shared).2.tasks = tasks) ∨
    ∃ statement, (request = .execute statement ∨ request = .update statement) ∧
      (effects env request shared).2.tasks = statement.execute env.timestamp shared.tasks := by
  obtain ⟨same, -⟩ | ⟨input, tasks, asked, inserted, same⟩ | ⟨statement, asked, same⟩ |
    ⟨-, -, same⟩ | ⟨-, same⟩ := semantics_cases (semantics_effects env request shared)
  · exact .inl same
  · exact .inr (.inl ⟨input, tasks, asked, inserted, by rw [same]⟩)
  · exact .inr (.inr ⟨statement, asked, by rw [same]; rfl⟩)
  · exact .inl (by rw [same]; rfl)
  · exact .inl (by rw [same]; rfl)

theorem tasks_effects (leaves : LeavesTasks request) :
    (effects env request shared).2.tasks = shared.tasks := by
  obtain same | ⟨_, _, rfl, -⟩ | ⟨_, rfl | rfl, -⟩ := tasks_cases env request shared
  · exact same
  · exact leaves.elim
  · exact leaves.elim
  · exact leaves.elim

/-- A statement is carried out, or the tasks stay as they are. -/
theorem effects_statement {statement : Statement} (env : Env) (shared : Shared)
    (asked : request = .execute statement ∨ request = .update statement) :
    (effects env request shared).2.tasks = shared.tasks ∨
      (effects env request shared).2.tasks = statement.execute env.timestamp shared.tasks := by
  obtain same | ⟨_, _, inserts, -⟩ | ⟨other, again, same⟩ := tasks_cases env request shared
  · exact .inl same
  · grind
  · have equal : other = statement := by grind
    exact .inr (equal ▸ same)

/-- Where a row comes from that is there after a call: it was there, it has been inserted, or a
statement has changed the row that was there. -/
theorem row_effects {id : TaskId} {row : ProductionTask}
    (found : (effects env request shared).2.tasks.find? id = some row) :
    shared.tasks.find? id = some row ∨
    (∃ input, request = .insert input ∧ id = input.id ∧ row = input.row env.timestamp) ∨
    ∃ statement old, (request = .execute statement ∨ request = .update statement) ∧
      id = statement.target ∧ shared.tasks.find? id = some old ∧ statement.guard old = true ∧
      row = statement.change env.timestamp old := by
  obtain same | ⟨input, tasks, rfl, inserted, same⟩ | ⟨statement, asked, same⟩ :=
    tasks_cases env request shared
  · rw [same] at found
    exact .inl found
  · rw [same, Table.find?_insert inserted] at found
    split at found
    next new =>
      cases found
      exact .inr (.inl ⟨input, rfl, new.symm, rfl⟩)
    · exact .inl found
  · rw [same] at found
    obtain ⟨old, stored, rfl | ⟨target, holds, rfl⟩⟩ := Statement.find?_before found
    · exact .inl stored
    · exact .inr (.inr ⟨statement, old, asked, target, stored, holds, rfl⟩)

theorem sequence_effects (env : Env) (request : Call) (shared : Shared) :
    shared.sequence ≤ (effects env request shared).2.sequence := by
  have ran := semantics_effects env request shared
  have same : ∀ {after : Shared}, after.sequence = shared.sequence →
      (effects env request shared).2 = after →
      shared.sequence ≤ (effects env request shared).2.sequence := by
    intro after kept equal
    rw [equal, kept]
  cases request with
  | nextSequence => exact Nat.le_succ _
  | insert input =>
    simp only [semantics] at ran
    split at ran
    · rcases Connection.after_write ran with equal | equal <;>
        exact same (by rfl) equal
    · split at ran <;>
        rcases Connection.after_write ran with equal | equal <;>
          exact same (by rfl) equal
  | update statement =>
    simp only [semantics] at ran
    split at ran <;>
      rcases Connection.after_write ran with equal | equal <;>
        exact same (by rfl) equal
  | execute _ | appendAuditLog _ =>
    rcases Connection.after_write ran with equal | equal <;>
      exact same (by rfl) equal
  | lockAdmin => cases poisoned : env.poisoned <;> simp [effects, semantics, poisoned, Shared.unlocked]
  | currentTimeMillis | runtimeIsDraining | unlockAdmin | lockCommand | unlockCommand | dispatch _ =>
    exact Nat.le_refl _
  | _ => exact same (by rfl) (Connection.after_query ran)

/-! ## What identifies a task -/

/-- The part of a row that no statement changes. -/
structure TaskIdentity where
  id : TaskId
  dependsOnTaskId : TaskId
  dependencyPolicy : DependencyPolicy
  chainId : String
  sessionId : String
  materialId : String

def ProductionTask.identity (task : ProductionTask) : TaskIdentity :=
  ⟨task.id, task.dependsOnTaskId, task.dependencyPolicy, task.chainId, task.sessionId, task.materialId⟩

def TaskTable.identity? (tasks : TaskTable) (id : TaskId) : Option TaskIdentity :=
  (tasks.find? id).map (·.identity)

theorem Statement.identity_change : (statement.change now row).identity = row.identity := by
  cases statement with
  | cancel id queued => cases queued <;> rfl
  | _ => rfl

/-- What a statement makes of a row. -/
def Statement.apply (statement : Statement) (now : String) (row : ProductionTask) : ProductionTask :=
  if statement.condition row then statement.change now row else row

theorem Statement.rows_execute (tasks : TaskTable) :
    (statement.execute now tasks).rows = tasks.rows.map (statement.apply now) := rfl

theorem Statement.identity_apply : (statement.apply now row).identity = row.identity := by
  unfold Statement.apply
  split
  · exact statement.identity_change now row
  · rfl

theorem Statement.createdAt_apply : (statement.apply now row).createdAt = row.createdAt := by
  unfold Statement.apply
  split
  · cases statement with
    | cancel id queued => cases queued <;> rfl
    | _ => rfl
  · rfl

theorem identity?_effects (inserts : ∀ input, request ≠ .insert input) (id : TaskId) :
    TaskTable.identity? (effects env request shared).2.tasks id =
      TaskTable.identity? shared.tasks id := by
  obtain same | ⟨input, _, inserted, -⟩ | ⟨statement, -, same⟩ := tasks_cases env request shared
  · rw [same]
  · exact absurd inserted (inserts input)
  · rw [same, TaskTable.identity?, Statement.execute, Table.find?_updateWhere, Option.map_map]
    exact congrArg (Option.map · _) (funext (statement.identity_apply env.timestamp))

end SteelInspection.Tasks
