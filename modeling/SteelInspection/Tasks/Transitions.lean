import SteelInspection.Tasks.Calls

/-! # What each call does to the status of a task

`Permitted` says when a thread makes a call, and `Move` lists the status changes that can then
happen.  Everything else about the queue's statuses follows from `statusOf_after`.
-/

namespace SteelInspection.Tasks

open Foundations

def statusOf (shared : Shared) (id : TaskId) : Option TaskStatus :=
  (shared.tasks.find? id).map (·.status)

variable {id : TaskId} {shared after : Shared} {env : Env} {request : Call} {thread : Thread}
  {statement : Statement} {reply : request.Reply} {row : ProductionTask}

theorem statusOf_of_find (found : shared.tasks.find? id = some row) :
    statusOf shared id = some row.status := by
  rw [statusOf, found, Option.map_some]

/-! ## Replies -/

/-- A statement that reports a changed row has changed the row it names. -/
theorem execute_reply (thread : Thread) {affected : Nat} (changed : affected ≠ 0)
    (ran : semantics thread env (.execute statement) shared = some (.ok affected, after)) :
    ∃ row, shared.tasks.find? statement.target = some row ∧ statement.guard row = true ∧
      after.tasks.find? statement.target = some (statement.change env.timestamp row) := by
  obtain ⟨count, rfl⟩ := Connection.write_ok ran
  rw [← Except.ok.inj count] at changed
  obtain ⟨row, mem⟩ := List.exists_mem_of_length_pos (Nat.pos_of_ne_zero changed)
  obtain ⟨found, holds⟩ := Table.mem_select_iff.mp mem
  simp only [Statement.condition, Bool.and_eq_true, decide_eq_true_eq] at holds
  rw [holds.1] at found
  refine ⟨row, found, holds.2, ?_⟩
  rw [Statement.find?_execute_target, found]
  simp [holds.2]

/-! ## State changes -/

theorem semantics_cases (ran : semantics thread env request shared = some (reply, after)) :
    (after.tasks = shared.tasks ∧ after.adminLock = shared.adminLock) ∨
    (∃ input tasks, request = .insert input ∧
      shared.tasks.insert (input.row env.timestamp) = some tasks ∧
      after = { shared with tasks }) ∨
    (∃ statement, (request = .execute statement ∨ request = .update statement) ∧
      after = { shared with tasks := statement.execute env.timestamp shared.tasks }) ∨
    (request = .lockAdmin ∧ shared.adminLock = none ∧
      after = { shared with adminLock := some thread }) ∨
    (request = .unlockAdmin ∧ after = { shared with adminLock := none }) := by
  have unchanged : after = shared →
      after.tasks = shared.tasks ∧ after.adminLock = shared.adminLock := by
    rintro rfl
    exact ⟨rfl, rfl⟩
  cases request with
  | insert input =>
    simp only [semantics] at ran
    split at ran
    · rcases Connection.after_write ran with same | same <;>
        exact .inl (unchanged same)
    · grind [Connection.after_write]
  | execute statement =>
    rcases Connection.after_write ran with same | same
    · exact .inl (unchanged same)
    · exact .inr (.inr (.inl ⟨statement, .inl rfl, same⟩))
  | update statement =>
    simp only [semantics] at ran
    split at ran <;>
      rcases Connection.after_write ran with same | same
    · exact .inl (unchanged same)
    · exact .inr (.inr (.inl ⟨statement, .inr rfl, same⟩))
    · exact .inl (unchanged same)
    · exact .inr (.inr (.inl ⟨statement, .inr rfl, same⟩))
  | appendAuditLog entry =>
    rcases Connection.after_write ran with same | same <;>
      exact .inl (by rw [same]; exact ⟨rfl, rfl⟩)
  | lockAdmin =>
    simp only [semantics] at ran
    split at ran
    · cases ran
      exact .inl ⟨rfl, rfl⟩
    · grind
    · cases ran
  | unlockAdmin =>
    cases ran
    exact .inr (.inr (.inr (.inr ⟨rfl, rfl⟩)))
  | nextSequence | currentTimeMillis | runtimeIsDraining | lockCommand | unlockCommand | dispatch =>
    cases ran
    exact .inl ⟨rfl, rfl⟩
  | _ => exact .inl (unchanged (Connection.after_query ran))

/-! ## Permitted calls and the moves they make -/

/-- The statuses with which the worker finishes a task. -/
def TaskStatus.isOutcome : TaskStatus → Bool
  | .succeeded | .failed | .cancelled => true
  | .queued | .running | .interrupted | .blocked => false

/-- When a thread makes a call, as far as the status of tasks depends on it. -/
def Permitted : Thread → Call → Shared → Prop
  | .worker, .execute (.markBlocked _ _), _ | .worker, .execute (.claim _ _), _
  | .worker, .execute (.progress _ _ _), _ => True
  | .worker, .update (.finish id status _ _ _), shared =>
    statusOf shared id = some .running ∧ status.isOutcome = true
  | .worker, .update (.recover id _), shared => statusOf shared id = some .running
  | .worker, .dispatch task, shared => statusOf shared task.id = some .running
  | .worker, .insert _, _ | .worker, .execute _, _ | .worker, .update _, _
  | .worker, .lockAdmin, _ | .worker, .unlockAdmin, _ => False
  | .worker, _, _ => True
  | .admin request, .execute (.markBlocked _ _), shared
  | .admin request, .execute (.requeueBlocked _), shared
  | .admin request, .update (.cancel _ _), shared
  | .admin request, .insert _, shared
  | .admin request, .unlockAdmin, shared => shared.adminLock = some (.admin request)
  | .admin request, .update (.retry id _), shared =>
    shared.adminLock = some (.admin request) ∧
      ∃ status, statusOf shared id = some status ∧ status.isRetryable = true
  | .admin _, .execute _, _ | .admin _, .update _, _ | .admin _, .dispatch _, _ => False
  | .admin _, _, _ => True

/-- When the cancel handler writes `cancelled`, the row it has read as queued is still queued, or
has been blocked since. -/
def cancelUndisturbed : Call → Shared → Bool
  | .update (.cancel id true), shared =>
    (statusOf shared id).all fun status => status = .queued || status = .blocked
  | _, _ => true

def CancelUndisturbed (_ : Thread) (request : Call) (shared : Shared) : Prop :=
  cancelUndisturbed request shared = true

/-- The status changes of a task, with the thread and the call that make them. -/
inductive Move : Thread → Call → TaskId → TaskStatus → TaskStatus → Prop where
  | claim {id attempts} : Move .worker (.execute (.claim id attempts)) id .queued .running
  | finish {id status percent result error} (outcome : status.isOutcome = true) :
    Move .worker (.update (.finish id status percent result error)) id .running status
  | recover {id cancelled} : Move .worker (.update (.recover id cancelled)) id .running
      (if cancelled then .cancelled else .interrupted)
  | block {thread : Thread} {id reason} :
    Move thread (.execute (.markBlocked id reason)) id .queued .blocked
  | requeue {request : Nat} {id} :
    Move (.admin request) (.execute (.requeueBlocked id)) id .blocked .queued
  | cancel {request : Nat} {id status} (waiting : status = .queued ∨ status = .blocked) :
    Move (.admin request) (.update (.cancel id true)) id status .cancelled
  | retry {request : Nat} {id maxAttempts status} (retryable : status.isRetryable = true) :
    Move (.admin request) (.update (.retry id maxAttempts)) id status .queued

variable (permitted : Permitted thread request shared)
  (calm : CancelUndisturbed thread request shared)
include permitted calm

/-- A permitted and undisturbed statement makes one of the moves on the row it changes. -/
theorem move_of_change (now : String)
    (asked : request = .execute statement ∨ request = .update statement)
    (found : shared.tasks.find? statement.target = some row) (holds : statement.guard row = true) :
    (statement.change now row).status = row.status ∨
      Move thread request statement.target row.status (statement.change now row).status := by
  have status := statusOf_of_find found
  cases statement with
  | markBlocked id reason =>
    have waiting : row.status = .queued := by simpa [Statement.guard] using holds
    rcases asked with rfl | rfl
    · exact .inr (waiting ▸ .block)
    · cases thread <;> exact permitted.elim
  | requeueBlocked id =>
    have blocked : row.status = .blocked := by simpa [Statement.guard] using holds
    rcases asked with rfl | rfl <;> cases thread <;> try exact permitted.elim
    exact .inr (blocked ▸ .requeue)
  | claim id attempts =>
    have waiting : row.status = .queued ∧ row.cancelRequested = false := by
      simpa [Statement.guard] using holds
    rcases asked with rfl | rfl <;> cases thread <;> try exact permitted.elim
    exact .inr (waiting.1 ▸ .claim)
  | progress id phase percent => exact .inl rfl
  | finish id next percent result error =>
    rcases asked with rfl | rfl <;> cases thread <;> try exact permitted.elim
    have running : row.status = .running := by
      simpa using status.symm.trans permitted.1
    exact .inr (running ▸ .finish permitted.2)
  | cancel id queued =>
    cases queued with
    | false => exact .inl rfl
    | true =>
      rcases asked with rfl | rfl <;> cases thread <;> try exact permitted.elim
      rw [CancelUndisturbed, cancelUndisturbed, show statusOf shared id = _ from status] at calm
      exact .inr (.cancel (by simpa using calm))
  | retry id maxAttempts =>
    rcases asked with rfl | rfl <;> cases thread <;> try exact permitted.elim
    obtain ⟨_, before, same, retryable⟩ := permitted
    have equal : before = row.status := by simpa using same.symm.trans status
    exact .inr (.retry (equal ▸ retryable))
  | recover id cancelled =>
    rcases asked with rfl | rfl <;> cases thread <;> try exact permitted.elim
    have running : row.status = .running := by simpa using status.symm.trans permitted
    exact .inr (running ▸ .recover)

theorem statusOf_after {status : TaskStatus}
    (ran : semantics thread env request shared = some (reply, after))
    (found : statusOf shared id = some status) : statusOf after id = some status ∨
      ∃ next, statusOf after id = some next ∧ Move thread request id status next := by
  obtain ⟨row, present, rfl⟩ := Option.map_eq_some_iff.mp found
  obtain ⟨sameTasks, _⟩ | ⟨input, tasks, rfl, inserted, rfl⟩ | ⟨statement, asked, rfl⟩ |
    ⟨rfl, _, rfl⟩ | ⟨rfl, rfl⟩ := semantics_cases ran
  · exact .inl (by rw [statusOf, sameTasks]; exact found)
  · exact .inl (statusOf_of_find (Table.find?_insert_of_found inserted present))
  · rcases Statement.find?_execute statement env.timestamp present with
      same | ⟨rfl, holds, changed⟩
    · exact .inl (statusOf_of_find same)
    · rcases move_of_change permitted calm env.timestamp asked present holds with same | move
      · exact .inl (same ▸ statusOf_of_find changed)
      · exact .inr ⟨_, statusOf_of_find changed, move⟩
  · exact .inl found
  · exact .inl found

end SteelInspection.Tasks
