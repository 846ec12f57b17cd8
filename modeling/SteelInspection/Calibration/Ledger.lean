import Mathlib.Data.List.Sort
import SteelInspection.Foundations.Interleaving
import SteelInspection.Foundations.Table
import SteelInspection.Service.Database
import SteelInspection.Service.Http

/-! # The ledger of calibration operations

The rows of `calibration_operation`, the statements the service sends for them and what each of
them does.  The operation lock is a mutex that requests only try to take.
-/

namespace SteelInspection.Calibration

open Foundations

abbrev OperationId := String

inductive OperationKind where
  | apply | applyAll | rollback
  | other (text : String)
  deriving DecidableEq, Repr

def OperationKind.text : OperationKind → String
  | .apply => "apply"
  | .applyAll => "apply-all"
  | .rollback => "rollback"
  | .other text => text

inductive OperationStatus where
  | dispatching | succeeded | failed | needsReconciliation | reconciled
  deriving DecidableEq, Repr

/-- The statuses `list_unresolved_calibration_operations` selects. -/
def OperationStatus.isUnresolved : OperationStatus → Bool
  | .dispatching | .needsReconciliation => true
  | .succeeded | .failed | .reconciled => false

/-- A row of `calibration_operation`.  The source stores the request and the answer of the provider
as texts and reads them again; here the values stand beside them. -/
structure CalibrationOperation where
  id : OperationId
  kind : OperationKind
  requestHash : String
  request : Json
  status : OperationStatus
  providerHttpStatus : Nat
  providerResponseBody : String
  providerResponse : Option Json
  error : String
  actor : String
  parentOperationId : OperationId
  reconciliationOutcome : String
  reconciliationId : OperationId
  resolvedBy : String
  resolvedAt : String
  rowVersion : Nat
  createdAt : String
  dispatchStartedAt : String
  finishedAt : String
  updatedAt : String

def CalibrationOperation.requestJson (operation : CalibrationOperation) : String :=
  operation.request.render

structure CalibrationOperationInput where
  id : OperationId
  kind : OperationKind
  requestHash : String
  request : Json
  actor : String
  parentOperationId : OperationId

def CalibrationOperationInput.row (input : CalibrationOperationInput) (now : String) :
    CalibrationOperation where
  id := input.id
  kind := input.kind
  requestHash := input.requestHash
  request := input.request
  status := .dispatching
  providerHttpStatus := 0
  providerResponseBody := ""
  providerResponse := none
  error := ""
  actor := input.actor
  parentOperationId := input.parentOperationId
  reconciliationOutcome := ""
  reconciliationId := ""
  resolvedBy := ""
  resolvedAt := ""
  rowVersion := 1
  createdAt := now
  dispatchStartedAt := now
  finishedAt := ""
  updatedAt := now

abbrev Ledger := Table CalibrationOperation CalibrationOperation.id

def unresolved (ledger : Ledger) : List CalibrationOperation :=
  (ledger.select (·.status.isUnresolved)).insertionSort fun first second =>
    first.createdAt ≤ second.createdAt

variable {row : CalibrationOperation}

/-! ## Updates -/

/-- The guarded updates of the ledger; `version` is the row version the caller has read. -/
inductive Statement where
  | finish (id : OperationId) (version : Nat) (status : OperationStatus) (httpStatus : Nat)
    (body : String) (response : Option Json) (error : String)
  | reconcile (id : OperationId) (version : Nat) (reconciliationId : OperationId)
    (outcome actor : String)

namespace Statement

def condition : Statement → CalibrationOperation → Bool
  | .finish id version _ _ _ _ _, row =>
    row.id = id && row.status = .dispatching && row.rowVersion = version
  | .reconcile id version _ _ _, row =>
    row.id = id && row.status = .needsReconciliation && row.rowVersion = version

def change (now : String) : Statement → CalibrationOperation → CalibrationOperation
  | .finish _ version status httpStatus body response error, row =>
    { row with
      status := status, providerHttpStatus := httpStatus, providerResponseBody := body
      providerResponse := response, error := error, finishedAt := now, updatedAt := now
      rowVersion := version + 1 }
  | .reconcile _ version reconciliationId outcome actor, row =>
    { row with
      status := .reconciled, reconciliationOutcome := outcome, reconciliationId := reconciliationId
      resolvedBy := actor, resolvedAt := now, rowVersion := version + 1, updatedAt := now }

theorem change_id (now : String) (statement : Statement) (row : CalibrationOperation) :
    (statement.change now row).id = row.id := by
  cases statement <;> rfl

def execute (statement : Statement) (now : String) (ledger : Ledger) : Ledger :=
  ledger.updateWhere statement.condition (statement.change now) (change_id now statement)

theorem find?_execute (statement : Statement) (now : String) (ledger : Ledger) (id : OperationId) :
    (statement.execute now ledger).find? id = (ledger.find? id).map fun row =>
      if statement.condition row then statement.change now row else row :=
  Table.find?_updateWhere _ _ _ _ _

end Statement

/-! ## Calls -/

structure CaptureProxyResponse where
  statusCode : Nat
  text : String
  body : Option Json

structure OperationRequest where
  operationId : OperationId
  kind : OperationKind
  request : Json
  requestHash : String
  parentOperationId : OperationId
  requestedApplyOperationId : OperationId

inductive Call where
  | find (id : OperationId)
  | listUnresolved
  | insert (input : CalibrationOperationInput)
  | execute (statement : Statement)
  | appendAuditLog (entry : AuditEntry)
  /-- `calibration_operation_lock.try_lock()`.  The lock does not look at the argument: it is what
  the fence query of this request had returned. -/
  | tryLock (fence : List CalibrationOperation)
  | unlock
  /-- The provider is asked to write the devices. -/
  | dispatch (operation : OperationRequest)

abbrev Call.Reply : Call → Type
  | .find _ => Except DbErr (Option CalibrationOperation)
  | .listUnresolved => Except DbErr (List CalibrationOperation)
  | .insert _ => Except DbErr CalibrationOperation
  | .execute _ => Except DbErr Nat
  | .appendAuditLog _ => Except DbErr Unit
  | .tryLock _ => Bool
  | .unlock => Unit
  | .dispatch _ => Option CaptureProxyResponse

structure Env where
  now : Nat := 0
  connection : Connection := .works
  /-- The answer of the provider, none when it did not answer in time. -/
  response : Option CaptureProxyResponse := none

def Env.timestamp (env : Env) : String := toString env.now

abbrev Thread := Nat

structure Shared where
  ledger : Ledger
  auditLog : List AuditEntry
  operationLock : Option Thread

def semantics : Semantics Shared Thread Env Call Call.Reply
  | thread, env, request, shared =>
    match request with
    | .find id => some (env.connection.query (shared.ledger.find? id) shared)
    | .listUnresolved => some (env.connection.query (unresolved shared.ledger) shared)
    | .insert input =>
      match shared.ledger.insert (input.row env.timestamp) with
      | some ledger =>
        some (env.connection.write (.ok (input.row env.timestamp)) shared { shared with ledger })
      | none =>
        some (env.connection.write (.error ⟨"UNIQUE constraint failed: calibration_operation.id"⟩)
          shared shared)
    | .execute statement =>
      some (env.connection.write (.ok (shared.ledger.affected statement.condition)) shared
        { shared with ledger := statement.execute env.timestamp shared.ledger })
    | .appendAuditLog entry =>
      some (env.connection.write (.ok ()) shared { shared with auditLog := shared.auditLog ++ [entry] })
    | .tryLock _ =>
      match shared.operationLock with
      | none => some (true, { shared with operationLock := some thread })
      | some _ => some (false, shared)
    | .unlock => some ((), { shared with operationLock := none })
    | .dispatch _ => some (env.response, shared)

variable {request : Call} {reply : request.Reply} {shared after : Shared} {thread : Thread}
  {env : Env}

section

variable (ran : semantics thread env request shared = some (reply, after))
include ran

theorem ledger_after : after.ledger = shared.ledger ∨ (∃ input, request = .insert input ∧
      shared.ledger.insert (input.row env.timestamp) = some after.ledger) ∨
    ∃ statement, request = .execute statement ∧
      after.ledger = statement.execute env.timestamp shared.ledger := by
  cases request with
  | insert input =>
    simp only [semantics] at ran
    split at ran
    · grind [Connection.after_write]
    · rcases Connection.after_write ran with rfl | rfl <;> exact .inl rfl
  | execute statement =>
    rcases Connection.after_write ran with rfl | rfl
    · exact .inl rfl
    · exact .inr (.inr ⟨statement, rfl, rfl⟩)
  | appendAuditLog entry =>
    rcases Connection.after_write ran with rfl | rfl <;> exact .inl rfl
  | tryLock fence =>
    simp only [semantics] at ran
    split at ran <;> cases ran <;> exact .inl rfl
  | unlock | dispatch _ =>
    cases ran
    exact .inl rfl
  | find _ | listUnresolved =>
    exact .inl (by rw [Connection.after_query ran])

theorem row_after {id : OperationId} (found : shared.ledger.find? id = some row) :
    ∃ later, after.ledger.find? id = some later ∧ (later = row ∨ ∃ statement,
      request = .execute statement ∧ statement.condition row = true ∧
      later = statement.change env.timestamp row) := by
  obtain same | ⟨input, -, inserted⟩ | ⟨statement, isExecute, written⟩ := ledger_after ran
  · exact ⟨row, by rw [same, found], .inl rfl⟩
  · exact ⟨row, Table.find?_insert_of_found inserted found, .inl rfl⟩
  rw [written, Statement.find?_execute, found, Option.map_some]
  refine ⟨_, rfl, ?_⟩
  split
  next holds =>
    exact .inr ⟨statement, isExecute, holds, rfl⟩
  · exact .inl rfl

theorem row_before {id : OperationId} (found : after.ledger.find? id = some row) :
    shared.ledger.find? id = some row ∨
    (∃ input, request = .insert input ∧ row = input.row env.timestamp) ∨
    ∃ statement old, request = .execute statement ∧ shared.ledger.find? id = some old ∧
      statement.condition old = true ∧ row = statement.change env.timestamp old := by
  obtain same | ⟨input, isInsert, inserted⟩ | ⟨statement, isExecute, written⟩ := ledger_after ran
  · exact .inl (same ▸ found)
  · rw [Table.find?_insert inserted] at found
    split at found
    · exact .inr (.inl ⟨input, isInsert, (Option.some.inj found).symm⟩)
    · exact .inl found
  · rw [written, Statement.find?_execute] at found
    obtain ⟨old, foundOld, isRow⟩ := Option.map_eq_some_iff.mp found
    split at isRow
    next holds =>
      exact .inr (.inr ⟨statement, old, isExecute, foundOld, holds, isRow.symm⟩)
    · exact .inl (isRow ▸ foundOld)

end

end SteelInspection.Calibration
