import SteelInspection.Calibration.Mutation

/-! # Calibration operations across restarts

The service with its calibration requests, stopped and started again at any time.  A restart frees
the operation lock, and the threads of an earlier run never move again; what is in the ledger and
what the provider was asked stays.  Each run marks the operations it finds as dispatching with
`recover_dispatching_calibration_operations`; requests may come before it is done.

An operation is dispatched only by the request whose insert made its row, and under the lock.  The
row is there ever after with what was asked for it, so a later request for the same id either
repeats it and is answered from the row, or is refused.
-/

namespace SteelInspection.Calibration

open Foundations

/-! ## The service -/

structure ServiceThread where
  run : Nat
  number : Nat
  deriving DecidableEq

inductive ServiceCall where
  | ledger (request : Call)
  /-- The select of `recover_dispatching_calibration_operations`. -/
  | listDispatching
  /-- The guarded update for one of the rows that were selected. -/
  | recover (existing : CalibrationOperation)
  | restart

abbrev ServiceCall.Reply : ServiceCall → Type
  | .ledger request => request.Reply
  | .listDispatching => Except DbErr (List CalibrationOperation)
  | .recover _ => Except DbErr Nat
  | .restart => Unit

/-- The ledger and the lock, the number of the run, and the operations the provider was asked for
so far. -/
structure Service where
  shared : Shared
  run : Nat
  dispatched : List OperationId

def recoverCondition (existing row : CalibrationOperation) : Bool :=
  row.id = existing.id && row.status = .dispatching && row.rowVersion = existing.rowVersion

def recoveredRow (now : String) (existing row : CalibrationOperation) : CalibrationOperation :=
  { row with
    status := .needsReconciliation, error := "service_restart_while_dispatching", finishedAt := now
    updatedAt := now, rowVersion := existing.rowVersion + 1 }

theorem recoveredRow_id (now : String) (existing row : CalibrationOperation) :
    (recoveredRow now existing row).id = row.id := rfl

def recoverRow (now : String) (existing : CalibrationOperation) (ledger : Ledger) : Ledger :=
  ledger.updateWhere (recoverCondition existing) (recoveredRow now existing)
    (recoveredRow_id now existing)

def Call.dispatches : Call → List OperationId
  | .dispatch operation => [operation.operationId]
  | _ => []

def serviceSemantics : Semantics Service ServiceThread Env ServiceCall ServiceCall.Reply
  | thread, env, request, service =>
    match request with
    | .ledger call =>
      if thread.run = service.run then
        (semantics thread.number env call service.shared).map fun (reply, after) =>
          (reply,
            { service with shared := after, dispatched := service.dispatched ++ call.dispatches })
      else none
    | .listDispatching =>
      if thread.run = service.run then
        some (env.connection.query
          (service.shared.ledger.select fun row => row.status = .dispatching) service)
      else none
    | .recover existing =>
      if thread.run = service.run then
        some (env.connection.write
          (.ok (service.shared.ledger.affected (recoverCondition existing))) service
          { service with
            shared.ledger := recoverRow env.timestamp existing service.shared.ledger })
      else none
    | .restart =>
      some ((), { service with run := service.run + 1, shared.operationLock := none })

abbrev ServiceCode := Program ServiceCall ServiceCall.Reply

abbrev ServiceDb := Attempt ServiceCall ServiceCall.Reply DbErr

def listDispatching : ServiceDb (List CalibrationOperation) :=
  ExceptT.mk (Program.ask ServiceCall.listDispatching)

def recover (existing : CalibrationOperation) : ServiceDb Nat :=
  ExceptT.mk (Program.ask (ServiceCall.recover existing))

def recoverAll : List CalibrationOperation → Nat → ServiceDb Nat
  | [], recovered => pure recovered
  | existing :: interrupted, recovered => do
    let rowsAffected ← recover existing
    recoverAll interrupted (recovered + rowsAffected)

def recoverDispatchingCalibrationOperations : ServiceDb Nat := do
  let interrupted ← listDispatching
  recoverAll interrupted 0

inductive ServiceTask where
  | request (path : String) (body : Option Json) (actor : String)
  | startup
  | restart

inductive ServiceOutcome where
  | answered (answer : OperationAnswer)
  | recovered (rows : Except DbErr Nat)
  | restarted

abbrev serve {α : Type} (program : Code α) : ServiceCode α :=
  program.lift ServiceCall.ledger fun _ reply => reply

def ServiceTask.program (setSafety : Json → Option String) : ServiceTask → ServiceCode ServiceOutcome
  | .request path body actor => do
    let answer ← serve (mutationResponse setSafety path body actor)
    pure (.answered answer)
  | .startup => do
    let rows ← recoverDispatchingCalibrationOperations.run
    pure (.recovered rows)
  | .restart => do
    let _ ← Program.ask ServiceCall.restart
    pure .restarted

def serviceRules (setSafety : Json → Option String) (tasks : ServiceThread → ServiceTask) :
    Rules Service ServiceThread Env ServiceCall ServiceCall.Reply ServiceOutcome where
  semantics := serviceSemantics
  handler thread program := program = (tasks thread).program setSafety
  undisturbed _ _ _ := True
  initial service := service.shared.operationLock = none ∧ service.dispatched = []

/-! ## What a call does -/

variable {existing : CalibrationOperation}

section calls

variable {thread : ServiceThread} {env : Env} {service after : Service}

section

variable {call : Call} {reply : call.Reply}
  (executed : serviceSemantics thread env (.ledger call) service = some (reply, after))
include executed

theorem ledger_executed : thread.run = service.run ∧ ∃ shared,
      semantics thread.number env call service.shared = some (reply, shared) ∧
      after = { service with shared, dispatched := service.dispatched ++ call.dispatches } := by
  simp only [serviceSemantics] at executed
  split at executed
  · grind [Option.map_eq_some_iff]
  · cases executed

theorem quiet_executed (quiet : call.dispatches = []) : thread.run = service.run ∧ ∃ shared,
      semantics thread.number env call service.shared = some (reply, shared) ∧
      after = { service with shared } := by
  obtain ⟨alive, shared, ran, isAfter⟩ := ledger_executed executed
  rw [quiet, List.append_nil] at isAfter
  exact ⟨alive, shared, ran, isAfter⟩

end

theorem listDispatching_executed {reply : Except DbErr (List CalibrationOperation)}
    (executed : serviceSemantics thread env .listDispatching service = some (reply, after)) :
    after = service := by
  simp only [serviceSemantics] at executed
  split at executed
  · exact Connection.after_query executed
  · cases executed

theorem recover_executed {reply : Except DbErr Nat}
    (executed : serviceSemantics thread env (.recover existing) service = some (reply, after)) :
    after = service ∨ after = { service with
      shared.ledger := recoverRow env.timestamp existing service.shared.ledger } := by
  simp only [serviceSemantics] at executed
  split at executed
  · exact Connection.after_write executed
  · cases executed

end calls

/-! ## Moves of a row -/

inductive Edge : OperationStatus → OperationStatus → Prop where
  | succeed : Edge .dispatching .succeeded
  | fail : Edge .dispatching .failed
  | interrupt : Edge .dispatching .needsReconciliation
  | reconcile : Edge .needsReconciliation .reconciled

/-- What a row can become in one step: it keeps what was asked for it, and its status stays or moves
along an edge with a greater version. -/
structure CalibrationOperation.MovesTo (row later : CalibrationOperation) : Prop where
  kind : later.kind = row.kind
  requestHash : later.requestHash = row.requestHash
  request : later.request = row.request
  moves : later = row ∨ Edge row.status later.status ∧ row.rowVersion < later.rowVersion

theorem CalibrationOperation.MovesTo.refl (row : CalibrationOperation) : row.MovesTo row :=
  ⟨rfl, rfl, rfl, .inl rfl⟩

variable {row : CalibrationOperation}

theorem Statement.moves {statement : Statement} (ends : statement.Ends) (now : String)
    (holds : statement.condition row = true) : row.MovesTo (statement.change now row) := by
  cases statement with
  | finish id version status httpStatus body response error =>
    obtain ⟨⟨-, dispatching⟩, sameVersion⟩ : (row.id = id ∧ row.status = .dispatching) ∧
        row.rowVersion = version := by simpa [Statement.condition] using holds
    have edge : Edge row.status status := by
      rw [dispatching]
      cases status with
      | succeeded => exact .succeed
      | failed => exact .fail
      | needsReconciliation => exact .interrupt
      | dispatching | reconciled => cases ends
    exact ⟨rfl, rfl, rfl, .inr ⟨edge, by rw [sameVersion]; exact Nat.lt_succ_self version⟩⟩
  | reconcile id version reconciliationId outcome actor =>
    obtain ⟨⟨-, needs⟩, sameVersion⟩ : (row.id = id ∧ row.status = .needsReconciliation) ∧
        row.rowVersion = version := by simpa [Statement.condition] using holds
    have edge : Edge row.status .reconciled := by
      rw [needs]
      exact .reconcile
    exact ⟨rfl, rfl, rfl, .inr ⟨edge, by rw [sameVersion]; exact Nat.lt_succ_self version⟩⟩

def ServiceCall.Ends : ServiceCall → Prop
  | .ledger (.execute statement) => statement.Ends
  | _ => True

theorem row_moves {thread : ServiceThread} {env : Env} {request : ServiceCall}
    {service after : Service} {reply : request.Reply} (ends : request.Ends)
    (executed : serviceSemantics thread env request service = some (reply, after))
    {id : OperationId} (found : service.shared.ledger.find? id = some row) :
    ∃ later, after.shared.ledger.find? id = some later ∧ row.MovesTo later := by
  cases request with
  | ledger call =>
    obtain ⟨-, shared, ran, rfl⟩ := ledger_executed executed
    obtain ⟨later, foundLater, rfl | ⟨statement, rfl, holds, rfl⟩⟩ := row_after ran found
    · exact ⟨later, foundLater, .refl later⟩
    · exact ⟨_, foundLater, Statement.moves ends env.timestamp holds⟩
  | listDispatching =>
    rw [listDispatching_executed executed]
    exact ⟨row, found, .refl row⟩
  | recover existing =>
    obtain rfl | rfl := recover_executed executed
    · exact ⟨row, found, .refl row⟩
    simp only [recoverRow, Table.find?_updateWhere, found, Option.map_some]
    refine ⟨_, rfl, ?_⟩
    split
    next holds =>
      simp only [recoverCondition, Bool.and_eq_true, decide_eq_true_eq] at holds
      have edge : Edge row.status .needsReconciliation := by
        rw [holds.1.2]
        exact .interrupt
      exact ⟨rfl, rfl, rfl, .inr ⟨edge, by rw [holds.2]; exact Nat.lt_succ_self _⟩⟩
    · exact .refl row
  | restart =>
    cases executed
    exact ⟨row, found, .refl row⟩

end SteelInspection.Calibration
