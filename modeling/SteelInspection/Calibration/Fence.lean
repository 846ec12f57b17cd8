import SteelInspection.Calibration.Mutation

/-! # The fence in front of calibration writes

When the devices are written for an operation, every other unresolved row of the ledger must be the
one this operation is there to roll back.  The fence is read before the operation lock is taken:
the statement holds in the runs in which no unresolved row has come in between the two, and
`raced_fence` is a run in which one has.
-/

namespace SteelInspection.Calibration

open Foundations Discipline

/-- The row this request may leave unresolved: the parent a rollback names, with the apply operation
the ledger expects for it. -/
def OperationRequest.RollsBack (request : OperationRequest) (row : CalibrationOperation) : Prop :=
  request.kind = .rollback ∧ row.id = request.parentOperationId ∧
    expectedApplyOperationId row ≠ "" ∧
    request.requestedApplyOperationId = expectedApplyOperationId row

/-- Every unresolved row of another operation is the one this request rolls back. -/
def FenceHolds (ledger : Ledger) (request : OperationRequest) : Prop :=
  ∀ row ∈ ledger.rows, row.status.isUnresolved = true → row.id ≠ request.operationId →
    request.RollsBack row

/-- The operations that are unresolved when a request takes the lock are among those its fence query
returned. -/
def fenceUndisturbed : Call → Shared → Bool
  | .tryLock fence, shared =>
    shared.operationLock.isSome ||
      shared.ledger.rows.all fun row => !row.status.isUnresolved || (fence.map (·.id)).contains row.id
  | _, _ => true

def FenceUndisturbed (_ : Thread) (request : Call) (shared : Shared) : Prop :=
  fenceUndisturbed request shared = true

def calibrationRules (setSafety : Json → Option String) :
    Rules Shared Thread Env Call Call.Reply OperationAnswer where
  semantics := semantics
  handler _ program := ∃ path body actor, program = mutationResponse setSafety path body actor
  undisturbed := FenceUndisturbed
  initial shared := shared.operationLock = none

variable {setSafety : Json → Option String}

/-! ## What a reconciliation needs -/

def confirmedApplyOperationId (operation : CalibrationOperation) : OperationId :=
  ((operation.providerResponse.bind (·.get? "applyOperationId")).bind Json.asStr).getD ""

structure Confirms (rollback parent : CalibrationOperation) : Prop where
  kind : rollback.kind = .rollback
  succeeded : rollback.status = .succeeded
  names : rollback.parentOperationId = parent.id
  expected : expectedApplyOperationId parent ≠ ""
  requested : requestOperationId rollback.request "applyOperationId" = expectedApplyOperationId parent
  confirmed : confirmedApplyOperationId rollback = expectedApplyOperationId parent

def IsConfirmed (ledger : Ledger) (parent : CalibrationOperation) : Prop :=
  ∃ rollbackId rollback, ledger.find? rollbackId = some rollback ∧ Confirms rollback parent

/-- A parent is reconciled by the rollback that confirms it, and nothing else reconciles. -/
def Statement.Justified (ledger : Ledger) : Statement → Prop
  | .finish _ _ status _ _ _ _ => status.isEnd = true
  | .reconcile id _ _ _ _ => ∀ parent, ledger.find? id = some parent →
    parent.status = .needsReconciliation → IsConfirmed ledger parent

/-! ## Rely and guarantee -/

def Permitted (thread : Thread) : Call → Shared → Prop
  | .insert _, shared | .unlock, shared => shared.operationLock = some thread
  | .execute statement, shared =>
    shared.operationLock = some thread ∧ statement.Justified shared.ledger
  | .dispatch request, shared =>
    shared.operationLock = some thread ∧ FenceHolds shared.ledger request
  | _, _ => True

/-- The ledger keeps the operation and what was asked for it. -/
def Recorded (row : CalibrationOperation) (shared : Shared) : Prop :=
  ∃ later, shared.ledger.find? row.id = some later ∧ later.kind = row.kind ∧
    later.request = row.request

variable {thread : Thread} {request : Call}

theorem Recorded.after {env : Env} {shared after : Shared} {reply : request.Reply}
    {row : CalibrationOperation} (recorded : Recorded row shared)
    (ran : semantics thread env request shared = some (reply, after)) : Recorded row after := by
  obtain ⟨stored, found, sameKind, sameRequest⟩ := recorded
  obtain ⟨later, foundLater, rfl | ⟨statement, -, -, rfl⟩⟩ := row_after ran found
  · exact ⟨later, foundLater, sameKind, sameRequest⟩
  · exact ⟨_, foundLater, by cases statement <;> exact sameKind, by cases statement <;> exact sameRequest⟩

/-- While a request holds the lock, the others change neither the lock nor the ledger; what is
recorded stays recorded anyway. -/
def Rely (thread : Thread) (shared current : Shared) : Prop :=
  (shared.operationLock = some thread →
    current.operationLock = some thread ∧ current.ledger = shared.ledger) ∧
  ∀ row, Recorded row shared → Recorded row current

theorem rely_of_permitted {other : Thread} {env : Env} {shared after : Shared}
    {reply : request.Reply} (different : other ≠ thread)
    (permitted : Permitted thread request shared)
    (ran : semantics thread env request shared = some (reply, after)) :
    Rely other shared after := by
  refine ⟨fun locked => ?_, fun row recorded => recorded.after ran⟩
  have notMine : ¬ shared.operationLock = some thread := by
    rw [locked, Option.some.injEq]
    exact different
  cases request with
  | insert _ | unlock => exact (notMine permitted).elim
  | execute _ | dispatch _ => exact (notMine permitted.1).elim
  | tryLock fence =>
    simp only [semantics, locked] at ran
    cases ran
    exact ⟨locked, rfl⟩
  | appendAuditLog entry =>
    rcases Connection.after_write ran with rfl | rfl
    · exact ⟨locked, rfl⟩
    · exact ⟨locked, rfl⟩
  | find _ | listUnresolved =>
    rw [Connection.after_query ran]
    exact ⟨locked, rfl⟩

def calibrationDiscipline (setSafety : Json → Option String) :
    Discipline (calibrationRules setSafety) where
  inv _ := True
  rely := Rely
  good := Permitted
  rely_refl _ _ := ⟨fun locked => ⟨locked, rfl⟩, fun _ recorded => recorded⟩
  rely_trans _ _ _ _ before after := by
    refine ⟨fun locked => ?_, fun row recorded => after.2 row (before.2 row recorded)⟩
    obtain ⟨lockedThen, sameThen⟩ := before.1 locked
    obtain ⟨lockedNow, sameNow⟩ := after.1 lockedThen
    exact ⟨lockedNow, sameNow.trans sameThen⟩
  inv_initial _ := trivial
  inv_call _ _ _ _ := trivial
  rely_call different _ permitted _ executed := rely_of_permitted different permitted executed

/-! ## What the holder of the lock knows -/

def Holds (thread : Thread) (fact : Ledger → Prop) (shared : Shared) : Prop :=
  shared.operationLock = some thread ∧ fact shared.ledger

/-- What is unresolved beside the operation itself is what it rolls back, and `expected` is what it
asks for. -/
def Targets (request : OperationRequest) (expected : OperationId) (ledger : Ledger) : Prop :=
  ∀ id row, ledger.find? id = some row → row.status.isUnresolved = true →
    row.id ≠ request.operationId →
      request.RollsBack row ∧ expected = request.requestedApplyOperationId

def OperationRequest.Owns (request : OperationRequest) (row : CalibrationOperation) : Prop :=
  row.kind = request.kind ∧ row.request = request.request ∧
    row.parentOperationId = request.parentOperationId

/-- The operation is in the ledger, and nothing else is in its way. -/
def Working (request : OperationRequest) (expected : OperationId) (ledger : Ledger) : Prop :=
  Targets request expected ledger ∧
    ∃ row, ledger.find? request.operationId = some row ∧ request.Owns row

/-- The provider has carried the operation out and has confirmed what was expected. -/
def Confirmed (request : OperationRequest) (expected : OperationId) (ledger : Ledger) : Prop :=
  Targets request expected ledger ∧
    ∃ row, ledger.find? request.operationId = some row ∧ request.Owns row ∧
      row.status = .succeeded ∧ confirmedApplyOperationId row = expected

def OperationRequest.Normalized (request : OperationRequest) : Prop :=
  request.requestedApplyOperationId = requestOperationId request.request "applyOperationId"

section Holder

variable {thread : Thread} {shared : Shared} {request : OperationRequest} {expected : OperationId}
  {actor : String} {fact : Ledger → Prop} {status : OperationStatus} {ledger : Ledger}

theorem Targets.fenceHolds (targets : Targets request expected ledger) : FenceHolds ledger request :=
  fun row mem pending other => (targets row.id row (Table.mem_rows_iff.mp mem) pending other).1

theorem Confirmed.justified (normalized : request.Normalized)
    (confirmed : Confirmed request expected ledger) (version : Nat) (reconciliationId : OperationId)
    (outcome : String) :
    (Statement.reconcile request.parentOperationId version reconciliationId outcome actor).Justified
      ledger := by
  intro parent found needs
  obtain ⟨targets, own, foundOwn, ⟨kind, sameRequest, names⟩, succeeded, isExpected⟩ := confirmed
  have other : parent.id ≠ request.operationId := by
    intro same
    rw [← Table.find?_key found, same, foundOwn] at found
    cases Option.some.inj found
    rw [succeeded] at needs
    cases needs
  obtain ⟨⟨isRollback, isParent, given, requested⟩, asked⟩ :=
    targets _ parent found (by rw [needs]; rfl) other
  refine ⟨_, own, foundOwn, kind.trans isRollback, succeeded, names.trans isParent.symm, given, ?_, ?_⟩
  · rw [sameRequest, ← normalized, requested]
  · rw [isExpected, asked, requested]

theorem Holds.rely {current : Shared} (holds : Holds thread fact shared)
    (relied : Rely thread shared current) : Holds thread fact current := by
  obtain ⟨locked, same⟩ := relied.1 holds.1
  exact ⟨locked, same ▸ holds.2⟩

abbrev Locked (thread : Thread) (shared : Shared) : Prop := shared.operationLock = some thread

/-- The calls that the lock alone permits. -/
def Quiet : Call → Prop
  | .find _ | .appendAuditLog _ => True
  | .execute (.finish _ _ status _ _ _ _) => status.isEnd = true
  | _ => False

theorem quiet_safe {β : Type} {program : Code β} (calls : program.Calls Quiet)
    (locked : Locked thread shared) :
    (calibrationDiscipline setSafety).Safe thread (fun _ => Locked thread) program shared := by
  refine Safe.of_calls ?_ ?_ ?_ calls locked
  · exact fun relied known => (relied.1 known).1
  · intro request current quiet _ known
    cases request with
    | execute statement =>
      cases statement with
      | finish _ _ _ _ _ _ _ => exact ⟨known, quiet⟩
      | reconcile _ _ _ _ _ => exact quiet.elim
    | find _ | appendAuditLog _ => trivial
    | _ => exact quiet.elim
  · intro request env current reply after quiet _ known _ ran
    have keeps : request.locks = false := by
      cases request <;> first | rfl | exact quiet.elim
    exact (operationLock_after thread request keeps ran).trans known

theorem find_holds (id : OperationId) (holds : Holds thread fact shared) :
    (calibrationDiscipline setSafety).Safe thread (Returns (fun found current =>
      Holds thread fact current ∧ current.ledger.find? id = found) (Holds thread fact))
      (findCalibrationOperation id).run shared := by
  refine Safe.knowing (Call.find id) holds.rely (fun _ => trivial) ?_
  intro current env reply after before ran
  obtain rfl : after = current := Connection.after_query ran
  cases reply with
  | ok found => exact ⟨before, (Connection.query_ok ran).1.symm⟩
  | error _ => exact before

theorem Statement.change_origin (statement : Statement) (now : String) (row : CalibrationOperation) :
    (statement.change now row).kind = row.kind ∧ (statement.change now row).request = row.request ∧
      (statement.change now row).parentOperationId = row.parentOperationId := by
  cases statement <;> exact ⟨rfl, rfl, rfl⟩

theorem finish_working {env : Env} {after : Shared} {version : Nat} {httpStatus : Nat}
    {body : String} {response : Option Json} {error : String} {reply : Except DbErr Nat}
    (holds : Holds thread (Working request expected) shared)
    (ran : semantics thread env (.execute (.finish request.operationId version status httpStatus
      body response error)) shared = some (reply, after)) :
    Holds thread (Working request expected) after := by
  obtain ⟨locked, targets, own, foundOwn, owns⟩ := holds
  refine ⟨(operationLock_after thread _ rfl ran).trans locked, ?_, ?_⟩
  · intro id row found pending other
    obtain before | ⟨input, isInsert, -⟩ | ⟨statement, old, isExecute, foundOld, applies, rfl⟩ :=
      row_before ran found
    · exact targets id row before pending other
    · cases isInsert
    · grind [Statement.change_id, Statement.condition]
  · obtain ⟨later, foundLater, rfl | ⟨statement, -, -, rfl⟩⟩ := row_after ran foundOwn
    · exact ⟨later, foundLater, owns⟩
    · obtain ⟨kind, sameRequest, parent⟩ := statement.change_origin env.timestamp own
      exact ⟨_, foundLater, kind.trans owns.1, sameRequest.trans owns.2.1, parent.trans owns.2.2⟩

theorem finish_holds (ends : status.isEnd = true) (httpStatus : Nat) (body : String)
    (response : Option Json) (error : String)
    (holds : Holds thread (Working request expected) shared) :
    (calibrationDiscipline setSafety).Safe thread (Returns (fun finalized current =>
      Holds thread (Working request expected) current ∧
        current.ledger.find? request.operationId = finalized) (Holds thread (Working request expected)))
      (finishCalibrationOperation request.operationId status httpStatus body response error).run
      shared := by
  refine (find_holds request.operationId holds).andThen fun found afterFind known => ?_
  cases found with
  | none => exact .pure known
  | some existing =>
    dsimp only
    split
    · exact .pure known
    have update : (calibrationDiscipline setSafety).Safe thread
        (fun _ => Holds thread (Working request expected))
        (execute (.finish request.operationId existing.rowVersion status httpStatus body response
          error)).run afterFind :=
      .knowing (Call.execute _) known.1.rely (fun before => ⟨before.1, ends⟩) finish_working
    exact update.attempt (fun _ current working => find_holds request.operationId working)
      fun _ _ working => working

section

variable (normalized : request.Normalized)
include normalized

theorem reconcileCalibrationOperation_safe (reconciliationId : OperationId) (outcome actor : String)
    (holds : Holds thread (Confirmed request expected) shared) :
    (calibrationDiscipline setSafety).Safe thread (fun _ => Locked thread)
      (reconcileCalibrationOperation request.parentOperationId reconciliationId outcome actor).run
      shared := by
  refine (find_holds request.parentOperationId holds).attempt (fun found afterFind known => ?_)
    fun _ _ known => known.1
  cases found with
  | none => exact .pure known.1.1
  | some existing =>
    dsimp only
    split
    · exact .pure known.1.1
    let statement : Statement :=
      .reconcile request.parentOperationId existing.rowVersion reconciliationId outcome actor
    have update : (calibrationDiscipline setSafety).Safe thread (fun _ => Locked thread)
        (execute statement).run afterFind :=
      .knowing (Call.execute statement) known.1.rely
        (fun before => ⟨before.1, before.2.justified normalized _ _ _⟩)
        fun before ran => (operationLock_after thread (.execute statement) rfl ran).trans before.1
    exact update.attempt (fun _ _ locked => quiet_safe (.ask (Call.find _) trivial) locked)
      fun _ _ locked => locked

theorem reconcileParent_safe (actor : String) {operation : CalibrationOperation}
    (answer : OperationAnswer) (succeeded : operation.status = .succeeded)
    (holds : Holds thread (Working request expected) shared)
    (found : shared.ledger.find? request.operationId = some operation) :
    (calibrationDiscipline setSafety).Safe thread (fun _ => Locked thread)
      (reconcileParent request expected actor operation answer) shared := by
  obtain ⟨locked, targets, own, foundOwn, owns⟩ := holds
  cases Option.some.inj (found.symm.trans foundOwn)
  unfold reconcileParent
  dsimp only
  split
  · exact .pure locked
  rename_i isExpected
  have confirmed : Holds thread (Confirmed request expected) shared :=
    ⟨locked, targets, operation, found, owns, succeeded, not_not.mp isExpected⟩
  refine (reconcileCalibrationOperation_safe normalized _ _ _ confirmed).bind
    fun reconciled current locked => quiet_safe ?_ locked
  split
  · split
    · exact .bind (.ask (Call.appendAuditLog _) trivial) fun _ => .pure
    · exact .pure
  · exact .pure
  · exact .pure

theorem recordResponse_safe (actor : String) (response : CaptureProxyResponse)
    (holds : Holds thread (Working request expected) shared) :
    (calibrationDiscipline setSafety).Safe thread (fun _ => Locked thread)
      (recordResponse request expected actor response) shared := by
  refine (finish_holds (providerTerminalStatus_isEnd request.kind response) _ _ _ _ holds).bind
    fun finalized current known => ?_
  split
  · split
    · exact .pure known.1.1
    · rename_i recorded
      split
      next ends =>
        have succeeded := (not_not.mp (not_or.mp recorded).2).trans ends.1
        exact reconcileParent_safe normalized actor _ succeeded known.1 known.2
      · exact .pure known.1.1
  · exact .pure known.1.1
  · exact .pure known.1

end

theorem recordTimeout_quiet (request : OperationRequest) : (recordTimeout request).Calls Quiet := by
  refine .bind (calls_finish _ _ _ _ _ _ trivial fun _ => rfl) fun finalized => ?_
  split <;> exact .pure

section

variable (holds : Holds thread (Targets request expected) shared)
include holds

theorem insert_working (actor : String) :
    (calibrationDiscipline setSafety).Safe thread
      (Returns (fun _ => Holds thread (Working request expected)) (Locked thread))
      (insertCalibrationOperation (request.input actor)).run shared := by
  refine Safe.knowing (Call.insert (request.input actor)) holds.rely And.left ?_
  rintro current env reply after ⟨locked, targets⟩ ran
  cases reply with
  | error _ => exact (operationLock_after thread (.insert _) rfl ran).trans locked
  | ok row =>
    simp only [calibrationRules, semantics] at ran
    split at ran
    next ledger inserted =>
      obtain ⟨-, rfl⟩ := Connection.write_ok ran
      refine ⟨locked, fun id row found pending other => ?_, ?_⟩
      · rw [Table.find?_insert inserted] at found
        split at found
        · cases found
          exact absurd rfl other
        · exact targets id row found pending other
      · refine ⟨(request.input actor).row env.timestamp, ?_, rfl, rfl, rfl⟩
        rw [Table.find?_insert inserted]
        exact if_pos rfl
    · cases (Connection.write_ok ran).1

theorem mutateLocked_safe (normalized : request.Normalized) :
    (calibrationDiscipline setSafety).Safe thread (fun _ => Locked thread)
      (mutateLocked request expected actor) shared := by
  refine (find_holds request.operationId holds).bind fun found afterFind known => ?_
  split
  · exact .pure known.1
  · exact .pure known.1.1
  refine (insert_working known.1 actor).bind fun inserted afterInsert working => ?_
  split
  · refine quiet_safe (.bind (.ask (Call.find _) trivial) fun found => ?_) working
    split <;> exact .pure
  have dispatches : (calibrationDiscipline setSafety).Safe thread
      (fun _ => Holds thread (Working request expected)) (ask (.dispatch request)) afterInsert := by
    refine .knowing (Call.dispatch request) working.rely
      (fun before => ⟨before.1, before.2.1.fenceHolds⟩) fun before ran => ?_
    cases ran
    exact before
  refine dispatches.bind fun response afterDispatch working => ?_
  split
  · exact quiet_safe (recordTimeout_quiet request) working.1
  · exact recordResponse_safe normalized actor _ working

end

/-! ## Taking the lock -/

variable {fence : List CalibrationOperation}

/-- A request that passes the check may leave every row of its fence query unresolved. -/
theorem checkFence_ok (passed : checkFence request fence = .ok expected) :
    ∀ row ∈ fence, request.RollsBack row := by
  unfold checkFence at passed
  split at passed
  · exact fun _ mem => nomatch mem
  split at passed
  · cases passed
  split at passed
  next parent =>
    obtain ⟨rollback, _, rfl, isParent, _⟩ := parent
    simp only at passed
    split at passed
    · cases passed
    rename_i confirmed
    rw [not_or, not_not] at confirmed
    intro row mem
    rw [List.mem_singleton] at mem
    subst mem
    exact ⟨rollback, isParent, confirmed.1, confirmed.2⟩
  · cases passed

/-- A row may be left unresolved on the strength of an earlier reading of it. -/
theorem OperationRequest.RollsBack.later {row later : CalibrationOperation}
    (rollsBack : request.RollsBack row) (same : later.id = row.id)
    (sameKind : later.kind = row.kind) (sameRequest : later.request = row.request) :
    request.RollsBack later := by
  have expected : expectedApplyOperationId later = expectedApplyOperationId row := by
    simp only [expectedApplyOperationId, same, sameKind, sameRequest]
  obtain ⟨rollback, isParent, named, confirmed⟩ := rollsBack
  exact ⟨rollback, same.trans isParent, expected ▸ named, expected ▸ confirmed⟩

section

variable (recorded : ∀ row ∈ fence, Recorded row shared)
include recorded

/-- What is unresolved when a request takes the lock undisturbed is what its fence query returned. -/
theorem unresolved_read (env : Env) {after : Shared}
    (calm : fenceUndisturbed (.tryLock fence) shared = true)
    (ran : semantics thread env (.tryLock fence) shared = some (true, after)) :
    after.operationLock = some thread ∧ ∀ row ∈ after.ledger.rows, row.status.isUnresolved = true →
      ∃ earlier ∈ fence, row.id = earlier.id ∧ row.kind = earlier.kind ∧
        row.request = earlier.request := by
  simp only [semantics] at ran
  split at ran
  next free =>
    cases ran
    refine ⟨rfl, fun row mem pending => ?_⟩
    have read : ∃ earlier ∈ fence, earlier.id = row.id := by
      simpa [free, pending] using
        List.all_eq_true.mp ((Bool.or_eq_true_iff.mp calm).resolve_left (by simp [free])) row mem
    obtain ⟨earlier, inFence, sameId⟩ := read
    obtain ⟨later, found, sameKind, sameRequest⟩ := recorded earlier inFence
    have same : later = row := by
      rw [sameId, Table.mem_rows_iff.mp mem] at found
      exact (Option.some.inj found).symm
    subst same
    exact ⟨earlier, inFence, sameId.symm, sameKind, sameRequest⟩
  · cases ran

variable (passed : checkFence request fence = .ok expected)
include passed

theorem tryLock_targets :
    (calibrationDiscipline setSafety).Safe thread
      (fun taken current => taken = true → Holds thread (Targets request expected) current)
      (ask (.tryLock fence)) shared := by
  refine Safe.ask (Call.tryLock fence) (fun _ _ _ => trivial) ?_
  rintro current relied _ calm env reply after ran _ rfl
  obtain ⟨locked, read⟩ := unresolved_read (fun row mem => relied.2 row (recorded row mem))
    env calm ran
  refine ⟨locked, fun id row found pending _ => ?_⟩
  obtain ⟨earlier, inFence, sameId, sameKind, sameRequest⟩ :=
    read row (Table.mem_rows_iff.mpr (Table.find?_key found ▸ found)) pending
  refine ⟨(checkFence_ok passed earlier inFence).later sameId sameKind sameRequest, ?_⟩
  -- a fence query that returned something lets only what the request asks for pass
  unfold checkFence at passed
  split at passed
  · cases inFence
  · grind

theorem mutateUnderLock_safe (normalized : request.Normalized) (actor : String) :
    (calibrationDiscipline setSafety).Obeys thread
      (mutateUnderLock request fence expected actor) shared := by
  refine (tryLock_targets recorded passed).bind fun taken current targets => ?_
  split
  next held =>
    refine (mutateLocked_safe (targets held) normalized).bind fun answer _ locked => ?_
    exact .bind (.ask_any Call.unlock fun _ relied _ => (relied.1 locked).1)
      fun _ _ _ => .pure trivial
  · refine .bind (.ask_any (Call.find _) fun _ _ _ => trivial) fun found _ _ => ?_
    split <;> exact .pure trivial

end

theorem mutate_safe (normalized : request.Normalized) (actor : String) (shared : Shared) :
    (calibrationDiscipline setSafety).Obeys thread (mutate request actor) shared := by
  refine .bind (.ask_any (Call.find _) fun _ _ _ => trivial) fun found afterFind _ => ?_
  split
  · exact .pure trivial
  · exact .pure trivial
  have reads : (calibrationDiscipline setSafety).Safe thread
      (Returns (fun fence current => ∀ row ∈ fence, Recorded row current) fun _ => True)
      listUnresolvedCalibrationOperations.run afterFind := by
    refine Safe.ask Call.listUnresolved (fun _ _ _ => trivial) ?_
    rintro current _ _ _ env (_ | fence) after ran _
    · trivial
    intro row mem
    obtain ⟨rfl, rfl⟩ := Connection.query_ok ran
    rw [unresolved, List.mem_insertionSort, Table.select, List.mem_filter] at mem
    exact ⟨row, Table.mem_rows_iff.mp mem.1, rfl, rfl⟩
  refine reads.bind fun outcome afterList recorded => ?_
  split
  · exact .pure trivial
  · split
    · exact .pure trivial
    next passed =>
      exact mutateUnderLock_safe recorded passed normalized actor

end Holder

theorem checkOperationRequest_normalized {path : String} {body : Option Json}
    {request : OperationRequest} (checked : checkOperationRequest setSafety path body = .ok request) :
    request.Normalized := by
  unfold checkOperationRequest at checked
  split at checked
  · cases checked
  split at checked
  · cases checked
  split at checked
  · cases checked
  dsimp only at checked
  split at checked
  · cases checked
  · split at checked
    · cases checked
    · cases checked
      rfl

/-! ## Every run -/

theorem handler_safe {thread program shared}
    (handler : (calibrationRules setSafety).handler thread program) :
    (calibrationDiscipline setSafety).Obeys thread program shared := by
  obtain ⟨path, body, actor, rfl⟩ := handler
  unfold mutationResponse
  split
  · exact .pure trivial
  next checked => exact mutate_safe (checkOperationRequest_normalized checked) actor shared

theorem reachable_permitted {machine}
    (reached : (calibrationRules setSafety).Reachable machine)
    (next : machine.nextCall? thread = some request) : Permitted thread request machine.shared :=
  (calibrationDiscipline setSafety).reachable_good
    (fun _ _ _ handler _ => handler_safe handler) reached next

theorem fence_holds_at_dispatch {machine}
    (reached : (calibrationRules setSafety).Reachable machine) {thread : Thread}
    {request : OperationRequest} (dispatches : machine.nextCall? thread = some (.dispatch request)) :
    FenceHolds machine.shared.ledger request :=
  (reachable_permitted reached dispatches).2

/-! ## Two requests and one ledger -/

def applyAllRequest (id : OperationId) : Code OperationAnswer :=
  mutationResponse (fun _ => none) "/api/calibration/apply-all"
    (some (.obj [("confirmation", .str "APPLY CAMERA CALIBRATION SET"), ("operationId", .str id)]))
    "engineer"

def rollbackRequest (id parent : OperationId) : Code OperationAnswer :=
  mutationResponse (fun _ => none) "/api/calibration/rollback"
    (some (.obj [("applyOperationId", .str parent),
      ("confirmation", .str "ROLLBACK CAMERA CALIBRATION"), ("operationId", .str id),
      ("parentOperationId", .str parent)]))
    "engineer"

abbrev Schedule := List (Action Thread Env Call Call.Reply OperationAnswer)

def steps (thread : Thread) (count : Nat) : Schedule := List.replicate count (.advance thread {})

def emptyLedger : Shared := ⟨Table.empty, [], none⟩

/-- Both requests read the fence; then the first one takes the lock, is not answered by the provider
in time and returns, and the second one goes on to its dispatch. -/
def racedRequests : Schedule :=
  .spawn 0 (applyAllRequest "A") :: .spawn 1 (applyAllRequest "B") ::
    (steps 0 2 ++ steps 1 2 ++ steps 0 8 ++ steps 1 3)

/-- The second request is the rollback of the first one and comes after it. -/
def rollbackAfterTimeout : Schedule :=
  .spawn 0 (applyAllRequest "A") :: .spawn 1 (rollbackRequest "R" "A") :: (steps 0 10 ++ steps 1 5)

def dispatching? (machine : Machine Shared Thread Call Call.Reply OperationAnswer) (thread : Thread) :
    Option OperationRequest :=
  match machine.nextCall? thread with
  | some (.dispatch request) => some request
  | _ => none

theorem nextCall?_of_dispatching? {machine request}
    (found : dispatching? machine thread = some request) :
    machine.nextCall? thread = some (.dispatch request) := by
  unfold dispatching? at found
  split at found
  next asks =>
    rw [asks, Option.some.inj found]
  · cases found

/-- Without the side condition the devices are written while another operation is unresolved. -/
theorem raced_fence : ¬ ∀ (setSafety : Json → Option String)
        (machine : Machine Shared Thread Call Call.Reply OperationAnswer) (thread : Thread)
        (request : OperationRequest), (calibrationRules setSafety).free.Reachable machine →
      machine.nextCall? thread = some (.dispatch request) →
      FenceHolds machine.shared.ledger request := by
  intro holds
  obtain ⟨machine, reached, facts⟩ : ∃ machine, (calibrationRules fun _ => none).free.Reachable machine ∧
      (machine.shared.ledger.rows.map fun row => (row.id, row.status),
        (dispatching? machine 1).map fun request => (request.operationId, request.kind)) =
        ([("A", .needsReconciliation), ("B", .dispatching)], some ("B", .applyAll)) :=
    Rules.exists_reachable (fun _ _ _ => true) emptyLedger racedRequests (fun _ _ _ _ => trivial) rfl
      ⟨⟨_, _, _, rfl⟩, ⟨_, _, _, rfl⟩, trivial⟩ (by decide +kernel)
  obtain ⟨rows, dispatches⟩ := Prod.mk.inj facts
  obtain ⟨request, found, named⟩ := Option.map_eq_some_iff.mp dispatches
  obtain ⟨isB, isApply⟩ := Prod.mk.inj named
  obtain ⟨row, member, isA⟩ : ∃ row ∈ machine.shared.ledger.rows,
      (row.id, row.status) = ("A", .needsReconciliation) :=
    List.mem_map.mp (rows ▸ List.mem_cons_self)
  obtain ⟨sameId, sameStatus⟩ := Prod.mk.inj isA
  have rollsBack := holds _ machine 1 request reached (nextCall?_of_dispatching? found) row member
    (by rw [sameStatus]; rfl) (by rw [sameId, isB]; decide)
  rw [OperationRequest.RollsBack, isApply] at rollsBack
  cases rollsBack.1

/-- A rollback is dispatched while the operation it rolls back is the only unresolved one. -/
theorem fence_holds_at_rollback :
    ∃ (machine : Machine Shared Thread Call Call.Reply OperationAnswer) (request : OperationRequest),
      (calibrationRules fun _ => none).Reachable machine ∧
      machine.nextCall? 1 = some (.dispatch request) ∧
      (machine.shared.ledger.rows.map fun row => (row.id, row.status)) =
        [("A", .needsReconciliation), ("R", .dispatching)] ∧
      FenceHolds machine.shared.ledger request := by
  obtain ⟨machine, reached, facts⟩ : ∃ machine, (calibrationRules fun _ => none).Reachable machine ∧
      (machine.shared.ledger.rows.map fun row => (row.id, row.status),
        (dispatching? machine 1).map (·.operationId)) =
        ([("A", .needsReconciliation), ("R", .dispatching)], some "R") :=
    Rules.exists_reachable (fun _ => fenceUndisturbed) emptyLedger rollbackAfterTimeout
      (fun _ _ _ passed => passed) rfl ⟨⟨_, _, _, rfl⟩, ⟨_, _, _, rfl⟩, trivial⟩ (by decide +kernel)
  obtain ⟨rows, dispatches⟩ := Prod.mk.inj facts
  obtain ⟨request, found, _⟩ := Option.map_eq_some_iff.mp dispatches
  exact ⟨machine, request, reached, nextCall?_of_dispatching? found, rows,
    fence_holds_at_dispatch reached (nextCall?_of_dispatching? found)⟩

end SteelInspection.Calibration
