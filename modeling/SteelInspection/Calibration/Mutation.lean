import SteelInspection.Calibration.Ledger

/-! # Calibration writes

`mutation_response_with_dispatch` for the routes apply-all and rollback, with the ledger functions
it calls.
-/

namespace SteelInspection.Calibration

open Foundations

abbrev Code := Program Call Call.Reply

abbrev Db := Attempt Call Call.Reply DbErr

abbrev ask (request : Call) : Code request.Reply := Program.ask request

/-! ## Ledger functions -/

def findCalibrationOperation (id : OperationId) : Db (Option CalibrationOperation) :=
  ExceptT.mk (ask (.find id))

def listUnresolvedCalibrationOperations : Db (List CalibrationOperation) :=
  ExceptT.mk (ask .listUnresolved)

def insertCalibrationOperation (input : CalibrationOperationInput) : Db CalibrationOperation :=
  ExceptT.mk (ask (.insert input))

def execute (statement : Statement) : Db Nat := ExceptT.mk (ask (.execute statement))

def finishCalibrationOperation (id : OperationId) (status : OperationStatus) (httpStatus : Nat)
    (body : String) (response : Option Json) (error : String) : Db (Option CalibrationOperation) := do
  match ← findCalibrationOperation id with
  | none => pure none
  | some existing =>
    if existing.status ≠ .dispatching then pure (some existing)
    else
      let _ ← execute (.finish id existing.rowVersion status httpStatus body response error)
      findCalibrationOperation id

def reconcileCalibrationOperation (id reconciliationId : OperationId) (outcome actor : String) :
    Db (Option CalibrationOperation) := do
  match ← findCalibrationOperation id with
  | none => pure none
  | some existing =>
    if existing.status ≠ .needsReconciliation then pure (some existing)
    else
      let _ ← execute (.reconcile id existing.rowVersion reconciliationId outcome actor)
      findCalibrationOperation id

/-! ## Requests -/

def operationIdMaxBytes : Nat := 128

def operationKind (path : String) : Option OperationKind :=
  if path = "/api/calibration/apply-all" then some .applyAll
  else if path = "/api/calibration/rollback" then some .rollback
  else none

def isOperationIdByte (byte : Nat) : Bool :=
  (48 ≤ byte && byte ≤ 57) || (65 ≤ byte && byte ≤ 90) || (97 ≤ byte && byte ≤ 122) ||
    byte == 45 || byte == 95 || byte == 46 || byte == 58

def validOperationId (value : String) : Bool :=
  !value.isEmpty && value.utf8ByteSize ≤ operationIdMaxBytes &&
    (Text.bytes value).all isOperationIdByte

/-- `normalized_request`: the operation id and the request with the trimmed id in it; the body is
`none` when it is no JSON or has a duplicate key. -/
def normalizedRequest (body : Option Json) : Except String (OperationId × Json) :=
  match body with
  | none => .error "invalid_or_duplicate_calibration_operation_json"
  | some (.obj fields) =>
    match ((((Json.obj fields).get? "operationId").bind Json.asStr).map Text.trim).filter
        (!·.isEmpty) with
    | none => .error "calibration_operation_id_required"
    | some operationId =>
      if operationId.utf8ByteSize > operationIdMaxBytes then
        .error "calibration_operation_id_too_long"
      else if !(Text.bytes operationId).all isOperationIdByte then
        .error "calibration_operation_id_invalid"
      else .ok (operationId, .obj (Json.setField "operationId" (.str operationId) fields))
  | some _ => .error "calibration_operation_json_object_required"

def requestHash (kind : OperationKind) (requestJson : String) : String :=
  "fnv1a64-" ++ Text.hex16 (Text.fnv1a64 (Text.bytes kind.text ++ [10] ++ Text.bytes requestJson))

/-- `request_operation_id`: a trimmed text field of the request, empty when it is missing. -/
def requestOperationId (request : Json) (field : String) : OperationId :=
  (((request.get? field).bind Json.asStr).map Text.trim).getD ""

def expectedApplyOperationId (operation : CalibrationOperation) : OperationId :=
  match operation.kind with
  | .apply | .applyAll => operation.id
  | .rollback => requestOperationId operation.request "applyOperationId"
  | .other _ => ""

/-- The last check of `validate_capture_device_mutation_request_for_camera_count`: whether the
parameters are to be kept on the devices. -/
def validateDevicePersistence (request : Json) : Option String :=
  if (request.get? "saveToDevice").bind Json.asBool = some true ∧
      (request.get? "deviceConfirmation").bind Json.asStr ≠ some "PERSIST CAMERA PARAMETERS" then
    some "camera_device_persist_confirmation_required"
  else none

/-- The confirmation texts that `validate_capture_device_mutation_request_for_camera_count` asks for
on the two routes; `setSafety` is its check of the calibration set. -/
def validateDeviceMutation (setSafety : Json → Option String) (kind : OperationKind)
    (request : Json) : Option String :=
  let confirmation := (request.get? "confirmation").bind Json.asStr
  match kind with
  | .rollback =>
    if confirmation ≠ some "ROLLBACK CAMERA CALIBRATION" then
      some "camera_calibration_rollback_confirmation_required"
    else if (requestOperationId request "applyOperationId").isEmpty then
      some "calibration_rollback_apply_operation_id_required"
    else validateDevicePersistence request
  | _ =>
    match setSafety request with
    | some error => some error
    | none =>
      if (request.get? "dryRun").bind Json.asBool ≠ some true ∧
          confirmation ≠ some "APPLY CAMERA CALIBRATION SET" then
        some "camera_calibration_set_confirmation_required"
      else validateDevicePersistence request

/-- The checks before the first look at the ledger. -/
def checkOperationRequest (setSafety : Json → Option String) (path : String) (body : Option Json) :
    Except String OperationRequest :=
  match operationKind path with
  | none => .error "unsupported_calibration_operation_kind"
  | some kind =>
    match normalizedRequest body with
    | .error error => .error error
    | .ok (operationId, request) =>
      match validateDeviceMutation setSafety kind request with
      | some error => .error error
      | none =>
        let parentOperationId := requestOperationId request "parentOperationId"
        let requestedApplyOperationId := requestOperationId request "applyOperationId"
        if !parentOperationId.isEmpty && !validOperationId parentOperationId then
          .error "calibration_parent_operation_id_invalid"
        else if kind = .rollback && !validOperationId requestedApplyOperationId then
          .error "calibration_apply_operation_id_invalid"
        else
          .ok { operationId, kind, request, requestHash := requestHash kind request.render
                parentOperationId, requestedApplyOperationId }

/-! ## Answers -/

/-- The answer of the handler: the HTTP status, the error, the operation it reports, and the body of
the provider where the handler passes it on. -/
structure OperationAnswer where
  code : Nat
  error : Option String := none
  operation : Option CalibrationOperation := none
  replayed : Bool := false
  unresolved : List CalibrationOperation := []
  providerBody : Option String := none
  details : List (String × String) := []

def validationError (error : String) : OperationAnswer := { code := 400, error := some error }

def databaseError (error : String) : OperationAnswer := { code := 500, error := some error }

def operationAnswer (code : Nat) (operation : CalibrationOperation) (replayed : Bool) :
    OperationAnswer :=
  { code, operation := some operation, replayed }

def replayResponse (operation : CalibrationOperation) : OperationAnswer :=
  match operation.status with
  | .dispatching => operationAnswer 202 operation true
  | .succeeded | .failed =>
    if operation.providerHttpStatus > 0 ∧ !operation.providerResponseBody.isEmpty then
      { code := operation.providerHttpStatus, providerBody := some operation.providerResponseBody }
    else operationAnswer 200 operation true
  | .needsReconciliation => operationAnswer 409 operation true
  | .reconciled => operationAnswer 200 operation true

def conflictResponse (id : OperationId) : OperationAnswer :=
  { code := 409, error := some "calibration_operation_id_conflict", details := [("operationId", id)] }

def operationInProgressResponse (id : OperationId) : OperationAnswer :=
  { code := 409, error := some "calibration_operation_in_progress"
    details := [("operationId", id), ("retryable", "true")] }

def reconciliationRequiredResponse (id : OperationId) (unresolved : List CalibrationOperation) :
    OperationAnswer :=
  { code := 423, error := some "calibration_reconciliation_required", unresolved
    details := [("requestTarget", id)] }

/-! ## The mutation -/

def OperationRequest.matches (request : OperationRequest) (operation : CalibrationOperation) : Bool :=
  operation.kind = request.kind && operation.requestHash = request.requestHash &&
    operation.requestJson = request.request.render

def existingResponse (request : OperationRequest) (existing : CalibrationOperation) :
    OperationAnswer :=
  if request.matches existing then replayResponse existing
  else conflictResponse request.operationId

/-- What the handler makes of the unresolved rows: an answer, or the apply operation id a rollback
has to restore. -/
def checkFence (request : OperationRequest) (unresolved : List CalibrationOperation) :
    Except OperationAnswer OperationId :=
  match unresolved with
  | [] => .ok ""
  | first :: rest =>
    if unresolved.any (·.status = .dispatching) then
      .error (operationInProgressResponse request.operationId)
    else if request.kind = .rollback ∧ request.parentOperationId ≠ "" ∧ rest = [] ∧
        first.id = request.parentOperationId ∧ first.status = .needsReconciliation then
      let expected := expectedApplyOperationId first
      if expected = "" ∨ request.requestedApplyOperationId ≠ expected then
        .error
          { code := 409, error := some "calibration_reconciliation_expected_apply_mismatch"
            details := [("operationId", request.operationId),
              ("parentOperationId", request.parentOperationId),
              ("expectedApplyOperationId", expected),
              ("requestedApplyOperationId", request.requestedApplyOperationId)] }
      else .ok expected
    else .error (reconciliationRequiredResponse request.operationId unresolved)

def providerTerminalStatus (kind : OperationKind) (response : CaptureProxyResponse) :
    OperationStatus × String :=
  match response.body with
  | none => (.needsReconciliation, "capture_provider_response_not_decisive")
  | some body =>
    let flag := fun name => (body.get? name).bind Json.asBool
    if kind = .applyAll ∧ flag "rollbackPerformed" = some true ∧
        flag "rollbackComplete" = some false then
      (.needsReconciliation, "capture_provider_automatic_rollback_incomplete")
    else if kind = .rollback ∧ flag "sideEffects" = some false ∧ flag "attempted" = some false then
      (.failed, "capture_provider_rollback_preflight_rejected")
    else if kind = .rollback ∧ flag "complete" ≠ some true then
      (.needsReconciliation, "capture_provider_manual_rollback_incomplete")
    else if response.statusCode ∈ [408, 502, 503, 504] then
      (.needsReconciliation, "capture_provider_timeout_or_unavailable")
    else if ¬ (200 ≤ response.statusCode ∧ response.statusCode < 300) then
      (.failed, "capture_provider_rejected_operation")
    else
      match (body.get? "code").bind Json.asI64 with
      | none => (.needsReconciliation, "capture_provider_response_not_decisive")
      | some code =>
        if code = 0 then (.succeeded, "") else (.failed, "capture_provider_operation_failed")

def reconcileParent (request : OperationRequest) (expected : OperationId) (actor : String)
    (operation : CalibrationOperation) (answer : OperationAnswer) : Code OperationAnswer := do
  let confirmed := ((operation.providerResponse.bind (·.get? "applyOperationId")).bind
    Json.asStr).getD ""
  if confirmed ≠ expected then
    pure { code := 409, error := some "calibration_reconciliation_parent_mismatch"
           details := [("operationId", request.operationId),
             ("parentOperationId", request.parentOperationId),
             ("expectedApplyOperationId", expected), ("providerApplyOperationId", confirmed)] }
  else
    let reconciled ← (reconcileCalibrationOperation request.parentOperationId request.operationId
      "restored-to-staged-baseline" actor).run
    match reconciled with
    | .ok (some parent) =>
      if parent.status = .reconciled then
        let _ ← ask (.appendAuditLog ⟨actor, "calibration.reconciled", request.parentOperationId,
          "restored to staged baseline by rollback operation " ++ request.operationId, "warning"⟩)
        pure answer
      else pure { code := 409, error := some "calibration_reconciliation_finalize_failed" }
    | .ok none | .error _ =>
      pure { code := 409, error := some "calibration_reconciliation_finalize_failed" }

def recordResponse (request : OperationRequest) (expected : OperationId) (actor : String)
    (response : CaptureProxyResponse) : Code OperationAnswer := do
  let outcome := providerTerminalStatus request.kind response
  let finalized ← (finishCalibrationOperation request.operationId outcome.1 response.statusCode
    response.text response.body outcome.2).run
  match finalized with
  | .ok (some operation) =>
    if operation.status = .needsReconciliation ∨ operation.status ≠ outcome.1 then
      pure (operationAnswer 409 operation false)
    else
      let answer : OperationAnswer := { code := response.statusCode, providerBody := some response.text }
      if outcome.1 = .succeeded ∧ request.kind = .rollback ∧ request.parentOperationId ≠ "" then
        reconcileParent request expected actor operation answer
      else pure answer
  | .ok none | .error _ => pure (databaseError "calibration_operation_finalize_failed")

def recordTimeout (request : OperationRequest) : Code OperationAnswer := do
  let finalized ← (finishCalibrationOperation request.operationId .needsReconciliation 0 "" none
    "capture_provider_timeout_or_unavailable").run
  match finalized with
  | .ok (some operation) => pure (operationAnswer 409 operation false)
  | .ok none | .error _ => pure (databaseError "calibration_operation_finalize_failed")

def insertFailed (request : OperationRequest) : Code OperationAnswer := do
  match ← (findCalibrationOperation request.operationId).run with
  | .ok (some existing) => pure (existingResponse request existing)
  | .ok none | .error _ => pure (databaseError "calibration_operation_insert_failed")

def mutateLocked (request : OperationRequest) (expected : OperationId) (actor : String) :
    Code OperationAnswer := do
  match ← (findCalibrationOperation request.operationId).run with
  | .error _ => pure (databaseError "calibration_operation_lookup_failed")
  | .ok (some existing) => pure (existingResponse request existing)
  | .ok none =>
    match ← (insertCalibrationOperation
      { id := request.operationId, kind := request.kind, requestHash := request.requestHash
        request := request.request, actor, parentOperationId := request.parentOperationId }).run with
    | .error _ => insertFailed request
    | .ok _ =>
      match ← ask (.dispatch request) with
      | none => recordTimeout request
      | some response => recordResponse request expected actor response

def lockTaken (request : OperationRequest) : Code OperationAnswer := do
  match ← (findCalibrationOperation request.operationId).run with
  | .ok (some existing) => pure (existingResponse request existing)
  | .ok none => pure (operationInProgressResponse request.operationId)
  | .error _ => pure (databaseError "calibration_operation_lookup_failed")

/-- The lock around the write; it is released when the handler returns. -/
def mutateUnderLock (request : OperationRequest) (fence : List CalibrationOperation)
    (expected : OperationId) (actor : String) : Code OperationAnswer := do
  if ← ask (.tryLock fence) then
    let answer ← mutateLocked request expected actor
    let _ ← ask .unlock
    pure answer
  else lockTaken request

def mutate (request : OperationRequest) (actor : String) : Code OperationAnswer := do
  match ← (findCalibrationOperation request.operationId).run with
  | .error _ => pure (databaseError "calibration_operation_lookup_failed")
  | .ok (some existing) => pure (existingResponse request existing)
  | .ok none =>
    match ← listUnresolvedCalibrationOperations.run with
    | .error _ => pure (databaseError "calibration_operation_fence_lookup_failed")
    | .ok fence =>
      match checkFence request fence with
      | .error answer => pure answer
      | .ok expected => mutateUnderLock request fence expected actor

def mutationResponse (setSafety : Json → Option String) (path : String) (body : Option Json)
    (actor : String) : Code OperationAnswer :=
  match checkOperationRequest setSafety path body with
  | .error error => pure (validationError error)
  | .ok request => mutate request actor

def OperationRequest.input (request : OperationRequest) (actor : String) :
    CalibrationOperationInput :=
  { id := request.operationId, kind := request.kind, requestHash := request.requestHash
    request := request.request, actor, parentOperationId := request.parentOperationId }

/-! ## The calls after a dispatch -/

def OperationStatus.isEnd : OperationStatus → Bool
  | .succeeded | .failed | .needsReconciliation => true
  | .dispatching | .reconciled => false

def Statement.Ends : Statement → Prop
  | .finish _ _ status _ _ _ _ => status.isEnd = true
  | .reconcile _ _ _ _ _ => True

def EndingCall : Call → Prop
  | .find _ | .appendAuditLog _ => True
  | .execute statement => statement.Ends
  | _ => False

def Call.locks : Call → Bool
  | .tryLock _ | .unlock => true
  | _ => false

theorem EndingCall.locks {request : Call} (ending : EndingCall request) : request.locks = false := by
  cases request <;> first | rfl | exact ending.elim

theorem operationLock_after (thread : Thread) {env : Env} (request : Call) {shared after : Shared}
    {reply : request.Reply} (keeps : request.locks = false)
    (ran : semantics thread env request shared = some (reply, after)) :
    after.operationLock = shared.operationLock := by
  cases request with
  | find _ | listUnresolved => rw [Connection.after_query ran]
  | insert input =>
    simp only [semantics] at ran
    split at ran <;> rcases Connection.after_write ran with rfl | rfl <;> rfl
  | execute _ | appendAuditLog _ => rcases Connection.after_write ran with rfl | rfl <;> rfl
  | dispatch _ =>
    cases ran
    rfl
  | tryLock _ | unlock => cases keeps

theorem providerTerminalStatus_isEnd (kind : OperationKind) (response : CaptureProxyResponse) :
    (providerTerminalStatus kind response).1.isEnd = true := by
  unfold providerTerminalStatus
  dsimp only
  repeat' split
  all_goals rfl

theorem calls_finish {allowed : Call → Prop} (id : OperationId) (status : OperationStatus)
    (httpStatus : Nat) (body : String) (response : Option Json) (error : String)
    (finds : allowed (.find id))
    (executes : ∀ version, allowed (.execute (.finish id version status httpStatus body response error))) :
    (finishCalibrationOperation id status httpStatus body response error).run.Calls allowed := by
  refine .attempt (.ask (Call.find id) finds) fun found => ?_
  split
  · exact .pure
  · split
    · exact .pure
    · exact .attempt (.ask (Call.execute _) (executes _)) fun _ => .ask (Call.find id) finds

theorem ending_reconcile (id reconciliationId : OperationId) (outcome actor : String) :
    (reconcileCalibrationOperation id reconciliationId outcome actor).run.Calls EndingCall := by
  refine .attempt (.ask (Call.find id) trivial) fun found => ?_
  split
  · exact .pure
  · split
    · exact .pure
    · exact .attempt (.ask (Call.execute _) trivial) fun _ => .ask (Call.find id) trivial

section

variable (request : OperationRequest) (expected : OperationId)

theorem ending_reconcileParent (actor : String) (operation : CalibrationOperation)
    (answer : OperationAnswer) :
    (reconcileParent request expected actor operation answer).Calls EndingCall := by
  unfold reconcileParent
  dsimp only
  split
  · exact .pure
  refine .bind (ending_reconcile _ _ _ _) fun reconciled => ?_
  split
  · split
    · exact .bind (.ask (Call.appendAuditLog _) trivial) fun _ => .pure
    · exact .pure
  · exact .pure
  · exact .pure

theorem ending_recordResponse (actor : String) (response : CaptureProxyResponse) :
    (recordResponse request expected actor response).Calls EndingCall := by
  refine .bind (calls_finish _ _ _ _ _ _ trivial fun _ => providerTerminalStatus_isEnd _ _)
    fun finalized => ?_
  split
  · split
    · exact .pure
    · split
      · exact ending_reconcileParent _ _ _ _ _
      · exact .pure
  · exact .pure
  · exact .pure

theorem ending_recordTimeout : (recordTimeout request).Calls EndingCall := by
  refine .bind (calls_finish _ _ _ _ _ _ trivial fun _ => rfl) fun finalized => ?_
  split <;> exact .pure

end

end SteelInspection.Calibration
