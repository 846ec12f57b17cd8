import SteelInspection.Tasks.Queue

/-! # The worker and the task handlers

`worker_loop` and the handlers for enqueue, cancel and retry.  The handlers hold
`production_task_admin_lock` around everything they do with the table; the worker takes no lock for
it.
-/

namespace SteelInspection.Tasks

open Foundations

/-- The answer of a handler: its status line, the plain members of its body, and the row it reports
under `task`. -/
structure TaskAnswer where
  code : Nat
  reason : String
  error : Option String
  duplicate : Option Bool := none
  task : Option ProductionTask := none
  details : List (String × String) := []
  deriving DecidableEq, Repr

def TaskAnswer.refusal (code : Nat) (reason error : String) : TaskAnswer :=
  { code, reason, error := some error }

def TaskAnswer.databaseError (error : DbErr) : TaskAnswer :=
  .refusal 500 "Internal Server Error" error.message

def taskNotFound : TaskAnswer := .refusal 404 "Not Found" "production_task_not_found"

/-- `task_admin_guard` and the drop of the guard at the end of the handler. -/
def withAdminGuard (body : Code TaskAnswer) : Code TaskAnswer := do
  if ← ask .lockAdmin then
    let answer ← body
    let _ ← ask .unlockAdmin
    pure answer
  else pure (.refusal 503 "Service Unavailable" "production_task_admin_lock_poisoned")

/-- A write whose outcome the source discards. -/
def appendAuditLog (actor action target detail level : String) : Code Unit := do
  let _ ← ask (.appendAuditLog ⟨actor, action, target, detail, level⟩)
  pure ()

/-! ## Enqueue -/

def normalizeKind (value : String) : Option TaskKind :=
  match Text.toAsciiLowercase (Text.trim value) with
  | "capture" | "capture-once" | "capture_once" => some .captureOnce
  | "algorithm" | "algorithm-run" | "algorithm_run" => some .algorithmRun
  | "steel-info" | "steel_info" | "steelinfo" | "info" => some .steelInfo
  | "steel-in" | "steel_in" | "steelin" | "in" => some .steelIn
  | "steel-out" | "steel_out" | "steelout" | "out" => some .steelOut
  | "trigger-event" | "trigger_event" | "triggerevent" | "event" => some .triggerEvent
  | _ => none

def normalizeDependencyPolicy (value : String) : Option DependencyPolicy :=
  match Text.toAsciiLowercase (Text.trim value) with
  | "" | "require-success" | "require_success" => some .requireSuccess
  | "always-run" | "always_run" => some .alwaysRun
  | _ => none

def validTaskChainId (value : String) : Bool :=
  !value.isEmpty && value.utf8ByteSize ≤ 128 && value.toList.all fun character =>
    Text.isAsciiAlphanumeric character || character == '-' || character == '_' ||
      character == '.' || character == ':'

def defaultQueueCapacity : Nat := 128

def maxQueueCapacity : Nat := 4096

/-- `queue_capacity`, from the number in `STEEL_PRODUCTION_TASK_QUEUE_CAPACITY` if there is one. -/
def queueCapacity (configured : Option Nat) : Nat :=
  max 1 (min (configured.getD defaultQueueCapacity) maxQueueCapacity)

def sessionIdFromPayload (payload : Json) (materialId : String) : Code String := do
  let explicit := valueString payload ["sessionId", "session_id"]
  if explicit.isEmpty then
    let now ← ask .currentTimeMillis
    pure (materialId ++ "-" ++ toString (now : Nat))
  else pure explicit

/-- `.ok().flatten()`. -/
def okFlatten {α : Type} : Except DbErr (Option α) → Option α
  | .ok value => value
  | .error _ => none

/-- The material of a task: the requested one, else that of the open session, else that of the
latest unresolved task. -/
def targetMaterialId (requested : String) (latestOpen : Option MaterialSession)
    (latestTask : Option ProductionTask) : String :=
  if requested.isEmpty then
    ((latestOpen.map (·.materialId)).or (latestTask.map (·.materialId))).getD "unknown-material"
  else requested

/-- The session of a task, as far as the request and the stored rows tell. -/
def targetSessionId? (payload : Json) (materialId : String) (latestOpen : Option MaterialSession)
    (latestTask : Option ProductionTask) : Option String :=
  let explicitSessionId := valueString payload ["sessionId", "session_id"]
  if explicitSessionId.isEmpty then
    ((latestOpen.filter (·.materialId = materialId)).map (·.id)).or
      ((latestTask.filter (·.materialId = materialId)).map (·.sessionId))
  else some explicitSessionId

/-- `task_target`: the material and the session a task belongs to. -/
def taskTarget (payload : Json) : Code (String × String) := do
  let latestOpen ← ask .latestOpenMaterialSession
  let requested := materialIdFromPayload payload ""
  let latestTask ← (latestUnresolvedProductionTask
    (if requested.isEmpty then none else some requested)).run
  let materialId := targetMaterialId requested (okFlatten latestOpen) (okFlatten latestTask)
  match targetSessionId? payload materialId (okFlatten latestOpen) (okFlatten latestTask) with
  | some sessionId => pure (materialId, sessionId)
  | none =>
    let sessionId ← sessionIdFromPayload payload materialId
    pure (materialId, sessionId)

/-- The checked fields of an enqueue request. -/
structure EnqueueRequest where
  kind : TaskKind
  payload : Json
  requestedChainId : String
  requestedDependencyId : TaskId
  /-- The policy as the client wrote it: an empty text asks for no comparison. -/
  dependencyPolicyValue : String
  dependencyPolicy : DependencyPolicy
  rawKey : String
  maxAttempts : Int

/-- The checks of `enqueue_response` before it takes the lock. -/
def checkEnqueueRequest (body : Option Json) : Except TaskAnswer EnqueueRequest :=
  match body.filter Json.isObject with
  | none => .error (.refusal 400 "Bad Request" "invalid_production_task_json")
  | some request =>
    match normalizeKind (valueString request ["kind", "type", "command"]) with
    | none => .error (.refusal 400 "Bad Request" "unsupported_production_task_kind")
    | some kind =>
      let payload := (request.get? "payload").getD (.obj [])
      if !payload.isObject then
        .error (.refusal 400 "Bad Request" "production_task_payload_must_be_object")
      else
        let requestedChainId := valueString request ["chainId", "chain_id"]
        let requestedDependencyId :=
          valueString request ["dependsOnTaskId", "depends_on_task_id", "dependsOn"]
        if requestedDependencyId.utf8ByteSize > 128 then
          .error (.refusal 400 "Bad Request" "dependency_task_id_too_long")
        else
          let dependencyPolicyValue := valueString request ["dependencyPolicy", "dependency_policy"]
          match normalizeDependencyPolicy dependencyPolicyValue with
          | none => .error (.refusal 400 "Bad Request" "invalid_dependency_policy")
          | some dependencyPolicy =>
            if dependencyPolicy = .alwaysRun ∧ kind ≠ .triggerEvent then
              .error { (TaskAnswer.refusal 400 "Bad Request"
                "always_run_not_allowed_for_safety_critical_task") with
                details := [("kind", kind.text)] }
            else
              let rawKey := valueString request
                ["idempotencyKey", "idempotency_key", "requestId", "request_id"]
              if rawKey.utf8ByteSize > 160 then
                .error (.refusal 400 "Bad Request" "idempotency_key_too_long")
              else
                let maxAttempts := clamp
                  (((request.getFirst? ["maxAttempts", "max_attempts"]).bind Json.asI64).getD 1) 1 10
                .ok { kind, payload, requestedChainId, requestedDependencyId, dependencyPolicyValue
                      dependencyPolicy, rawKey, maxAttempts }

def EnqueueRequest.compoundKey (request : EnqueueRequest) : String :=
  if (Text.trim request.rawKey).isEmpty then ""
  else request.kind.text ++ ":" ++ Text.trim request.rawKey

/-- A row that carries the request's key is another request's. -/
def EnqueueRequest.conflictsWith (request : EnqueueRequest) (existing : ProductionTask) : Bool :=
  existing.kind ≠ request.kind || existing.payload ≠ request.payload.render ||
    (!request.requestedChainId.isEmpty && existing.chainId ≠ request.requestedChainId) ||
    (!request.requestedDependencyId.isEmpty &&
      existing.dependsOnTaskId ≠ request.requestedDependencyId) ||
    (!request.dependencyPolicyValue.isEmpty &&
      existing.dependencyPolicy ≠ request.dependencyPolicy)

/-- The last part of `enqueue_response`: the insert and its audit entry. -/
def storeTask (input : ProductionTaskInput) : Code TaskAnswer := do
  match ← (insertProductionTask input).run with
  | .error error => pure (.databaseError error)
  | .ok task =>
    appendAuditLog input.actor "production.task.enqueue" task.id
      ("queued " ++ task.kind.text ++ " for " ++ task.materialId) "info"
    pure { code := 202, reason := "Accepted", error := none, duplicate := some false
           task := some task }

/-- The dependency of a new task, checked against the chain, session and material of the task. -/
def admitDependency (input : ProductionTaskInput) : Code TaskAnswer := do
  if input.dependsOnTaskId.isEmpty then storeTask input
  else
    match ← (findProductionTask input.dependsOnTaskId).run with
    | .error error => pure (.databaseError error)
    | .ok none =>
      pure { (TaskAnswer.refusal 409 "Conflict" "production_task_dependency_not_found") with
             details := [("dependsOnTaskId", input.dependsOnTaskId)] }
    | .ok (some dependency) =>
      if dependency.chainId ≠ input.chainId ∨ dependency.sessionId ≠ input.sessionId ∨
          dependency.materialId ≠ input.materialId then
        pure { (TaskAnswer.refusal 409 "Conflict" "production_task_dependency_chain_mismatch") with
               details := [("dependsOnTaskId", dependency.id)] }
      else storeTask input

/-- The chain of a new task: the requested one, else that of the session, else the session itself. -/
def EnqueueRequest.chainId (request : EnqueueRequest) (latestSessionTask : Option ProductionTask)
    (sessionId : String) : String :=
  if request.requestedChainId.isEmpty then
    ((latestSessionTask.map (·.chainId)).filter (!·.isEmpty)).getD sessionId
  else request.requestedChainId

/-- The chain of a new task and the task it waits for. -/
def admitChain (request : EnqueueRequest) (input : ProductionTaskInput) : Code TaskAnswer := do
  match ← (latestProductionTaskForSession input.sessionId).run with
  | .error error => pure (.databaseError error)
  | .ok latestSessionTask =>
    let chainId := request.chainId latestSessionTask input.sessionId
    if latestSessionTask.any fun task => !task.chainId.isEmpty && task.chainId ≠ chainId then
      pure { (TaskAnswer.refusal 409 "Conflict" "production_session_chain_mismatch") with
             details := [("existingChainId", (latestSessionTask.map (·.chainId)).getD ""),
               ("requestedChainId", chainId)] }
    else if !request.requestedDependencyId.isEmpty then
      admitDependency { input with chainId, dependsOnTaskId := request.requestedDependencyId }
    else if request.kind = .triggerEvent then
      admitDependency { input with chainId, dependsOnTaskId := "" }
    else
      match ← (latestProductionTaskInChain chainId).run with
      | .error error => pure (.databaseError error)
      | .ok latestTask =>
        admitDependency { input with chainId, dependsOnTaskId := (latestTask.map (·.id)).getD "" }

/-- The part of `enqueue_response` from the check of the queue length on. -/
def admitTask (capacity : Nat) (request : EnqueueRequest) (actor : String) : Code TaskAnswer := do
  match (← ask .countOpen : Except DbErr Nat) with
  | .error error => pure (.databaseError error)
  | .ok openTasks =>
    if openTasks ≥ capacity then
      pure { (TaskAnswer.refusal 429 "Too Many Requests" "production_task_queue_full") with
             details := [("queueDepth", toString openTasks), ("capacity", toString capacity)] }
    else
      let sequence : Nat ← ask .nextSequence
      let now : Nat ← ask .currentTimeMillis
      let taskId := "TASK-" ++ toString now ++ "-" ++ Text.padDecimal 20 sequence
      let storedKey :=
        if request.compoundKey.isEmpty then request.kind.text ++ ":" ++ taskId
        else request.compoundKey
      let (materialId, sessionId) ← taskTarget request.payload
      if !request.requestedChainId.isEmpty && !validTaskChainId request.requestedChainId then
        pure (.refusal 400 "Bad Request" "invalid_production_chain_id")
      else
        admitChain request
          { id := taskId, idempotencyKey := storedKey, kind := request.kind, materialId, sessionId
            chainId := "", dependsOnTaskId := "", dependencyPolicy := request.dependencyPolicy
            payload := request.payload.render, actor, maxAttempts := request.maxAttempts }

/-- What `enqueue_response` does once no stored row carries the key. -/
def enqueueFresh (capacity : Nat) (request : EnqueueRequest) (actor : String) : Code TaskAnswer := do
  let draining : Bool ← ask .runtimeIsDraining
  if draining && request.kind ≠ .steelOut then
    pure { (TaskAnswer.refusal 503 "Service Unavailable" "runtime_draining") with
           details := [("kind", request.kind.text)] }
  else admitTask capacity request actor

def enqueueAdmitted (capacity : Nat) (request : EnqueueRequest) (actor : String) :
    Code TaskAnswer := do
  if request.compoundKey.isEmpty then enqueueFresh capacity request actor
  else
    match ← (findProductionTaskByIdempotencyKey request.compoundKey).run with
    | .error error => pure (.databaseError error)
    | .ok (some existing) =>
      if request.conflictsWith existing then
        pure { (TaskAnswer.refusal 409 "Conflict" "idempotency_conflict") with
               task := some existing }
      else
        pure { code := 200, reason := "OK", error := none, duplicate := some true
               task := some existing }
    | .ok none => enqueueFresh capacity request actor

def enqueueResponse (capacity : Nat) (body : Option Json) (actor : String) : Code TaskAnswer :=
  match checkEnqueueRequest body with
  | .error answer => pure answer
  | .ok request => withAdminGuard (enqueueAdmitted capacity request actor)

/-! ## Cancel and retry -/

def taskIdFromBody (body : Option Json) : Except TaskAnswer TaskId :=
  match body with
  | none => .error (.refusal 400 "Bad Request" "invalid_production_task_action_json")
  | some payload =>
    let id := valueString payload ["taskId", "task_id", "id"]
    if (Text.trim id).isEmpty then
      .error (.refusal 400 "Bad Request" "production_task_id_required")
    else .ok id

def cancelGuarded (fuel : Nat) (id : TaskId) (actor : String) : Code TaskAnswer := do
  match ← (findProductionTask id).run with
  | .error error => pure (.databaseError error)
  | .ok none => pure taskNotFound
  | .ok (some existing) =>
    if existing.status.isTerminal then
      pure { (TaskAnswer.refusal 409 "Conflict" "production_task_is_terminal") with
             task := some existing }
    else
      match ← (requestCancelProductionTask fuel id).run with
      | .error error => pure (.databaseError error)
      | .ok none => pure taskNotFound
      | .ok (some task) =>
        appendAuditLog actor "production.task.cancel" task.id "cancellation requested" "warning"
        if task.status = .running then
          pure { code := 202, reason := "Accepted", error := none, task := some task }
        else pure { code := 200, reason := "OK", error := none, task := some task }

def cancelResponse (fuel : Nat) (body : Option Json) (actor : String) : Code TaskAnswer :=
  match taskIdFromBody body with
  | .error answer => pure answer
  | .ok id => withAdminGuard (cancelGuarded fuel id actor)

def retryGuarded (fuel : Nat) (id : TaskId) (actor : String) : Code TaskAnswer := do
  match ← (findProductionTask id).run with
  | .error error => pure (.databaseError error)
  | .ok none => pure taskNotFound
  | .ok (some existing) =>
    if !existing.status.isRetryable then
      pure { (TaskAnswer.refusal 409 "Conflict" "production_task_not_retryable") with
             task := some existing }
    else
      match ← (retryProductionTask fuel id).run with
      | .error error => pure (.databaseError error)
      | .ok none => pure taskNotFound
      | .ok (some task) =>
        if task.status = .blocked then
          pure { (TaskAnswer.refusal 409 "Conflict" "production_task_dependency_unresolved") with
                 task := some task }
        else
          appendAuditLog actor "production.task.retry" task.id
            ("explicit retry after " ++ toString task.attempts ++ " attempt(s)") "warning"
          pure { code := 202, reason := "Accepted", error := none, task := some task }

def retryResponse (fuel : Nat) (body : Option Json) (actor : String) : Code TaskAnswer :=
  match taskIdFromBody body with
  | .error answer => pure answer
  | .ok id => withAdminGuard (retryGuarded fuel id actor)

/-! ## The worker -/

def dispatchPhase : TaskKind → String
  | .captureOnce => "dispatching-capture-provider"
  | .algorithmRun => "dispatching-algorithm"
  | .steelInfo => "dispatching-steel-info"
  | .steelIn => "dispatching-steel-in"
  | .steelOut => "dispatching-steel-out"
  | .triggerEvent => "dispatching-trigger-event"
  | .other _ => "dispatching-production-operation"

def responseSucceeded (response : HttpResponse) : Bool :=
  if 200 ≤ response.code ∧ response.code < 300 then
    ((response.body.bind (·.get? "code")).bind Json.asI64).all (· == 0)
  else false

def responseError (response : HttpResponse) : String :=
  ((response.body.bind fun body => body.getFirst? ["error", "message"]).bind Json.asStr).getD
    response.statusLine

def responseCooperativelyCancelled (response : HttpResponse) : Bool :=
  response.body.any fun body =>
    ((body.get? "cooperativeCancellation").bind Json.asBool).getD false ||
      (((body.get? "algorithm").bind (·.get? "cooperativeCancellation")).bind Json.asBool).getD false

def providerTerminalOutcome (response : HttpResponse) : TaskStatus × Int × String :=
  if responseSucceeded response then (.succeeded, 100, "") else (.failed, 100, responseError response)

/-- The final status of a task whose provider has answered. -/
def terminalOutcome (response : HttpResponse) (draining cancellationRequested : Bool) :
    TaskStatus × Int × String :=
  if responseCooperativelyCancelled response then
    (.cancelled, 100,
      if draining && !cancellationRequested then
        "cancelled during runtime drain at interruptible algorithm computation"
      else "cancelled during interruptible algorithm computation")
  else providerTerminalOutcome response

def persistTaskCheckpoint (task : ProductionTask) (phase : String) (percent : Int) : Code Unit := do
  let _ ← (updateProductionTaskProgress task.id phase percent).run
  pure ()

/-- The latest cancel flag of a task; a failed read counts as no request. -/
def cancelRequestedNow (id : TaskId) : Code Bool := do
  let latest ← (findProductionTask id).run
  pure (((okFlatten latest).map (·.cancelRequested)).getD false)

def finishCancelledBeforeDispatch (fuel : Nat) (task : ProductionTask) : Code Unit := do
  let _ ← (finishProductionTask fuel task.id .cancelled 0 "" "cancelled before dispatch").run
  pure ()

/-- `production_command_lock` around the second look at the flag and the dispatch; `none` when the
task was cancelled before. -/
def dispatchUnderCommandLock (task : ProductionTask) : Code (Option HttpResponse) := do
  if ← ask .lockCommand then
    if ← cancelRequestedNow task.id then
      let _ ← ask .unlockCommand
      pure none
    else
      persistTaskCheckpoint task (dispatchPhase task.kind) 25
      let response : HttpResponse ← ask (.dispatch task)
      let _ ← ask .unlockCommand
      pure (some response)
  else
    pure (some (.json 503 "Service Unavailable"
      (.obj [("code", .int 503), ("error", .str "production_command_lock_poisoned")])))

/-- The end of the loop body: the audit entry for a cancel that came too late, and the result. -/
def recordOutcome (fuel : Nat) (task : ProductionTask) (response : HttpResponse)
    (cancellationRequested : Bool) (outcome : TaskStatus × Int × String) : Code Unit := do
  if cancellationRequested && !responseCooperativelyCancelled response then
    appendAuditLog task.actor "production.task.cancel_too_late" task.id
      ("provider completed with terminal status " ++ outcome.1.text) "warning"
    let _ ← (finishProductionTask fuel task.id outcome.1 outcome.2.1 response.text outcome.2.2).run
    pure ()
  else
    let _ ← (finishProductionTask fuel task.id outcome.1 outcome.2.1 response.text outcome.2.2).run
    pure ()

def finalizeTask (fuel : Nat) (task : ProductionTask) (response : HttpResponse) : Code Unit := do
  persistTaskCheckpoint task "finalizing-result" 90
  let cancellationRequested ← cancelRequestedNow task.id
  let draining : Bool ← ask .runtimeIsDraining
  recordOutcome fuel task response cancellationRequested
    (terminalOutcome response draining cancellationRequested)

/-- What the worker does with a task it has claimed. -/
def runClaimedTask (fuel : Nat) (task : ProductionTask) : Code Unit := do
  persistTaskCheckpoint task "waiting-command-lane" 10
  if ← cancelRequestedNow task.id then finishCancelledBeforeDispatch fuel task
  else
    match ← dispatchUnderCommandLock task with
    | none => finishCancelledBeforeDispatch fuel task
    | some response => finalizeTask fuel task response

def workerLoop : Nat → Code TaskAnswer
  | 0 => .diverge
  | fuel + 1 => do
    match ← (claimNextProductionTask fuel).run with
    | .ok (some task) => do
      runClaimedTask fuel task
      workerLoop fuel
    | .ok none | .error _ => workerLoop fuel

/-- `start_worker`: restart recovery, then the loop.  An offline profile claims nothing. -/
def startWorker (offline : Bool) (fuel : Nat) : Code TaskAnswer := do
  let _ ← (recoverIncompleteProductionTasks fuel).run
  if offline then .diverge else workerLoop fuel

end SteelInspection.Tasks
