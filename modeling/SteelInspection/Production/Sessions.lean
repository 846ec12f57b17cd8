import SteelInspection.Production.FlowImages
import SteelInspection.Production.Inspections

/-! # Production events

A production event (steel-info, steel-in, steel-out or a trigger event) is handled by
`write_production_event_response`.  The handler looks up the open session that was written last,
decides from it and from the payload which session the event is for, records the session, the
inspection and the flow, tells the capture provider, and records all three once more with the status
that follows from the provider's answer.

A database error ends the handling and leaves what has been written until then.
-/

namespace SteelInspection.Production

open Foundations Foundations.Fallible

inductive ProductionEvent where
  | steelInfo | steelIn | steelOut | triggerEvent
  deriving DecidableEq, Repr

/-! ## Sessions -/

inductive SessionStatus where
  | infoPending | infoReady | infoFailed
  | starting | startFailed
  | active | eventFailed
  | finishing | finished | exitFailed
  deriving DecidableEq, Repr

namespace SessionStatus

def text : SessionStatus → String
  | infoPending => "info-pending"
  | infoReady => "info-ready"
  | infoFailed => "info-failed"
  | starting => "starting"
  | startFailed => "start-failed"
  | active => "active"
  | eventFailed => "event-failed"
  | finishing => "finishing"
  | finished => "finished"
  | exitFailed => "exit-failed"

/-- The statuses from which a session may be left. -/
def exitReady (status : SessionStatus) : Bool :=
  status = active || status = finishing || status = exitFailed

end SessionStatus

structure MaterialSession where
  id : String
  materialId : String
  source : String
  status : SessionStatus
  controlMode : String
  triggerMode : String
  steelType : String
  client : String
  hard : String
  storageRoot : String
  startedAt : String
  finishedAt : String
  updatedAt : String
  rawPayload : String
  deriving DecidableEq, Repr

structure MaterialSessionInput where
  id : String
  materialId : String
  source : String
  status : SessionStatus
  controlMode : String
  triggerMode : String
  steelType : String
  client : String
  hard : String
  storageRoot : String
  startedAt : String
  finishedAt : String
  rawPayload : String
  deriving DecidableEq, Repr

abbrev Sessions := Table MaterialSession MaterialSession.id

def updatedSession (now : String) (input : MaterialSessionInput) (row : MaterialSession) :
    MaterialSession :=
  { row with
    materialId := input.materialId
    source := input.source
    status := input.status
    controlMode := input.controlMode
    triggerMode := input.triggerMode
    steelType := input.steelType
    client := input.client
    hard := input.hard
    storageRoot := input.storageRoot
    startedAt :=
      if row.startedAt = "" ∧ input.startedAt ≠ "" then input.startedAt else row.startedAt
    finishedAt := input.finishedAt
    updatedAt := now
    rawPayload := input.rawPayload }

theorem updatedSession_id (now : String) (input : MaterialSessionInput) (row : MaterialSession) :
    (updatedSession now input row).id = row.id := rfl

def insertedSession (now : String) (input : MaterialSessionInput) : MaterialSession where
  id := input.id
  materialId := input.materialId
  source := input.source
  status := input.status
  controlMode := input.controlMode
  triggerMode := input.triggerMode
  steelType := input.steelType
  client := input.client
  hard := input.hard
  storageRoot := input.storageRoot
  startedAt := if input.startedAt = "" then now else input.startedAt
  finishedAt := input.finishedAt
  updatedAt := now
  rawPayload := input.rawPayload

def upsertMaterialSession (now : String) (input : MaterialSessionInput) (sessions : Sessions) :
    Except DbErr MaterialSession × Sessions :=
  match sessions.find? input.id with
  | some row =>
    (.ok (updatedSession now input row),
      sessions.update row.id (updatedSession now input) (updatedSession_id now input))
  | none =>
    match sessions.insert (insertedSession now input) with
    | some next => (.ok (insertedSession now input), next)
    | none => (.error ⟨"UNIQUE constraint failed: material_session.id"⟩, sessions)

/-- `ORDER BY updated_at DESC, id DESC` lists the second row first; both columns are texts. -/
def MaterialSession.older (first second : MaterialSession) : Bool :=
  first.updatedAt < second.updatedAt ||
    (first.updatedAt = second.updatedAt && first.id < second.id)

def latestOpenMaterialSession (sessions : Sessions) : Option MaterialSession :=
  greatest MaterialSession.older (sessions.select fun session => session.status ≠ .finished)

/-! ## The session an event is for -/

structure ProductionEventTarget where
  materialId : String
  sessionId : String
  deriving DecidableEq, Repr

inductive ProductionTransitionConflict where
  | activeSessionRequired
  | activeSessionMismatch (activeMaterialId activeSessionId : String)
      (requestedMaterialId requestedSessionId : String)
  deriving DecidableEq, Repr

def requestedSessionId (payload : Json) : String := valueString payload ["sessionId", "session_id"]

/-- The payload names another material or another session than these. -/
def mismatches (payload : Json) (active : ProductionEventTarget) : Bool :=
  (materialIdFromPayload payload "" ≠ "" && materialIdFromPayload payload "" ≠ active.materialId) ||
    (requestedSessionId payload ≠ "" && requestedSessionId payload ≠ active.sessionId)

def targetMaterialId (payload : Json) (active : Option ProductionEventTarget) : String :=
  if materialIdFromPayload payload "" = "" then
    (active.map (·.materialId)).getD "unknown-material"
  else materialIdFromPayload payload ""

def targetSessionId (payload : Json) (event : ProductionEvent)
    (active : Option ProductionEventTarget) (generatedAt : Nat) : String :=
  if requestedSessionId payload = "" then
    ((active.filter fun session =>
        event = .steelOut || session.materialId = targetMaterialId payload active).map
      (·.sessionId)).getD (targetMaterialId payload active ++ "-" ++ toString generatedAt)
  else requestedSessionId payload

def resolveProductionEventTarget (payload : Json) (event : ProductionEvent)
    (active : Option ProductionEventTarget) (generatedAt : Nat) :
    Except ProductionTransitionConflict ProductionEventTarget := do
  require (event = .steelOut → active.isSome) .activeSessionRequired
  match active with
  | none => pure ()
  | some active =>
    require (event = .steelIn ∨ event = .steelOut → mismatches payload active = false)
      (.activeSessionMismatch active.materialId active.sessionId
        (materialIdFromPayload payload "") (requestedSessionId payload))
  return ⟨targetMaterialId payload active, targetSessionId payload event active generatedAt⟩

def MaterialSession.target (session : MaterialSession) : ProductionEventTarget :=
  ⟨session.materialId, session.id⟩

/-! ## Requests and answers -/

inductive Operation where
  | countOpenProductionTasks | loadActiveSession
  | startSteelFlow | loadSteelFlow
  | upsertMaterialSession | loadProductionInspection | upsertProductionInspection
  | appendTriggerEvent
  | finalizeMaterialSession | finalizeProductionInspection | finalizeSteelFlow
  deriving DecidableEq, Repr

/-- An event with everything its handling meets outside the tables. -/
structure EventRequest where
  event : ProductionEvent
  /-- What the JSON reader makes of the body. -/
  body : Except String Json
  /-- The request comes from the task worker itself. -/
  workerScope : Bool
  openTasks : Nat
  /-- `current_time_millis` and `current_time_string`. -/
  generatedAt : Nat
  now : String
  /-- `now_millis_string` at each of the writes. -/
  clock : Operation → String
  connection : Operation → Connection
  storageOk : Bool
  storageReason : Json
  minimumUnusedStorageFlowNo : String → Int
  assignedFlowNo : Nat
  /-- The service acquires in simulation mode. -/
  simulation : Bool
  /-- What the capture provider has answered, if that can be read. -/
  provider : Option Json
  runtimeSourceMode : String
  triggerEventId : Nat
  finalSummary : Json

inductive EventRefusal where
  | badRequest (error : String)
  | tasksInProgress (queueDepth : Nat)
  | persistenceFailed (operation : Operation) (detail : String)
  | notExitReady (session : MaterialSession)
  | transitionConflict (conflict : ProductionTransitionConflict)
  | storageNotReady (storageReason : Json)
  | invalidCaptureMode
  | triggerEventLost (error : String) (provider finalSummary : Json)

/-- The event is refused on account of the session that is open or of the one it names. -/
def EventRefusal.aboutSession : EventRefusal → Bool
  | .notExitReady _ | .transitionConflict _ => true
  | _ => false

structure EventAccepted where
  event : ProductionEvent
  code : Int
  materialId : String
  sessionId : String
  inspectionId : String
  flow : Option SteelFlow
  triggerEventId : Nat
  mode : String
  triggerMode : String
  discardBlackFrames : Bool
  provider : Json
  finalSummary : Json

/-! ## The handler -/

structure ProductionStore where
  sessions : Sessions
  inspections : Inspections
  flows : FlowStore

namespace ProductionStore

variable {α : Type}

def onSessions (action : Sessions → Except DbErr α × Sessions) (store : ProductionStore) :
    Except DbErr α × ProductionStore :=
  ((action store.sessions).1, { store with sessions := (action store.sessions).2 })

def onInspections (action : Inspections → Except DbErr α × Inspections) (store : ProductionStore) :
    Except DbErr α × ProductionStore :=
  ((action store.inspections).1, { store with inspections := (action store.inspections).2 })

def onFlows (action : FlowStore → Except DbErr α × FlowStore) (store : ProductionStore) :
    Except DbErr α × ProductionStore :=
  ((action store.flows).1, { store with flows := (action store.flows).2 })

def reading (query : ProductionStore → α) (store : ProductionStore) :
    Except DbErr α × ProductionStore :=
  (.ok (query store), store)

end ProductionStore

open ProductionStore

abbrev Handling := ExceptT EventRefusal (StateM ProductionStore)

/-- A database call; its error is the answer of the handler. -/
def database {α : Type} (request : EventRequest) (operation : Operation)
    (action : ProductionStore → Except DbErr α × ProductionStore) : Handling α :=
  ExceptT.mk fun store =>
    let called := (request.connection operation).write (action store).1 store (action store).2
    (called.1.mapError fun error => .persistenceFailed operation error.message, called.2)

def ifEmpty (text fallback : String) : String := if Text.trim text = "" then fallback else text

def valueI32 (payload : Json) (keys : List String) (fallback : Int) : Int :=
  let read := (payload.getFirst? keys).bind fun value =>
    (value.asI64.or (value.asBool.map fun flag => if flag then 1 else 0)).or
      (value.asStr.bind fun text => Text.parseI64 (Text.trim text))
  (read.filter fun number => -2 ^ 31 ≤ number && number < 2 ^ 31).getD fallback

def normalizeCaptureOutputMode (value : String) : Option String :=
  let mode := Text.toAsciiLowercase (Text.trim value)
  if mode ∈ ["continuous", "auto", "automatic"] then some "continuous"
  else if mode ∈ ["on-demand", "on_demand", "ondemand", "manual"] then some "on-demand"
  else if mode ∈ ["disabled", "off", "stop"] then some "disabled"
  else none

/-- Only the task worker may report events while tasks are open. -/
def admitTasks (request : EventRequest) : Handling Unit := do
  if request.workerScope then return
  let openTasks ← database request .countOpenProductionTasks (reading fun _ => request.openTasks)
  decided (require (openTasks = 0) (.tasksInProgress openTasks))

def admitExit (event : ProductionEvent) (latestOpen : Option MaterialSession) :
    Except EventRefusal Unit :=
  match latestOpen with
  | some session =>
    require (event = .steelOut → session.status.exitReady = true) (.notExitReady session)
  | none => .ok ()

/-- The session an event is for, in view of the open session that was written last. -/
def eventTarget (request : EventRequest) (payload : Json) (latestOpen : Option MaterialSession) :
    Except EventRefusal ProductionEventTarget := do
  admitExit request.event latestOpen
  (resolveProductionEventTarget payload request.event (latestOpen.map MaterialSession.target)
    request.generatedAt).mapError .transitionConflict

def admitStorage (request : EventRequest) (previous : Option MaterialSession) :
    Except EventRefusal Unit :=
  require (previous.isSome ∨ request.storageOk = true ∨
      (request.event ≠ .steelInfo ∧ request.event ≠ .steelIn))
    (.storageNotReady request.storageReason)

def admitCaptureMode (payload : Json) : Except EventRefusal Unit :=
  let requested := valueString payload ["captureMode", "capture_mode"]
  require (requested = "" ∨ (normalizeCaptureOutputMode requested).isSome) .invalidCaptureMode

/-- The texts of an event that are taken from the previous version of its session where the payload
has none. -/
structure EventFields where
  source : String
  mode : String
  triggerMode : String
  steelType : String
  client : String
  hard : String
  storageRoot : String
  startedAt : String

def eventFields (request : EventRequest) (payload : Json) (previous : Option MaterialSession) :
    EventFields :=
  let field (keys : List String) (column : MaterialSession → String) (fallback : String) :=
    ifEmpty (valueString payload keys) ((previous.map column).getD fallback)
  let mode := field ["mode", "controlMode", "control_mode"] (·.controlMode) "api"
  { source := field ["source"] (·.source) "api"
    mode
    triggerMode := field ["triggerMode", "trigger_mode"] (·.triggerMode) mode
    steelType := field ["steelType", "steel_type", "type"] (·.steelType) ""
    client := field ["client"] (·.client) ""
    hard := field ["hard"] (·.hard) ""
    storageRoot := field ["storageRoot", "storage_root"] (·.storageRoot) ""
    startedAt :=
      ((previous.map (·.startedAt)).filter fun value => Text.trim value ≠ "").getD request.now }

/-- The flow of the session: started by a steel-in, looked up by a steel-out. -/
def eventFlow (request : EventRequest) (payload : Json) (sessionId : String) (fields : EventFields) :
    Handling (Option SteelFlow) :=
  match request.event with
  | .steelIn => do
    let flow ← database request .startSteelFlow (onFlows
      (startSteelFlow (request.clock .startSteelFlow) request.assignedFlowNo
        { sessionId
          materialId := materialIdFromPayload payload ""
          minimumFlowNo :=
            if materialIdFromPayload payload "" = "" then
              request.minimumUnusedStorageFlowNo fields.storageRoot
            else 0
          source := fields.source
          status := SessionStatus.starting.text
          storageRoot := fields.storageRoot
          startedAt := fields.startedAt
          rawPayload := payload.render }))
    return some flow
  | .steelOut => database request .loadSteelFlow (reading fun store => store.flows.flowOf sessionId)
  | .steelInfo | .triggerEvent => return none

/-- The material an event is recorded for: without a requested one that of the flow. -/
def recordedMaterialId (payload : Json) (target : ProductionEventTarget) (flow : Option SteelFlow) :
    String :=
  if materialIdFromPayload payload "" = "" then
    (flow.map (·.materialId)).getD target.materialId
  else target.materialId

def ProductionEvent.pendingStatus : ProductionEvent → SessionStatus
  | .steelOut => .finishing
  | .steelInfo => .infoPending
  | .steelIn => .starting
  | .triggerEvent => .active

def ProductionEvent.finalStatus : ProductionEvent → Bool → SessionStatus
  | .steelIn, true => .active
  | .steelIn, false => .startFailed
  | .steelOut, true => .finished
  | .steelOut, false => .exitFailed
  | .steelInfo, true => .infoReady
  | .steelInfo, false => .infoFailed
  | .triggerEvent, true => .active
  | .triggerEvent, false => .eventFailed

def inspectionStatus : SessionStatus → String
  | .active => "running"
  | status => status.text

def sessionInput (request : EventRequest) (payload : Json) (sessionId materialId : String)
    (fields : EventFields) : MaterialSessionInput where
  id := sessionId
  materialId := materialId
  source := fields.source
  status := request.event.pendingStatus
  controlMode := fields.mode
  triggerMode := fields.triggerMode
  steelType := fields.steelType
  client := fields.client
  hard := fields.hard
  storageRoot := fields.storageRoot
  startedAt := fields.startedAt
  finishedAt := ""
  rawPayload := payload.render

def inspectionInput (request : EventRequest) (payload : Json) (sessionId materialId : String)
    (existing : Option ProductionInspection) : ProductionInspectionInput where
  id := "INSP-" ++ sessionId
  materialId := materialId
  sessionId := sessionId
  status := request.event.pendingStatus.text
  storageRoot := ifEmpty (valueString payload ["storageRoot", "storage_root"])
    ((existing.map (·.storageRoot)).getD "")
  summaryPath := ifEmpty (valueString payload ["summaryPath", "summary_path"])
    ((existing.map (·.summaryPath)).getD "")
  startedAt :=
    ((existing.map (·.startedAt)).filter fun value => Text.trim value ≠ "").getD request.now
  finishedAt := ""
  captureCount := valueI32 payload ["captureCount", "capture_count"]
    ((existing.map (·.captureCount)).getD 0)
  defectCount := valueI32 payload ["defectCount", "defect_count"]
    ((existing.map (·.defectCount)).getD 0)
  rawPayload := payload.render

/-- What an event has recorded before the provider is told. -/
structure Registered where
  payload : Json
  fields : EventFields
  materialId : String
  session : MaterialSession
  inspection : ProductionInspection
  flow : Option SteelFlow

/-- The session an event is for, and the version of that session the event continues. -/
structure Admitted where
  payload : Json
  target : ProductionEventTarget
  previous : Option MaterialSession

def admitEvent (request : EventRequest) : Handling Admitted := do
  let payload ← decided (request.body.mapError .badRequest)
  admitTasks request
  let latestOpen ← database request .loadActiveSession
    (reading fun store => latestOpenMaterialSession store.sessions)
  let target ← decided (eventTarget request payload latestOpen)
  return ⟨payload, target, latestOpen.filter fun session => session.target = target⟩

def upsertInspection (request : EventRequest) (payload : Json) (operation : Operation)
    (input : ProductionInspectionInput) : Handling ProductionInspection :=
  database request operation (onInspections (upsertProductionInspection
    { input, payload := some payload, runtimeSourceMode := request.runtimeSourceMode }))

def registerEvent (request : EventRequest) (admitted : Admitted) : Handling Registered := do
  decided (admitStorage request admitted.previous)
  decided (admitCaptureMode admitted.payload)
  let payload := admitted.payload
  let sessionId := admitted.target.sessionId
  let fields := eventFields request payload admitted.previous
  let flow ← eventFlow request payload sessionId fields
  let materialId := recordedMaterialId payload admitted.target flow
  let session ← database request .upsertMaterialSession (onSessions
    (upsertMaterialSession (request.clock .upsertMaterialSession)
      (sessionInput request payload sessionId materialId fields)))
  let existing ← database request .loadProductionInspection
    (reading fun store => store.inspections.find? ("INSP-" ++ sessionId))
  let inspection ← upsertInspection request payload .upsertProductionInspection
    (inspectionInput request payload sessionId materialId existing)
  return { payload, fields, materialId, session, inspection, flow }

def EventRequest.providerResponse (request : EventRequest) : Json :=
  if request.simulation then
    .obj [("code", .int 0), ("databaseRegisteredBeforeLocalCapture", .bool true),
      ("provider", .str "simulation-replay-coordinator"), ("runtimeMode", .str "simulation")]
  else
    request.provider.getD (.obj [("code", .int 503), ("error", .str "capture_provider_offline")])

def EventRequest.providerCode (request : EventRequest) : Int :=
  (((request.providerResponse.get? "code").bind Json.asI64).filter fun code =>
    -2 ^ 31 ≤ code && code < 2 ^ 31).getD 503

def EventRequest.confirmed (request : EventRequest) : Bool := request.providerCode = 0

def EventRequest.finalStatus (request : EventRequest) : SessionStatus :=
  request.event.finalStatus request.confirmed

def EventRequest.finishedAt (request : EventRequest) : String :=
  if request.event = .steelOut ∧ request.confirmed = true then request.now else ""

/-- The session as it has been recorded, with the status that follows from the provider's answer. -/
def finalSessionInput (request : EventRequest) (registered : Registered) : MaterialSessionInput where
  id := registered.session.id
  materialId := registered.session.materialId
  source := registered.session.source
  status := request.finalStatus
  controlMode := registered.session.controlMode
  triggerMode := registered.session.triggerMode
  steelType := registered.session.steelType
  client := registered.session.client
  hard := registered.session.hard
  storageRoot := registered.session.storageRoot
  startedAt := registered.session.startedAt
  finishedAt := request.finishedAt
  rawPayload := registered.payload.render

def finalInspectionInput (request : EventRequest) (registered : Registered) :
    ProductionInspectionInput where
  id := registered.inspection.id
  materialId := registered.inspection.materialId
  sessionId := registered.inspection.sessionId
  status := inspectionStatus request.finalStatus
  storageRoot := registered.inspection.storageRoot
  summaryPath := registered.inspection.summaryPath
  startedAt := registered.inspection.startedAt
  finishedAt := request.finishedAt
  captureCount := registered.inspection.captureCount
  defectCount := registered.inspection.defectCount
  rawPayload := registered.payload.render

def finalFlow (request : EventRequest) (registered : Registered) : Handling (Option SteelFlow) :=
  if registered.flow.isNone then return none
  else database request .finalizeSteelFlow (onFlows fun flows =>
    let updated := updateSteelFlowStatus (request.clock .finalizeSteelFlow) registered.session.id
      request.finalStatus.text request.finishedAt registered.payload.render flows
    (.ok updated.1, updated.2))

/-- The id of the appended trigger event; its error is reported when everything else is done. -/
def EventRequest.triggerEvent (request : EventRequest) : Except DbErr Nat :=
  ((request.connection .appendTriggerEvent).query request.triggerEventId ()).1

def concludeEvent (request : EventRequest) (registered : Registered) : Handling EventAccepted := do
  let _ ← database request .finalizeMaterialSession (onSessions
    (upsertMaterialSession (request.clock .finalizeMaterialSession)
      (finalSessionInput request registered)))
  let _ ← upsertInspection request registered.payload .finalizeProductionInspection
    (finalInspectionInput request registered)
  let flow ← finalFlow request registered
  let finalSummary :=
    if request.event = .steelOut ∧ request.confirmed = true then request.finalSummary else .null
  let triggerEventId ← decided (request.triggerEvent.mapError fun error =>
    .triggerEventLost error.message request.providerResponse finalSummary)
  return {
    event := request.event
    code := request.providerCode
    materialId := registered.materialId
    sessionId := registered.session.id
    inspectionId := registered.inspection.id
    flow
    triggerEventId
    mode := registered.fields.mode
    triggerMode := registered.fields.triggerMode
    discardBlackFrames :=
      ((registered.payload.getFirst? ["discardBlackFrames", "discard_black_frames"]).bind
        Json.asBool).getD true
    provider := request.providerResponse
    finalSummary }

/-- `write_production_event_response`, up to the rendering of its answer. -/
def writeProductionEvent (request : EventRequest) : Handling EventAccepted := do
  let admitted ← admitEvent request
  let registered ← registerEvent request admitted
  concludeEvent request registered

end SteelInspection.Production
