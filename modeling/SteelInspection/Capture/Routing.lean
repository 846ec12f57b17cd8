import Mathlib.Logic.Function.Basic
import SteelInspection.Foundations.Groups
import SteelInspection.Foundations.Table

/-! # Routing of camera frames to material flows

The part of `ProviderRuntime` that decides, camera by camera, to which bar a frame belongs.  The
reference camera only numbers the flows; every other camera keeps the flow its own material segment
started in, and a segment that starts before its flow is numbered waits in a buffer.

The model runs with `perCameraFlowRouting` on.  Log lines are left out.
-/

namespace SteelInspection.Capture

open Foundations

/-! ## Rows, flows and cameras -/

/-- One camera's row of a capture round.  The last two fields are set by the routing. -/
structure Row where
  cameraKey : String
  round : Nat
  frameReceived : Bool
  rawFrame : Option String
  materialSignal : Bool
  maxIntensity : Nat
  cameraMaterialId : String := ""
  cameraMaterialGeneration : Nat := 0
  deriving DecidableEq, Repr

/-- The row carries pixels; only such rows take part in the routing. -/
def Row.framed (row : Row) : Bool := row.frameReceived && row.rawFrame.isSome

structure CameraMaterialFlow where
  generation : Nat
  materialId : String
  sessionId : String
  productionEventId : String
  closeRequested : Bool := false
  closeRequestedRound : Nat := 0
  closeReason : String := ""
  closed : Bool := false
  forcedCameraKeys : List String := []
  deriving DecidableEq, Repr

structure CameraMaterialRouteState where
  localPresent : Bool := false
  ownerGeneration : Option Nat := none
  lastAssignedGeneration : Nat := 0
  pendingRows : List Row := []
  pendingSuppressedUntilGap : Bool := false
  lastSignalRound : Nat := 0
  deriving DecidableEq, Repr

structure RoutingProfile where
  enabledCameras : List String
  distinct : enabledCameras.Nodup
  cameraBoundaryBufferRounds : Int := 16
  cameraBoundaryCloseTimeoutRounds : Int := 24

/-- The longest segment a camera may hold back. -/
def RoutingProfile.bufferRounds (profile : RoutingProfile) : Nat :=
  (max 2 (min 64 profile.cameraBoundaryBufferRounds)).toNat

/-- The rounds after a close request in which a camera may still be in the flow. -/
def RoutingProfile.closeTimeoutRounds (profile : RoutingProfile) : Nat :=
  (max (profile.bufferRounds : Int) (min 128 profile.cameraBoundaryCloseTimeoutRounds)).toNat

abbrev FlowTable := Table CameraMaterialFlow CameraMaterialFlow.generation

structure CameraRouter where
  continuousRound : Nat := 0
  activeMaterialId : String := ""
  activeSessionId : String := ""
  routeGeneration : Nat := 0
  flows : FlowTable := Table.empty
  flowById : String → Option Nat := fun _ => none
  routeStates : String → CameraMaterialRouteState := fun _ => {}
  bufferWarnings : Nat := 0
  orphanSegments : Nat := 0
  discardedFrames : Nat := 0
  forcedClosures : Nat := 0
  lastError : String := ""
  /-- What `_mark_camera_material_signal_missing` was called with. -/
  missingSignals : List (String × List String) := []

namespace CameraRouter

def setState (router : CameraRouter) (cameraKey : String)
    (change : CameraMaterialRouteState → CameraMaterialRouteState) : CameraRouter :=
  { router with
    routeStates := Function.update router.routeStates cameraKey
      (change (router.routeStates cameraKey)) }

/-- The flow a dictionary lookup with `generation or 0` finds. -/
def flow? (router : CameraRouter) (generation : Option Nat) : Option CameraMaterialFlow :=
  router.flows.find? (generation.getD 0)

/-! ## Opening and closing flows -/

def register (router : CameraRouter) (materialId sessionId productionEventId : String) :
    CameraRouter :=
  let generation := router.routeGeneration + 1
  { router with
    routeGeneration := generation
    flows := router.flows.put { generation, materialId, sessionId, productionEventId }
    flowById := Function.update router.flowById materialId (some generation) }

def openCameraMaterialFlow (router : CameraRouter)
    (materialId sessionId productionEventId : String) : CameraRouter :=
  if materialId = "" || sessionId = "" then router
  else
    match (router.flowById materialId).bind router.flows.find? with
    | some existing =>
      if existing.closed then router.register materialId sessionId productionEventId
      else
        { router with
          flows := router.flows.update existing.generation fun flow =>
            { flow with sessionId, productionEventId, closeRequested := false } }
    | none => router.register materialId sessionId productionEventId

def markCloseRequested (router : CameraRouter) (generation : Nat) (reason : String) :
    CameraRouter :=
  { router with
    flows := router.flows.update generation fun flow =>
      { flow with
        closeRequested := true
        closeRequestedRound := router.continuousRound
        closeReason := reason } }

/-- `_request_camera_material_flow_close`; a flow of an earlier process is registered first. -/
def requestCameraMaterialFlowClose (router : CameraRouter) (materialId sessionId reason : String) :
    CameraRouter :=
  match router.flow? (router.flowById materialId) with
  | some flow => router.markCloseRequested flow.generation reason
  | none =>
    let router := router.register materialId sessionId ""
    router.markCloseRequested router.routeGeneration reason

end CameraRouter

/-- The commands of `steel_event` that move flows; `reset` and `clear` act like `steelOut`. -/
inductive SteelEvent where
  | steelIn (materialId sessionId flowCode : String)
  | steelOut (materialId sessionId : String)
  deriving DecidableEq, Repr

namespace CameraRouter

/-- `steel_event` with `steelIn` and a value other than zero, for a payload that passed its checks. -/
def steelIn (router : CameraRouter) (materialId sessionId flowCode : String) : CameraRouter :=
  let opened := { router with activeMaterialId := materialId, activeSessionId := sessionId }
  if router.activeMaterialId ≠ "" ∧ router.activeMaterialId ≠ materialId then
    (opened.requestCameraMaterialFlowClose router.activeMaterialId router.activeSessionId
      "superseded-by-new-flow").openCameraMaterialFlow materialId sessionId flowCode
  else opened.openCameraMaterialFlow materialId sessionId flowCode

def steelOut (router : CameraRouter) (materialId sessionId : String) : CameraRouter :=
  let completed := if router.activeMaterialId = "" then materialId else router.activeMaterialId
  let completedSession := if router.activeSessionId = "" then sessionId else router.activeSessionId
  let left := { router with activeMaterialId := "", activeSessionId := "" }
  if completed = "" then left
  else left.requestCameraMaterialFlowClose completed completedSession "steel-out-or-reset"

def steelEvent (router : CameraRouter) : SteelEvent → CameraRouter
  | .steelIn materialId sessionId flowCode => router.steelIn materialId sessionId flowCode
  | .steelOut materialId sessionId => router.steelOut materialId sessionId

end CameraRouter

/-! ## Routing one round -/

inductive BoundaryPhase where
  | cameraLeadingBuffer
  | cameraEntry
  | cameraNormal
  deriving DecidableEq, Repr

def BoundaryPhase.text : BoundaryPhase → String
  | .cameraLeadingBuffer => "camera-leading-buffer"
  | .cameraEntry => "camera-entry"
  | .cameraNormal => "camera-normal"

abbrev Batch := Group (Nat × Nat) (CameraMaterialFlow × BoundaryPhase) Row

def cameraMaterialBatchKey (flow : CameraMaterialFlow) (row : Row) : Nat × Nat :=
  (row.round, flow.generation)

/-- The router and the batches a pass has put together so far. -/
structure RoutePass where
  router : CameraRouter
  grouped : List Batch := []

def Row.assignedTo (row : Row) (flow : CameraMaterialFlow) : Row :=
  { row with cameraMaterialId := flow.materialId, cameraMaterialGeneration := flow.generation }

def addRow (grouped : List Batch) (row : Row) (flow : CameraMaterialFlow) (phase : BoundaryPhase) :
    List Batch :=
  Group.add (cameraMaterialBatchKey flow row) (flow, phase) (row.assignedTo flow) grouped

def CameraRouter.discardPendingSegment (router : CameraRouter) (cameraKey reason : String)
    (suppressUntilGap : Bool) : CameraRouter :=
  let discarded := (router.routeStates cameraKey).pendingRows.length
  if discarded = 0 then router
  else
    { router.setState cameraKey fun state =>
        { state with pendingRows := [], pendingSuppressedUntilGap := suppressUntilGap } with
      orphanSegments := router.orphanSegments + 1
      discardedFrames := router.discardedFrames + discarded
      lastError := s!"{cameraKey} discarded {discarded} unmatched material frames: {reason}" }

def CameraRouter.activeFlow (router : CameraRouter) : Option CameraMaterialFlow :=
  (router.flow? (router.flowById router.activeMaterialId)).filter fun flow =>
    !(flow.closed || flow.closeRequested)

def currentSignal (results : List Row) (cameraKey : String) : Option Bool :=
  ((results.filter fun row => row.framed && row.cameraKey = cameraKey).getLast?).map
    (·.materialSignal)

/-- A round without material ends the camera's segment, and what it held back is lost. -/
def closeLocalGap (results : List Row) (router : CameraRouter) (cameraKey : String) :
    CameraRouter :=
  if currentSignal results cameraKey = some false then
    (router.discardPendingSegment cameraKey "one-round-local-gap-before-global-reference"
      false).setState cameraKey fun state =>
        { state with
          pendingSuppressedUntilGap := false, localPresent := false, ownerGeneration := none }
  else router

/-- The rows a camera held back go to the active flow. -/
def CameraMaterialRouteState.releases (state : CameraMaterialRouteState)
    (active : CameraMaterialFlow) (signal : Option Bool) : Bool :=
  !state.pendingRows.isEmpty && state.localPresent && signal = some true &&
    state.lastAssignedGeneration < active.generation

def releaseBuffered (results : List Row) (active : CameraMaterialFlow) (pass : RoutePass)
    (cameraKey : String) : RoutePass :=
  let state := pass.router.routeStates cameraKey
  if state.releases active (currentSignal results cameraKey) then
    { router := pass.router.setState cameraKey fun state =>
        { state with
          pendingRows := []
          lastAssignedGeneration := active.generation
          pendingSuppressedUntilGap := false
          ownerGeneration := some active.generation }
      grouped := state.pendingRows.foldl
        (fun grouped row => addRow grouped row active .cameraLeadingBuffer) pass.grouped }
  else pass

/-- A segment that starts now is owned by the active flow unless the camera has had it already. -/
def CameraMaterialRouteState.enter (state : CameraMaterialRouteState)
    (active : Option CameraMaterialFlow) : CameraMaterialRouteState :=
  match active with
  | some flow =>
    if state.lastAssignedGeneration < flow.generation then
      { state with
        localPresent := true
        ownerGeneration := some flow.generation
        lastAssignedGeneration := flow.generation }
    else { state with localPresent := true, ownerGeneration := none }
  | none => { state with localPresent := true, ownerGeneration := none }

/-- A row without an owner waits in the buffer of its camera. -/
def bufferRow (limit : Nat) (router : CameraRouter) (row : Row) : CameraRouter :=
  if (router.routeStates row.cameraKey).pendingSuppressedUntilGap then router
  else
    let buffered := router.setState row.cameraKey fun state =>
      { state with pendingRows := state.pendingRows ++ [row] }
    if limit < (buffered.routeStates row.cameraKey).pendingRows.length then
      { buffered with bufferWarnings := buffered.bufferWarnings + 1 }.discardPendingSegment
        row.cameraKey s!"global-reference-not-seen-within-{limit}-round-buffer" true
    else buffered

/-- The segment a row with material belongs to. -/
def arrive (active : Option CameraMaterialFlow) (state : CameraMaterialRouteState) (row : Row) :
    CameraMaterialRouteState × BoundaryPhase :=
  let state := { state with lastSignalRound := row.round }
  if state.localPresent then (state, .cameraNormal) else (state.enter active, .cameraEntry)

def routeRow (profile : RoutingProfile) (active : Option CameraMaterialFlow) (pass : RoutePass)
    (row : Row) : RoutePass :=
  if row.cameraKey ∉ profile.enabledCameras || !row.framed then pass
  else if !row.materialSignal then
    { pass with
      router := pass.router.setState row.cameraKey fun state =>
        { state with
          lastSignalRound := row.round
          localPresent := false
          ownerGeneration := if state.localPresent then none else state.ownerGeneration
          pendingSuppressedUntilGap := false } }
  else
    let (state, phase) := arrive active (pass.router.routeStates row.cameraKey) row
    let router := pass.router.setState row.cameraKey fun _ => state
    match (router.flow? state.ownerGeneration).filter fun flow => !flow.closed with
    | some owner => { router, grouped := addRow pass.grouped row owner phase }
    | none => { pass with router := bufferRow profile.bufferRounds router row }

def batchOrder (first second : Batch) : Prop :=
  first.key.1 < second.key.1 ∨ (first.key.1 = second.key.1 ∧ first.key.2 ≤ second.key.2)

instance : DecidableRel batchOrder := fun _ _ => inferInstanceAs (Decidable (_ ∨ _))

def releaseAll (profile : RoutingProfile) (results : List Row) (active : Option CameraMaterialFlow)
    (router : CameraRouter) : RoutePass :=
  match active with
  | some flow => profile.enabledCameras.foldl (releaseBuffered results flow) { router }
  | none => { router }

def routeCameraMaterialRound (profile : RoutingProfile) (results : List Row)
    (router : CameraRouter) : List Batch × CameraRouter :=
  let active := router.activeFlow
  let cleared := profile.enabledCameras.foldl (closeLocalGap results) router
  let released := releaseAll profile results active cleared
  let routed := results.foldl (routeRow profile active) released
  (routed.grouped.insertionSort batchOrder, routed.router)

/-! ## Closing flows -/

def CameraRouter.newestOpen (router : CameraRouter) : Option CameraMaterialFlow :=
  (router.flows.rows.filter fun flow => !flow.closed && !flow.closeRequested).foldl
    (fun newest flow =>
      match newest with
      | some best => if best.generation < flow.generation then some flow else some best
      | none => some flow) none

/-- The cameras that are in the flow or have not had it yet. -/
def CameraMaterialRouteState.unfinished (state : CameraMaterialRouteState)
    (flow : CameraMaterialFlow) : Bool :=
  state.ownerGeneration = some flow.generation || state.lastAssignedGeneration < flow.generation

def CameraMaterialRouteState.force (state : CameraMaterialRouteState) (flow : CameraMaterialFlow)
    (newestOpen : Option CameraMaterialFlow) : CameraMaterialRouteState :=
  if state.ownerGeneration = some flow.generation then
    match newestOpen.filter fun newest => flow.generation < newest.generation && state.localPresent with
    | some newest =>
      { state with
        ownerGeneration := some newest.generation
        lastAssignedGeneration := newest.generation }
    | none => { state with ownerGeneration := none }
  else if state.lastAssignedGeneration < flow.generation then
    { state with lastAssignedGeneration := flow.generation }
  else state

def forceClose (router : CameraRouter) (flow : CameraMaterialFlow)
    (newestOpen : Option CameraMaterialFlow) (unfinished : List String) : CameraRouter :=
  let missingEntry := (unfinished.filter fun cameraKey =>
    (router.routeStates cameraKey).lastAssignedGeneration < flow.generation).insertionSort (· ≤ ·)
  let forced := unfinished.dedup.insertionSort (· ≤ ·)
  let router :=
    { router with
      flows := router.flows.update flow.generation fun flow => { flow with forcedCameraKeys := forced }
      forcedClosures := router.forcedClosures + 1
      lastError := s!"flow {flow.materialId} camera boundary timeout: " ++ ",".intercalate forced
      missingSignals :=
        if missingEntry.isEmpty then router.missingSignals
        else router.missingSignals ++ [(flow.materialId, missingEntry)] }
  unfinished.foldl
    (fun router cameraKey => router.setState cameraKey fun state => state.force flow newestOpen)
    router

structure FinalizePass where
  router : CameraRouter
  ready : List Nat := []

def finalizeFlow (profile : RoutingProfile) (roundIndex : Nat)
    (newestOpen : Option CameraMaterialFlow) (pass : FinalizePass) (flow : CameraMaterialFlow) :
    FinalizePass :=
  if flow.closed || !flow.closeRequested then pass
  else
    let unfinished := profile.enabledCameras.filter fun cameraKey =>
      (pass.router.routeStates cameraKey).unfinished flow
    let elapsed := roundIndex - flow.closeRequestedRound
    if unfinished.isEmpty then { pass with ready := pass.ready ++ [flow.generation] }
    else if profile.closeTimeoutRounds ≤ elapsed then
      { router := forceClose pass.router flow newestOpen unfinished
        ready := pass.ready ++ [flow.generation] }
    else pass

/-- A flow with rounds still in the storage queue stays. -/
def closeReady (pending : String → Nat) (router : CameraRouter) (generation : Nat) : CameraRouter :=
  match router.flows.find? generation with
  | some flow =>
    if pending flow.materialId ≠ 0 || flow.closed then router
    else
      { router with
        flows := router.flows.deleteWhere fun flow => flow.generation = generation
        flowById :=
          if router.flowById flow.materialId = some generation then
            Function.update router.flowById flow.materialId none
          else router.flowById }
  | none => router

def finalizeCameraMaterialFlows (profile : RoutingProfile) (pending : String → Nat)
    (roundIndex : Nat) (router : CameraRouter) : CameraRouter :=
  let byGeneration := router.flows.rows.insertionSort fun first second =>
    first.generation ≤ second.generation
  let finished := byGeneration.foldl (finalizeFlow profile roundIndex router.newestOpen) { router }
  finished.ready.foldl (closeReady pending) finished.router

/-! ## The acquisition loop -/

/-- One round of `_acquisition_loop`: the reference camera's edges, the routing, the closing. -/
def acquisitionRound (profile : RoutingProfile) (events : List SteelEvent) (results : List Row)
    (pending : String → Nat) (router : CameraRouter) : List Batch × CameraRouter :=
  let started := { router with continuousRound := router.continuousRound + 1 }
  let numbered := events.foldl CameraRouter.steelEvent started
  let (batches, routed) := routeCameraMaterialRound profile results numbered
  (batches, finalizeCameraMaterialFlows profile pending numbered.continuousRound routed)

end SteelInspection.Capture
