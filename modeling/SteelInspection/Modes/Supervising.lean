import SteelInspection.Modes.Saving

/-! # The supervisor

`ServiceSupervisor`: what mode is configured, whether a transition holds the services back, and how
services are stopped and started.  The operations of the supervisor run under one lock, so they are
programs of one thread.  What depends on the processes themselves (probes, listeners, startup modes,
the backoff) comes from outside.
-/

namespace SteelInspection.Modes

open Foundations

def staleFenceMillis : Nat := 120000

/-! ## The marker -/

/-- A fence that is old and still describes the active profile is given up. -/
def recoverFence (config : Config) (profile : Profile) (marker : Marker) :
    Code (Option AcquisitionMode) := do
  if marker.profileSha256 = config.sha256 profile ∧ marker.acquisitionMode = profile.mode then
    let now : Nat ← ask .now
    if staleFenceMillis ≤ now - marker.updatedAt then
      let recoveredAt : Nat ← ask .now
      if ← ask (.replaceMarker
          { marker with state := .committed, recoveredAt := some recoveredAt }) then
        pure (some marker.acquisitionMode)
      else pure none
    else pure (some marker.acquisitionMode)
  else pure (some marker.acquisitionMode)

/-- A transition that is ready has the previous mode until it is released. -/
def releasedMode (marker : Marker) : Code (Option AcquisitionMode) :=
  match marker.previousAcquisitionMode, marker.releaseAfterMillis with
  | some previous, some release => do
    let now : Nat ← ask .now
    pure (some (if now < release then previous else marker.acquisitionMode))
  | _, _ => pure none

def republishProfile (config : Config) (profile staged : Profile) (marker : Marker) : Code Bool :=
  if config.sha256 profile = marker.profileSha256 then pure true else ask (.replaceProfile staged)

/-- A transition that was interrupted after its publish marker is completed from the staged
profile. -/
def completePublish (config : Config) (profile : Profile) (marker : Marker) :
    Code (Option AcquisitionMode) :=
  match marker.stagedProfile with
  | none => pure none
  | some path => do
    match (← ask (.readStaged path) : Option Profile) with
    | none => pure none
    | some staged =>
      if marker.profileSha256 = config.sha256 staged ∧ staged.mode = marker.acquisitionMode then
        if ← republishProfile config profile staged marker then
          match marker.previousAcquisitionMode with
          | none => pure none
          | some previous => do
            let release : Nat ← ask .now
            let updatedAt : Nat ← ask .now
            if ← ask (.replaceMarker { marker with
                state := .ready, releaseAfterMillis := some (release + releaseDelayMillis)
                updatedAt := updatedAt }) then
              let _ ← ask (.unstage path)
              pure (some previous)
            else pure none
        else pure none
      else pure none

/-- `configured_acquisition_mode`; `none` is an error. -/
def configuredAcquisitionMode (config : Config) : Code (Option AcquisitionMode) := do
  if ← ask .readProject then
    match (← ask .readProfile : Option Profile) with
    | none => pure none
    | some profile =>
      match (← ask (.readMarker .mode) : MarkerRead) with
      | .missing => pure (some profile.mode)
      | .failed => pure none
      | .found marker =>
        match marker.state with
        | .fence => recoverFence config profile marker
        | .committed =>
          if marker.profileSha256 = config.sha256 profile ∧ marker.acquisitionMode = profile.mode then
            pure (some marker.acquisitionMode)
          else pure none
        | .ready =>
          if marker.profileSha256 = config.sha256 profile ∧ marker.acquisitionMode = profile.mode then
            releasedMode marker
          else pure none
        | .publish => completePublish config profile marker
  else pure (some .online)

def runtimeModeTransitionHold : Code Bool := do
  match (← ask (.readMarker .hold) : MarkerRead) with
  | .missing | .failed => pure false
  | .found marker =>
    match marker.state with
    | .committed => pure false
    | .fence | .publish => pure true
    | .ready =>
      match marker.releaseAfterMillis with
      | none => pure true
      | some release => do
        let now : Nat ← ask .now
        pure (decide (now < release))

def promoteReleasedRuntimeMode (mode : AcquisitionMode) : Code Bool := do
  match (← ask (.readMarker .promotion) : MarkerRead) with
  | .missing => pure true
  | .failed => pure false
  | .found marker =>
    match marker.state, marker.releaseAfterMillis with
    | .committed, _ => pure true
    | .ready, some release =>
      if marker.acquisitionMode = mode then do
        let now : Nat ← ask .now
        if now < release then pure false
        else do
          let committedAt : Nat ← ask .now
          ask (.replaceMarker
            { marker with state := .committed, committedAt := some committedAt })
      else pure false
    | _, _ => pure false

/-! ## Stopping and starting -/

/-- The services with a process; the business API is stopped last. -/
def stopOrder (services : List Service) : List Service :=
  let managed := services.filter (·.hasProcess)
  managed.filter (·.id ≠ "inspection") ++ managed.filter (·.id = "inspection")

def stopServices : List Service → Bool → Code Bool
  | [], stopped => pure stopped
  | service :: services, stopped => do
    if ← ask (.observe service.id) then
      let ok : Bool ← ask (.stopProcess service.id true)
      stopServices services (stopped && ok)
    else stopServices services stopped

def applyAcquisitionMode (config : Config) (mode : AcquisitionMode) : Code Unit := do
  if ← stopServices (stopOrder config.services) true then
    if ← ask (.persistApplied mode) then
      let _ ← promoteReleasedRuntimeMode mode
      let memory : Memory ← ask .memory
      ask (.remember { memory with acquisitionMode := some mode })
    else pure ()
  else pure ()

def serviceEnabledForMode (service : Service) (mode : Option AcquisitionMode) : Bool :=
  service.enabledWhenModes.isEmpty || mode.any (· ∈ service.enabledWhenModes)

/-- `start_service`: the process is given the mode that the supervisor holds applied. -/
def startService (service : Service) : Code Unit := do
  let memory : Memory ← ask .memory
  if memory.hold then pure ()
  else if serviceEnabledForMode service memory.acquisitionMode then do
    if ← ask (.startable service.id) then
      let _ ← ask (.spawnProcess service.id memory.acquisitionMode)
      pure ()
    else pure ()
  else pure ()

def stopService (service : Service) : Code Bool := ask (.stopProcess service.id false)

def reconcileService (service : Service) : Code Unit := do
  let memory : Memory ← ask .memory
  if serviceEnabledForMode service memory.acquisitionMode then
    if ← ask (.wantsStart service.id) then
      if memory.hold then pure () else startService service
    else pure ()
  else if ← ask (.observe service.id) then
    let _ ← stopService service
    pure ()
  else pure ()

def reconcileServices : List Service → Code Unit
  | [] => pure ()
  | service :: services => do
    reconcileService service
    reconcileServices services

/-- What `reconcile` makes of the mode it has found. -/
def adoptMode (config : Config) (hold : Bool) (configured : Option AcquisitionMode) : Code Unit := do
  let memory : Memory ← ask .memory
  match configured with
  | none => ask (.remember { memory with hold := true, found := none })
  | some mode => do
    let _ ← ask (.remember { memory with hold, found := some mode })
    if memory.acquisitionMode = some mode then pure () else applyAcquisitionMode config mode

def reconcile (config : Config) : Code Unit := do
  let hold ← runtimeModeTransitionHold
  let configured ← configuredAcquisitionMode config
  adoptMode config hold configured
  reconcileServices config.services

def restartService (service : Service) : Code Unit := do
  if ← stopService service then startService service else pure ()

/-- The part of `set_startup_mode` that acts on the processes. -/
def setStartupMode (service : Service) (disabled : Bool) : Code Unit := do
  if disabled then
    let _ ← stopService service
    pure ()
  else
    let memory : Memory ← ask .memory
    if serviceEnabledForMode service memory.acquisitionMode then
      if ← ask (.wantsStart service.id) then startService service else pure ()
    else pure ()

/-- `runtime_mode_transition_hold` is not asked after an error. -/
def holdAtLoad (configured : Option AcquisitionMode) : Code Bool :=
  match configured with
  | none => pure true
  | some _ => runtimeModeTransitionHold

/-- `try_load`. -/
def loadSupervisor (config : Config) : Code Unit := do
  let applied : Option AcquisitionMode ← ask .readApplied
  let configured ← configuredAcquisitionMode config
  let hold ← holdAtLoad configured
  ask (.remember { acquisitionMode := applied, hold := hold, found := none })

/-! ## The system -/

inductive Handler (config : Config) : Thread → Code Unit → Prop where
  | save (id : SaveId) (actor : String) (candidate : Option Profile) :
    Handler config (.save id) (saveRequest config id actor candidate)
  | boot (expected : Option AcquisitionMode) : Handler config .boot (bootService config expected)
  | load (run : Nat) : Handler config (.supervisor run) (loadSupervisor config)
  | reconcile (run : Nat) : Handler config (.supervisor run) (reconcile config)
  | start (run : Nat) {service : Service} (registered : service ∈ config.services) :
    Handler config (.supervisor run) (startService service)
  | stop (run : Nat) {service : Service} (registered : service ∈ config.services) :
    Handler config (.supervisor run) (do let _ ← stopService service; pure ())
  | restart (run : Nat) {service : Service} (registered : service ∈ config.services) :
    Handler config (.supervisor run) (restartService service)
  | startupMode (run : Nat) (disabled : Bool) {service : Service}
    (registered : service ∈ config.services) :
    Handler config (.supervisor run) (setStartupMode service disabled)
  | crashService : Handler config .world (ask .crashService)
  | crashSupervisor : Handler config .world (ask .crashSupervisor)
  | pass (millis : Nat) : Handler config .world (ask (.pass millis))

/-- Nothing has happened yet; the marker, if there is one, is that of a committed mode. -/
structure Initial (shared : Shared) : Prop where
  marker : ∀ marker, shared.marker = some marker → marker.state = .committed
  revisions : shared.revisions = []
  running : shared.running = false
  inFlight : shared.inFlight = []
  memory : shared.memory = {}
  phase : shared.phase = fun _ => .outside
  answers : shared.answers = []
  fenced : shared.fenced = fun _ => none
  releases : shared.releases = []
  spawned : shared.spawned = []

def modeRules (config : Config) : Rules Shared Thread Env Call Call.Reply Unit where
  semantics := semantics
  handler := Handler config
  undisturbed _ _ _ := True
  initial := Initial

abbrev Schedule := List (Action Thread Env Call Call.Reply Unit)

def turns (thread : Thread) (count : Nat) : Schedule := List.replicate count (.advance thread {})

/-! ## A first state -/

def plainConfig : Config where
  sha256 := Profile.settings
  configHash := Profile.settings
  services := []

def offlineProfile : Profile := ⟨.offline, "offline"⟩

def freshShared : Shared where
  profile := offlineProfile
  marker := none
  revisions := []
  running := false
  serviceRun := 0
  accepting := true
  inFlight := []
  phase _ := .outside
  answers := []
  fenced _ := none
  releases := []
  staged _ := none
  clock := 1000000
  runtimeConfig := offlineProfile
  applied := none
  supervisorRun := 0
  memory := {}
  seen := none
  fresh := false
  spawned := []

theorem freshShared_initial : Initial freshShared where
  marker _ impossible := by cases impossible
  revisions := rfl
  running := rfl
  inFlight := rfl
  memory := rfl
  phase := rfl
  answers := rfl
  fenced := rfl
  releases := rfl
  spawned := rfl

end SteelInspection.Modes
