import SteelInspection.Modes.Files

/-! # Saving a runtime profile

`save_admin_runtime_profile_response` with the admission guard of the request around it, and the start
of the service.  The two branches of the handler, a save that keeps the acquisition mode and one that
changes it, are two programs.
-/

namespace SteelInspection.Modes

open Foundations

/-- The arguments of `publish_runtime_mode_commit` that differ from call to call. -/
structure CommitFields where
  state : MarkerState
  mode : AcquisitionMode
  configHash : String
  previous : Option AcquisitionMode := none
  target : Option AcquisitionMode := none
  transitionId : Option String := none
  releaseAfterMillis : Option Nat := none
  profileSha256Override : Option String := none
  staged : Option String := none

def CommitFields.marker (fields : CommitFields) (config : Config) (save : SaveId) (actor : String)
    (active : Profile) (updatedAt : Nat) : Marker where
  state := fields.state
  acquisitionMode := fields.mode
  configHash := fields.configHash
  profileSha256 := fields.profileSha256Override.getD (config.sha256 active)
  actor := actor
  updatedAt := updatedAt
  previousAcquisitionMode := fields.previous
  targetAcquisitionMode := fields.target
  transitionId := fields.transitionId
  releaseAfterMillis := fields.releaseAfterMillis
  stagedProfile := fields.staged
  owner := save

def publishRuntimeModeCommit (config : Config) (save : SaveId) (actor : String)
    (fields : CommitFields) : Code Bool := do
  match (← ask .readProfile : Option Profile) with
  | none => pure false
  | some active =>
    let updatedAt : Nat ← ask .now
    ask (.replaceMarker (fields.marker config save actor active updatedAt))

def restoreActiveRuntimeModeCommit (config : Config) (save : SaveId) (actor : String)
    (active : Profile) : Code Bool :=
  publishRuntimeModeCommit config save actor
    { state := .committed, mode := active.mode, configHash := config.configHash active }

def MetadataError.code : MetadataError → String
  | .revision => "runtime_profile_revision_failed"
  | .audit => "runtime_profile_audit_failed"
  | .commit => "runtime_profile_metadata_commit_failed"

/-! ## A save that keeps the mode -/

def saveSameMode (config : Config) (save : SaveId) (actor : String) (profile : Profile) :
    Code Response := do
  match (← ask .readProfile : Option Profile) with
  | none =>
    pure { status := 500, error := some "runtime_profile_read_failed", commitRestored := some true,
           admissionRestored := some true, rollbackRestarted := some false }
  | some previous =>
    if ← ask (.replaceProfile profile) then
      match (← ask .appendRevision : Appended) with
      | .failed error =>
        let rollbackSaved : Bool ← ask (.replaceProfile previous)
        pure { status := 500, error := some error.code, rollbackSaved := some rollbackSaved,
               commitRestored := some true, admissionRestored := some true,
               rollbackRestarted := some false }
      | .stored =>
        if ← publishRuntimeModeCommit config save actor
            { state := .committed, mode := profile.mode, configHash := config.configHash profile } then
          pure { status := 200, saved := some true, modeTransitionState := some "committed",
                 recoveryRequired := some false }
        else
          pure { status := 500, error := some "runtime_mode_commit_publish_failed",
                 saved := some false, recoveryRequired := some false,
                 modeTransitionState := some "runtime_mode_commit_publish_failed" }
    else pure { status := 500, error := some "runtime_profile_save_failed" }

/-! ## A save that changes the mode -/

def releaseDelayMillis : Nat := 5000

/-- What the steps of a transition share. -/
structure Transition where
  config : Config
  save : SaveId
  actor : String
  active : Profile
  profile : Profile
  id : String

def Transition.path (transition : Transition) : String :=
  "config/runtime-mode-staging/" ++ transition.id ++ ".json"

namespace Transition

variable (transition : Transition)

def publishStep (state : MarkerState) (owner : Profile) (releaseAfterMillis : Option Nat)
    (profileSha256Override : Option String) : Code Bool :=
  publishRuntimeModeCommit transition.config transition.save transition.actor
    { state, mode := owner.mode, configHash := transition.config.configHash owner
      previous := some transition.active.mode, target := some transition.profile.mode
      transitionId := some transition.id, releaseAfterMillis, profileSha256Override
      staged := some transition.path }

def captureWasActive : Code Bool :=
  if transition.active.mode = .offline then pure false else ask .captureIsActive

def restart (captureWasActive : Bool) : Code Bool :=
  if captureWasActive then ask .startCapture else pure false

/-- A failure while the fence stands: the old marker and the admission are restored. -/
def rollBack (captureWasActive : Bool) (status : Nat) (error : String) : Code Response := do
  let commitRestored ← restoreActiveRuntimeModeCommit transition.config transition.save
    transition.actor transition.active
  let admissionRestored : Bool ← ask .openAdmission
  let rollbackRestarted ← restart captureWasActive
  pure { status, error := some error, commitRestored := some commitRestored,
         admissionRestored := some admissionRestored, rollbackRestarted := some rollbackRestarted }

/-- An answer that says that the profile is saved and its transition has to be recovered. -/
def recovery (state : String) : Response :=
  { status := 202, saved := some true, modeTransitionState := some state
    recoveryRequired := some true, transitionId := some transition.id }

/-- The steps from the publish marker on; the flag says that the staged profile is kept. -/
def finish (captureWasActive : Bool) : Code (Response × Bool) := do
  if ← transition.publishStep .publish transition.profile none
      (some (transition.config.sha256 transition.profile)) then
    if ← ask (.replaceProfile transition.profile) then
      let now : Nat ← ask .now
      if ← transition.publishStep .ready transition.profile (some (now + releaseDelayMillis)) none then
        pure ({ status := 202, saved := some true, modeTransitionState := some "ready"
                recoveryRequired := some false, transitionId := some transition.id
                releaseAfterMillis := some (now + releaseDelayMillis) }, false)
      else pure (transition.recovery "ready-pending-recovery", true)
    else pure (transition.recovery "publish-pending-recovery", true)
  else if ← ask .rollbackRevision then
    let response ← transition.rollBack captureWasActive 500
      "runtime_mode_transition_publish_journal_failed"
    pure ({ response with metadataRolledBack := some true }, false)
  else pure (transition.recovery "metadata-committed-recovery-required", true)

/-- The steps from the fence to the revision. -/
def store (captureWasActive : Bool) : Code (Response × Bool) := do
  if ← ask .stopCapture then
    if ← ask .drain then
      match (← ask .readProfile : Option Profile) with
      | none => return (← transition.rollBack captureWasActive 500 "runtime_profile_read_failed", false)
      | some _ =>
        match (← ask .appendRevision : Appended) with
        | .failed error =>
          let response ← transition.rollBack captureWasActive 500 error.code
          pure ({ response with rollbackSaved := some true }, false)
        | .stored => transition.finish captureWasActive
    else
      return (← transition.rollBack captureWasActive 409
        "runtime_mode_transition_processing_drain_failed", false)
  else
    return (← transition.rollBack captureWasActive 409
      "runtime_mode_transition_capture_stop_failed", false)

def run (captureWasActive : Bool) : Code (Response × Bool) := do
  if ← ask .closeAdmission then
    if ← transition.publishStep .fence transition.active none none then
      transition.store captureWasActive
    else
      let admissionRestored : Bool ← ask .openAdmission
      pure ({ status := 500, error := some "runtime_mode_transition_fence_failed"
              admissionRestored := some admissionRestored }, false)
  else
    pure ({ status := 409, error := some "runtime_mode_transition_already_active" }, false)

end Transition

def transitionId (config : Config) (millis : Nat) (profile : Profile) : String :=
  "mode-" ++ toString millis ++ "-" ++ ((config.configHash profile).take 12).toString

def changeMode (config : Config) (save : SaveId) (actor : String) (active profile : Profile) :
    Code Response := do
  let millis : Nat ← ask .now
  let transition : Transition := ⟨config, save, actor, active, profile, transitionId config millis profile⟩
  if ← ask (.stage transition.path profile) then
    let captureWasActive ← transition.captureWasActive
    let outcome ← transition.run captureWasActive
    if outcome.2 then pure outcome.1
    else do
      let _ ← ask (.unstage transition.path)
      pure outcome.1
  else pure { status := 500, error := some "runtime_mode_transition_stage_failed" }

/-! ## The request -/

/-- `save_admin_runtime_profile_response`; `candidate` is what the validation of the body comes to. -/
def saveAdminRuntimeProfile (config : Config) (save : SaveId) (actor : String)
    (candidate : Option Profile) : Code Response :=
  match candidate with
  | none => pure { status := 400, error := some "runtime_profile_invalid" }
  | some profile => do
    let active : Profile ← ask .runtimeConfig
    if profile.mode = active.mode then saveSameMode config save actor profile
    else changeMode config save actor active profile

/-- The request: `enter_runtime_admission`, the handler, the answer, and the end of the guard. -/
def saveRequest (config : Config) (save : SaveId) (actor : String) (candidate : Option Profile) :
    Code Unit := do
  if ← ask (.enter candidate) then
    let response ← saveAdminRuntimeProfile config save actor candidate
    let _ ← ask (.respond response)
    let _ ← ask .leave
    pure ()
  else
    let _ ← ask (.respond { status := 503, error := some "runtime_draining" })
    pure ()

/-! ## The start of the service -/

/-- `validate_runtime_mode_commit_for_startup`; `expected` is `STEEL_ACQUISITION_MODE`. -/
def validateRuntimeModeCommitForStartup (config : Config) (loaded : Profile)
    (expected : Option AcquisitionMode) : Code Bool := do
  match (← ask (.readMarker .startup) : MarkerRead) with
  | .missing => pure true
  | .failed => pure false
  | .found marker =>
    match (← ask .readProfile : Option Profile) with
    | none => pure false
    | some active =>
      if marker.acquisitionMode = loaded.mode ∧ marker.profileSha256 = config.sha256 active then
        match marker.state with
        | .committed | .fence => pure (expected.all (· = loaded.mode))
        | .ready =>
          match marker.releaseAfterMillis with
          | none => pure false
          | some release => do
            let now : Nat ← ask .now
            pure (!decide (now < release) && expected.all (· = loaded.mode))
        | .publish => pure false
      else pure false

def bootService (config : Config) (expected : Option AcquisitionMode) : Code Unit := do
  match (← ask .readProfile : Option Profile) with
  | none => pure ()
  | some loaded =>
    if ← validateRuntimeModeCommitForStartup config loaded expected then
      let _ ← ask (.serve loaded)
      pure ()
    else pure ()

end SteelInspection.Modes
