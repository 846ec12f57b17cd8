import SteelInspection.Foundations.Interleaving
import Mathlib.Logic.Function.Basic

/-! # The runtime mode and its files

The business service and the supervisor share the active runtime profile, the marker file
`runtime-mode-commit.json` and the staged profiles.  A call is one replacement or one read of a file,
one database transaction, or one section under the admission lock; a call of a process that has
crashed never comes back.

`validate_candidate` writes the acquisition mode into every profile it accepts, so the mode of a
profile is part of it here, and both programs read the same one.
-/

namespace SteelInspection.Modes

open Foundations

inductive AcquisitionMode where
  | online
  | offline
  | simulation
  deriving DecidableEq, Repr

structure Profile where
  mode : AcquisitionMode
  settings : String
  deriving DecidableEq, Repr

structure Service where
  id : String
  enabledWhenModes : List AcquisitionMode
  hasProcess : Bool
  deriving DecidableEq, Repr

structure Config where
  sha256 : Profile → String
  /-- The hash over the project, the profile and the files it names. -/
  configHash : Profile → String
  services : List Service

/-- A save request: the run of the service it belongs to, and its number. -/
structure SaveId where
  serviceRun : Nat
  request : Nat
  deriving DecidableEq, Repr

inductive MarkerState where
  | fence
  | publish
  | ready
  | committed
  deriving DecidableEq, Repr

structure Marker where
  state : MarkerState
  acquisitionMode : AcquisitionMode
  configHash : String
  profileSha256 : String
  actor : String
  updatedAt : Nat
  previousAcquisitionMode : Option AcquisitionMode := none
  targetAcquisitionMode : Option AcquisitionMode := none
  transitionId : Option String := none
  releaseAfterMillis : Option Nat := none
  stagedProfile : Option String := none
  recoveredAt : Option Nat := none
  committedAt : Option Nat := none
  /-- The save that has written the marker or the one this is a copy of; not in the file. -/
  owner : SaveId
  deriving DecidableEq, Repr

/-- The answer to a save, without the texts of system errors and the hashes. -/
structure Response where
  status : Nat
  error : Option String := none
  saved : Option Bool := none
  modeTransitionState : Option String := none
  recoveryRequired : Option Bool := none
  commitRestored : Option Bool := none
  admissionRestored : Option Bool := none
  rollbackRestarted : Option Bool := none
  rollbackSaved : Option Bool := none
  metadataRolledBack : Option Bool := none
  transitionId : Option String := none
  releaseAfterMillis : Option Nat := none
  deriving DecidableEq, Repr

/-- What the supervisor keeps in memory; `none` is the mode `unknown`.  `found` is the mode it has
found configured since it last asked whether a transition holds. -/
structure Memory where
  acquisitionMode : Option AcquisitionMode := none
  hold : Bool := true
  found : Option AcquisitionMode := none
  deriving DecidableEq, Repr

/-- How far a save has come: `changing` is one that was admitted and is not to keep the mode, `kept`
one that keeps it and has stored its revision, `staged` one that changes it, `reopened` one that has
given up its transition. -/
inductive Phase where
  | outside
  | inside
  | changing
  | kept
  | staged
  | closed
  | fenced
  | drained
  | stored
  | published
  | reopened
  | left
  deriving DecidableEq, Repr

/-- A fence that has been replaced by a committed marker with its mode: whose it was, and whether the
database held the revision of that save and the caller had been told that it was saved. -/
structure Release where
  owner : SaveId
  stored : Bool
  saved : Bool
  deriving DecidableEq, Repr

/-- A process that was started: the mode it was given, and that of the active profile then. -/
structure Spawn where
  service : String
  passed : Option AcquisitionMode
  active : AcquisitionMode
  deriving DecidableEq, Repr

/-- The part of the state that saves work on, with what they have done. -/
structure Journal where
  profile : Profile
  marker : Option Marker
  revisions : List SaveId
  running : Bool
  serviceRun : Nat
  accepting : Bool
  inFlight : List SaveId
  phase : SaveId → Phase
  answers : List (SaveId × Response)
  /-- For a save whose fence stands: the marker it wrote, and the active profile at that moment. -/
  fenced : SaveId → Option (Marker × Profile)
  releases : List Release

structure Shared extends Journal where
  staged : String → Option Profile
  clock : Nat
  /-- `runtime_config`: the profile the service has started with. -/
  runtimeConfig : Profile
  -- the supervisor
  applied : Option AcquisitionMode
  supervisorRun : Nat
  memory : Memory
  /-- The marker the supervisor has read last. -/
  seen : Option Marker
  /-- Since the supervisor last asked whether a transition holds, it has failed neither to read the
  marker for that or the project file, nor to stop the services for a new mode, nor to record that
  mode; no profile has been replaced, and only the supervisor has replaced the marker. -/
  fresh : Bool
  spawned : List Spawn

inductive Purpose where
  | startup
  | hold
  | mode
  | promotion
  deriving DecidableEq, Repr

inductive Call where
  | readProfile
  | readMarker (purpose : Purpose)
  | readStaged (path : String)
  | replaceProfile (profile : Profile)
  | replaceMarker (marker : Marker)
  | stage (path : String) (profile : Profile)
  | unstage (path : String)
  | now
  -- a save
  | enter (candidate : Option Profile)
  | leave
  | respond (response : Response)
  | runtimeConfig
  | closeAdmission
  | openAdmission
  | captureIsActive
  | stopCapture
  | startCapture
  | drain
  | appendRevision
  | rollbackRevision
  -- the start of the service
  | serve (profile : Profile)
  -- the supervisor
  | readProject
  | readApplied
  | persistApplied (mode : AcquisitionMode)
  | memory
  | remember (memory : Memory)
  | observe (service : String)
  | stopProcess (service : String) (forMode : Bool)
  | wantsStart (service : String)
  /-- The checks of `start_service` on the startup mode, the probe and the command. -/
  | startable (service : String)
  | spawnProcess (service : String) (mode : Option AcquisitionMode)
  -- the world
  | crashService
  | crashSupervisor
  | pass (millis : Nat)

inductive MarkerRead where
  | missing
  | failed
  | found (marker : Marker)

inductive MetadataError where
  | revision
  | audit
  | commit
  deriving DecidableEq, Repr

inductive Appended where
  | stored
  | failed (error : MetadataError)

abbrev Call.Reply : Call → Type
  | .readProfile | .readStaged _ => Option Profile
  | .readMarker _ => MarkerRead
  | .now => Nat
  | .runtimeConfig => Profile
  | .appendRevision => Appended
  | .readApplied => Option AcquisitionMode
  | .memory => Memory
  | .replaceProfile _ | .replaceMarker _ | .stage _ _ | .enter _ | .closeAdmission | .openAdmission
  | .captureIsActive | .stopCapture | .startCapture | .drain | .rollbackRevision | .readProject
  | .persistApplied _ | .observe _ | .stopProcess _ _ | .wantsStart _ | .startable _
  | .spawnProcess _ _ => Bool
  | .unstage _ | .leave | .respond _ | .serve _ | .remember _ | .crashService | .crashSupervisor
  | .pass _ => Unit

structure Env where
  fault : Bool := false
  /-- A transaction that is reported as failed has been committed. -/
  lost : Bool := false
  metadataError : MetadataError := .commit
  /-- What a probe or a decision comes to. -/
  choice : Bool := true

inductive Thread where
  | save (id : SaveId)
  | boot
  | supervisor (run : Nat)
  | world
  deriving DecidableEq, Repr

def Thread.save? : Thread → Option SaveId
  | .save id => some id
  | _ => none

def Thread.supervises : Thread → Bool
  | .supervisor _ => true
  | _ => false

def Shared.alive (shared : Shared) : Thread → Bool
  | .save id => shared.running && shared.serviceRun = id.serviceRun
  | .supervisor run => shared.supervisorRun = run
  | .boot | .world => true

/-! ## Calls -/

/-- The phase of a save that is admitted: without a valid profile it does not write either. -/
def Phase.admitted (candidate : Option Profile) (runtimeConfig : Profile) : Phase :=
  if candidate.any (·.mode = runtimeConfig.mode) then .inside else .changing

/-- What storing its revision makes of the phase of a save. -/
def Phase.afterAppend : Phase → Phase
  | .inside => .kept
  | .drained => .stored
  | phase => phase

/-- What a marker of its own makes of the phase of a save. -/
def Phase.afterMarker (phase : Phase) : MarkerState → Phase
  | .fence => .fenced
  | .publish => .published
  | .ready | .committed => phase

namespace Journal

variable (journal : Journal)

def released (marker : Marker) : List Release :=
  match journal.marker with
  | none => []
  | some before =>
    if before.state = .fence ∧ marker.state = .committed ∧
        marker.acquisitionMode = before.acquisitionMode then
      [⟨before.owner, decide (before.owner ∈ journal.revisions),
        journal.answers.any fun answer => answer.1 = before.owner ∧ answer.2.saved = some true⟩]
    else []

def setPhase (save : SaveId) (phase : Phase) : Journal :=
  { journal with phase := Function.update journal.phase save phase }

def writeMarker (writer : Option SaveId) (marker : Marker) : Journal :=
  { journal with
    marker := some marker
    releases := journal.released marker ++ journal.releases
    phase := match writer with
      | none => journal.phase
      | some save =>
        Function.update journal.phase save ((journal.phase save).afterMarker marker.state)
    fenced := match writer with
      | none => journal.fenced
      | some save => Function.update journal.fenced save
        (if marker.state = .fence then some (marker, journal.profile) else none) }

def enter (save : SaveId) (phase : Phase) : Journal :=
  { journal with inFlight := save :: journal.inFlight }.setPhase save phase

def leave (save : SaveId) : Journal :=
  { journal with inFlight := journal.inFlight.filter (· ≠ save) }.setPhase save .left

def append (save : SaveId) : Journal :=
  { journal with revisions := save :: journal.revisions }.setPhase save
    (journal.phase save).afterAppend

def undo (save : SaveId) : Journal :=
  { journal with revisions := journal.revisions.filter (· ≠ save) }.setPhase save .drained

def serve : Journal :=
  { journal with
    running := true, serviceRun := journal.serviceRun + 1, accepting := true, inFlight := [] }

def crash : Journal := { journal with running := false, inFlight := [] }

end Journal

def execute (thread : Thread) (env : Env) (request : Call) (shared : Shared) :
    Option (request.Reply × Shared) :=
  let journal := shared.toJournal
  match request with
  | .readProfile => some (if env.fault then none else some shared.profile, shared)
  | .readMarker purpose =>
    let read : MarkerRead := if env.fault then .failed
      else match shared.marker with
        | none => .missing
        | some marker => .found marker
    let seen := if env.fault then shared.seen else shared.marker
    match purpose, thread with
    | .startup, _ => some (read, shared)
    | .hold, .supervisor _ =>
      some (read, { shared with
        seen, fresh := !env.fault, memory := { shared.memory with found := none } })
    | .mode, .supervisor _ | .promotion, .supervisor _ => some (read, { shared with seen })
    | _, _ => none
  | .readStaged path => some (if env.fault then none else shared.staged path, shared)
  | .replaceProfile profile =>
    if env.fault then some (false, shared) else some (true, { shared with profile, fresh := false })
  | .replaceMarker marker =>
    if env.fault then some (false, shared)
    else some (true, { shared with
      toJournal := journal.writeMarker thread.save? marker
      fresh := shared.fresh && thread.supervises })
  | .stage path profile =>
    match thread with
    | .save id =>
      if env.fault then some (false, shared)
      else some (true, { shared with
        toJournal := journal.setPhase id .staged
        staged := Function.update shared.staged path (some profile) })
    | _ => none
  | .unstage path => some ((), { shared with staged := Function.update shared.staged path none })
  | .now => some (shared.clock, shared)
  | .enter candidate =>
    match thread with
    | .save id =>
      if shared.phase id ≠ .outside then none
      else if shared.accepting then
        some (true, { shared with
          toJournal := journal.enter id (.admitted candidate shared.runtimeConfig) })
      else some (false, shared)
    | _ => none
  | .leave =>
    match thread with
    | .save id => some ((), { shared with toJournal := journal.leave id })
    | _ => none
  | .respond response =>
    match thread with
    | .save id => some ((), { shared with answers := (id, response) :: shared.answers })
    | _ => none
  | .runtimeConfig => some (shared.runtimeConfig, shared)
  | .closeAdmission =>
    match thread with
    | .save id =>
      if shared.accepting then
        some (true, { shared with
          toJournal := { journal with accepting := false }.setPhase id .closed })
      else some (false, shared)
    | _ => none
  | .openAdmission =>
    match thread with
    | .save id =>
      some (true, { shared with
        toJournal := { journal with accepting := true }.setPhase id .reopened })
    | _ => none
  | .captureIsActive => some (env.choice, shared)
  | .stopCapture | .startCapture => some (!env.fault, shared)
  -- only the save itself is in flight when the wait ends; otherwise it times out
  | .drain =>
    match thread with
    | .save id =>
      if env.fault then some (false, shared)
      else if shared.inFlight.length ≤ 1 then
        some (true, { shared with toJournal := journal.setPhase id .drained })
      else none
    | _ => none
  | .appendRevision =>
    match thread with
    | .save id =>
      let stored := { shared with toJournal := journal.append id }
      if !env.fault then some (.stored, stored)
      else if env.lost && env.metadataError = .commit then some (.failed .commit, stored)
      else some (.failed env.metadataError, shared)
    | _ => none
  | .rollbackRevision =>
    match thread with
    | .save id =>
      let undone := { shared with toJournal := journal.undo id }
      if !env.fault then some (true, undone)
      else some (false, if env.lost then undone else shared)
    | _ => none
  | .serve profile =>
    if shared.running then none
    else some ((), { shared with toJournal := journal.serve, runtimeConfig := profile })
  | .readProject => some (!env.fault, { shared with fresh := shared.fresh && !env.fault })
  | .readApplied => some (if env.fault then none else shared.applied, shared)
  | .persistApplied mode =>
    if env.fault then some (false, { shared with fresh := false })
    else some (true, { shared with applied := some mode })
  | .memory => some (shared.memory, shared)
  | .remember memory => if thread.supervises then some ((), { shared with memory }) else none
  | .observe _ | .wantsStart _ | .startable _ => some (env.choice, shared)
  | .stopProcess _ forMode =>
    some (!env.fault, { shared with fresh := shared.fresh && !(env.fault && forMode) })
  | .spawnProcess service mode =>
    if !thread.supervises then none
    else if env.fault then some (false, shared)
    else some (true, { shared with
      spawned := ⟨service, mode, shared.profile.mode⟩ :: shared.spawned })
  | .crashService =>
    if shared.running then some ((), { shared with toJournal := journal.crash }) else none
  | .crashSupervisor =>
    match thread with
    | .world => some ((), { shared with supervisorRun := shared.supervisorRun + 1, memory := {} })
    | _ => none
  | .pass millis => some ((), { shared with clock := shared.clock + millis })

def semantics : Semantics Shared Thread Env Call Call.Reply := fun thread env request shared =>
  if shared.alive thread then execute thread env request shared else none

theorem execute_of_semantics {thread : Thread} {env : Env} {request : Call} {shared after : Shared}
    {reply : request.Reply} (ran : semantics thread env request shared = some (reply, after)) :
    shared.alive thread = true ∧ execute thread env request shared = some (reply, after) := by
  unfold semantics at ran
  split at ran
  next alive =>
    exact ⟨alive, ran⟩
  · cases ran

abbrev Code := Program Call Call.Reply

abbrev ask (request : Call) : Code request.Reply := Program.ask request

end SteelInspection.Modes
