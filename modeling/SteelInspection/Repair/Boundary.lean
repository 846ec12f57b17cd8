import Mathlib.Data.List.Sort
import SteelInspection.Foundations.FileTree
import SteelInspection.Foundations.Sequential
import SteelInspection.Foundations.Text

/-! # The boundary repair

`repair_sick_flow_boundaries.py --apply`: flow numbers are reserved in the database, the target
directories are checked and filled, the database is finalized, and an error in between is answered
by a cleanup that removes the directories of the reserved numbers.

The detection of the segments is not part of the model; a run starts with the list of segments.
The texts of the files the repair writes are given from outside, and so is, for every operation,
whether it raises.
-/

namespace SteelInspection.Repair

open Foundations

/-! ## Paths and inputs -/

/-- The name of a file or directory; a flow directory is named by its number. -/
inductive Name where
  | flow (number : Nat)
  | named (text : String)
  deriving DecidableEq, Repr

abbrev Path := List Name

abbrev Disk := FileTree Name String

structure Camera where
  cameraId : String
  storageRoot : Path
  deriving DecidableEq

structure Profile where
  storageRoot : Path
  enabledCameras : List Camera

structure Frame where
  cameraId : String
  depthPath : Path
  intensityPath : Path
  metadataPath : Path
  deriving DecidableEq

structure Event where
  captureRound : Nat
  frames : List Frame

structure BoundarySegment where
  ordinal : Nat
  startRound : Nat
  endRound : Nat
  deriving DecidableEq, Repr

/-- A row of `steel_flow`; `repairNumbers` is what `boundaryRepair.newFlowNos` says in its payload. -/
structure FlowRow where
  flowNo : Nat
  status : String
  repairNumbers : Option (List Nat)
  deriving DecidableEq, Repr

structure Database where
  flows : List FlowRow
  /-- There are a `material_session` and a `production_inspection` row of the source flow. -/
  sourceComplete : Bool

inductive RepairError where
  | value (message : String)
  | fileExists
  | fileNotFound
  | runtime (message : String)
  /-- Any other exception an operation raises. -/
  | raised
  deriving DecidableEq, Repr

/-! ## Operations -/

inductive Call where
  | acquireLock
  | releaseLock
  | completedRepair
  | backupDatabase
  | reserve
  | exists_ (path : Path)
  | isFile (path : Path)
  | readFile (path : Path)
  /-- `shutil.copy2` into a directory that is made for it. -/
  | copyFile (source target : Path)
  /-- `_hardlink`. -/
  | hardlink (source target : Path)
  /-- `atomic_summary`. -/
  | write (path : Path)
  | unlink (path : Path)
  | finalize (numbers : List Nat)
  | cleanupDatabase (numbers : List Nat)
  /-- One round of the removal loop of `cleanup_staging`. -/
  | removeTree (path : Path)

abbrev Call.Reply : Call → Type
  | .completedRepair => Except RepairError (Option (List Nat))
  | .reserve => Except RepairError (List Nat)
  | .exists_ _ | .isFile _ => Except RepairError Bool
  | _ => Except RepairError Unit

/-- What happens to an operation besides its own errors: it raises before or after its effect, or,
if it removes a directory, when some of it is left. -/
inductive Trouble where
  | works
  | raises
  | raisesAfter
  | raisesLeaving (left : Path → Bool)

/-- The arguments of `main` after the detection, the archive and the database it finds, and what
the operations meet. -/
structure Setup where
  profile : Profile
  sourceFlow : Nat
  segments : List BoundarySegment
  events : List Event
  expectedSegments : Option Nat
  apply : Bool
  publishHandoff : Bool
  stamp : String
  archive : Disk
  database : Database
  trouble : Call → Trouble
  /-- The text of a file the repair writes. -/
  text : Path → String
  /-- The closed flow has a complete committed round. -/
  hasCompleteRound : Nat → Bool
  /-- The playback catalog lists the source flow. -/
  catalogListsSource : Bool
  wellFormed : archive.WellFormed

/-- What the run changes, with the directories `cleanup_staging` has removed. -/
structure World where
  disk : Disk
  database : Database
  removed : List Path

def Setup.start (setup : Setup) : World := ⟨setup.archive, setup.database, []⟩

def flowRoot (root : Path) (number : Nat) : Path := root ++ [.flow number]

namespace Setup

variable (setup : Setup)

def repairRoot : Path :=
  setup.profile.storageRoot ++
    [.named "system", .named "repairs", .named "capture-boundaries", .flow setup.sourceFlow]

def lockPath : Path := setup.repairRoot ++ [.named "repair.lock"]

def reportPath : Path := setup.repairRoot ++ [.named "report.json"]

def backupPath : Path :=
  setup.repairRoot ++
    [.named ("steel-inspection-before-" ++ toString setup.sourceFlow ++ "-" ++ setup.stamp ++ ".sqlite")]

def manifestBackupPath : Path := setup.repairRoot ++ [.named "source-flow.before-supersede.json"]

def sourceManifestPath : Path :=
  flowRoot setup.profile.storageRoot setup.sourceFlow ++ [.named "flow.json"]

def catalogPath : Path := setup.profile.storageRoot ++ [.named "catalog.json"]

def catalogLockPath : Path :=
  setup.profile.storageRoot ++ [.named "system", .named "locks", .named "playback-catalog.lock"]

def handoffPath : Path :=
  setup.profile.storageRoot ++ [.named "system", .named "capture", .named "latest-flows.json"]

def sourceEventRoot : Path :=
  flowRoot setup.profile.storageRoot setup.sourceFlow ++ [.named "events", .named "frame-committed"]

end Setup

/-- An operation with its outcome and effect, unless it meets trouble. -/
def troubled {β : Type} (trouble : Trouble) (reply : Except RepairError β) (world after : World) :
    Except RepairError β × World :=
  match trouble with
  | .works => (reply, after)
  | .raisesAfter => (.error .raised, after)
  | .raises | .raisesLeaving _ => (.error .raised, world)

/-- An operation that gives a new disk or is not possible. -/
def changesDisk (trouble : Trouble) (world : World) (disk : Option Disk) :
    Except RepairError Unit × World :=
  match disk with
  | none => (.error .raised, world)
  | some disk => troubled trouble (.ok ()) world { world with disk }

/-- `SELECT COALESCE(MAX(flow_no), 0) FROM steel_flow`. -/
def Database.maximum (database : Database) : Nat := (database.flows.map (·.flowNo)).foldl max 0

def Database.flow? (database : Database) (number : Nat) : Option FlowRow :=
  database.flows.find? fun row => row.flowNo == number

def isClosed (status : String) : Bool := status == "finished" || status == "superseded"

def Database.completedRepair (database : Database) (source : Nat) : Option (List Nat) :=
  match database.flow? source with
  | none => none
  | some row =>
    if !isClosed row.status then none
    else
      match row.repairNumbers with
      | none => none
      | some numbers =>
        if numbers.isEmpty then none
        else if (database.flows.filter fun other =>
            numbers.contains other.flowNo && other.status == "finished").length = numbers.length then
          some numbers
        else none

/-- The numbers `reserve_flow_numbers` takes; an error when the source flow is missing or open. -/
def Database.freeNumbers (database : Database) (source count : Nat) :
    Except RepairError (List Nat) :=
  match database.flow? source with
  | none => .error (.value ("source flow " ++ toString source ++ " is absent from steel_flow"))
  | some row =>
    if !isClosed row.status then
      .error (.value ("source flow " ++ toString source ++ " is not closed: status=" ++ row.status))
    else .ok (List.range' (database.maximum + 1) count)

def Database.stage (database : Database) (numbers : List Nat) : Database :=
  { database with
    flows := database.flows ++ numbers.map fun number => ⟨number, "repair-staging", none⟩ }

/-- The transaction of `finalize_database`; `none` when it raises and is rolled back. -/
def Database.finalize (database : Database) (source : Nat) (numbers : List Nat) : Option Database :=
  if (database.flow? source).isSome && database.sourceComplete &&
      numbers.all fun number =>
        (database.flow? number).any fun row => row.status == "repair-staging" then
    some { database with
      flows := database.flows.map fun row =>
        if row.flowNo = source then { row with status := "finished", repairNumbers := some numbers }
        else if row.flowNo ∈ numbers then
          { row with status := "finished", repairNumbers := some numbers }
        else row }
  else none

def Database.unstage (database : Database) (numbers : List Nat) : Database :=
  { database with
    flows := database.flows.filter fun row =>
      !(numbers.contains row.flowNo && row.status == "repair-staging") }

/-- The removal of one target of the cleanup: a link is refused, a directory is removed. -/
def removeTarget (trouble : Trouble) (path : Path) (world : World) : Except RepairError Unit × World :=
  match world.disk path with
  | some (.link _) => (.error (.runtime "refusing unsafe cleanup target"), world)
  | some .directory =>
    match trouble with
    | .works =>
      (.ok (), { world with disk := world.disk.removeTree path, removed := world.removed ++ [path] })
    | .raisesAfter =>
      (.error .raised,
        { world with disk := world.disk.removeTree path, removed := world.removed ++ [path] })
    | .raises => (.error .raised, world)
    | .raisesLeaving left =>
      (.error .raised, { world with disk := world.disk.removeLeaving path left })
  | _ => (.ok (), world)

def effects (setup : Setup) : (request : Call) → World → request.Reply × World
  | .acquireLock, world =>
    if world.disk.present setup.lockPath then
      (.error (.runtime "repair lock already exists"), world)
    else
      changesDisk (setup.trouble .acquireLock) world
        (world.disk.create setup.lockPath (setup.text setup.lockPath))
  | .releaseLock, world =>
    troubled (setup.trouble .releaseLock) (.ok ()) world
      { world with disk := world.disk.delete setup.lockPath }
  | .completedRepair, world =>
    troubled (setup.trouble .completedRepair)
      (.ok (world.database.completedRepair setup.sourceFlow)) world world
  | .backupDatabase, world =>
    if world.disk.present setup.backupPath then (.error .fileExists, world)
    else
      changesDisk (setup.trouble .backupDatabase) world
        (world.disk.create setup.backupPath (setup.text setup.backupPath))
  | .reserve, world =>
    match world.database.freeNumbers setup.sourceFlow setup.segments.length with
    | .error error => (.error error, world)
    | .ok numbers =>
      troubled (setup.trouble .reserve) (.ok numbers) world
        { world with database := world.database.stage numbers }
  | .exists_ path, world =>
    troubled (setup.trouble (.exists_ path)) (.ok (world.disk.present path)) world world
  | .isFile path, world =>
    troubled (setup.trouble (.isFile path)) (.ok (world.disk.content? path).isSome) world world
  | .readFile path, world =>
    if (world.disk.content? path).isSome then
      troubled (setup.trouble (.readFile path)) (.ok ()) world world
    else (.error .fileNotFound, world)
  | .copyFile source target, world =>
    match world.disk.content? source with
    | none => (.error .fileNotFound, world)
    | some content =>
      changesDisk (setup.trouble (.copyFile source target)) world (world.disk.create target content)
  | .hardlink source target, world =>
    match world.disk.content? source with
    | none => (.error .fileNotFound, world)
    | some content =>
      if world.disk.present target then (.error .fileExists, world)
      else
        -- No file is ever written in place, so a second name for a file is a copy of it.
        changesDisk (setup.trouble (.hardlink source target)) world (world.disk.create target content)
  | .write path, world =>
    changesDisk (setup.trouble (.write path)) world (world.disk.create path (setup.text path))
  | .unlink path, world =>
    troubled (setup.trouble (.unlink path)) (.ok ()) world { world with disk := world.disk.delete path }
  | .finalize numbers, world =>
    match world.database.finalize setup.sourceFlow numbers with
    | none => (.error .raised, world)
    | some database =>
      troubled (setup.trouble (.finalize numbers)) (.ok ()) world { world with database }
  | .cleanupDatabase numbers, world =>
    troubled (setup.trouble (.cleanupDatabase numbers)) (.ok ()) world
      { world with database := world.database.unstage numbers }
  | .removeTree path, world => removeTarget (setup.trouble (.removeTree path)) path world

/-! ## The program -/

abbrev Repairing := Attempt Call Call.Reply RepairError

/-- An operation whose exception goes on to the caller. -/
def run_ {β : Type} (program : Program Call Call.Reply (Except RepairError β)) : Repairing β :=
  ExceptT.mk program

/-- The outcome of a piece of code, exceptions included. -/
def outcome {β : Type} (program : Repairing β) : Repairing (Except RepairError β) :=
  ExceptT.mk (program.run >>= fun result => Program.pure (.ok result))

def isValidCameraId (cameraId : String) : Bool :=
  let camera := Text.trim cameraId
  !camera.isEmpty && camera.toList.all fun character =>
    character != '\\' && character != '/' && character != ':'

def captureRoot (camera : Camera) (number : Nat) : Except RepairError Path :=
  if isValidCameraId camera.cameraId then .ok (flowRoot camera.storageRoot number)
  else .error (.value "invalid camera id")

def Profile.parents (profile : Profile) : List Path :=
  profile.storageRoot :: profile.enabledCameras.map (·.storageRoot)

def Profile.targetRoots (profile : Profile) (number : Nat) : List Path :=
  profile.parents.map fun parent => flowRoot parent number

/-- `[str(path) for path in paths if path.exists()]` is not empty. -/
def anyExists : List Path → Repairing Bool
  | [] => pure false
  | path :: paths => do
    let found ← run_ (Program.ask (Call.exists_ path))
    let others ← anyExists paths
    pure (found || others)

def ensureTargetRootsAbsent (profile : Profile) : List Nat → Repairing Unit
  | [] => pure ()
  | number :: numbers => do
    if !profile.enabledCameras.all fun camera => isValidCameraId camera.cameraId then
      throw (.value "invalid camera id")
    else
      if ← anyExists (profile.targetRoots number) then throw .fileExists
      else ensureTargetRootsAbsent profile numbers

def copyCameraConfigs (source target : Nat) : List Camera → Repairing Unit
  | [] => pure ()
  | camera :: cameras => do
    match captureRoot camera source, captureRoot camera target with
    | .ok sourceRoot, .ok targetRoot =>
      run_ (Program.ask (Call.copyFile (sourceRoot ++ [.named "camera_config.json"])
        (targetRoot ++ [.named "camera_config.json"])))
      copyCameraConfigs source target cameras
    | _, _ => throw (.value "invalid camera id")

/-- The files of one frame in the flow with the given root. -/
def artifactPath (root : Path) (kind suffix : String) (storageIndex : Nat) : Path :=
  root ++ [.named kind, .named (toString storageIndex ++ suffix)]

/-- The frames of one round: the two images are linked, the metadata is written anew.  The answer
is the list of the cameras, with the next storage index of each. -/
def prepareFrames (setup : Setup) (target : Nat) : List Frame → (String → Nat) → List String →
    Repairing ((String → Nat) × List String)
  | [], next, committed => pure (next, committed)
  | frame :: frames, next, committed => do
    let cameraId := Text.trim frame.cameraId
    match setup.profile.enabledCameras.find? fun camera => camera.cameraId == cameraId with
    | none => throw (.value "unknown camera")
    | some camera =>
      match captureRoot camera target with
      | .error error => throw error
      | .ok root =>
        let index := next cameraId
        run_ (Program.ask (Call.hardlink frame.depthPath (artifactPath root "3d" ".npz" index)))
        run_ (Program.ask (Call.hardlink frame.intensityPath (artifactPath root "2d" ".png" index)))
        run_ (Program.ask (Call.readFile frame.metadataPath))
        run_ (Program.ask (Call.write (artifactPath root "json" ".json" index)))
        prepareFrames setup target frames
          (fun other => if other = cameraId then index + 1 else next other) (committed ++ [cameraId])

def eventPath (setup : Setup) (target captureRound : Nat) : Path :=
  flowRoot setup.profile.storageRoot target ++
    [.named "events", .named "frame-committed", .named (Text.padDecimal 12 captureRound ++ ".json")]

/-- `publish_committed_round` of the rows of one round. -/
def publishCommittedRound (setup : Setup) (target captureRound : Nat) (committed : List String) :
    Repairing Unit :=
  if committed.isEmpty then pure ()
  else if !decide committed.Nodup then throw (.value "duplicate committed camera in round")
  else run_ (Program.ask (Call.write (eventPath setup target captureRound)))

/-- The rounds of a segment; the answer is the number of frames. -/
def prepareEvents (setup : Setup) (target : Nat) : List Event → (String → Nat) → Nat → Repairing Nat
  | [], _, count => pure count
  | event :: events, next, count => do
    let frames := event.frames.insertionSort fun first second => !decide (second.cameraId < first.cameraId)
    let prepared ← prepareFrames setup target frames next []
    publishCommittedRound setup target event.captureRound prepared.2
    prepareEvents setup target events prepared.1 (count + prepared.2.length)

/-- `write_flow_manifest` with the acquisition manifest. -/
def writeFlowManifest (setup : Setup) (target : Nat) : Repairing Unit := do
  let root := flowRoot setup.profile.storageRoot target
  run_ (Program.ask (Call.write (root ++ [.named "flow.json"])))
  if setup.hasCompleteRound target then
    run_ (Program.ask (Call.write (root ++ [.named "acquisition", .named "manifest.json"])))
  else pure ()

def prepareSegment (setup : Setup) (target : Nat) (segment : BoundarySegment) : Repairing Unit := do
  let selected := setup.events.filter fun event =>
    segment.startRound ≤ event.captureRound && event.captureRound ≤ segment.endRound
  if selected.isEmpty then throw (.value "segment contains no events")
  else
    copyCameraConfigs setup.sourceFlow target setup.profile.enabledCameras
    let count ← prepareEvents setup target selected (fun _ => 0) 0
    if count = 0 then throw (.value "segment contains no committed frames")
    else writeFlowManifest setup target

def prepareSegments (setup : Setup) : List (Nat × BoundarySegment) → Repairing Unit
  | [] => pure ()
  | (target, segment) :: rest => do
    prepareSegment setup target segment
    prepareSegments setup rest

def removeTargets : List Path → Repairing Unit
  | [] => pure ()
  | path :: paths => do
    run_ (Program.ask (Call.removeTree path))
    removeTargets paths

/-- The directories of the cleanup, parent by parent. -/
def Profile.cleanupTargets (profile : Profile) (numbers : List Nat) : List Path :=
  profile.parents.flatMap fun parent => numbers.map fun number => flowRoot parent number

def cleanupStaging (setup : Setup) (numbers : List Nat) : Repairing Unit := do
  if numbers.isEmpty then pure ()
  else
    run_ (Program.ask (Call.cleanupDatabase numbers))
    removeTargets (setup.profile.cleanupTargets numbers)

def removeFromPlaybackCatalog (setup : Setup) : Repairing Unit := do
  if ← run_ (Program.ask (Call.isFile setup.catalogPath)) then
    run_ (Program.ask (Call.write setup.catalogLockPath))
    let updated ← outcome
      (if setup.catalogListsSource then run_ (Program.ask (Call.write setup.catalogPath)) else pure ())
    run_ (Program.ask (Call.unlink setup.catalogLockPath))
    match updated with
    | .ok () => pure ()
    | .error error => throw error
  else pure ()

def backupSourceManifest (setup : Setup) : Repairing Unit := do
  if ← run_ (Program.ask (Call.exists_ setup.manifestBackupPath)) then pure ()
  else run_ (Program.ask (Call.copyFile setup.sourceManifestPath setup.manifestBackupPath))

def markSourceManifestSuperseded (setup : Setup) : Repairing Unit := do
  run_ (Program.ask (Call.readFile setup.sourceManifestPath))
  backupSourceManifest setup
  run_ (Program.ask (Call.write setup.sourceManifestPath))
  removeFromPlaybackCatalog setup

/-- `publish_flow_handoff` for each flow. -/
def publishHandoffs (setup : Setup) : List Nat → Repairing Unit
  | [] => pure ()
  | _ :: numbers => do
    run_ (Program.ask (Call.write setup.handoffPath))
    publishHandoffs setup numbers

/-- The part of the repair whose exceptions lead to the cleanup. -/
def fillAndFinalize (setup : Setup) (numbers : List Nat) : Repairing Unit := do
  ensureTargetRootsAbsent setup.profile numbers
  prepareSegments setup (numbers.zip setup.segments)
  run_ (Program.ask (Call.finalize numbers))

def announce (setup : Setup) (numbers : List Nat) : Repairing Unit :=
  if setup.publishHandoff then publishHandoffs setup numbers else pure ()

/-- The repair with its reserved numbers: what happens between the reservation and the end. -/
def repairReserved (setup : Setup) (numbers : List Nat) : Repairing Unit := do
  match ← outcome (fillAndFinalize setup numbers) with
  | .error error =>
    cleanupStaging setup numbers
    throw error
  | .ok () =>
    markSourceManifestSuperseded setup
    run_ (Program.ask (Call.write setup.reportPath))
    announce setup numbers

/-- The body of the `try`. -/
def repairBody (setup : Setup) : Repairing Unit := do
  match ← run_ (Program.ask Call.completedRepair) with
  | some numbers =>
    markSourceManifestSuperseded setup
    announce setup numbers
  | none =>
    run_ (Program.ask Call.backupDatabase)
    let numbers ← run_ (Program.ask Call.reserve)
    repairReserved setup numbers

def main (setup : Setup) : Repairing Unit := do
  if !setup.archive.isDirectory setup.sourceEventRoot then throw .fileNotFound
  else if setup.expectedSegments.any (· != setup.segments.length) then
    throw (.value "expected segments differ from the detected ones")
  else if setup.segments.isEmpty then throw (.value "no complete bar segments detected")
  else if !setup.apply then pure ()
  else
    run_ (Program.ask Call.acquireLock)
    let result ← outcome (repairBody setup)
    run_ (Program.ask Call.releaseLock)
    match result with
    | .ok () => pure ()
    | .error error => throw error

def Setup.finish (setup : Setup) : World :=
  ((main setup).run.interpret (effects setup) setup.start).2

end SteelInspection.Repair
