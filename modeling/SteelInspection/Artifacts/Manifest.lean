import Mathlib.Data.List.Sort
import SteelInspection.Foundations.Interleaving
import SteelInspection.Foundations.Links
import SteelInspection.Foundations.Table
import SteelInspection.Service.Database
import SteelInspection.Service.Http

/-! # Cleanup of the artifacts of a record

The disk with its links, the cleanup manifest, the tables of records and cleanups, and the calls the
cleanup makes: one step for each access to the disk and each statement to the database.  Between two
steps anyone else may change the disk.
-/

namespace SteelInspection.Artifacts

open Foundations

/-! ## The disk -/

abbrev Bytes := List UInt8

abbrev RealPath := List String

structure Disk where
  nodes : List (RealPath × Node String Bytes)

namespace Disk

def tree (disk : Disk) : FileTree String Bytes := fun path => disk.nodes.lookup path

/-- The number of links the system follows before it gives up. -/
def maxLinks : Nat := 40

def errorText : ResolveError → String
  | .notFound => "No such file or directory (os error 2)"
  | .notDirectory => "Not a directory (os error 20)"
  | .tooManyLinks => "Too many levels of symbolic links (os error 40)"

def canonicalize (disk : Disk) (path : List (Component String)) : Except String RealPath :=
  (disk.tree.resolve maxLinks path).mapError errorText

/-- What a path leads to; only the root is not among the nodes. -/
def nodeAt (disk : Disk) (path : List (Component String)) : Except String (Node String Bytes) :=
  (disk.canonicalize path).map fun real => (disk.tree real).getD .directory

/-- Where a path leads, and what is there. -/
def seen (disk : Disk) (path : List (Component String)) :
    Option (RealPath × Option (Node String Bytes)) :=
  match disk.canonicalize path with
  | .ok real => some (real, disk.tree real)
  | .error _ => none

def present (disk : Disk) (path : List (Component String)) : Bool :=
  match disk.nodeAt path with
  | .ok _ => true
  | .error _ => false

def isFile (disk : Disk) (path : RealPath) : Bool :=
  match disk.nodeAt (FileTree.written path) with
  | .ok (.file _) => true
  | _ => false

def isDir (disk : Disk) (path : RealPath) : Bool :=
  match disk.nodeAt (FileTree.written path) with
  | .ok .directory => true
  | _ => false

def length (disk : Disk) (path : RealPath) : Except String Nat :=
  (disk.nodeAt (FileTree.written path)).map fun node =>
    match node with
    | .file bytes => bytes.length
    | _ => 0

inductive ReadError where
  | opening (text : String)
  | reading (text : String)

def read (disk : Disk) (path : RealPath) : Except ReadError Bytes :=
  match disk.nodeAt (FileTree.written path) with
  | .ok (.file bytes) => .ok bytes
  | .ok _ => .error (.reading "Is a directory (os error 21)")
  | .error error => .error (.opening error)

inductive EntryKind where
  | file
  | directory
  | link

def kindOf : Node String Bytes → EntryKind
  | .file _ => .file
  | .directory => .directory
  | .link _ => .link

def children (disk : Disk) (directory : RealPath) : List (String × EntryKind) :=
  disk.nodes.filterMap fun (path, node) =>
    match path.getLast? with
    | some name => if path.dropLast = directory then some (name, kindOf node) else none
    | none => none

def readDir (disk : Disk) (path : RealPath) : Except String (List (String × EntryKind)) :=
  match disk.canonicalize (FileTree.written path) with
  | .error error => .error error
  | .ok real =>
    match (disk.tree real).getD .directory with
    | .directory => .ok (disk.children real)
    | _ => .error (errorText .notDirectory)

def delete (disk : Disk) (location : RealPath) : Disk :=
  ⟨disk.nodes.filter fun (path, _) => path ≠ location⟩

/-- `unlink`: what is removed and where it was, and the disk without it. -/
def removeFile (disk : Disk) (path : RealPath) :
    Except String ((RealPath × Node String Bytes) × Disk) :=
  match disk.tree.locate maxLinks path with
  | .error error => .error (errorText error)
  | .ok location =>
    match disk.tree location with
    | none => .error (errorText .notFound)
    | some .directory => .error "Is a directory (os error 21)"
    | some node => .ok ((location, node), disk.delete location)

def removeDir (disk : Disk) (path : RealPath) : Except String Disk :=
  match disk.tree.locate maxLinks path with
  | .error error => .error (errorText error)
  | .ok location =>
    match disk.tree location with
    | none => .error (errorText .notFound)
    | some .directory =>
      if (disk.children location).isEmpty then .ok (disk.delete location)
      else .error "Directory not empty (os error 39)"
    | some _ => .error (errorText .notDirectory)

end Disk

/-! ## Paths as texts -/

structure RawPath where
  absolute : Bool
  components : List (Component String)

namespace RawPath

def component (part : String) : Option (Component String) :=
  if part = "" || part = "." then none
  else if part = ".." then some .parent
  else some (.normal part)

def ofText (text : String) : RawPath :=
  ⟨text.toList.head? = some '/', (Text.split '/' text).filterMap component⟩

def ofReal (path : RealPath) : RawPath := ⟨true, FileTree.written path⟩

def parent (path : RawPath) : Option RawPath :=
  if path.components.isEmpty then none
  else some { path with components := path.components.dropLast }

end RawPath

def display (path : RealPath) : String :=
  if path.isEmpty then "/" else String.join (path.map fun name => "/" ++ name)

def pathKey (text : String) : String :=
  String.ofList (text.toList.map fun character => if character = '/' then '\\' else character)

def forbiddenNames : List String :=
  ["maintenance", "calibration", "calibrations", "config", "profiles"]

def isForbiddenMaintenancePath (path : List (Component String)) : Bool :=
  path.any fun component =>
    match component with
    | .normal name => forbiddenNames.contains (Text.toAsciiLowercase name)
    | .parent => false

def withinRoots (roots : List RealPath) (path : RealPath) : Bool :=
  roots.any fun root => root.isPrefixOf path

private def addRoots (disk : Disk) : List RealPath → List String → Except String (List RealPath)
  | roots, [] => .ok roots
  | roots, text :: texts =>
    let root := RawPath.ofText text
    if !root.absolute then .error "artifact cleanup roots must be absolute"
    else
      match disk.canonicalize root.components with
      | .error error => .error ("artifact cleanup root unavailable: " ++ error)
      | .ok canonical =>
        if !disk.isDir canonical then .error "artifact cleanup root is not a directory"
        else if roots.any fun existing => pathKey (display existing) = pathKey (display canonical) then
          addRoots disk roots texts
        else addRoots disk (roots ++ [canonical]) texts

def canonicalAllowedRootsFromText (disk : Disk) (text : String) : Except String (List RealPath) :=
  match addRoots disk [] (Text.split ':' text) with
  | .error error => .error error
  | .ok roots =>
    if roots.isEmpty then .error "STEEL_ARTIFACT_ALLOWED_ROOTS is required for artifact cleanup"
    else .ok roots

/-! ## The manifest -/

def cleanupSchema : String := "steel.record-artifact-cleanup.v1"

inductive EntryStatus where
  | planned
  | rejected
  | missing
  | deleted
  | failed
  deriving DecidableEq

structure CleanupEntry where
  path : String
  kind : String
  sizeBytes : Nat
  sha256 : String
  status : EntryStatus
  error : String
  deriving DecidableEq

structure CleanupManifest where
  schema : String
  recordId : String
  materialId : String
  sessionId : String
  entries : List CleanupEntry
  directories : List String
  deriving DecidableEq

structure ManifestCounts where
  deleted : Nat
  missing : Nat
  bytesDeleted : Nat

def CleanupManifest.counts (manifest : CleanupManifest) : ManifestCounts :=
  let deleted := manifest.entries.filter fun entry => entry.status = .deleted
  { deleted := deleted.length
    missing := (manifest.entries.filter fun entry => entry.status = .missing).length
    bytesDeleted := deleted.foldl (fun total entry => total + entry.sizeBytes) 0 }

def CleanupManifest.planCounts (manifest : CleanupManifest) : Nat × Nat :=
  (manifest.entries.length, manifest.entries.foldl (fun total entry => total + entry.sizeBytes) 0)

/-! ## The tables -/

inductive CleanupStatus where
  | planned
  | deleting
  | failed
  | completed
  deriving DecidableEq

structure RecordCleanupInput where
  recordId : String
  materialId : String
  actor : String
  reason : String
  manifest : CleanupManifest
  filesPlanned : Nat
  bytesPlanned : Nat

/-- A row of `record_cleanup`; `plan` is the manifest the row was made with. -/
structure RecordCleanup where
  id : String
  recordId : String
  materialId : String
  status : CleanupStatus
  actor : String
  reason : String
  manifest : CleanupManifest
  filesPlanned : Nat
  filesDeleted : Nat
  filesMissing : Nat
  bytesPlanned : Nat
  bytesDeleted : Nat
  error : String
  createdAt : String
  updatedAt : String
  completedAt : String
  plan : CleanupManifest

structure CaptureFile where
  path : String
  metadataPath : String

structure InspectionRecord where
  id : String
  materialId : String
  sessionId : String
  summaryPath : String
  sessionStatus : Option String
  captureFiles : List CaptureFile
  defects : Nat

structure DeletedRecord where
  id : String
  materialId : String
  defectsDeleted : Nat
  captureFilesDeleted : Nat

structure CleanupProgress where
  status : CleanupStatus
  manifest : CleanupManifest
  counts : ManifestCounts
  error : String

/-- The time of the end is set with the last status only. -/
def RecordCleanup.apply (now : String) (progress : CleanupProgress) (row : RecordCleanup) :
    RecordCleanup :=
  { row with
    status := progress.status, manifest := progress.manifest, filesDeleted := progress.counts.deleted
    filesMissing := progress.counts.missing, bytesDeleted := progress.counts.bytesDeleted
    error := progress.error, updatedAt := now
    completedAt := if progress.status = .completed then now else row.completedAt }

abbrev Cleanups := Table RecordCleanup RecordCleanup.id

def store (now id : String) (progress : CleanupProgress) (cleanups : Cleanups) : Cleanups :=
  cleanups.update id (RecordCleanup.apply now progress) fun _ => rfl

structure Completion where
  cleanupId : String
  recordId : String
  manifest : CleanupManifest
  counts : ManifestCounts

def Completion.progress (completion : Completion) : CleanupProgress :=
  ⟨.completed, completion.manifest, completion.counts, ""⟩

/-! ## Calls -/

structure EntryReference where
  cleanupId : String
  index : Nat
  path : String

inductive Call where
  | allowedRoots
  | present (path : RawPath)
  | canonicalize (path : RawPath)
  | isFile (path : RealPath)
  | isDir (path : RealPath)
  | metadata (path : RealPath)
  | read (path : RealPath)
  | readDir (path : RealPath)
  | removeFile (path : RealPath) (entry : EntryReference)
  | removeDir (path : RealPath)
  | findOpenCleanup (recordId : String)
  | findCleanup (id : String)
  | insertCleanup (input : RecordCleanupInput)
  | updateCleanup (id : String) (progress : CleanupProgress)
  | completeCleanup (completion : Completion)
  | findRecord (id : String)
  | countUnresolved (sessionId : String)
  /-- Someone else changes the disk. -/
  | change (disk : Disk)

abbrev Call.Reply : Call → Type
  | .allowedRoots => Except String (List RealPath)
  | .present _ | .isFile _ | .isDir _ => Bool
  | .canonicalize _ => Except String RealPath
  | .metadata _ => Except String Nat
  | .read _ => Except Disk.ReadError Bytes
  | .readDir _ => Except String (List (String × Disk.EntryKind))
  | .removeFile _ _ | .removeDir _ => Except String Unit
  | .findOpenCleanup _ | .findCleanup _ => Except DbErr (Option RecordCleanup)
  | .insertCleanup _ => Except DbErr RecordCleanup
  | .updateCleanup _ _ => Except DbErr Unit
  | .completeCleanup _ => Except DbErr DeletedRecord
  | .findRecord _ => Except DbErr (Option InspectionRecord)
  | .countUnresolved _ => Except DbErr Nat
  | .change _ => Unit

/-- What a step cannot choose: whether the system call or the connection fails, the time, and how
many tasks of the session are unresolved. -/
structure Env where
  failure : Option String := none
  readFailure : Option String := none
  connection : Connection := .works
  millis : String := "0"
  nanos : String := "0"
  unresolved : Nat := 0

abbrev Thread := Nat

/-- A file that was removed: for which entry, what it was and where, the disk it was on, and the roots
that were allowed in the execution that removed it. -/
structure Removal where
  entry : EntryReference
  location : RealPath
  node : Node String Bytes
  disk : Disk
  roots : List RealPath

/-- The disk and the tables.  `resolved` has the path that a thread resolved last, unless that leads
to another place or another file since, `rootsOf` the roots a thread last read. -/
structure Shared where
  disk : Disk
  rootsText : String
  cleanups : Cleanups
  records : Table InspectionRecord InspectionRecord.id
  resolved : Thread → Option (List (Component String))
  rootsOf : Thread → List RealPath
  removed : List Removal

/-- The disk is another one from now on. -/
def Shared.withDisk (shared : Shared) (disk : Disk) : Shared :=
  { shared with
    disk
    resolved := fun thread =>
      (shared.resolved thread).filter fun path => disk.seen path = shared.disk.seen path }

def isOpen (recordId : String) (row : RecordCleanup) : Bool :=
  row.recordId = recordId && row.status ≠ .completed

def newest : Option RecordCleanup → RecordCleanup → Option RecordCleanup
  | none, row => some row
  | some best, row => if best.createdAt < row.createdAt then some row else some best

def RecordCleanupInput.row (env : Env) (input : RecordCleanupInput) : RecordCleanup where
  id := "CLEAN-" ++ env.nanos
  recordId := input.recordId
  materialId := input.materialId
  status := .planned
  actor := input.actor
  reason := input.reason
  manifest := input.manifest
  filesPlanned := input.filesPlanned
  filesDeleted := 0
  filesMissing := 0
  bytesPlanned := input.bytesPlanned
  bytesDeleted := 0
  error := ""
  createdAt := env.millis
  updatedAt := env.millis
  completedAt := ""
  plan := input.manifest

def Env.look {ε β : Type} (env : Env) (error : String → ε) (outcome : Except ε β) : Except ε β :=
  match env.failure with
  | some text => .error (error text)
  | none => outcome

def completeCleanup (env : Env) (completion : Completion) (shared : Shared) :
    Except DbErr DeletedRecord × Shared :=
  match shared.records.find? completion.recordId, shared.cleanups.find? completion.cleanupId with
  | none, _ => env.connection.write
      (.error ⟨"Custom Error: record cleanup lost inspection ownership"⟩) shared shared
  | some _, none => env.connection.write
      (.error ⟨"RecordNotFound Error: record cleanup " ++ completion.cleanupId⟩) shared shared
  | some record, some _ => env.connection.write
      (.ok ⟨record.id, record.materialId, record.defects, record.captureFiles.length⟩) shared
      { shared with
        records := shared.records.deleteWhere fun row => row.id = completion.recordId
        cleanups := store env.millis completion.cleanupId completion.progress shared.cleanups }

def semantics : Semantics Shared Thread Env Call Call.Reply
  | thread, env, request, shared =>
    match request with
    | .allowedRoots =>
      match env.look ("artifact cleanup root unavailable: " ++ ·)
        (canonicalAllowedRootsFromText shared.disk shared.rootsText) with
      | .ok roots => some (.ok roots, { shared with
          rootsOf := fun other => if other = thread then roots else shared.rootsOf other })
      | .error error => some (.error error, shared)
    | .present path =>
      some (env.failure.isNone && shared.disk.present path.components, shared)
    | .canonicalize path => some (env.look id (shared.disk.canonicalize path.components),
        { shared with resolved := fun other =>
            if other = thread then some path.components else shared.resolved other })
    | .isFile path => some (env.failure.isNone && shared.disk.isFile path, shared)
    | .isDir path => some (env.failure.isNone && shared.disk.isDir path, shared)
    | .metadata path => some (env.look id (shared.disk.length path), shared)
    | .read path =>
      match env.readFailure with
      | some text => some (.error (.reading text), shared)
      | none => some (env.look .opening (shared.disk.read path), shared)
    | .readDir path => some (env.look id (shared.disk.readDir path), shared)
    | .removeFile path entry =>
      match env.look id (shared.disk.removeFile path) with
      | .ok ((location, node), disk) => some (.ok (), { shared.withDisk disk with
          removed :=
            shared.removed ++ [⟨entry, location, node, shared.disk, shared.rootsOf thread⟩] })
      | .error error => some (.error error, shared)
    | .removeDir path =>
      match env.look id (shared.disk.removeDir path) with
      | .ok disk => some (.ok (), shared.withDisk disk)
      | .error error => some (.error error, shared)
    | .findOpenCleanup recordId => some (env.connection.query
        ((shared.cleanups.select (isOpen recordId)).foldl newest none) shared)
    | .findCleanup id => some (env.connection.query (shared.cleanups.find? id) shared)
    | .insertCleanup input =>
      match shared.cleanups.insert (input.row env) with
      | some cleanups =>
        some (env.connection.write (.ok (input.row env)) shared { shared with cleanups })
      | none => some (env.connection.write
          (.error ⟨"Execution Error: UNIQUE constraint failed: record_cleanup.id"⟩) shared shared)
    | .updateCleanup id progress =>
      match shared.cleanups.find? id with
      | some _ => some (env.connection.write (.ok ()) shared { shared with
          cleanups := store env.millis id progress shared.cleanups })
      | none => some (env.connection.write
          (.error ⟨"None of the records are updated"⟩) shared shared)
    | .completeCleanup completion => some (completeCleanup env completion shared)
    | .findRecord id => some (env.connection.query (shared.records.find? id) shared)
    | .countUnresolved _ => some (env.connection.query env.unresolved shared)
    | .change disk => some ((), shared.withDisk disk)

end SteelInspection.Artifacts
