import SteelInspection.Artifacts.Planning

/-! # Executing a cleanup

`execute_persisted_cleanup` and its callers: every entry is examined again and removed, the manifest
is stored after each entry, and the rows of the record go last.  A thread that makes no more steps is
an execution that was cut off; later ones start from what is stored.
-/

namespace SteelInspection.Artifacts

open Foundations

def db {β : Type} (program : Code (Except DbErr β)) : Checked β := described (·.message) program

def changedText : String := "artifact changed after cleanup plan was frozen"

/-- The end of `execute_entry`: the file is removed when it has the length and hash of the plan. -/
def removeUnchanged (reader : Reader) (reference : EntryReference) (entry : CleanupEntry)
    (canonical : RealPath) : Checked CleanupEntry := do
  let length ← described ("artifact metadata changed: " ++ ·) (ask (.metadata canonical))
  if length ≠ entry.sizeBytes then throw changedText
  else do
    let hash ← sha256File reader canonical
    if hash ≠ entry.sha256 then throw changedText
    else do
      described ("artifact delete failed: " ++ ·) (ask (.removeFile canonical reference))
      pure { entry with status := .deleted, error := "" }

def removeEntry (reader : Reader) (cleanupId : String) (index : Nat) (entry : CleanupEntry)
    (roots : List RealPath) : Checked CleanupEntry := do
  match ← canonicalFileWithinRoots (RawPath.ofText entry.path) roots with
  | none => pure { entry with status := .missing, error := "" }
  | some canonical => removeUnchanged reader ⟨cleanupId, index, entry.path⟩ entry canonical

def executeEntry (reader : Reader) (cleanupId : String) (index : Nat) (entry : CleanupEntry)
    (roots : List RealPath) : Checked CleanupEntry :=
  match entry.status with
  | .deleted | .missing => pure entry
  | .rejected => throw entry.error
  | .planned | .failed => removeEntry reader cleanupId index entry roots

def updateRecordCleanupProgress (id : String) (status : CleanupStatus) (manifest : CleanupManifest)
    (error : String) : Checked Unit := do
  match ← db (ask (.findCleanup id)) with
  | none => throw ("RecordNotFound Error: record cleanup " ++ id)
  | some _ => db (ask (.updateCleanup id ⟨status, manifest, manifest.counts, error⟩))

def executeEntries (reader : Reader) (cleanupId : String) (manifest : CleanupManifest)
    (roots : List RealPath) : List CleanupEntry → List CleanupEntry → Checked (List CleanupEntry)
  | done, [] => pure done
  | done, entry :: entries => do
    match ← plainly (executeEntry reader cleanupId done.length entry roots).run with
    | .error error =>
      let failed := { entry with status := .failed, error }
      updateRecordCleanupProgress cleanupId .failed
        { manifest with entries := done ++ failed :: entries } error
      throw error
    | .ok executed =>
      updateRecordCleanupProgress cleanupId .deleting
        { manifest with entries := done ++ executed :: entries } ""
      executeEntries reader cleanupId manifest roots (done ++ [executed]) entries

/-- The loop over the directories, the deepest ones first. -/
def removeDirectories (roots : List RealPath) : List String → Checked Unit
  | [] => pure ()
  | directory :: directories => do
    let path := RawPath.ofText directory
    if !(← plainly (ask (.present path))) then removeDirectories roots directories
    else do
      let canonical ← described ("cache directory changed: " ++ ·) (ask (.canonicalize path))
      if !(← plainly (ask (.isDir canonical))) ||
          isForbiddenMaintenancePath (FileTree.written canonical) ||
          !withinRoots roots canonical then
        throw "cache directory changed after cleanup plan was frozen"
      else do
        described ("cache directory is not empty after cleanup: " ++ ·) (ask (.removeDir canonical))
        removeDirectories roots directories

def completeRecordCleanup (completion : Completion) : Checked DeletedRecord := do
  match ← db (ask (.findRecord completion.recordId)) with
  | none => throw ("RecordNotFound Error: production inspection " ++ completion.recordId)
  | some _ => db (ask (.completeCleanup completion))

structure CleanupExecution where
  cleanupId : String
  filesPlanned : Nat
  bytesPlanned : Nat
  counts : ManifestCounts
  deleted : DeletedRecord

def executePersistedCleanup (reader : Reader) (cleanup : RecordCleanup) :
    Checked CleanupExecution := do
  let roots ← allowedRoots
  let manifest := cleanup.manifest
  if manifest.schema ≠ cleanupSchema then throw "unsupported cleanup manifest schema"
  else if manifest.recordId ≠ cleanup.recordId then throw "cleanup manifest record mismatch"
  else do
    let entries ← executeEntries reader cleanup.id manifest roots [] manifest.entries
    let manifest := { manifest with entries }
    removeDirectories roots manifest.directories.reverse
    let deleted ← completeRecordCleanup ⟨cleanup.id, cleanup.recordId, manifest, manifest.counts⟩
    pure ⟨cleanup.id, cleanup.filesPlanned, cleanup.bytesPlanned, manifest.counts, deleted⟩

/-! ## The requests -/

def createOrLoadRecordCleanup (input : RecordCleanupInput) : Checked RecordCleanup := do
  match ← db (ask (.findOpenCleanup input.recordId)) with
  | some existing => pure existing
  | none => db (ask (.insertCleanup input))

/-- What a caller asks for, with the place of its cache tree and how deep that is. -/
structure CleanupRequest where
  recordId : String
  actor : String
  reason : String
  cacheRecordRoot : RawPath
  depth : Nat

/-- The part of `execute_record_artifact_cleanup` that makes the cleanup. -/
def planRecordCleanup (reader : Reader) (request : CleanupRequest) : Checked RecordCleanup := do
  match ← db (ask (.findRecord request.recordId)) with
  | none => throw "record not found"
  | some record =>
    if (← db (ask (.countUnresolved record.sessionId))) > 0 then
      throw "record cleanup is blocked by unresolved production tasks"
    else do
      let _ ← allowedRoots
      let manifest ← buildManifest reader record
      let manifest ← appendCacheTree reader request.depth request.cacheRecordRoot manifest
      let (filesPlanned, bytesPlanned) := manifest.planCounts
      createOrLoadRecordCleanup
        { recordId := record.id, materialId := record.materialId, actor := request.actor
          reason := request.reason, manifest, filesPlanned, bytesPlanned }

structure CleanupFailure where
  error : String
  cleanupId : Option String

def executeCleanup (reader : Reader) (cleanup : RecordCleanup) :
    Code (Except CleanupFailure CleanupExecution) := do
  match ← (executePersistedCleanup reader cleanup).run with
  | .ok execution => pure (.ok execution)
  | .error error => pure (.error ⟨error, some cleanup.id⟩)

def executeRecordArtifactCleanup (reader : Reader) (request : CleanupRequest) :
    Code (Except CleanupFailure CleanupExecution) := do
  match ← ask (.findOpenCleanup request.recordId) with
  | .error error => pure (.error ⟨error.message, none⟩)
  | .ok (some cleanup) => executeCleanup reader cleanup
  | .ok none =>
    match ← (planRecordCleanup reader request).run with
    | .error error => pure (.error ⟨error, none⟩)
    | .ok cleanup => executeCleanup reader cleanup

inductive CleanupAnswer where
  | executed (result : Except CleanupFailure CleanupExecution)
  | replayed (cleanup : RecordCleanup)
  | idRequired
  | notFound
  | databaseError (error : String)
  /-- Not a request: the disk was changed. -/
  | changed

def retryRecordCleanup (reader : Reader) (id : String) : Code CleanupAnswer := do
  if (Text.trim id).isEmpty then pure .idRequired
  else
    match ← ask (.findCleanup id) with
    | .ok (some cleanup) =>
      if cleanup.status = .completed then pure (.replayed cleanup)
      else do
        let result ← executeCleanup reader cleanup
        pure (.executed result)
    | .ok none => pure .notFound
    | .error error => pure (.databaseError error.message)

inductive CleanupTask where
  | cleanup (request : CleanupRequest)
  | retry (id : String)
  | change (disk : Disk)

def CleanupTask.program (reader : Reader) : CleanupTask → Code CleanupAnswer
  | .cleanup request => do
    let result ← executeRecordArtifactCleanup reader request
    pure (.executed result)
  | .retry id => retryRecordCleanup reader id
  | .change disk => do
    let _ ← ask (.change disk)
    pure .changed

/-! ## The system -/

/-- What a later manifest keeps of an entry. -/
def CleanupEntry.Keeps (planned entry : CleanupEntry) : Prop :=
  entry.path = planned.path ∧ entry.sizeBytes = planned.sizeBytes ∧ entry.sha256 = planned.sha256

/-- The manifest has the entries of the plan, with the lengths and hashes frozen there. -/
def CleanupManifest.Follows (plan manifest : CleanupManifest) : Prop :=
  List.Forall₂ CleanupEntry.Keeps plan.entries manifest.entries

/-- No hash is frozen for what was rejected. -/
def CleanupEntry.Unhashed (entry : CleanupEntry) : Prop := entry.status = .rejected → entry.sha256 = ""

def CleanupManifest.Unhashed (plan : CleanupManifest) : Prop := ∀ entry ∈ plan.entries, entry.Unhashed

structure RecordCleanup.Frozen (row : RecordCleanup) : Prop where
  follows : row.plan.Follows row.manifest
  unhashed : row.plan.Unhashed

/-- Since the thread resolved the path of the entry, that leads to the same place and the same file,
and the place is not under a forbidden name. -/
def removalUndisturbed (thread : Thread) : Call → Shared → Bool
  | .removeFile real entry, shared =>
    shared.resolved thread = some (RawPath.ofText entry.path).components &&
      !isForbiddenMaintenancePath (FileTree.written real)
  | _, _ => true

def cleanupRules (reader : Reader) : Rules Shared Thread Env Call Call.Reply CleanupAnswer where
  semantics := semantics
  handler _ program := ∃ task : CleanupTask, program = task.program reader
  undisturbed thread request shared := removalUndisturbed thread request shared = true
  initial shared := (∀ row ∈ shared.cleanups.rows, row.Frozen) ∧ shared.removed = []

end SteelInspection.Artifacts
