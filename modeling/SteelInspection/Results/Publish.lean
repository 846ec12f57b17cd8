import SteelInspection.Foundations.Sequential
import SteelInspection.Results.Catalog

/-! # Publication of a result

`ResultPublisher::publish`: the artifacts go into content-addressed storage, the record is written
to a staging directory, the staging directory is switched into the place of the record, and the
catalog is replaced in one transaction.  Every file operation, every rename and the transaction is
one call; a call may fail, and the process may stop in front of any of them.

A file is modelled by what a reader makes of it, so reading a result back gives the result that was
written.  `sha256` is the digest of a file's bytes.
-/

namespace SteelInspection.Results

open Foundations

/-- `ResultStoreError`; what the system says about an error is not part of the model. -/
inductive ResultStoreError where
  | io
  | sql
  | invalid (message : String)
  deriving DecidableEq, Repr

def ResultStoreError.text : ResultStoreError → String
  | .io => "I/O error"
  | .sql => "catalog error"
  | .invalid message => message

/-! ## Inputs -/

/-- What a path below the source directory leads to. -/
inductive SourceEntry where
  | missing
  /-- A file or directory outside the source directory, behind a link. -/
  | outside
  | directory
  | file (content : List Nat)
  deriving DecidableEq, Repr

structure PublishInput where
  inspectionId : String
  result : UnifiedResult
  source : String → SourceEntry
  sourceProvenance : Option String

/-! ## Files -/

inductive ResultFile where
  /-- Not the JSON of a result, as a write that failed half-way leaves it. -/
  | garbled
  | result (value : UnifiedResult)
  deriving DecidableEq, Repr

inductive DefectsFile where
  | garbled
  | defects (inspectionId : String) (defects : List ResultDefect)
  deriving DecidableEq, Repr

inductive ProvenanceFile where
  | garbled
  | provenance (text : String)
  deriving DecidableEq, Repr

structure RecordDirectory where
  resultJson : Option ResultFile
  recordJson : Option ResultFile
  provenanceJson : Option ProvenanceFile
  defectsJson : Option DefectsFile
  deriving DecidableEq, Repr

def RecordDirectory.empty : RecordDirectory := ⟨none, none, none, none⟩

/-- `staging/<inspection id>-<suffix>`. -/
structure Job where
  inspectionId : String
  suffix : Nat
  deriving DecidableEq, Repr

structure Staging where
  record : RecordDirectory
  temporaries : String → Option (List Nat)
  previous : Option RecordDirectory

/-- The result root: `records`, `staging`, `blobs` and the catalog.  `clock` is the next reading of
the nanosecond clock that names the staging directories. -/
structure Store where
  records : String → Option RecordDirectory
  staging : Job → Option Staging
  blobs : String → Option (List Nat)
  catalog : Catalog
  clock : Nat

def Store.empty : Store where
  records _ := none
  staging _ := none
  blobs _ := none
  catalog := Catalog.empty
  clock := 0

/-! ## Calls -/

/-- The files of the record stage. -/
inductive StagedFile where
  | result (value : UnifiedResult)
  | record (value : UnifiedResult)
  | provenance (text : String)
  | defects (inspectionId : String) (defects : List ResultDefect)

/-- Which files a directory removal that failed has left. -/
structure Leftover where
  result : Bool
  record : Bool
  provenance : Bool
  defects : Bool
  deriving DecidableEq, Repr

/-- What a call meets: it works or fails; a removal that fails leaves some of the files. -/
inductive Env where
  | works
  | fails
  | failsLeaving (files : Leftover)
  deriving DecidableEq, Repr

inductive Call where
  /-- `is_file` and `fs::read` of `records/<id>/result.json`. -/
  | readRecord (inspectionId : String)
  | selectGeneration (inspectionId : String)
  | uniqueSuffix
  | createStaging (job : Job)
  /-- `fs::canonicalize` and `file_digest` of an artifact below the source directory. -/
  | readSource (entry : SourceEntry)
  | blobExists (sha256 : String)
  | copyToTemporary (job : Job) (sha256 : String) (content : List Nat)
  | renameTemporary (job : Job) (sha256 : String)
  | removeTemporary (job : Job) (sha256 : String)
  | writeStaged (job : Job) (file : StagedFile)
  | recordExists (inspectionId : String)
  /-- `fs::rename(&destination, &previous)`. -/
  | moveRecordAside (job : Job)
  /-- `fs::rename(&record_stage, &destination)`. -/
  | installRecord (job : Job)
  | previousExists (job : Job)
  /-- `fs::rename(previous, destination)`. -/
  | restorePrevious (job : Job)
  | publishCatalog (result : UnifiedResult)
  /-- `if destination.exists() { fs::remove_dir_all(destination)? }`. -/
  | removeRecord (inspectionId : String)
  | removePrevious (job : Job)
  | removeStaging (job : Job)

abbrev Call.Reply : Call → Type
  | .readRecord _ => Except ResultStoreError (Option ResultFile)
  | .selectGeneration _ => Except ResultStoreError (Option Nat)
  | .uniqueSuffix => Nat
  | .readSource _ => Except ResultStoreError SourceEntry
  | .blobExists _ | .recordExists _ | .previousExists _ => Bool
  | .publishCatalog _ => Except ResultStoreError Nat
  | _ => Except ResultStoreError Unit

/-- `records/.` and `records/..` are directories that cannot be renamed. -/
def isDotName (inspectionId : String) : Bool := inspectionId == "." || inspectionId == ".."

namespace Store

def setRecord (store : Store) (inspectionId : String) (directory : Option RecordDirectory) : Store :=
  { store with
    records := fun other => if other = inspectionId then directory else store.records other }

def setStaging (store : Store) (job : Job) (staging : Option Staging) : Store :=
  { store with staging := fun other => if other = job then staging else store.staging other }

variable (store : Store)

@[simp] theorem setRecord_self (id : String) (directory : Option RecordDirectory) :
    (store.setRecord id directory).records id = directory := by simp [setRecord]

theorem setRecord_other {id other : String} (directory : Option RecordDirectory)
    (different : other ≠ id) :
    (store.setRecord id directory).records other = store.records other := by
  simp [setRecord, different]

@[simp] theorem setStaging_self (job : Job) (staging : Option Staging) :
    (store.setStaging job staging).staging job = staging := by simp [setStaging]

end Store

def RecordDirectory.write (directory : RecordDirectory) : StagedFile → RecordDirectory
  | .result value => { directory with resultJson := some (.result value) }
  | .record value => { directory with recordJson := some (.result value) }
  | .provenance text => { directory with provenanceJson := some (.provenance text) }
  | .defects inspectionId defects =>
    { directory with defectsJson := some (.defects inspectionId defects) }

/-- What a write that fails leaves. -/
def RecordDirectory.garble (directory : RecordDirectory) : StagedFile → RecordDirectory
  | .result _ => { directory with resultJson := some .garbled }
  | .record _ => { directory with recordJson := some .garbled }
  | .provenance _ => { directory with provenanceJson := some .garbled }
  | .defects _ _ => { directory with defectsJson := some .garbled }

def RecordDirectory.leave (directory : RecordDirectory) (files : Leftover) : RecordDirectory where
  resultJson := if files.result then directory.resultJson else none
  recordJson := if files.record then directory.recordJson else none
  provenanceJson := if files.provenance then directory.provenanceJson else none
  defectsJson := if files.defects then directory.defectsJson else none

/-- A call that works unless it meets a failure, which leaves everything as it was. -/
def fallible {β : Type} (environment : Env) (store : Store) (reply : Except ResultStoreError β)
    (after : Store) : Except ResultStoreError β × Store :=
  match environment with
  | .works => (reply, after)
  | .fails | .failsLeaving _ => (.error .io, store)

/-- A change of the staging directory of a job, which has to be there. -/
def changeStaging (environment : Env) (store : Store) (job : Job)
    (change : Staging → Staging) : Except ResultStoreError Unit × Store :=
  match store.staging job with
  | none => (.error .io, store)
  | some staging => fallible environment store (.ok ()) (store.setStaging job (some (change staging)))

def effects : Effects Store Env Call Call.Reply
  | environment, .readRecord id, store =>
    fallible environment store (.ok ((store.records id).bind (·.resultJson))) store
  | environment, .selectGeneration id, store =>
    match environment with
    | .works => (.ok (store.catalog.generation? id), store)
    | .fails | .failsLeaving _ => (.error .sql, store)
  | _, .uniqueSuffix, store => (store.clock, { store with clock := store.clock + 1 })
  | environment, .createStaging job, store =>
    fallible environment store (.ok ()) (store.setStaging job
      (some ((store.staging job).getD ⟨RecordDirectory.empty, fun _ => none, none⟩)))
  | environment, .readSource entry, store => fallible environment store (.ok entry) store
  | _, .blobExists sha256, store => ((store.blobs sha256).isSome, store)
  | environment, .copyToTemporary job sha256 content, store =>
    changeStaging environment store job fun staging =>
      { staging with
        temporaries := fun other => if other = sha256 then some content else staging.temporaries other }
  | environment, .renameTemporary job sha256, store =>
    match store.staging job with
    | none => (.error .io, store)
    | some staging =>
      match staging.temporaries sha256 with
      | none => (.error .io, store)
      | some content =>
        fallible environment store (.ok ())
          { store.setStaging job (some
              { staging with
                temporaries := fun other =>
                  if other = sha256 then none else staging.temporaries other }) with
            blobs := fun other => if other = sha256 then some content else store.blobs other }
  | environment, .removeTemporary job sha256, store =>
    changeStaging environment store job fun staging =>
      { staging with
        temporaries := fun other => if other = sha256 then none else staging.temporaries other }
  | environment, .writeStaged job file, store =>
    match store.staging job with
    | none => (.error .io, store)
    | some staging =>
      match environment with
      | .works =>
        (.ok (), store.setStaging job (some { staging with record := staging.record.write file }))
      | .fails | .failsLeaving _ =>
        (.error .io, store.setStaging job (some { staging with record := staging.record.garble file }))
  | _, .recordExists id, store => ((store.records id).isSome || isDotName id, store)
  | environment, .moveRecordAside job, store =>
    match store.records job.inspectionId, store.staging job with
    | some directory, some staging =>
      -- A rename onto a directory that is there fails.
      if staging.previous.isSome || isDotName job.inspectionId then (.error .io, store)
      else
        fallible environment store (.ok ())
          ((store.setRecord job.inspectionId none).setStaging job
            (some { staging with previous := some directory }))
    | _, _ => (.error .io, store)
  | environment, .installRecord job, store =>
    match store.staging job with
    | none => (.error .io, store)
    | some staging =>
      if (store.records job.inspectionId).isSome || isDotName job.inspectionId then (.error .io, store)
      else
        fallible environment store (.ok ())
          ((store.setRecord job.inspectionId (some staging.record)).setStaging job
            (some { staging with record := RecordDirectory.empty }))
  | _, .previousExists job, store => (((store.staging job).bind (·.previous)).isSome, store)
  | environment, .restorePrevious job, store =>
    match store.staging job with
    | none => (.error .io, store)
    | some staging =>
      match staging.previous with
      | none => (.error .io, store)
      | some directory =>
        if (store.records job.inspectionId).isSome || isDotName job.inspectionId then
          (.error .io, store)
        else
          fallible environment store (.ok ())
            ((store.setRecord job.inspectionId (some directory)).setStaging job
              (some { staging with previous := none }))
  | environment, .publishCatalog result, store =>
    match environment, store.catalog.publish result with
    | .works, some (generation, catalog) => (.ok generation, { store with catalog })
    | _, _ => (.error .sql, store)
  | environment, .removeRecord id, store =>
    match store.records id, environment with
    | none, _ => (.ok (), store)
    | some _, .works => (.ok (), store.setRecord id none)
    | some _, .fails => (.error .io, store)
    | some directory, .failsLeaving files =>
      (.error .io, store.setRecord id (some (directory.leave files)))
  | environment, .removePrevious job, store =>
    match environment with
    | .works => changeStaging environment store job fun staging => { staging with previous := none }
    | .fails => (.error .io, store)
    | .failsLeaving files =>
      changeStaging .works store job fun staging =>
        { staging with previous := staging.previous.map (·.leave files) }
  | environment, .removeStaging job, store =>
    fallible environment store (.ok ()) (store.setStaging job none)

/-! ## The program -/

abbrev Publishing := Attempt Call Call.Reply ResultStoreError

/-- A call whose failure ends the function, as with `?`. -/
def try_ {β : Type} (program : Program Call Call.Reply (Except ResultStoreError β)) : Publishing β :=
  ExceptT.mk program

/-- A call that answers with a plain value. -/
def plain {β : Type} (program : Program Call Call.Reply β) : Publishing β :=
  ExceptT.mk (program >>= fun value => Program.pure (.ok value))

/-- `let _ = …`: the outcome of a call is dropped. -/
def ignore (program : Program Call Call.Reply (Except ResultStoreError Unit)) : Publishing Unit :=
  ExceptT.mk (program >>= fun _ => Program.pure (.ok ()))

def isIdCharacter (character : Char) : Bool :=
  Text.isAsciiAlphanumeric character || character == '-' || character == '_' || character == '.'

def validateId (value : String) : Except ResultStoreError Unit :=
  if (Text.trim value).isEmpty || value.utf8ByteSize > 128 || !value.toList.all isIdCharacter then
    .error (.invalid "invalid inspection id")
  else .ok ()

/-- The checks of `publish` before it looks at the store. -/
def checkInput (input : PublishInput) : Except ResultStoreError Unit :=
  match validateId input.inspectionId with
  | .error error => .error error
  | .ok () =>
    if input.result.schema ≠ resultSchema then .error (.invalid "unsupported unified result schema")
    else if input.result.inspectionId ≠ input.inspectionId then
      .error (.invalid "inspection id mismatch")
    else .ok ()

/-- The comparison of one artifact; what the new one leaves open is not compared. -/
def sameArtifact (old new : ResultArtifact) : Bool :=
  old.id = new.id && old.cameraId = new.cameraId && old.sequenceNo = new.sequenceNo &&
    old.kind = new.kind && old.mimeType = new.mimeType && old.width = new.width &&
    old.height = new.height && (new.size = 0 || old.size = new.size) &&
    (new.sha256.isEmpty || old.sha256 = new.sha256)

/-- The fingerprint comparison of `existing_generation_if_unchanged`. -/
def unchanged (existing new : UnifiedResult) : Bool :=
  existing.schema = new.schema && existing.sessionId = new.sessionId &&
    existing.materialId = new.materialId && existing.source = new.source &&
    existing.sourceRecordId = new.sourceRecordId && existing.inspectionTime = new.inspectionTime &&
    existing.sourceHash = new.sourceHash && existing.configHash = new.configHash &&
    existing.algorithmVersion = new.algorithmVersion && existing.status = new.status &&
    existing.cameraCount = new.cameraCount && existing.cameras = new.cameras &&
    existing.defectCount = new.defectCount && existing.material = new.material &&
    existing.defects = new.defects && existing.artifacts.length = new.artifacts.length &&
    (existing.artifacts.zip new.artifacts).all fun pair => sameArtifact pair.1 pair.2

def existingGenerationIfUnchanged (input : PublishInput) : Publishing (Option Nat) := do
  match ← try_ (Program.ask (Call.readRecord input.inspectionId)) with
  | some (.result existing) =>
    if unchanged existing input.result then
      try_ (Program.ask (Call.selectGeneration input.inspectionId))
    else pure none
  | _ => pure none

def isSeparator (character : Char) : Bool := character == '/' || character == '\\'

/-- The names between the separators of a path. -/
def pathParts : List Char → List (List Char)
  | [] => [[]]
  | character :: rest =>
    match pathParts rest with
    | [] => [[character]]
    | part :: parts =>
      if isSeparator character then [] :: part :: parts else (character :: part) :: parts

/-- `safe_relative` on the paths of Windows: no root, no drive, no way up, and no leading dot. -/
def isSafeRelative (path : String) : Bool :=
  match path.toList with
  | [] => false
  | first :: rest =>
    let parts := pathParts (first :: rest)
    !isSeparator first && !(Text.isAsciiAlphabetic first && rest.head? == some ':') &&
      parts.head? != some ['.'] && parts.all fun part => part != ['.', '.']

section

variable (sha256 : List Nat → String)

def blobPath (digest : String) : String := "blobs/" ++ digest

/-- An artifact with the size, the digest and the blob of its file. -/
def sealedArtifact (artifact : ResultArtifact) (content : List Nat) : ResultArtifact :=
  { artifact with
    size := content.length, sha256 := sha256 content, path := blobPath (sha256 content) }

/-- Puts the content of a file into content-addressed storage unless it is there. -/
def storeBlob (job : Job) (content : List Nat) : Publishing Unit := do
  let digest := sha256 content
  if ← plain (Program.ask (Call.blobExists digest)) then pure ()
  else
    try_ (Program.ask (Call.copyToTemporary job digest content))
    match ← plain (Program.ask (Call.renameTemporary job digest)) with
    | .ok () => pure ()
    | .error error =>
      if ← plain (Program.ask (Call.blobExists digest)) then
        ignore (Program.ask (Call.removeTemporary job digest))
      else throw error

/-- One round of the artifact loop. -/
def sealArtifact (source : String → SourceEntry) (job : Job) (artifact : ResultArtifact) :
    Publishing ResultArtifact := do
  if !isSafeRelative artifact.path then throw (.invalid "path must be a relative contained path")
  else
    match ← try_ (Program.ask (Call.readSource (source artifact.path))) with
    | .missing => throw .io
    | .outside | .directory => throw (.invalid "artifact escaped source directory")
    | .file content =>
      if artifact.size ≠ 0 ∧ artifact.size ≠ content.length then
        throw (.invalid ("artifact size mismatch: " ++ artifact.id))
      else if !artifact.sha256.isEmpty ∧ Text.toAsciiLowercase artifact.sha256 ≠ sha256 content then
        throw (.invalid ("artifact hash mismatch: " ++ artifact.id))
      else
        storeBlob sha256 job content
        pure (sealedArtifact sha256 artifact content)

def sealArtifacts (source : String → SourceEntry) (job : Job) :
    List ResultArtifact → Publishing (List ResultArtifact)
  | [] => pure []
  | artifact :: artifacts => do
    let first ← sealArtifact sha256 source job artifact
    let rest ← sealArtifacts source job artifacts
    pure (first :: rest)

def writeRecordStage (job : Job) (result : UnifiedResult) (provenance : Option String) :
    Publishing Unit := do
  try_ (Program.ask (Call.writeStaged job (.result result)))
  try_ (Program.ask (Call.writeStaged job (.record result)))
  match provenance with
  | some text => try_ (Program.ask (Call.writeStaged job (.provenance text)))
  | none => pure ()
  try_ (Program.ask (Call.writeStaged job (.defects result.inspectionId result.defects)))

/-- `if destination.exists() { fs::rename(&destination, &previous)?; }`. -/
def clearDestination (job : Job) : Publishing Unit := do
  if ← plain (Program.ask (Call.recordExists job.inspectionId)) then
    try_ (Program.ask (Call.moveRecordAside job))
  else pure ()

/-- `if previous.exists() { let _ = fs::rename(&previous, &destination); }`. -/
def giveBackPrevious (job : Job) : Publishing Unit := do
  if ← plain (Program.ask (Call.previousExists job)) then
    ignore (Program.ask (Call.restorePrevious job))
  else pure ()

/-- The directory switch: the record that is there goes aside, the stage takes its place. -/
def switchRecord (job : Job) : Publishing Unit := do
  clearDestination job
  match ← plain (Program.ask (Call.installRecord job)) with
  | .ok () => pure ()
  | .error error =>
    giveBackPrevious job
    throw error

def restorePreviousRecord (job : Job) : Publishing Unit := do
  try_ (Program.ask (Call.removeRecord job.inspectionId))
  if ← plain (Program.ask (Call.previousExists job)) then
    try_ (Program.ask (Call.restorePrevious job))
  else pure ()

/-- `if previous.exists() { let _ = fs::remove_dir_all(previous); }`. -/
def discardPrevious (job : Job) : Publishing Unit := do
  if ← plain (Program.ask (Call.previousExists job)) then
    ignore (Program.ask (Call.removePrevious job))
  else pure ()

/-- The catalog transaction, and the way back when it fails. -/
def commitRecord (job : Job) (result : UnifiedResult) : Publishing Nat := do
  match ← plain (Program.ask (Call.publishCatalog result)) with
  | .ok generation =>
    discardPrevious job
    ignore (Program.ask (Call.removeStaging job))
    pure generation
  | .error error =>
    match ← plain (restorePreviousRecord job).run with
    | .error rollbackError =>
      throw (.invalid ("catalog publication failed: " ++ error.text ++ "; record rollback failed: " ++
        rollbackError.text))
    | .ok () =>
      ignore (Program.ask (Call.removeStaging job))
      throw error

/-- The part of `publish` that writes: everything after the early return. -/
def publishRecord (input : PublishInput) : Publishing Nat := do
  let suffix ← plain (Program.ask Call.uniqueSuffix)
  let job : Job := ⟨input.inspectionId, suffix⟩
  try_ (Program.ask (Call.createStaging job))
  let artifacts ← sealArtifacts sha256 input.source job input.result.artifacts
  let result := { input.result with artifacts }
  writeRecordStage job result input.sourceProvenance
  switchRecord job
  commitRecord job result

def publish (input : PublishInput) : Publishing Nat :=
  match checkInput input with
  | .error error => throw error
  | .ok () => do
    match ← existingGenerationIfUnchanged input with
    | some generation => pure generation
    | none => publishRecord sha256 input

end

end SteelInspection.Results
