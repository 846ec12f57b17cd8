import SteelInspection.Foundations.Table
import SteelInspection.Service.Database
import SteelInspection.Service.Http

/-! # Provenance of production inspections

An inspection row records where its data came from: the acquisition mode, the ids of a replayed data
set and whether the row counts as production.  Every upsert merges the evidence its payload carries
with what is stored.  A row that was replayed or is not eligible for production is protected: no
later upsert makes it a production row, and none changes an id, the hash or the mode it has.
-/

namespace SteelInspection.Production

open Foundations

structure ProductionInspection where
  id : String
  materialId : String
  sessionId : String
  status : String
  storageRoot : String
  summaryPath : String
  startedAt : String
  finishedAt : String
  captureCount : Int
  defectCount : Int
  sourceMode : String
  sourceDatasetId : String
  sourceRunId : String
  sourceSessionId : String
  sourceContentHash : String
  replayed : Bool
  productionEligible : Bool
  rawPayload : String
  deriving DecidableEq, Repr

abbrev Inspections := Table ProductionInspection ProductionInspection.id

structure ProductionInspectionInput where
  id : String
  materialId : String
  sessionId : String
  status : String
  storageRoot : String
  summaryPath : String
  startedAt : String
  finishedAt : String
  captureCount : Int
  defectCount : Int
  rawPayload : String
  deriving DecidableEq, Repr

/-! ## Evidence in a payload -/

structure ProductionSourceEvidence where
  sourceMode : String
  sourceModeExplicit : Bool
  sourceDatasetId : String
  sourceRunId : String
  sourceSessionId : String
  sourceContentHash : String
  replayed : Bool
  productionEligible : Bool
  deriving DecidableEq, Repr

def boundedSourceValue (value : Option String) (maximum : Nat) : String :=
  String.ofList ((Text.trim (value.getD "")).toList.take maximum)

/-- `collect_source_provenance`; the depth is counted down from 9, since nothing deeper than 8 is
looked at. -/
def collectSourceProvenance : Nat → Json → List Json → List Json
  | 0, _, output => output
  | deeper + 1, value, output =>
    if 32 ≤ output.length then output
    else
      match value with
      | .obj fields =>
        (fields.take 64).foldl (fun output field => collectSourceProvenance deeper field.2 output)
          (output ++ ((Json.obj fields).get? "sourceProvenance").toList)
      | .arr items =>
        (items.take 32).foldl (fun output item => collectSourceProvenance deeper item output) output
      | _ => output

def sourceString (values : List Json) (keys : List String) : Option String :=
  values.findSome? fun value =>
    ((keys.findSome? fun key => (value.get? key).bind Json.asStr).map Text.trim).filter (· ≠ "")

def sourceBool (values : List Json) (keys : List String) : Option Bool :=
  values.findSome? fun value => keys.findSome? fun key => (value.get? key).bind Json.asBool

def sourceAcquisitionMode (values : List Json) : Option String :=
  values.findSome? fun value =>
    ((["sourceMode", "runtimeMode", "acquisitionMode"].filterMap fun key =>
      (value.get? key).bind Json.asStr).map Text.trim).find? fun mode =>
        Text.toAsciiLowercase mode ∈ ["online", "offline", "simulation"]

/-- `production_source_evidence`, of the value a JSON reader makes of the payload if it reads it, in a
process that was started in this source mode. -/
def productionSourceEvidence (runtimeSourceMode : String) (parsed : Option Json) :
    ProductionSourceEvidence :=
  let payload := parsed.getD .null
  let values := collectSourceProvenance 9 payload [payload]
  let replayed :=
    (sourceBool values ["replayed"]).getD false || decide (runtimeSourceMode = "simulation")
  let declaredMode := sourceAcquisitionMode values
  let declared := Text.toAsciiLowercase (declaredMode.getD runtimeSourceMode)
  let sourceMode :=
    if replayed ∨ declared = "simulation" then "simulation"
    else if declared = "online" then "online"
    else "legacy_unknown"
  let provenanceValues := values.drop 1
  { sourceMode
    sourceModeExplicit := replayed || declaredMode.isSome
    sourceDatasetId := boundedSourceValue
      ((sourceString values ["sourceDatasetId"]).or (sourceString provenanceValues ["datasetId"])) 128
    sourceRunId := boundedSourceValue
      ((sourceString values ["sourceRunId"]).or (sourceString provenanceValues ["runId"])) 128
    sourceSessionId := boundedSourceValue (sourceString values ["sourceSessionId"]) 128
    sourceContentHash := boundedSourceValue
      ((sourceString values ["sourceContentHash"]).or
        (sourceString provenanceValues ["contentHash"])) 128
    replayed
    productionEligible := decide (sourceMode ≠ "simulation") && !replayed }

/-! ## The upsert -/

def ProductionInspection.protectedProvenance (row : ProductionInspection) : Bool :=
  row.replayed || !row.productionEligible

def conflicts (current incoming : String) : Bool :=
  decide (current ≠ "") && decide (incoming ≠ "") && decide (current ≠ incoming)

def ProductionSourceEvidence.contradicts (evidence : ProductionSourceEvidence)
    (row : ProductionInspection) : Bool :=
  (evidence.sourceModeExplicit && decide (evidence.sourceMode ≠ "legacy_unknown") &&
      conflicts row.sourceMode evidence.sourceMode) ||
    conflicts row.sourceDatasetId evidence.sourceDatasetId ||
    conflicts row.sourceRunId evidence.sourceRunId ||
    conflicts row.sourceSessionId evidence.sourceSessionId ||
    conflicts row.sourceContentHash evidence.sourceContentHash

def provenanceConflict : DbErr :=
  ⟨"production_source_provenance_conflict: replay provenance is immutable"⟩

def mergedText (isProtected : Bool) (current incoming : String) : String :=
  if incoming = "" ∨ (isProtected = true ∧ current ≠ "") then current else incoming

def mergedMode (isProtected : Bool) (current : String) (evidence : ProductionSourceEvidence) :
    String :=
  if isProtected = true ∧ current ≠ "legacy_unknown" then current
  else if evidence.sourceMode = "legacy_unknown" ∨
      (evidence.sourceModeExplicit = false ∧ current = "legacy_unknown") then current
  else evidence.sourceMode

def updatedInspection (input : ProductionInspectionInput) (evidence : ProductionSourceEvidence)
    (row : ProductionInspection) : ProductionInspection :=
  { row with
    materialId := input.materialId
    sessionId := input.sessionId
    status := input.status
    storageRoot := input.storageRoot
    summaryPath := input.summaryPath
    finishedAt := input.finishedAt
    captureCount := input.captureCount
    defectCount := input.defectCount
    sourceMode := mergedMode row.protectedProvenance row.sourceMode evidence
    sourceDatasetId :=
      mergedText row.protectedProvenance row.sourceDatasetId evidence.sourceDatasetId
    sourceRunId := mergedText row.protectedProvenance row.sourceRunId evidence.sourceRunId
    sourceSessionId :=
      mergedText row.protectedProvenance row.sourceSessionId evidence.sourceSessionId
    sourceContentHash :=
      mergedText row.protectedProvenance row.sourceContentHash evidence.sourceContentHash
    replayed := row.replayed || evidence.replayed
    productionEligible := row.productionEligible && evidence.productionEligible
    rawPayload := input.rawPayload }

variable (input : ProductionInspectionInput)

theorem updatedInspection_id (evidence : ProductionSourceEvidence) (row : ProductionInspection) :
    (updatedInspection input evidence row).id = row.id := rfl

def insertedInspection (input : ProductionInspectionInput) (evidence : ProductionSourceEvidence) :
    ProductionInspection where
  id := input.id
  materialId := input.materialId
  sessionId := input.sessionId
  status := input.status
  storageRoot := input.storageRoot
  summaryPath := input.summaryPath
  startedAt := input.startedAt
  finishedAt := input.finishedAt
  captureCount := input.captureCount
  defectCount := input.defectCount
  sourceMode := evidence.sourceMode
  sourceDatasetId := evidence.sourceDatasetId
  sourceRunId := evidence.sourceRunId
  sourceSessionId := evidence.sourceSessionId
  sourceContentHash := evidence.sourceContentHash
  replayed := evidence.replayed
  productionEligible := evidence.productionEligible
  rawPayload := input.rawPayload

/-- A call of `upsert_production_inspection`: its input, what a JSON reader makes of the payload, the
source mode of the process, and what happens to its two database statements. -/
structure UpsertCall where
  input : ProductionInspectionInput
  payload : Option Json
  runtimeSourceMode : String
  lookup : Connection := .works
  statement : Connection := .works

def UpsertCall.evidence (call : UpsertCall) : ProductionSourceEvidence :=
  productionSourceEvidence call.runtimeSourceMode call.payload

def upsertProductionInspection (call : UpsertCall) (inspections : Inspections) :
    Except DbErr ProductionInspection × Inspections :=
  match call.lookup.query (inspections.find? call.input.id) inspections with
  | (.error error, _) => (.error error, inspections)
  | (.ok (some row), _) =>
    if row.protectedProvenance && call.evidence.contradicts row then
      (.error provenanceConflict, inspections)
    else
      call.statement.write (.ok (updatedInspection call.input call.evidence row)) inspections
        (inspections.update row.id (updatedInspection call.input call.evidence)
          (updatedInspection_id call.input call.evidence))
  | (.ok none, _) =>
    let inserted := insertedInspection call.input call.evidence
    match inspections.insert inserted with
    | some next => call.statement.write (.ok inserted) inspections next
    | none => (.error ⟨"UNIQUE constraint failed: production_inspection.id"⟩, inspections)

/-! ## What a row keeps -/

/-- What a row's provenance has become is what a protected row allows. -/
structure ProductionInspection.KeptBy (row later : ProductionInspection) : Prop where
  replayed : row.replayed = true → later.replayed = true
  ineligible : row.productionEligible = false → later.productionEligible = false
  sourceMode : row.protectedProvenance = true → row.sourceMode ≠ "legacy_unknown" →
    later.sourceMode = row.sourceMode
  sourceDatasetId : row.protectedProvenance = true → row.sourceDatasetId ≠ "" →
    later.sourceDatasetId = row.sourceDatasetId
  sourceRunId : row.protectedProvenance = true → row.sourceRunId ≠ "" →
    later.sourceRunId = row.sourceRunId
  sourceSessionId : row.protectedProvenance = true → row.sourceSessionId ≠ "" →
    later.sourceSessionId = row.sourceSessionId
  sourceContentHash : row.protectedProvenance = true → row.sourceContentHash ≠ "" →
    later.sourceContentHash = row.sourceContentHash

variable {row : ProductionInspection} {inspections : Inspections}

namespace ProductionInspection.KeptBy

theorem refl (row : ProductionInspection) : row.KeptBy row where
  replayed given := given
  ineligible given := given
  sourceMode _ _ := rfl
  sourceDatasetId _ _ := rfl
  sourceRunId _ _ := rfl
  sourceSessionId _ _ := rfl
  sourceContentHash _ _ := rfl

theorem stillProtected {later : ProductionInspection} (kept : row.KeptBy later)
    (isProtected : row.protectedProvenance = true) : later.protectedProvenance = true := by
  unfold protectedProvenance at *
  cases replayed : row.replayed with
  | true => simp [kept.replayed replayed]
  | false =>
    have ineligible : row.productionEligible = false := by simpa [replayed] using isProtected
    simp [kept.ineligible ineligible]

/-- A column that two steps in a row keep is kept by both together. -/
theorem column_trans {column : ProductionInspection → String} {empty : String}
    {next last : ProductionInspection} (kept : row.KeptBy next)
    (first : row.protectedProvenance = true → column row ≠ empty → column next = column row)
    (second : next.protectedProvenance = true → column next ≠ empty → column last = column next)
    (isProtected : row.protectedProvenance = true) (given : column row ≠ empty) :
    column last = column row := by
  have same := first isProtected given
  exact (second (kept.stillProtected isProtected) (same ▸ given)).trans same

theorem trans {next last : ProductionInspection} (first : row.KeptBy next)
    (second : next.KeptBy last) : row.KeptBy last where
  replayed given := second.replayed (first.replayed given)
  ineligible given := second.ineligible (first.ineligible given)
  sourceMode := first.column_trans first.sourceMode second.sourceMode
  sourceDatasetId := first.column_trans first.sourceDatasetId second.sourceDatasetId
  sourceRunId := first.column_trans first.sourceRunId second.sourceRunId
  sourceSessionId := first.column_trans first.sourceSessionId second.sourceSessionId
  sourceContentHash := first.column_trans first.sourceContentHash second.sourceContentHash

end ProductionInspection.KeptBy

theorem mergedText_of_protected {isProtected : Bool} {current incoming : String}
    (guarded : isProtected = true) (given : current ≠ "") :
    mergedText isProtected current incoming = current := by
  simp [mergedText, guarded, given]

theorem updatedInspection_kept (evidence : ProductionSourceEvidence) (row : ProductionInspection) :
    row.KeptBy (updatedInspection input evidence row) where
  replayed given := by simp [updatedInspection, given]
  ineligible given := by simp [updatedInspection, given]
  sourceMode guarded given := by simp [updatedInspection, mergedMode, guarded, given]
  sourceDatasetId guarded given := mergedText_of_protected guarded given
  sourceRunId guarded given := mergedText_of_protected guarded given
  sourceSessionId guarded given := mergedText_of_protected guarded given
  sourceContentHash guarded given := mergedText_of_protected guarded given

/-! ## Every sequence of upserts -/

theorem upsert_cases (call : UpsertCall) (inspections : Inspections) :
    (upsertProductionInspection call inspections).2 = inspections ∨
    (∃ row, inspections.find? call.input.id = some row ∧
      (upsertProductionInspection call inspections).2 =
        inspections.update row.id (updatedInspection call.input call.evidence)
          (updatedInspection_id call.input call.evidence)) ∨
    ∃ next, inspections.insert (insertedInspection call.input call.evidence) = some next ∧
      (upsertProductionInspection call inspections).2 = next := by
  unfold upsertProductionInspection
  cases call.lookup <;> cases call.statement <;> simp only [Connection.query, Connection.write] <;>
    grind

theorem upsert_kept (call : UpsertCall) {id : String} (found : inspections.find? id = some row) :
    ∃ later, (upsertProductionInspection call inspections).2.find? id = some later ∧
      row.KeptBy later := by
  rcases upsert_cases call inspections with same | ⟨other, _, written⟩ | ⟨next, inserted, isNext⟩
  · exact ⟨row, by rw [same, found], .refl row⟩
  · rw [written, Table.find?_update]
    split
    · exact ⟨_, by rw [found, Option.map_some], updatedInspection_kept _ _ row⟩
    · exact ⟨row, found, .refl row⟩
  · exact ⟨row, isNext ▸ Table.find?_insert_of_found inserted found, .refl row⟩

def afterUpserts (calls : List UpsertCall) (inspections : Inspections) : Inspections :=
  calls.foldl (fun inspections call => (upsertProductionInspection call inspections).2) inspections

theorem afterUpserts_kept (calls : List UpsertCall) {id : String}
    (found : inspections.find? id = some row) :
    ∃ later, (afterUpserts calls inspections).find? id = some later ∧ row.KeptBy later := by
  induction calls generalizing inspections row with
  | nil => exact ⟨row, found, .refl row⟩
  | cons call calls ih =>
    obtain ⟨next, foundNext, keptNext⟩ := upsert_kept call found
    obtain ⟨later, foundLater, keptLater⟩ := ih foundNext
    exact ⟨later, foundLater, keptNext.trans keptLater⟩

/-- Once a row is protected, it is so after every sequence of upserts: what makes it protected stays,
its ids, its hash and its mode do not change once they are given, and an upsert that contradicts
them fails and leaves the table as it was. -/
theorem provenance_sticky {inspections : Inspections} {id : String} {row : ProductionInspection}
    (found : inspections.find? id = some row) (isProtected : row.protectedProvenance = true)
    (calls : List UpsertCall) :
    ∃ later, (afterUpserts calls inspections).find? id = some later ∧ row.KeptBy later ∧
      later.protectedProvenance = true ∧
      ∀ call : UpsertCall, call.input.id = id → call.evidence.contradicts later = true →
        ∃ error, upsertProductionInspection call (afterUpserts calls inspections) =
          (.error error, afterUpserts calls inspections) := by
  obtain ⟨later, foundLater, kept⟩ := afterUpserts_kept calls found
  have stillProtected := kept.stillProtected isProtected
  refine ⟨later, foundLater, kept, stillProtected, fun call sameId contradicts => ?_⟩
  -- a contradicting upsert of a protected row fails and writes nothing
  rw [← sameId] at foundLater
  unfold upsertProductionInspection
  cases connection : call.lookup with
  | works =>
    exact ⟨provenanceConflict,
      by simp [Connection.query, foundLater, stillProtected, contradicts]⟩
  | fails error | losesReply error => exact ⟨error, rfl⟩

/-! ## A replayed inspection -/

def statusInput (status rawPayload : String) : ProductionInspectionInput :=
  ⟨"INSP-1", "M-1", "SESSION-1", status, "D:/inspection", "", "1000", "", 1, 0, rawPayload⟩

/-- The upsert of a replay names its data set and its run. -/
def replayUpsert : UpsertCall where
  input := statusInput "capturing" "replay"
  payload := some (.obj [("sourceProvenance", .obj [("datasetId", .str "dataset-a"),
    ("replayed", .bool true), ("runId", .str "run-a"), ("runtimeMode", .str "simulation")])])
  runtimeSourceMode := "legacy_unknown"

def onlineUpsert : UpsertCall where
  input := statusInput "completed" "online"
  payload := some (.obj [("sourceProvenance", .obj [("runtimeMode", .str "online")])])
  runtimeSourceMode := "legacy_unknown"

def statusUpsert : UpsertCall where
  input := statusInput "completed" "status"
  payload := some (.obj [])
  runtimeSourceMode := "legacy_unknown"

/-- The replayed row is still one after the two, and the declaration as online is refused. -/
theorem replay_stays_replay : ∃ row later : ProductionInspection,
      (afterUpserts [replayUpsert] Table.empty).find? "INSP-1" = some row ∧
      (row.replayed, row.sourceDatasetId, row.sourceMode) = (true, "dataset-a", "simulation") ∧
      (afterUpserts [onlineUpsert, statusUpsert] (afterUpserts [replayUpsert] Table.empty)).find?
        "INSP-1" = some later ∧ row.KeptBy later ∧ later.protectedProvenance = true := by
  obtain ⟨row, found, facts⟩ : ∃ row,
      (afterUpserts [replayUpsert] Table.empty).find? "INSP-1" = some row ∧
      (row.replayed, row.sourceDatasetId, row.sourceMode) = (true, "dataset-a", "simulation") :=
    Option.map_eq_some_iff.mp (by decide +kernel)
  have isProtected : row.protectedProvenance = true := by
    simp [ProductionInspection.protectedProvenance, (Prod.mk.inj facts).1]
  obtain ⟨later, foundLater, kept, stillProtected, _⟩ :=
    provenance_sticky found isProtected [onlineUpsert, statusUpsert]
  exact ⟨row, later, found, facts, foundLater, kept, stillProtected⟩

end SteelInspection.Production
