import SteelInspection.Foundations.Table
import SteelInspection.Service.Http

/-! # Results and the result catalog

The unified result of an inspection, the rows the catalog keeps of it, and the transaction that
replaces them.  A number with a fraction is kept as the text it is written as, a JSON value as its
compact text.
-/

namespace SteelInspection.Results

open Foundations

def resultSchema : String := "steel.inspection-result.v1"

/-- A floating-point number, as the text it is written as. -/
abbrev Number := String

structure ResultMaterial where
  steelType : Option String
  lengthMm : Option Number
  outerDiameterMm : Option Number
  wallThicknessMm : Option Number
  deriving DecidableEq, Repr

structure ResultArtifact where
  id : String
  cameraId : String
  sequenceNo : Nat
  kind : String
  path : String
  mimeType : String
  size : Nat
  sha256 : String
  width : Option Nat
  height : Option Nat
  deriving DecidableEq, Repr

structure ResultDefect where
  id : String
  cameraId : String
  sequenceNo : Nat
  defectType : String
  severity : Option Int
  confidence : Option Number
  artifacts : String
  deriving DecidableEq, Repr

structure UnifiedResult where
  schema : String
  inspectionId : String
  sessionId : String
  materialId : String
  source : String
  sourceRecordId : String
  inspectionTime : Option String
  status : String
  cameraCount : Nat
  cameras : List String
  defectCount : Nat
  material : ResultMaterial
  artifacts : List ResultArtifact
  defects : List ResultDefect
  sourceHash : String
  configHash : String
  algorithmVersion : String
  publishedAt : String
  deriving DecidableEq, Repr

/-! ## Catalog rows -/

/-- A row of `production_inspection`. -/
structure InspectionRow where
  id : String
  sessionId : String
  materialId : String
  inspectionTime : Option String
  status : String
  defectCount : Nat
  cameraCount : Nat
  sourceHash : String
  recordPath : String
  metadataJson : String
  generation : Nat
  deriving DecidableEq, Repr

/-- A row of `production_defect`. -/
structure DefectRow where
  id : String
  inspectionId : String
  cameraId : String
  sequenceNo : Nat
  defectType : String
  severity : Option Int
  confidence : Option Number
  artifactsJson : String
  deriving DecidableEq, Repr

/-- A row of `capture_file`. -/
structure CaptureFileRow where
  id : String
  inspectionId : String
  cameraId : String
  sequenceNo : Nat
  kind : String
  path : String
  size : Nat
  sha256 : String
  deriving DecidableEq, Repr

structure Catalog where
  inspections : Table InspectionRow InspectionRow.id
  defects : Table DefectRow DefectRow.id
  captureFiles : Table CaptureFileRow CaptureFileRow.id

def optionalJson (build : String → Json) : Option String → Json
  | none => .null
  | some text => build text

/-- `serde_json::to_string(&result.material)`. -/
def ResultMaterial.json (material : ResultMaterial) : String :=
  (Json.obj
    [("steelType", optionalJson .str material.steelType),
     ("lengthMm", optionalJson .float material.lengthMm),
     ("outerDiameterMm", optionalJson .float material.outerDiameterMm),
     ("wallThicknessMm", optionalJson .float material.wallThicknessMm)]).render

def inspectionRow (result : UnifiedResult) (generation : Nat) : InspectionRow where
  id := result.inspectionId
  sessionId := result.sessionId
  materialId := result.materialId
  inspectionTime := result.inspectionTime
  status := result.status
  defectCount := result.defectCount
  cameraCount := result.cameraCount
  sourceHash := result.sourceHash
  recordPath := "records/" ++ result.inspectionId
  metadataJson := result.material.json
  generation := generation

def defectRow (inspectionId : String) (defect : ResultDefect) : DefectRow where
  id := defect.id
  inspectionId := inspectionId
  cameraId := defect.cameraId
  sequenceNo := defect.sequenceNo
  defectType := defect.defectType
  severity := defect.severity
  confidence := defect.confidence
  artifactsJson := defect.artifacts

def captureFileRow (inspectionId : String) (artifact : ResultArtifact) : CaptureFileRow where
  id := artifact.id
  inspectionId := inspectionId
  cameraId := artifact.cameraId
  sequenceNo := artifact.sequenceNo
  kind := artifact.kind
  path := artifact.path
  size := artifact.size
  sha256 := artifact.sha256

/-- Everything the catalog says about one inspection. -/
structure InspectionRows where
  inspection : InspectionRow
  defects : List DefectRow
  captureFiles : List CaptureFileRow
  deriving DecidableEq, Repr

def rowsOf (result : UnifiedResult) (generation : Nat) : InspectionRows where
  inspection := inspectionRow result generation
  defects := result.defects.map (defectRow result.inspectionId)
  captureFiles := result.artifacts.map (captureFileRow result.inspectionId)

namespace Catalog

def empty : Catalog := ⟨Table.empty, Table.empty, Table.empty⟩

/-- What the catalog says about an inspection; `none` when it has no row for it. -/
def rows? (catalog : Catalog) (inspectionId : String) : Option InspectionRows :=
  (catalog.inspections.find? inspectionId).map fun inspection =>
    { inspection
      defects := catalog.defects.select fun row => decide (row.inspectionId = inspectionId)
      captureFiles := catalog.captureFiles.select fun row => decide (row.inspectionId = inspectionId) }

/-- `SELECT generation FROM production_inspection WHERE id = ?`. -/
def generation? (catalog : Catalog) (inspectionId : String) : Option Nat :=
  (catalog.inspections.find? inspectionId).map (·.generation)

/-- `SELECT COALESCE(MAX(generation), 0) + 1 FROM production_inspection`. -/
def nextGeneration (catalog : Catalog) : Nat :=
  (catalog.inspections.rows.map (·.generation)).foldl max 0 + 1

/-- The transaction of `publish`; `none` when a row violates a primary key, which rolls it back. -/
def publish (catalog : Catalog) (result : UnifiedResult) : Option (Nat × Catalog) :=
  let generation := catalog.nextGeneration
  let rows := rowsOf result generation
  let defects := catalog.defects.deleteWhere fun row => decide (row.inspectionId = result.inspectionId)
  let captureFiles :=
    catalog.captureFiles.deleteWhere fun row => decide (row.inspectionId = result.inspectionId)
  match defects.insertAll rows.defects, captureFiles.insertAll rows.captureFiles with
  | some defects, some captureFiles =>
    some (generation, ⟨catalog.inspections.put rows.inspection, defects, captureFiles⟩)
  | _, _ => none

theorem generation?_eq (catalog : Catalog) (inspectionId : String) :
    catalog.generation? inspectionId = (catalog.rows? inspectionId).map (·.inspection.generation) := by
  simp [generation?, rows?, Function.comp_def]

private theorem filter_replaced {Row : Type} (group : Row → String) (old new : List Row)
    (id other : String) (mem : ∀ row ∈ new, group row = id) :
    (old.filter (fun row => !decide (group row = id)) ++ new).filter
        (fun row => decide (group row = other)) =
      if other = id then new else old.filter fun row => decide (group row = other) := by
  rw [List.filter_append, List.filter_filter]
  by_cases same : other = id
  · simp_all
  have gone : new.filter (fun row => decide (group row = other)) = [] := by
    rw [List.filter_eq_nil_iff]
    intro row inNew
    have := mem row inNew
    simp [this, Ne.symm same]
  have kept : old.filter (fun row => decide (group row = other) && !decide (group row = id)) =
      old.filter fun row => decide (group row = other) := by
    apply List.filter_congr
    intro row _
    by_cases found : group row = other <;> simp [found, same]
  rw [gone, kept, if_neg same, List.append_nil]

theorem rows?_publish {catalog next : Catalog} {result : UnifiedResult} {generation : Nat}
    (published : catalog.publish result = some (generation, next)) (inspectionId : String) :
    next.rows? inspectionId =
      if inspectionId = result.inspectionId then some (rowsOf result generation)
      else catalog.rows? inspectionId := by
  simp only [publish] at published
  split at published
  next defects captureFiles defectsInserted filesInserted =>
    obtain ⟨rfl, rfl⟩ := published
    have defectRows := Table.rows_insertAll defectsInserted
    have fileRows := Table.rows_insertAll filesInserted
    simp only [Table.deleteWhere] at defectRows fileRows
    have sameDefects := filter_replaced DefectRow.inspectionId catalog.defects.rows
      (result.defects.map (defectRow result.inspectionId)) result.inspectionId inspectionId (by
        intro row mem
        obtain ⟨defect, -, rfl⟩ := List.mem_map.mp mem
        rfl)
    have sameFiles := filter_replaced CaptureFileRow.inspectionId catalog.captureFiles.rows
      (result.artifacts.map (captureFileRow result.inspectionId)) result.inspectionId inspectionId (by
        intro row mem
        obtain ⟨artifact, -, rfl⟩ := List.mem_map.mp mem
        rfl)
    have sameInspection := Table.find?_put catalog.inspections
      (inspectionRow result catalog.nextGeneration) inspectionId
    simp only [rows?, Table.select, rowsOf] at sameDefects sameFiles sameInspection ⊢
    rw [sameInspection, defectRows, fileRows]
    simp only [rowsOf]
    rw [sameDefects, sameFiles]
    by_cases same : inspectionId = result.inspectionId
    · subst same
      simp [inspectionRow]
    · have other : (inspectionRow result catalog.nextGeneration).id ≠ inspectionId := Ne.symm same
      simp [same, other]
  · cases published

end Catalog

end SteelInspection.Results
