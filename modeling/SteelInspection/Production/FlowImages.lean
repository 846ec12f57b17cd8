import Mathlib.Data.List.Dedup
import SteelInspection.Foundations.Fallible
import SteelInspection.Foundations.Table
import SteelInspection.Foundations.Text
import SteelInspection.Service.Database

/-! # Images of a steel flow

A flow numbers the images of one capture session.  An image is known by its camera and its sequence
number there: appending a known image gives the row that is stored, appending a new one takes the
next number of the flow.  `append_steel_flow_image` does this for one image and
`append_steel_flow_images` for a list, with counters of its own and one insert at the end.

Both are transactions.  A statement may bind only so many variables, which limits the batch and not
the single appends.  `Numbered` says how the numbers of a store look; every operation keeps it.
A batch of one session within the limit then does what the single appends do one after another:
committing the batch after each of its inputs would give the store the single appends have made so
far, up to the readings of the clock.
-/

namespace SteelInspection.Production

open Foundations Foundations.Fallible

structure SteelFlow where
  flowNo : Nat
  flowCode : String
  sessionId : String
  materialId : String
  source : String
  status : String
  nextImageNo : Nat
  imageCount : Nat
  storageRoot : String
  startedAt : String
  finishedAt : String
  updatedAt : String
  rawPayload : String
  deriving DecidableEq, Repr

structure SteelFlowImage where
  flowNo : Nat
  imageNo : Nat
  inspectionId : String
  sessionId : String
  materialId : String
  cameraId : String
  cameraIp : String
  cameraSequenceNo : Int
  depthPath : String
  intensityPath : String
  metadataPath : String
  width : Int
  height : Int
  meanIntensity : String
  capturedAt : String
  createdAt : String
  deriving DecidableEq, Repr

structure SteelFlowInput where
  sessionId : String
  materialId : String
  minimumFlowNo : Int
  source : String
  status : String
  storageRoot : String
  startedAt : String
  rawPayload : String
  deriving DecidableEq, Repr

structure SteelFlowImageInput where
  inspectionId : String
  sessionId : String
  materialId : String
  cameraId : String
  cameraIp : String
  cameraSequenceNo : Int
  depthPath : String
  intensityPath : String
  metadataPath : String
  width : Int
  height : Int
  meanIntensity : String
  capturedAt : String
  deriving DecidableEq, Repr

structure SteelFlowImageAppend where
  image : SteelFlowImage
  inserted : Bool
  deriving DecidableEq, Repr

structure FlowStore where
  flows : List SteelFlow
  images : List SteelFlowImage
  deriving DecidableEq, Repr

namespace FlowStore

def empty : FlowStore := ⟨[], []⟩

/-! ## Statements -/

/-- The flow of a session; the column has a unique index. -/
def flowOf (store : FlowStore) (sessionId : String) : Option SteelFlow :=
  store.flows.find? fun flow => flow.sessionId = sessionId

def insertFlow (store : FlowStore) (flow : SteelFlow) : Except DbErr FlowStore := do
  require (∀ row ∈ store.flows, row.flowNo ≠ flow.flowNo)
    ⟨"UNIQUE constraint failed: steel_flow.flow_no"⟩
  require (∀ row ∈ store.flows, row.sessionId ≠ flow.sessionId)
    ⟨"UNIQUE constraint failed: steel_flow.session_id"⟩
  return { store with flows := store.flows ++ [flow] }

def saveFlow (store : FlowStore) (flow : SteelFlow) : FlowStore :=
  { store with flows := store.flows.map fun row => if row.flowNo = flow.flowNo then flow else row }

end FlowStore

def SteelFlowImage.number (image : SteelFlowImage) : Nat × Nat := (image.flowNo, image.imageNo)

/-- The columns of the unique index `idx_steel_flow_image_source`. -/
def SteelFlowImage.source (image : SteelFlowImage) : Nat × String × Int :=
  (image.flowNo, image.cameraId, image.cameraSequenceNo)

def FlowStore.insertImage (store : FlowStore) (image : SteelFlowImage) : Except DbErr FlowStore := do
  require (∀ row ∈ store.images, row.number ≠ image.number)
    ⟨"UNIQUE constraint failed: steel_flow_image.flow_no, steel_flow_image.image_no"⟩
  require (∀ row ∈ store.images, row.source ≠ image.source)
    ⟨"UNIQUE constraint failed: steel_flow_image.flow_no, steel_flow_image.camera_id, " ++
      "steel_flow_image.camera_sequence_no"⟩
  return { store with images := store.images ++ [image] }

/-- The variables that the insert of one image binds. -/
def imageColumns : Nat := 16

/-- How many variables one statement may bind: 32766 in SQLite, and those of one image in any case. -/
abbrev BindLimit := { limit : Nat // imageColumns ≤ limit }

def tooManyVariables : DbErr := ⟨"too many SQL variables"⟩

/-- `insert_many`: one statement for all rows. -/
def FlowStore.insertImages (limit : BindLimit) (store : FlowStore) (images : List SteelFlowImage) :
    Except DbErr FlowStore := do
  require (imageColumns * images.length ≤ limit.1) tooManyVariables
  images.foldlM FlowStore.insertImage store

/-- A transaction is committed when its body ends well and rolled back when it fails. -/
def transaction {α : Type} (body : FlowStore → Except DbErr (α × FlowStore)) (store : FlowStore) :
    Except DbErr α × FlowStore :=
  match body store with
  | .ok (value, next) => (.ok value, next)
  | .error error => (.error error, store)

/-! ## Flows -/

/-- The columns `start_steel_flow` sets on the flow that a session already has. -/
def restartedFlow (now : String) (input : SteelFlowInput) (flow : SteelFlow) : SteelFlow :=
  { flow with
    materialId := if Text.trim input.materialId = "" then flow.materialId else input.materialId
    source := input.source
    status := input.status
    storageRoot := if Text.trim input.storageRoot = "" then flow.storageRoot else input.storageRoot
    updatedAt := now
    rawPayload := input.rawPayload }

/-- The number of a new flow; without a minimum the database assigns one. -/
def FlowStore.newFlowNo (store : FlowStore) (assigned : Nat) (minimumFlowNo : Int) : Nat :=
  if 0 < minimumFlowNo then
    -- `saturating_add` of an `i64`
    max minimumFlowNo.toNat (min ((store.flows.map SteelFlow.flowNo).foldl max 0 + 1)
      9223372036854775807)
  else assigned

def newFlow (now : String) (flowNo : Nat) (input : SteelFlowInput) : SteelFlow where
  flowNo := flowNo
  flowCode := ""
  sessionId := input.sessionId
  materialId := input.materialId
  source := input.source
  status := input.status
  nextImageNo := 1
  imageCount := 0
  storageRoot := input.storageRoot
  startedAt := if Text.trim input.startedAt = "" then now else input.startedAt
  finishedAt := ""
  updatedAt := now
  rawPayload := input.rawPayload

/-- What `start_steel_flow` sets once the number of the new flow is known. -/
def namedFlow (now : String) (input : SteelFlowInput) (flow : SteelFlow) : SteelFlow :=
  { flow with
    flowCode := "FLOW-" ++ Text.padDecimal 10 flow.flowNo
    materialId := if Text.trim input.materialId = "" then toString flow.flowNo else flow.materialId
    updatedAt := now }

def startSteelFlow (now : String) (assigned : Nat) (input : SteelFlowInput) (store : FlowStore) :
    Except DbErr SteelFlow × FlowStore :=
  match store.flowOf input.sessionId with
  | some flow => (.ok (restartedFlow now input flow), store.saveFlow (restartedFlow now input flow))
  | none =>
    let flow := newFlow now (store.newFlowNo assigned input.minimumFlowNo) input
    match store.insertFlow flow with
    | .ok next => (.ok (namedFlow now input flow), next.saveFlow (namedFlow now input flow))
    | .error error => (.error error, store)

def updateSteelFlowStatus (now sessionId status finishedAt rawPayload : String)
    (store : FlowStore) : Option SteelFlow × FlowStore :=
  match store.flowOf sessionId with
  | none => (none, store)
  | some flow =>
    let updated := { flow with status, finishedAt, updatedAt := now, rawPayload }
    (some updated, store.saveFlow updated)

/-! ## One image -/

def flowMissing (sessionId : String) : DbErr :=
  ⟨"steel flow is missing for capture session " ++ sessionId⟩

/-- The row of a new image. -/
def newImage (flowNo imageNo : Nat) (now : String) (input : SteelFlowImageInput) :
    SteelFlowImage where
  flowNo := flowNo
  imageNo := imageNo
  inspectionId := input.inspectionId
  sessionId := input.sessionId
  materialId := input.materialId
  cameraId := input.cameraId
  cameraIp := input.cameraIp
  cameraSequenceNo := input.cameraSequenceNo
  depthPath := input.depthPath
  intensityPath := input.intensityPath
  metadataPath := input.metadataPath
  width := input.width
  height := input.height
  meanIntensity := input.meanIntensity
  capturedAt := if Text.trim input.capturedAt = "" then now else input.capturedAt
  createdAt := now

def numberedFlow (flow : SteelFlow) (nextImageNo : Nat) (now : String) : SteelFlow :=
  { flow with nextImageNo, imageCount := nextImageNo - 1, updatedAt := now }

/-- The stored image of the session with the camera and the sequence number of the input. -/
def FlowStore.imageOf (store : FlowStore) (input : SteelFlowImageInput) : Option SteelFlowImage :=
  store.images.find? fun image =>
    image.sessionId = input.sessionId ∧ image.cameraId = input.cameraId ∧
      image.cameraSequenceNo = input.cameraSequenceNo

def appendNewImage (now : String) (input : SteelFlowImageInput) (store : FlowStore) :
    Except DbErr (SteelFlowImageAppend × FlowStore) :=
  match store.flowOf input.sessionId with
  | none => .error (flowMissing input.sessionId)
  | some flow => do
    let imageNo := max flow.nextImageNo 1
    let image := newImage flow.flowNo imageNo now input
    let next ← store.insertImage image
    return (⟨image, true⟩, next.saveFlow (numberedFlow flow (imageNo + 1) now))

def appendSteelFlowImage (now : String) (input : SteelFlowImageInput) :
    FlowStore → Except DbErr SteelFlowImageAppend × FlowStore :=
  transaction fun store =>
    match store.imageOf input with
    | some image => .ok (⟨image, false⟩, store)
    | none => appendNewImage now input store

/-! ## A batch -/

/-- The variables of the loop of `append_steel_flow_images`; the map `by_source` is the list of its
values, the newest first. -/
structure Batch where
  bySource : List SteelFlowImage
  nextImageNo : Nat
  activeModels : List SteelFlowImage
  appended : List SteelFlowImageAppend

def Batch.get (batch : Batch) (input : SteelFlowImageInput) : Option SteelFlowImage :=
  batch.bySource.find? fun image =>
    image.cameraId = input.cameraId ∧ image.cameraSequenceNo = input.cameraSequenceNo

def Batch.add (flowNo : Nat) (now : String) (batch : Batch) (input : SteelFlowImageInput) : Batch :=
  match batch.get input with
  | some image => { batch with appended := batch.appended ++ [⟨image, false⟩] }
  | none =>
    let image := newImage flowNo batch.nextImageNo now input
    { bySource := image :: batch.bySource
      nextImageNo := batch.nextImageNo + 1
      activeModels := batch.activeModels ++ [image]
      appended := batch.appended ++ [⟨image, true⟩] }

/-- The loop; `clock` gives the reading for each position of the list. -/
def Batch.addAll (flowNo : Nat) (clock : Nat → String) : List SteelFlowImageInput → Batch → Batch
  | [], batch => batch
  | input :: inputs, batch =>
    Batch.addAll flowNo clock inputs (batch.add flowNo (clock batch.appended.length) input)

/-- The images of the flow whose camera and whose sequence number occur in the inputs. -/
def FlowStore.existing (store : FlowStore) (flowNo : Nat) (inputs : List SteelFlowImageInput) :
    List SteelFlowImage :=
  store.images.filter fun image =>
    image.flowNo = flowNo ∧ image.cameraId ∈ inputs.map SteelFlowImageInput.cameraId ∧
      image.cameraSequenceNo ∈ inputs.map SteelFlowImageInput.cameraSequenceNo

def FlowStore.batch (store : FlowStore) (flow : SteelFlow) (inputs : List SteelFlowImageInput) :
    Batch where
  bySource := (store.existing flow.flowNo inputs).reverse
  nextImageNo := max flow.nextImageNo 1
  activeModels := []
  appended := []

def Batch.commit (limit : BindLimit) (batch : Batch) (flow : SteelFlow) (now : String)
    (store : FlowStore) : Except DbErr (List SteelFlowImageAppend × FlowStore) :=
  if batch.activeModels = [] then .ok (batch.appended, store)
  else do
    let next ← store.insertImages limit batch.activeModels
    return (batch.appended, next.saveFlow (numberedFlow flow batch.nextImageNo now))

/-- What the lookup of the stored images binds: the flow, and each camera and sequence number once. -/
def lookupVariables (inputs : List SteelFlowImageInput) : Nat :=
  1 + (inputs.map SteelFlowImageInput.cameraId).dedup.length +
    (inputs.map SteelFlowImageInput.cameraSequenceNo).dedup.length

def batchOfSession (limit : BindLimit) (clock : Nat → String) (sessionId : String)
    (inputs : List SteelFlowImageInput) (store : FlowStore) :
    Except DbErr (List SteelFlowImageAppend × FlowStore) :=
  match store.flowOf sessionId with
  | none => .error (flowMissing sessionId)
  | some flow => do
    require (lookupVariables inputs ≤ limit.1) tooManyVariables
    ((store.batch flow inputs).addAll flow.flowNo clock inputs).commit limit flow
      (clock inputs.length) store

def batchOfSeveralSessions : DbErr := ⟨"steel flow image batch must use one session_id"⟩

def appendSteelFlowImages (limit : BindLimit) (clock : Nat → String)
    (inputs : List SteelFlowImageInput) (store : FlowStore) :
    Except DbErr (List SteelFlowImageAppend) × FlowStore :=
  match inputs with
  | [] => (.ok [], store)
  | first :: _ =>
    if inputs.any fun input => input.sessionId ≠ first.sessionId then
      (.error batchOfSeveralSessions, store)
    else transaction (batchOfSession limit clock first.sessionId inputs) store

/-- The single appends of a list one after another, up to the first that fails. -/
def appendEach (clock : Nat → String) : List SteelFlowImageInput → List SteelFlowImageAppend →
    FlowStore → Except DbErr (List SteelFlowImageAppend) × FlowStore
  | [], appended, store => (.ok appended, store)
  | input :: inputs, appended, store =>
    match appendSteelFlowImage (clock appended.length) input store with
    | (.ok append, next) => appendEach clock inputs (appended ++ [append]) next
    | (.error error, next) => (.error error, next)

/-! ## The numbers of a store -/

/-- Every flow has the image numbers 1 to n, in the order in which the images came, with `n + 1` next
and `n` as the count, and every camera and sequence number of a flow has one row. -/
structure Numbered (store : FlowStore) : Prop where
  flowNos : (store.flows.map SteelFlow.flowNo).Nodup
  sessions : (store.flows.map SteelFlow.sessionId).Nodup
  owned : ∀ image ∈ store.images,
    ∃ flow ∈ store.flows, flow.flowNo = image.flowNo ∧ flow.sessionId = image.sessionId
  counted : ∀ flow ∈ store.flows,
    (store.images.filter fun image => image.flowNo = flow.flowNo).map SteelFlowImage.imageNo =
      List.range' 1 flow.imageCount
  next : ∀ flow ∈ store.flows, flow.nextImageNo = flow.imageCount + 1
  numbers : (store.images.map SteelFlowImage.number).Nodup
  sources : (store.images.map SteelFlowImage.source).Nodup

namespace Numbered

variable {store : FlowStore} {flow : SteelFlow} {image : SteelFlowImage}

section

variable (numbered : Numbered store) {input : SteelFlowImageInput}
include numbered

theorem same_flow {other : SteelFlow} (mine : flow ∈ store.flows) (others : other ∈ store.flows)
    (same : other.flowNo = flow.flowNo) : other = flow :=
  List.inj_on_of_nodup_map numbered.flowNos others mine same

theorem flowOf_iff {sessionId : String} :
    store.flowOf sessionId = some flow ↔ flow ∈ store.flows ∧ flow.sessionId = sessionId := by
  constructor
  · intro found
    exact ⟨List.mem_of_find?_eq_some found, by simpa using List.find?_some found⟩
  rintro ⟨mem, rfl⟩
  cases found : store.flowOf flow.sessionId with
  | none => simpa using List.find?_eq_none.mp found flow mem
  | some other =>
    have session : other.sessionId = flow.sessionId := by simpa using List.find?_some found
    rw [List.inj_on_of_nodup_map numbered.sessions (List.mem_of_find?_eq_some found) mem session]

theorem session_iff (mine : flow ∈ store.flows) (mem : image ∈ store.images) :
    image.flowNo = flow.flowNo ↔ image.sessionId = flow.sessionId := by
  obtain ⟨owner, owning, sameNo, sameSession⟩ := numbered.owned image mem
  constructor
  · intro same
    rw [← numbered.same_flow mine owning (sameNo.trans same), sameSession]
  · grind [List.inj_on_of_nodup_map, numbered.sessions]

theorem imageOf_iff :
    store.imageOf input = some image ↔ image ∈ store.images ∧ image.sessionId = input.sessionId ∧
      image.cameraId = input.cameraId ∧ image.cameraSequenceNo = input.cameraSequenceNo := by
  constructor
  · intro found
    exact ⟨List.mem_of_find?_eq_some found, by simpa using List.find?_some found⟩
  rintro ⟨mem, session, camera, sequence⟩
  cases found : store.imageOf input with
  | none =>
    have differs := List.find?_eq_none.mp found image mem
    simp [session, camera, sequence] at differs
  | some other =>
    have others := List.mem_of_find?_eq_some found
    obtain ⟨otherSession, otherCamera, otherSequence⟩ :
        other.sessionId = input.sessionId ∧ other.cameraId = input.cameraId ∧
          other.cameraSequenceNo = input.cameraSequenceNo := by simpa using List.find?_some found
    -- one session has one flow, so the two agree in all columns of the unique index
    obtain ⟨owner, owning, sameNo, sameSession⟩ := numbered.owned image mem
    have sameFlow : other.flowNo = owner.flowNo := by
      rw [numbered.session_iff owning others, otherSession, ← session, sameSession]
    have sameSource : other.source = image.source := by
      simp [SteelFlowImage.source, sameFlow, sameNo, otherCamera, otherSequence, camera, sequence]
    rw [List.inj_on_of_nodup_map numbered.sources others mem sameSource]

variable (mine : flow ∈ store.flows) (mem : image ∈ store.images)
include mine mem

theorem number_fresh : image.number ≠ (flow.flowNo, flow.nextImageNo) := by
  intro same
  obtain ⟨sameFlow, sameNumber⟩ := Prod.mk.inj same
  have taken : image.imageNo ∈ List.range' 1 flow.imageCount := by
    rw [← numbered.counted flow mine]
    exact List.mem_map.mpr ⟨image, List.mem_filter.mpr ⟨mem, by simpa using sameFlow⟩, rfl⟩
  have next := numbered.next flow mine
  have bound := (List.mem_range'_1.mp taken).2
  omega

theorem source_fresh (session : flow.sessionId = input.sessionId)
    (missing : store.imageOf input = none) :
    image.source ≠ (flow.flowNo, input.cameraId, input.cameraSequenceNo) := by
  intro same
  simp only [SteelFlowImage.source, Prod.mk.injEq] at same
  have sameSession := (numbered.session_iff mine mem).mp same.1
  have found := numbered.imageOf_iff.mpr ⟨mem, sameSession.trans session, same.2⟩
  cases missing.symm.trans found

end

end Numbered

/-! ## A store that has grown -/

/-- The store with more images, whose flow is now this. -/
def FlowStore.grown (store : FlowStore) (flow : SteelFlow) (added : List SteelFlowImage) :
    FlowStore :=
  { store with images := store.images ++ added }.saveFlow flow

namespace FlowStore

variable {store : FlowStore} {flow later row : SteelFlow} {added : List SteelFlowImage}

@[simp] theorem grown_images : (store.grown flow added).images = store.images ++ added := rfl

theorem saveFlow_eq_grown : store.saveFlow flow = store.grown flow [] := by
  simp [grown]

/-- A column in which the saved flow agrees with the old one is as it was. -/
theorem map_grown {β : Type} (column : SteelFlow → β)
    (same : ∀ row ∈ store.flows, row.flowNo = flow.flowNo → column flow = column row) :
    (store.grown flow added).flows.map column = store.flows.map column := by
  simp only [grown, saveFlow, List.map_map]
  refine List.map_congr_left fun row mem => ?_
  simp only [Function.comp_apply]
  split
  next isLater =>
    exact same row mem isLater
  · rfl

theorem mem_grown (mem : row ∈ (store.grown flow added).flows) :
    row = flow ∨ row ∈ store.flows ∧ row.flowNo ≠ flow.flowNo := by
  obtain ⟨old, oldMember, isRow⟩ := List.mem_map.mp mem
  split at isRow
  · exact .inl isRow.symm
  next differs =>
    exact .inr ⟨isRow ▸ oldMember, isRow ▸ differs⟩

theorem mem_grown_self (mine : flow ∈ store.flows) (same : later.flowNo = flow.flowNo) :
    later ∈ (store.grown later added).flows :=
  List.mem_map.mpr ⟨flow, mine, if_pos same.symm⟩

theorem grown_grown (same : later.flowNo = flow.flowNo) (more : List SteelFlowImage) :
    (store.grown flow added).grown later more = store.grown later (added ++ more) := by
  have saved : ∀ row : SteelFlow,
      (if (if row.flowNo = flow.flowNo then flow else row).flowNo = later.flowNo then later
        else if row.flowNo = flow.flowNo then flow else row) =
      if row.flowNo = later.flowNo then later else row := by
    intro row
    by_cases isFlow : row.flowNo = flow.flowNo
    · simp [isFlow, same]
    · simp [isFlow, same]
  simp [grown, saveFlow, Function.comp_def, saved]

end FlowStore

/-- A flow that gets more images with the numbers that follow keeps the store numbered. -/
theorem Numbered.grown {store : FlowStore} {flow later : SteelFlow} {added : List SteelFlowImage}
    (numbered : Numbered store) (mine : flow ∈ store.flows) (sameNo : later.flowNo = flow.flowNo)
    (sameSession : later.sessionId = flow.sessionId)
    (count : later.imageCount = flow.imageCount + added.length)
    (next : later.nextImageNo = later.imageCount + 1)
    (owned : ∀ image ∈ added, image.flowNo = flow.flowNo ∧ image.sessionId = flow.sessionId)
    (following : added.map SteelFlowImage.imageNo = List.range' (1 + flow.imageCount) added.length)
    (numbers : ((store.images ++ added).map SteelFlowImage.number).Nodup)
    (sources : ((store.images ++ added).map SteelFlowImage.source).Nodup) :
    Numbered (store.grown later added) where
  flowNos := by
    rw [FlowStore.map_grown SteelFlow.flowNo fun _ _ isLater => isLater.symm]
    exact numbered.flowNos
  sessions := by
    rw [FlowStore.map_grown SteelFlow.sessionId fun row mem isLater => ?_]
    · exact numbered.sessions
    · rw [numbered.same_flow mine mem (isLater.trans sameNo), sameSession]
  owned image mem := by
    rcases List.mem_append.mp mem with old | new
    · obtain ⟨owner, owning, ownerNo, ownerSession⟩ := numbered.owned image old
      by_cases isLater : owner.flowNo = later.flowNo
      · grind [FlowStore.mem_grown_self, numbered.same_flow]
      · exact ⟨owner, List.mem_map.mpr ⟨owner, owning, if_neg isLater⟩, ownerNo, ownerSession⟩
    · grind [FlowStore.mem_grown_self]
  counted row mem := by
    rcases FlowStore.mem_grown mem with rfl | ⟨old, differs⟩
    · have all : added.filter (fun image => image.flowNo = row.flowNo) = added :=
        List.filter_eq_self.mpr fun image new => by simp [owned image new, sameNo]
      have before := numbered.counted flow mine
      rw [← sameNo] at before
      rw [FlowStore.grown_images, List.filter_append, List.map_append, before, all, following, count,
        List.range'_append_1]
    · have none : added.filter (fun image => image.flowNo = row.flowNo) = [] := by
        refine List.filter_eq_nil_iff.mpr fun image new isRow => differs ?_
        rw [sameNo, ← (owned image new).1]
        exact (by simpa using isRow : image.flowNo = row.flowNo).symm
      rw [FlowStore.grown_images, List.filter_append, none, List.append_nil,
        numbered.counted row old]
  next row mem := by
    rcases FlowStore.mem_grown mem with rfl | ⟨old, _⟩
    · exact next
    · exact numbered.next row old
  numbers := numbers
  sources := sources

theorem Numbered.saveFlow {store : FlowStore} {flow later : SteelFlow} (numbered : Numbered store)
    (mine : flow ∈ store.flows) (sameNo : later.flowNo = flow.flowNo)
    (sameSession : later.sessionId = flow.sessionId) (count : later.imageCount = flow.imageCount)
    (next : later.nextImageNo = flow.nextImageNo) : Numbered (store.saveFlow later) := by
  rw [FlowStore.saveFlow_eq_grown]
  have following := numbered.next flow mine
  exact numbered.grown mine sameNo sameSession (by simpa using count) (by omega)
    (fun _ mem => (List.not_mem_nil mem).elim) rfl (by simpa using numbered.numbers)
    (by simpa using numbered.sources)

/-! ## One append -/

section append

variable {store : FlowStore} {flow : SteelFlow} {image : SteelFlowImage} {now : String}
  {input : SteelFlowImageInput}

/-- An insert under two unique indexes, of a flow as of an image. -/
theorem insert_eq_ok {first second : Prop} [Decidable first] [Decidable second]
    {error other : DbErr} {inserted next : FlowStore} :
    (do require first error; require second other; return inserted) = Except.ok next ↔
      first ∧ second ∧ inserted = next := by
  simp only [bind_eq_ok, require_eq_ok, exists_const, pure, Except.pure, Except.ok.injEq]

theorem append_known (found : store.imageOf input = some image) :
    appendSteelFlowImage now input store = (.ok ⟨image, false⟩, store) := by
  simp [appendSteelFlowImage, transaction, found]

theorem append_missing (unknown : store.imageOf input = none)
    (missing : store.flowOf input.sessionId = none) :
    appendSteelFlowImage now input store = (.error (flowMissing input.sessionId), store) := by
  simp [appendSteelFlowImage, transaction, unknown, appendNewImage, missing]

section

variable (numbered : Numbered store) (unknown : store.imageOf input = none)
  (found : store.flowOf input.sessionId = some flow)
include numbered unknown found

/-- In a numbered store a new image takes the next number of its flow. -/
theorem append_new : appendSteelFlowImage now input store =
      (.ok ⟨newImage flow.flowNo flow.nextImageNo now input, true⟩,
        store.grown (numberedFlow flow (flow.nextImageNo + 1) now)
          [newImage flow.flowNo flow.nextImageNo now input]) := by
  obtain ⟨mine, session⟩ := numbered.flowOf_iff.mp found
  have positive : max flow.nextImageNo 1 = flow.nextImageNo := by
    have := numbered.next flow mine
    omega
  have inserted : store.insertImage (newImage flow.flowNo flow.nextImageNo now input) = .ok _ :=
    insert_eq_ok.mpr ⟨fun row mem => numbered.number_fresh mine mem,
      fun row mem => numbered.source_fresh mine mem session unknown, rfl⟩
  have ended : appendNewImage now input store =
      .ok (⟨newImage flow.flowNo flow.nextImageNo now input, true⟩,
        store.grown (numberedFlow flow (flow.nextImageNo + 1) now)
          [newImage flow.flowNo flow.nextImageNo now input]) := by
    simp only [appendNewImage, found, positive]
    rw [bind_eq_ok]
    exact ⟨_, inserted, rfl⟩
  simp [appendSteelFlowImage, transaction, unknown, ended]

/-- A flow with one more image is numbered again, whatever time is recorded. -/
theorem Numbered.grown_new (now updatedAt : String) :
    Numbered (store.grown (numberedFlow flow (flow.nextImageNo + 1) updatedAt)
      [newImage flow.flowNo flow.nextImageNo now input]) := by
  obtain ⟨mine, session⟩ := numbered.flowOf_iff.mp found
  have next := numbered.next flow mine
  refine numbered.grown mine rfl rfl ?_ rfl ?_ ?_ ?_ ?_
  · exact next
  · intro image isNew
    rw [List.mem_singleton.mp isNew]
    exact ⟨rfl, session.symm⟩
  · show [flow.nextImageNo] = [1 + flow.imageCount]
    rw [next, Nat.add_comm]
  · exact Table.nodup_concat numbered.numbers fun row mem => numbered.number_fresh mine mem
  · exact Table.nodup_concat numbered.sources fun row mem =>
      numbered.source_fresh mine mem session unknown

end

theorem Numbered.append (numbered : Numbered store) (now : String) (input : SteelFlowImageInput) :
    Numbered (appendSteelFlowImage now input store).2 := by
  cases known : store.imageOf input with
  | some image =>
    rw [append_known known]
    exact numbered
  | none =>
    cases found : store.flowOf input.sessionId with
    | none =>
      rw [append_missing known found]
      exact numbered
    | some flow =>
      rw [append_new numbered known found]
      exact numbered.grown_new known found now now

end append

/-! ## Timestamps aside -/

def SteelFlow.untimed (flow : SteelFlow) : SteelFlow := { flow with updatedAt := "" }

def SteelFlowImage.untimed (image : SteelFlowImage) : SteelFlowImage :=
  { image with capturedAt := "", createdAt := "" }

def SteelFlowImageAppend.untimed (append : SteelFlowImageAppend) : SteelFlowImageAppend :=
  { append with image := append.image.untimed }

def FlowStore.untimed (store : FlowStore) : FlowStore where
  flows := store.flows.map SteelFlow.untimed
  images := store.images.map SteelFlowImage.untimed

/-- What a list of appends has answered and stored, the timestamps blanked. -/
def untimedOutcome (outcome : Except DbErr (List SteelFlowImageAppend) × FlowStore) :
    Except DbErr (List SteelFlowImageAppend) × FlowStore :=
  (outcome.1.map (List.map SteelFlowImageAppend.untimed), outcome.2.untimed)

section untimed

variable {store other : FlowStore}

theorem untimed_imageOf (store : FlowStore) (input : SteelFlowImageInput) :
    store.untimed.imageOf input = (store.imageOf input).map SteelFlowImage.untimed :=
  List.find?_map

theorem untimed_flowOf (store : FlowStore) (sessionId : String) :
    store.untimed.flowOf sessionId = (store.flowOf sessionId).map SteelFlow.untimed :=
  List.find?_map

theorem untimed_grown (store : FlowStore) (flow : SteelFlow) (added : List SteelFlowImage) :
    (store.grown flow added).untimed =
      store.untimed.grown flow.untimed (added.map SteelFlowImage.untimed) := by
  have saved : ∀ row : SteelFlow, (if row.flowNo = flow.flowNo then flow else row).untimed =
        if row.untimed.flowNo = flow.untimed.flowNo then flow.untimed else row.untimed := by
    intro row
    exact apply_ite SteelFlow.untimed _ _ _
  simp [FlowStore.grown, FlowStore.saveFlow, FlowStore.untimed, Function.comp_def, saved]

theorem untimed_numberedFlow (flow : SteelFlow) (nextImageNo : Nat) (now : String) :
    (numberedFlow flow nextImageNo now).untimed = numberedFlow flow.untimed nextImageNo "" := rfl

/-- Stores that differ in timestamps only answer a single append alike and stay alike. -/
theorem append_untimed (numbered : Numbered store) (numberedOther : Numbered other)
    (same : store.untimed = other.untimed) (input : SteelFlowImageInput) (now later : String) :
    (appendSteelFlowImage now input store).1.map SteelFlowImageAppend.untimed =
        (appendSteelFlowImage later input other).1.map SteelFlowImageAppend.untimed ∧
      (appendSteelFlowImage now input store).2.untimed =
        (appendSteelFlowImage later input other).2.untimed := by
  have images : (store.imageOf input).map SteelFlowImage.untimed =
      (other.imageOf input).map SteelFlowImage.untimed := by
    rw [← untimed_imageOf, ← untimed_imageOf, same]
  have flows : (store.flowOf input.sessionId).map SteelFlow.untimed =
      (other.flowOf input.sessionId).map SteelFlow.untimed := by
    rw [← untimed_flowOf, ← untimed_flowOf, same]
  cases known : store.imageOf input with
  | some image =>
    rw [known, Option.map_some, eq_comm, Option.map_eq_some_iff] at images
    obtain ⟨otherImage, otherKnown, sameImage⟩ := images
    rw [append_known known, append_known otherKnown]
    exact ⟨by simp [Except.map, SteelFlowImageAppend.untimed, sameImage], same⟩
  | none =>
    rw [known, Option.map_none, eq_comm, Option.map_eq_none_iff] at images
    cases found : store.flowOf input.sessionId with
    | none =>
      rw [found, Option.map_none, eq_comm, Option.map_eq_none_iff] at flows
      rw [append_missing known found, append_missing images flows]
      exact ⟨rfl, same⟩
    | some flow =>
      rw [found, Option.map_some, eq_comm, Option.map_eq_some_iff] at flows
      obtain ⟨otherFlow, otherFound, sameFlow⟩ := flows
      have sameNo : otherFlow.flowNo = flow.flowNo := (congrArg SteelFlow.flowNo sameFlow :)
      have sameNext : otherFlow.nextImageNo = flow.nextImageNo :=
        (congrArg SteelFlow.nextImageNo sameFlow :)
      rw [append_new numbered known found, append_new numberedOther images otherFound, sameNo,
        sameNext]
      constructor
      · simp only [Except.map, SteelFlowImageAppend.untimed, newImage, SteelFlowImage.untimed]
      · simp only [untimed_grown, same, untimed_numberedFlow, sameFlow, List.map_singleton, newImage,
          SteelFlowImage.untimed]

end untimed

end SteelInspection.Production
