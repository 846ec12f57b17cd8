import SteelInspection.Results.Consistent

/-! # Publication over every run

A publication that answers with a generation has published its input, after any number of earlier
publications of any inspections that ran to their end or stopped on the way, provided none of them
ended between the directory switch and the catalog transaction of a catalogued inspection.
-/

namespace SteelInspection.Results

open Foundations

section

variable (sha256 : List Nat → String) {input : PublishInput} {existing new : UnifiedResult}
  {artifacts sealed : List ResultArtifact} {source : String → SourceEntry} {store : Store}

theorem pointsToBlobs_sealed (known : sealedArtifacts sha256 source artifacts = some sealed) :
    ∀ artifact ∈ sealed, artifact.path = blobPath artifact.sha256 := by
  induction artifacts generalizing sealed with
  | nil =>
    cases known
    exact nofun
  | cons artifact artifacts ih =>
    simp only [sealedArtifacts] at known
    split at known
    next content rest _ restKnown =>
      cases known
      intro mem found
      rcases List.mem_cons.mp found with rfl | later
      · rfl
      · exact ih restKnown mem later
    · cases known

/-- The part that writes publishes the input, or fails and leaves a consistent store. -/
theorem publishRecord_leads (named : input.result.inspectionId = input.inspectionId)
    (consistent : store.Consistent) :
    Leads (Returns (fun generation after => after.Consistent ∧
        Published sha256 input generation after) Store.Consistent)
      (publishRecord sha256 input).run store := by
  have suffixes : Leads (fun suffix after => after.Consistent ∧ suffix < after.clock ∧
      after.staging ⟨input.inspectionId, suffix⟩ = none) (Program.ask Call.uniqueSuffix) store := by
    refine .ask Call.uniqueSuffix (fun _ => consistent) ?_
    intro env _
    refine ⟨⟨fun id => (consistent.agrees id).congr rfl rfl, ?_⟩, Nat.lt_succ_self _,
      consistent.staging_used _ (Nat.le_refl _)⟩
    exact fun job late => consistent.staging_used job (Nat.le_of_succ_le late)
  refine suffixes.plain_bind ?_
  rintro suffix suffixed ⟨stillConsistent, used, fresh⟩
  have created : Leads (Returns (fun _ => Staged ⟨input.inspectionId, suffix⟩ RecordDirectory.empty)
      Store.Consistent)
      (try_ (Program.ask (Call.createStaging ⟨input.inspectionId, suffix⟩))).run suffixed := by
    refine .ask (Call.createStaging _) (fun _ => stillConsistent) ?_
    intro env _
    cases env with
    | fails | failsLeaving _ => exact stillConsistent
    | works =>
      have kept : (suffixed.setStaging ⟨input.inspectionId, suffix⟩
          (some ⟨RecordDirectory.empty, fun _ => none, none⟩)).Consistent :=
        stillConsistent.setStaging used _
      simp only [effects, fresh, Option.getD_none, fallible]
      exact ⟨kept, used, _, Store.setStaging_self _ _ _⟩
  refine created.andThen fun _ _ staged => ?_
  refine (sealArtifacts_leads sha256 input.source input.result.artifacts staged).attempt ?_
    fun _ _ kept => kept.consistent
  rintro artifacts filled ⟨staged, artifactsSealed⟩
  refine (writeRecordStage_leads { input.result with artifacts } input.sourceProvenance
    staged).andThen fun _ _ complete => ?_
  refine (switchRecord_leads complete).andThen fun _ _ switched => ?_
  refine (commitRecord_leads named (pointsToBlobs_sealed sha256 artifactsSealed) switched).mono ?_
  intro outcome last ended
  cases outcome with
  | ok generation =>
    exact ⟨ended.consistent, _, _, { input.result with artifacts }, ended.installed,
      ended.described, by simp [sealedResult, artifactsSealed], rfl⟩
  | error _ => exact ended

/-! ## The early return -/

@[mk_iff sameArtifact_fields]
structure SameArtifact (old new : ResultArtifact) : Prop where
  id : old.id = new.id
  cameraId : old.cameraId = new.cameraId
  sequenceNo : old.sequenceNo = new.sequenceNo
  kind : old.kind = new.kind
  mimeType : old.mimeType = new.mimeType
  width : old.width = new.width
  height : old.height = new.height
  size : new.size = 0 ∨ old.size = new.size
  sha256 : new.sha256.isEmpty = true ∨ old.sha256 = new.sha256

theorem sameArtifact_iff {old new : ResultArtifact} :
    sameArtifact old new = true ↔ SameArtifact old new := by
  simp [sameArtifact, sameArtifact_fields, and_assoc]

@[mk_iff unchanged_fields]
structure Unchanged (existing new : UnifiedResult) : Prop where
  schema : existing.schema = new.schema
  sessionId : existing.sessionId = new.sessionId
  materialId : existing.materialId = new.materialId
  source : existing.source = new.source
  sourceRecordId : existing.sourceRecordId = new.sourceRecordId
  inspectionTime : existing.inspectionTime = new.inspectionTime
  sourceHash : existing.sourceHash = new.sourceHash
  configHash : existing.configHash = new.configHash
  algorithmVersion : existing.algorithmVersion = new.algorithmVersion
  status : existing.status = new.status
  cameraCount : existing.cameraCount = new.cameraCount
  cameras : existing.cameras = new.cameras
  defectCount : existing.defectCount = new.defectCount
  material : existing.material = new.material
  defects : existing.defects = new.defects
  length : existing.artifacts.length = new.artifacts.length
  artifacts : ∀ pair ∈ existing.artifacts.zip new.artifacts, SameArtifact pair.1 pair.2

theorem unchanged_iff : unchanged existing new = true ↔ Unchanged existing new := by
  simp only [unchanged, unchanged_fields, Bool.and_eq_true, decide_eq_true_eq, List.all_eq_true,
    sameArtifact_iff, and_assoc]

/-- Artifacts that the fingerprint comparison takes for the same, with the same files, have the same
catalog rows. -/
theorem rows_of_unchanged {old new : List ResultArtifact} (inspectionId : String)
    (sealedKnown : sealedArtifacts sha256 source new = some sealed)
    (same : ∀ pair ∈ old.zip new, SameArtifact pair.1 pair.2)
    (files : digests sealed = digests old)
    (pointing : ∀ artifact ∈ old, artifact.path = blobPath artifact.sha256) :
    sealed.map (captureFileRow inspectionId) = old.map (captureFileRow inspectionId) := by
  induction new generalizing old sealed with
  | nil =>
    cases sealedKnown
    cases old with
    | nil => rfl
    | cons first others => simp [digests] at files
  | cons artifact rest ih =>
    simp only [sealedArtifacts] at sealedKnown
    split at sealedKnown
    next content restSealed file restKnown =>
      cases sealedKnown
      cases old with
      | nil => simp [digests] at files
      | cons first others =>
        simp only [digests, List.map_cons, List.cons.injEq, Prod.mk.injEq] at files
        rw [List.zip_cons_cons, List.forall_mem_cons] at same
        have fields : SameArtifact first artifact := same.1
        have blob := pointing first List.mem_cons_self
        have restSame := ih restKnown same.2 files.2
          (fun artifact mem => pointing artifact (List.mem_cons_of_mem _ mem))
        simp only [List.map_cons, restSame, List.cons.injEq, and_true]
        simp only [sealedArtifact] at files
        simp [captureFileRow, sealedArtifact, fields.id, fields.cameraId, fields.sequenceNo, fields.kind,
          blob, files.1]
    · cases sealedKnown

/-- What the fingerprint comparison says about the fields the catalog keeps. -/
theorem rowsOf_unchanged (same : Unchanged existing new) (generation : Nat)
    (named : existing.inspectionId = new.inspectionId)
    (files : artifacts.map (captureFileRow new.inspectionId) =
      existing.artifacts.map (captureFileRow new.inspectionId)) :
    rowsOf { new with artifacts } generation = rowsOf existing generation := by
  simp only [rowsOf, inspectionRow, named, same.sessionId, same.materialId, same.inspectionTime,
    same.sourceHash, same.status, same.cameraCount, same.defectCount, same.material, same.defects,
    files]

section

variable (consistent : store.Consistent) (honest : fingerprintHonest sha256 input store = true)
  (named : input.result.inspectionId = input.inspectionId)
include consistent honest named

/-- The early return answers with the generation of rows that describe the record on disk and, when
the fingerprint is honest, the input. -/
theorem published_of_unchanged
    (readable : (store.records input.inspectionId).bind (·.resultJson) = some (.result existing))
    (same : unchanged existing input.result = true) {generation : Nat}
    (found : store.catalog.generation? input.inspectionId = some generation) :
    Published sha256 input generation store := by
  obtain ⟨directory, present, result⟩ := Option.bind_eq_some_iff.mp readable
  rw [Catalog.generation?_eq] at found
  obtain ⟨rows, described, rfl⟩ := Option.map_eq_some_iff.mp found
  obtain ⟨existingNamed, pointing, ⟨provenance, rfl⟩, rowsKnown⟩ :=
    consistent.agrees input.inspectionId directory existing rows present result described
  -- The artifact files are the ones of the record.
  have files : (sealedResult sha256 input).map (fun sealed => digests sealed.artifacts) =
      some (digests existing.artifacts) := by
    simpa [fingerprintHonest, readable, Catalog.generation?_eq, described, same] using honest
  obtain ⟨sealed, sealedKnown, sameDigests⟩ := Option.map_eq_some_iff.mp files
  obtain ⟨artifacts, artifactsKnown, rfl⟩ := Option.map_eq_some_iff.mp sealedKnown
  refine ⟨existing, provenance, _, present, described.trans (congrArg some rowsKnown), sealedKnown, ?_⟩
  have fields := unchanged_iff.mp same
  apply rowsOf_unchanged fields _ (existingNamed.trans named.symm)
  exact rows_of_unchanged sha256 input.result.inspectionId artifactsKnown fields.artifacts sameDigests
    pointing

theorem existingGeneration_leads :
    Leads (Returns (fun found after => after.Consistent ∧ ∀ generation ∈ found,
        Published sha256 input generation after) Store.Consistent)
      (existingGenerationIfUnchanged input).run store := by
  have reads : Leads (Returns (fun file after => after = store ∧
      file = (store.records input.inspectionId).bind (·.resultJson)) Store.Consistent)
      (try_ (Program.ask (Call.readRecord input.inspectionId))).run store := by
    refine .ask (Call.readRecord input.inspectionId) (fun _ => consistent) ?_
    intro env _
    cases env with
    | works => exact ⟨rfl, rfl⟩
    | fails | failsLeaving _ => exact consistent
  refine reads.andThen ?_
  rintro file _ ⟨rfl, known⟩
  split
  · split
    next same =>
      refine .ask (Call.selectGeneration input.inspectionId) (fun _ => consistent) ?_
      intro env _
      cases env with
      | works =>
        refine ⟨consistent, fun generation found => ?_⟩
        exact published_of_unchanged sha256 consistent honest named known.symm same found
      | fails | failsLeaving _ => exact consistent
    · exact .pure ⟨consistent, nofun⟩
  · exact .pure ⟨consistent, nofun⟩

end

/-! ## Every run -/

/-- One publication from a consistent store leaves a consistent store wherever it ends, and has
published its input when it answers with a generation. -/
theorem publish_leads (input : PublishInput) (store : Store)
    (honest : fingerprintHonest sha256 input store = true) (consistent : store.Consistent) :
    Leads (fun outcome after => after.Consistent ∧
        Returns (Published sha256 input) (fun _ => True) outcome after)
      (publish sha256 input).run store := by
  unfold publish
  split
  · exact .pure ⟨consistent, trivial⟩
  rename_i checked
  have named : input.result.inspectionId = input.inspectionId := by
    unfold checkInput at checked
    split at checked
    · cases checked
    · grind
  refine (existingGeneration_leads sha256 consistent honest named).attempt ?_
    fun _ _ kept => ⟨kept, trivial⟩
  rintro found after ⟨kept, published⟩
  cases found with
  | some generation => exact .pure ⟨kept, published generation rfl⟩
  | none =>
    refine (publishRecord_leads sha256 named kept).mono fun outcome after ended => ?_
    cases outcome with
    | ok generation => exact ended
    | error _ => exact ⟨ended, trivial⟩

/-- Over every run of publications, finished or stopped, that are calm: a publication that answers
with a generation leaves catalog rows that describe the record directory on disk and its input. -/
theorem published_when_answered {store : Store}
    (reached : (publisher sha256).Reachable Store.empty store) {input : PublishInput}
    {script : List Env} (calm : (publisher sha256).Calm input script store) {generation : Nat}
    (answered : ((publisher sha256).session input script store).1 = some (.ok generation)) :
    Published sha256 input generation ((publisher sha256).session input script store).2 := by
  have ensured : ∀ input store, (publisher sha256).admissible input store = true →
      store.Consistent → ((publisher sha256).program input).Ensures (publisher sha256).effects
        (publisher sha256).check Store.Consistent
        (fun outcome after => after.Consistent ∧
          Returns (Published sha256 input) (fun _ => True) outcome after) store := by
    intro input store honest consistent
    dsimp only [publisher] at honest ⊢
    exact publish_leads sha256 input store honest consistent
  exact (Service.reachable_answer Store.consistent_empty ensured reached calm answered).2

end

/-! ## A crash between the switch and the transaction -/

def imageDigest : List Nat → String := fun _ =>
  "6105d6cc76af400325e94d588ce511be5bfdbb73b437dc51eca43917d7a43e3d"

def image : ResultArtifact where
  id := "artifact-1"
  cameraId := "C1"
  sequenceNo := 1
  kind := "intensity"
  path := "camera/0001.jpg"
  mimeType := "image/jpeg"
  size := 0
  sha256 := ""
  width := none
  height := none

/-- A result of inspection `1` with one image, told apart by its source hash. -/
def inspection (sourceHash : String) : PublishInput where
  inspectionId := "1"
  result :=
    { schema := resultSchema, inspectionId := "1", sessionId := "session-1", materialId := "material-1",
      source := "test", sourceRecordId := "1", inspectionTime := none, status := "ready",
      cameraCount := 1, cameras := ["C1"], defectCount := 0, material := ⟨none, none, none, none⟩,
      artifacts := [image], defects := [], sourceHash, configHash := "config",
      algorithmVersion := "test", publishedAt := "now" }
  source path := if path = "camera/0001.jpg" then .file [105, 109, 97, 103, 101] else .missing
  sourceProvenance := none

/-- As many calls as a publication can make, all of them working. -/
def smooth : List Env := List.replicate 20 .works

/-- The old result is catalogued, the publication of the new one stops after the directory switch,
and its repetition takes the early return: the catalog still describes the old result. -/
theorem crash_after_switch_published :
    ∃ store, (publisher imageDigest).free.Reachable Store.empty store ∧
      ((publisher imageDigest).free.session (inspection "source-new") smooth store).1 = some (.ok 1) ∧
      ¬ Published imageDigest (inspection "source-new") 1
        ((publisher imageDigest).free.session (inspection "source-new") smooth store).2 := by
  refine ⟨(publisher imageDigest).free.run
    [(inspection "source-old", smooth), (inspection "source-new", smooth.take 11)] Store.empty, ?_, ?_, ?_⟩
  · exact Service.reachable_run _ .start (by decide +kernel)
  · decide +kernel
  rintro ⟨result, provenance, sealed, -, described, sealedKnown, same⟩
  -- The rows and the input disagree about the source hash.
  have catalogued : (((publisher imageDigest).free.session (inspection "source-new") smooth
      ((publisher imageDigest).free.run [(inspection "source-old", smooth),
        (inspection "source-new", smooth.take 11)] Store.empty)).2.catalog.rows? "1").map
      (·.inspection.sourceHash) = some "source-old" := by decide +kernel
  have asked : (sealedResult imageDigest (inspection "source-new")).map (·.sourceHash) =
      some "source-new" := by decide +kernel
  have hashes := congrArg (fun rows => rows.inspection.sourceHash) same
  rw [show (inspection "source-new").inspectionId = "1" from rfl] at described
  rw [described] at catalogued
  rw [sealedKnown] at asked
  simp only [Option.map_some, Option.some.injEq, rowsOf, inspectionRow] at catalogued asked hashes
  exact absurd (asked.symm.trans (hashes.trans catalogued)) (by decide)

/-- Stopped with the place of the record empty, the publication is repeated and catalogued. -/
theorem published_after_crash : Published imageDigest (inspection "source-new") 2
      ((publisher imageDigest).session (inspection "source-new") smooth ((publisher imageDigest).run
          [(inspection "source-old", smooth), (inspection "source-new", smooth.take 10)]
          Store.empty)).2 :=
  published_when_answered imageDigest
    (Service.reachable_run _ .start (by decide +kernel)) (by decide +kernel) (by decide +kernel)

end SteelInspection.Results
