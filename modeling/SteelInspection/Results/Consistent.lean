import SteelInspection.Results.Publish

/-! # The catalog describes the record directory

The invariant of the result store: where a record directory with a readable result stands beside
catalog rows of the same inspection, the rows are the ones of that result.  A publication breaks it
between the directory switch and the catalog transaction when the catalog already has rows of the
inspection, so it holds over every run in which no publication ends there.
-/

namespace SteelInspection.Results

open Foundations

/-- The record directory a publication writes. -/
def directoryOf (result : UnifiedResult) (provenance : Option String) : RecordDirectory where
  resultJson := some (.result result)
  recordJson := some (.result result)
  provenanceJson := provenance.map .provenance
  defectsJson := some (.defects result.inspectionId result.defects)

/-- The artifacts of a stored result point to the blobs of their digests. -/
def PointsToBlobs (result : UnifiedResult) : Prop :=
  ∀ artifact ∈ result.artifacts, artifact.path = blobPath artifact.sha256

/-- The record directory of the inspection, if it has a readable result, and its catalog rows, if
there are any, say the same. -/
def Store.Agrees (store : Store) (id : String) : Prop :=
  ∀ directory existing rows, store.records id = some directory →
    directory.resultJson = some (.result existing) → store.catalog.rows? id = some rows →
    existing.inspectionId = id ∧ PointsToBlobs existing ∧
      (∃ provenance, directory = directoryOf existing provenance) ∧
      rows = rowsOf existing rows.inspection.generation

/-- The invariant between two publications. -/
structure Store.Consistent (store : Store) : Prop where
  agrees : ∀ id, store.Agrees id
  staging_used : ∀ job, store.clock ≤ job.suffix → store.staging job = none

theorem Store.consistent_empty : Store.empty.Consistent where
  agrees _ := by
    intro directory existing rows found
    cases found
  staging_used _ _ := rfl

variable {id : String} {store : Store} {job : Job} {record : RecordDirectory} {β : Type}
  {result : UnifiedResult} {provenance : Option String}
  {program : Program Call Call.Reply (Except ResultStoreError Unit)} {allowed : Call → Prop}

theorem Store.Agrees.of_no_record (absent : store.records id = none) : store.Agrees id := by
  intro directory existing rows found
  rw [absent] at found
  cases found

theorem Store.Agrees.of_no_rows (absent : store.catalog.generation? id = none) :
    store.Agrees id := by
  intro directory existing rows _ _ found
  rw [Catalog.generation?_eq, found] at absent
  cases absent

theorem Store.Agrees.congr {other : Store} (agrees : store.Agrees id)
    (records : other.records id = store.records id)
    (rows : other.catalog.rows? id = store.catalog.rows? id) : other.Agrees id := by
  intro directory existing found present readable described
  exact agrees directory existing found (records ▸ present) readable (rows ▸ described)

theorem Store.Consistent.setStaging (consistent : store.Consistent)
    (used : job.suffix < store.clock) (staging : Option Staging) :
    (store.setStaging job staging).Consistent where
  agrees id := (consistent.agrees id).congr rfl rfl
  staging_used other late := by
    have different : other ≠ job := by
      rintro rfl
      exact absurd used (Nat.not_lt.mpr late)
    simpa [Store.setStaging, different] using consistent.staging_used other late

/-! ## What is published -/

section

variable (sha256 : List Nat → String)

/-- The artifacts of an input with the digests of their files; `none` when one has no file. -/
def sealedArtifacts (source : String → SourceEntry) :
    List ResultArtifact → Option (List ResultArtifact)
  | [] => some []
  | artifact :: artifacts =>
    match source artifact.path, sealedArtifacts source artifacts with
    | .file content, some rest => some (sealedArtifact sha256 artifact content :: rest)
    | _, _ => none

/-- What an input says, with its files. -/
def sealedResult (input : PublishInput) : Option UnifiedResult :=
  (sealedArtifacts sha256 input.source input.result.artifacts).map fun artifacts =>
    { input.result with artifacts }

/-- The catalog rows of the inspection describe the record directory on disk and the input. -/
def Published (input : PublishInput) (generation : Nat) (store : Store) : Prop :=
  ∃ result provenance sealed,
    store.records input.inspectionId = some (directoryOf result provenance) ∧
    store.catalog.rows? input.inspectionId = some (rowsOf result generation) ∧
    sealedResult sha256 input = some sealed ∧
    rowsOf sealed generation = rowsOf result generation

/-! ## Calm publications -/

def digests (artifacts : List ResultArtifact) : List (Nat × String) :=
  artifacts.map fun artifact => (artifact.size, artifact.sha256)

/-- An input whose fingerprint is the one of the catalogued record on disk also has the same
artifact files. -/
def fingerprintHonest (input : PublishInput) (store : Store) : Bool :=
  match (store.records input.inspectionId).bind (·.resultJson),
    store.catalog.generation? input.inspectionId with
  | some (.result existing), some _ =>
    !unchanged existing input.result ||
      decide ((sealedResult sha256 input).map (fun sealed => digests sealed.artifacts) =
        some (digests existing.artifacts))
  | _, _ => true

/-- While the catalog has rows of the inspection, the process does not stop between the directory
switch and the end of the transaction, and a transaction that fails is followed by the removal of
the new `result.json`. -/
def switchCompleted : Check Store Env Call
  | .publishCatalog result, none, store => (store.catalog.generation? result.inspectionId).isNone
  | .removeRecord id, none, store => (store.catalog.generation? id).isNone
  | .removeRecord id, some .fails, store => (store.catalog.generation? id).isNone
  | .removeRecord id, some (.failsLeaving files), store =>
    (store.catalog.generation? id).isNone || !files.result
  | _, _, _ => true

/-- Publications one after the other, each run to its end or up to a crash. -/
def publisher : Service Store PublishInput Env Call Call.Reply (Except ResultStoreError Nat) where
  effects := effects
  program input := (publish sha256 input).run
  admissible := fingerprintHonest sha256
  check := switchCompleted

end

/-! ## The stage -/

/-- `Ensures` for the publisher: the process may stop only in a consistent store. -/
abbrev Leads {β : Type} (post : β → Store → Prop) (program : Program Call Call.Reply β)
    (store : Store) : Prop :=
  program.Ensures effects switchCompleted Store.Consistent post store

/-- The stage of the job is being filled: nothing has been moved yet. -/
structure Staged (job : Job) (record : RecordDirectory) (store : Store) : Prop where
  consistent : store.Consistent
  used : job.suffix < store.clock
  present : ∃ temporaries, store.staging job = some ⟨record, temporaries, none⟩

/-- The calls of the artifact loop. -/
def Call.FillsBlobs (job : Job) : Call → Prop
  | .readSource _ | .blobExists _ => True
  | .copyToTemporary other _ _ | .renameTemporary other _ | .removeTemporary other _ => other = job
  | _ => False

theorem Staged.fillsBlobs (staged : Staged job record store) (request : Call)
    (fills : request.FillsBlobs job) (env : Env) :
    Staged job record (effects env request store).2 := by
  obtain ⟨consistent, used, temporaries, present⟩ := staged
  -- Whatever temporary files and blobs there are, the stage is the same.
  have changed : ∀ others blobs, Staged job record
      { store.setStaging job (some ⟨record, others, none⟩) with blobs } := by
    intro others blobs
    have kept := consistent.setStaging used (some ⟨record, others, none⟩)
    exact ⟨⟨kept.agrees, kept.staging_used⟩, used, others, Store.setStaging_self _ _ _⟩
  have same : Staged job record store := ⟨consistent, used, temporaries, present⟩
  cases request with
  | readSource entry => cases env <;> exact same
  | blobExists digest => exact same
  | copyToTemporary | removeTemporary =>
    cases fills
    simp only [effects, changeStaging, present]
    cases env
    · exact changed _ store.blobs
    · exact same
    · exact same
  | renameTemporary other digest =>
    cases fills
    simp only [effects, present]
    split
    · exact same
    · cases env
      · exact changed _ _
      · exact same
      · exact same
  | _ => cases fills

theorem Leads.plain_bind {γ : Type} {post : β → Store → Prop} {program : Program Call Call.Reply β}
    {next : β → Publishing γ} {last : Except ResultStoreError γ → Store → Prop}
    (leads : Leads post program store)
    (continues : ∀ value after, post value after → Leads last (next value).run after) :
    Leads last (plain program >>= next).run store := by
  have first : Leads (Returns post fun _ => False) (plain program).run store :=
    leads.bind fun value _ holds => .pure holds
  exact first.attempt continues fun _ _ => False.elim

theorem plain_calls {program : Program Call Call.Reply β} (calls : program.Calls allowed) :
    (plain program).run.Calls allowed :=
  calls.bind fun _ => .pure

theorem ignore_calls (calls : program.Calls allowed) : (ignore program).run.Calls allowed :=
  calls.bind fun _ => .pure

section

variable (sha256 : List Nat → String) {record : RecordDirectory} (source : String → SourceEntry)

theorem storeBlob_calls (job : Job) (content : List Nat) :
    (storeBlob sha256 job content).run.Calls (Call.FillsBlobs job) := by
  refine .attempt (plain_calls (.ask (Call.blobExists _) trivial)) fun present => ?_
  split
  · exact .pure
  refine .attempt (.ask (Call.copyToTemporary _ _ _) rfl) fun _ => ?_
  refine .attempt (plain_calls (.ask (Call.renameTemporary _ _) rfl)) fun renamed => ?_
  split
  · exact .pure
  · refine .attempt (plain_calls (.ask (Call.blobExists _) trivial)) fun present => ?_
    split
    · exact ignore_calls (.ask (Call.removeTemporary _ _) rfl)
    · exact .pure

theorem sealArtifact_leads {job : Job} (artifact : ResultArtifact) {store : Store}
    (staged : Staged job record store) :
    Leads (Returns (fun result after => Staged job record after ∧ ∃ content,
        source artifact.path = .file content ∧ result = sealedArtifact sha256 artifact content)
        (Staged job record))
      (sealArtifact sha256 source job artifact).run store := by
  unfold sealArtifact
  split
  · exact .pure staged
  -- The file is read; what it is decides.
  have reads : Leads (Returns (fun entry after => Staged job record after ∧
      entry = source artifact.path) (Staged job record))
      (try_ (Program.ask (Call.readSource (source artifact.path)))).run store := by
    refine .ask (Call.readSource (source artifact.path)) (fun _ => staged.consistent) ?_
    intro env _
    cases env with
    | works => exact ⟨staged, rfl⟩
    | fails | failsLeaving _ => exact staged
  refine reads.andThen ?_
  rintro entry after ⟨kept, same⟩
  split
  · exact .pure kept
  · exact .pure kept
  · exact .pure kept
  rename_i content
  split
  · exact .pure kept
  split
  · exact .pure kept
  have stored : Leads (fun _ => Staged job record) (storeBlob sha256 job content).run after :=
    .of_calls (fun _ known _ => known.consistent) (fun known => known.consistent)
      (fun fills known => known.fillsBlobs _ fills _) (storeBlob_calls sha256 job content) kept
  exact stored.attempt (fun _ _ kept => .pure ⟨kept, content, same.symm, rfl⟩) fun _ _ kept => kept

theorem sealArtifacts_leads {job : Job} (artifacts : List ResultArtifact) {store : Store}
    (staged : Staged job record store) :
    Leads (Returns (fun result after => Staged job record after ∧
        sealedArtifacts sha256 source artifacts = some result) (Staged job record))
      (sealArtifacts sha256 source job artifacts).run store := by
  induction artifacts generalizing store with
  | nil => exact .pure ⟨staged, rfl⟩
  | cons artifact artifacts ih =>
    refine (sealArtifact_leads sha256 source artifact staged).andThen ?_
    rintro _ after ⟨kept, content, file, rfl⟩
    refine (ih kept).andThen ?_
    rintro rest last ⟨lastKept, restKnown⟩
    refine .pure ⟨lastKept, ?_⟩
    simp only [sealedArtifacts, file, restKnown]

end

theorem writeStaged_leads (file : StagedFile) (staged : Staged job record store) :
    Leads (Returns (fun _ => Staged job (record.write file)) Store.Consistent)
      (try_ (Program.ask (Call.writeStaged job file))).run store := by
  obtain ⟨consistent, used, temporaries, present⟩ := staged
  refine .ask (Call.writeStaged job file) (fun _ => consistent) ?_
  intro env _
  simp only [effects, present]
  cases env with
  | works =>
    have written := consistent.setStaging used (some ⟨record.write file, temporaries, none⟩)
    exact ⟨written, used, temporaries, Store.setStaging_self _ _ _⟩
  | fails | failsLeaving _ => exact consistent.setStaging used _

theorem writeRecordStage_leads (result : UnifiedResult) (provenance : Option String)
    (staged : Staged job RecordDirectory.empty store) :
    Leads (Returns (fun _ => Staged job (directoryOf result provenance)) Store.Consistent)
      (writeRecordStage job result provenance).run store := by
  refine (writeStaged_leads (.result result) staged).andThen fun _ _ staged => ?_
  refine (writeStaged_leads (.record result) staged).andThen fun _ _ staged => ?_
  cases provenance with
  | none => exact writeStaged_leads (.defects result.inspectionId result.defects) staged
  | some text =>
    refine (writeStaged_leads (.provenance text) staged).andThen fun _ _ staged => ?_
    exact writeStaged_leads (.defects result.inspectionId result.defects) staged

/-! ## The directory switch -/

/-- The record is staged; what was moved aside agreed with the catalog. -/
structure Aside (job : Job) (record : RecordDirectory) (store : Store) : Prop where
  consistent : store.Consistent
  used : job.suffix < store.clock
  present : ∃ staging, store.staging job = some staging ∧ staging.record = record ∧
    ∀ directory, staging.previous = some directory →
      (store.setRecord job.inspectionId (some directory)).Agrees job.inspectionId

/-- The new record is in its place and the catalog still has the old rows. -/
structure Switched (job : Job) (record : RecordDirectory) (store : Store) : Prop where
  others_agree : ∀ id, id ≠ job.inspectionId → store.Agrees id
  staging_used : ∀ other, store.clock ≤ other.suffix → store.staging other = none
  used : job.suffix < store.clock
  installed : store.records job.inspectionId = some record
  present : ∃ staging, store.staging job = some staging ∧
    ∀ directory, staging.previous = some directory →
      (store.setRecord job.inspectionId (some directory)).Agrees job.inspectionId

theorem Switched.consistent (switched : Switched job record store)
    (agrees : store.Agrees job.inspectionId) : store.Consistent where
  agrees id := by
    by_cases same : id = job.inspectionId
    · exact same ▸ agrees
    · exact switched.others_agree id same
  staging_used := switched.staging_used

/-- A change of the record of one inspection that agrees with the catalog. -/
theorem Store.Consistent.setRecord {directory : Option RecordDirectory}
    (others : ∀ other, other ≠ id → store.Agrees other)
    (staging_used : ∀ job, store.clock ≤ job.suffix → store.staging job = none)
    (agrees : (store.setRecord id directory).Agrees id) :
    (store.setRecord id directory).Consistent where
  agrees other := by
    by_cases same : other = id
    · exact same ▸ agrees
    · exact (others other same).congr (Store.setRecord_other _ _ same) rfl
  staging_used := staging_used

/-- An existence test changes nothing; the code goes on with its answer. -/
theorem test_leads (request : Call) (reply : request.Reply)
    (tests : ∀ env, effects env request store = (reply, store))
    (stops : switchCompleted request none store = true → store.Consistent)
    {next : request.Reply → Publishing β} {last : Except ResultStoreError β → Store → Prop}
    (continues : Leads last (next reply).run store) :
    Leads last (plain (Program.ask request) >>= next).run store := by
  have tested : Leads (fun found after => found = reply ∧ after = store) (Program.ask request) store := by
    grind [Program.Walks.ask]
  refine tested.plain_bind ?_
  rintro _ _ ⟨rfl, rfl⟩
  exact continues

theorem clearDestination_leads (staged : Staged job record store) :
    Leads (Returns (fun _ => Aside job record) Store.Consistent) (clearDestination job).run
      store := by
  obtain ⟨consistent, used, temporaries, present⟩ := staged
  refine test_leads (Call.recordExists job.inspectionId)
    ((store.records job.inspectionId).isSome || isDotName job.inspectionId) (fun _ => rfl)
    (fun _ => consistent) ?_
  split
  · refine .ask (Call.moveRecordAside job) (fun _ => consistent) ?_
    intro env _
    simp only [effects, present]
    cases found : store.records job.inspectionId with
    | none => exact consistent
    | some directory =>
      simp only [Option.isSome_none, Bool.false_or]
      split
      · exact consistent
      cases env with
      | fails | failsLeaving _ => exact consistent
      | works =>
        -- The record is in the staging directory now, as the catalog describes it.
        have moved : ((store.setRecord job.inspectionId none).setStaging job
            (some ⟨record, temporaries, some directory⟩)).Consistent :=
          (Store.Consistent.setRecord (fun id _ => consistent.agrees id) consistent.staging_used
            (.of_no_record (Store.setRecord_self _ _ _))).setStaging used _
        refine ⟨moved, used, _, Store.setStaging_self _ _ _, rfl, ?_⟩
        intro previous held
        cases held
        exact (consistent.agrees job.inspectionId).congr (by simp [found]) rfl
  · refine .pure ⟨consistent, used, _, present, rfl, ?_⟩
    intro previous held
    cases held

/-- Consistent, with a staging directory that is in use. -/
structure Tidy (job : Job) (store : Store) : Prop where
  consistent : store.Consistent
  used : job.suffix < store.clock

section

variable (aside : Aside job record store)
include aside

theorem restorePrevious_leads :
    Leads (fun _ => Tidy job) (Program.ask (Call.restorePrevious job)) store := by
  obtain ⟨consistent, used, staging, present, -, agreed⟩ := aside
  have same : Tidy job store := ⟨consistent, used⟩
  refine .ask (Call.restorePrevious job) (fun _ => consistent) ?_
  intro env _
  simp only [effects, present]
  split
  · exact same
  rename_i directory held
  split
  · exact same
  cases env with
  | fails | failsLeaving _ => exact same
  | works =>
    have restored : (store.setRecord job.inspectionId (some directory)).Consistent :=
      .setRecord (fun id _ => consistent.agrees id) consistent.staging_used
        (agreed directory held)
    exact ⟨restored.setStaging used _, used⟩

theorem giveBackPrevious_leads :
    Leads (fun _ => Store.Consistent) (giveBackPrevious job).run store := by
  refine test_leads (Call.previousExists job) ((store.staging job).bind (·.previous)).isSome
    (fun _ => rfl) (fun _ => aside.consistent) ?_
  split
  · exact (restorePrevious_leads aside).bind fun _ _ kept => .pure kept.consistent
  · exact .pure aside.consistent

theorem installRecord_leads :
    Leads (Returns (fun _ => Switched job record) (Aside job record))
      (Program.ask (Call.installRecord job)) store := by
  obtain ⟨consistent, used, staging, present, rfl, agreed⟩ := aside
  have same : Aside job staging.record store := ⟨consistent, used, staging, present, rfl, agreed⟩
  refine .ask (Call.installRecord job) (fun _ => consistent) ?_
  intro env _
  simp only [effects, present]
  split
  · exact same
  cases env with
  | fails | failsLeaving _ => exact same
  | works =>
    have fresh := consistent.setStaging used (some { staging with record := RecordDirectory.empty })
    refine ⟨?_, fresh.staging_used, used, Store.setRecord_self _ _ _, _, Store.setStaging_self _ _ _, ?_⟩
    · intro id different
      exact (consistent.agrees id).congr (Store.setRecord_other _ _ different) rfl
    · intro directory held
      exact (agreed directory held).congr (by simp) rfl

end

theorem switchRecord_leads (staged : Staged job record store) :
    Leads (Returns (fun _ => Switched job record) Store.Consistent) (switchRecord job).run store := by
  refine (clearDestination_leads staged).andThen fun _ cleared aside => ?_
  refine (installRecord_leads aside).plain_bind fun outcome after installed => ?_
  cases outcome with
  | ok _ => exact .pure installed
  | error error =>
    exact (giveBackPrevious_leads installed).attempt (fun _ _ kept => .pure kept) fun _ _ kept => kept

/-! ## The catalog transaction -/

/-- The catalog has the rows of the record that is in place. -/
structure Committed (job : Job) (result : UnifiedResult) (provenance : Option String)
    (generation : Nat) (store : Store) : Prop extends Tidy job store where
  installed : store.records job.inspectionId = some (directoryOf result provenance)
  described : store.catalog.rows? job.inspectionId = some (rowsOf result generation)

/-- The calls that clean up at the end. -/
def Call.TidiesUp (job : Job) : Call → Prop
  | .previousExists other | .removePrevious other | .removeStaging other => other = job
  | _ => False

section

variable {request : Call} (tidies : request.TidiesUp job) (env : Env)
include tidies

theorem effects_tidiesUp (store : Store) : (effects env request store).2 = store ∨
      ∃ staging, (effects env request store).2 = store.setStaging job staging := by
  cases request with
  | previousExists other => exact .inl rfl
  | removePrevious other =>
    cases tidies
    cases present : store.staging job with
    | none => left; cases env <;> simp [effects, changeStaging, present]
    | some staging =>
      cases env with
      | fails => exact .inl rfl
      | _ => exact .inr ⟨_, by simp only [effects, changeStaging, present, fallible]; rfl⟩
  | removeStaging other =>
    cases tidies
    cases env with
    | works => exact .inr ⟨none, rfl⟩
    | fails | failsLeaving _ => exact .inl rfl
  | _ => cases tidies

theorem Tidy.tidiesUp (tidy : Tidy job store) : Tidy job (effects env request store).2 := by
  rcases effects_tidiesUp tidies env store with same | ⟨staging, changed⟩
  · rw [same]
    exact tidy
  · rw [changed]
    exact ⟨tidy.consistent.setStaging tidy.used staging, tidy.used⟩

theorem Committed.tidiesUp {generation : Nat}
    (committed : Committed job result provenance generation store) :
    Committed job result provenance generation (effects env request store).2 := by
  have tidy := committed.toTidy.tidiesUp tidies env
  rcases effects_tidiesUp tidies env store with same | ⟨staging, changed⟩
  · rw [same]
    exact committed
  · rw [changed] at tidy ⊢
    exact ⟨tidy, committed.installed, committed.described⟩

end

theorem discardPrevious_calls (job : Job) : (discardPrevious job).run.Calls (Call.TidiesUp job) := by
  refine .attempt (plain_calls (.ask (Call.previousExists job) rfl)) fun present => ?_
  split
  · exact ignore_calls (.ask (Call.removePrevious job) rfl)
  · exact .pure

theorem removeStaging_calls (job : Job) :
    (ignore (Program.ask (Call.removeStaging job))).run.Calls (Call.TidiesUp job) :=
  ignore_calls (.ask (Call.removeStaging job) rfl)

/-- The new record goes; where the removal fails, the catalog has no rows of the inspection or the
result file is gone. -/
theorem removeRecord_leads (switched : Switched job record store) :
    Leads (Returns (fun _ after => ∃ staged, Aside job staged after) (Tidy job))
      (Program.ask (Call.removeRecord job.inspectionId)) store := by
  refine .ask (Call.removeRecord job.inspectionId) ?_ ?_
  · intro stopped
    apply switched.consistent
    apply Store.Agrees.of_no_rows
    simpa [switchCompleted] using stopped
  · intro env calm
    simp only [effects, switched.installed]
    cases env with
    | works =>
      obtain ⟨staging, present, agreed⟩ := switched.present
      have removed : (store.setRecord job.inspectionId none).Consistent :=
        .setRecord switched.others_agree switched.staging_used
          (.of_no_record (Store.setRecord_self _ _ _))
      refine ⟨staging.record, removed, switched.used, staging, present, rfl, ?_⟩
      intro directory held
      exact (agreed directory held).congr (by simp) rfl
    | fails =>
      refine ⟨switched.consistent (.of_no_rows ?_), switched.used⟩
      simpa [switchCompleted] using calm
    | failsLeaving files =>
      refine ⟨.setRecord switched.others_agree switched.staging_used ?_, switched.used⟩
      simp only [switchCompleted, Bool.or_eq_true, Option.isNone_iff_eq_none, Bool.not_eq_true'] at calm
      rcases calm with noRows | gone
      · exact .of_no_rows noRows
      · intro directory existing rows present readable
        rw [Store.setRecord_self] at present
        cases present
        simp [RecordDirectory.leave, gone] at readable

theorem restorePreviousRecord_leads (switched : Switched job record store) :
    Leads (fun _ => Tidy job) (restorePreviousRecord job).run store := by
  refine (removeRecord_leads switched).attempt ?_ fun _ _ tidy => tidy
  rintro _ removed ⟨staged, aside⟩
  refine test_leads (Call.previousExists job) ((removed.staging job).bind (·.previous)).isSome
    (fun _ => rfl) (fun _ => aside.consistent) ?_
  split
  · exact restorePrevious_leads aside
  · exact .pure ⟨aside.consistent, aside.used⟩

variable (named : result.inspectionId = job.inspectionId) (pointing : PointsToBlobs result)
  (switched : Switched job (directoryOf result provenance) store)
include named pointing switched

/-- The transaction replaces the rows, or nothing happens. -/
theorem publishCatalog_leads :
    Leads (Returns (Committed job result provenance) (Switched job (directoryOf result provenance)))
      (Program.ask (Call.publishCatalog result)) store := by
  refine .ask (Call.publishCatalog result) ?_ ?_
  · -- The process stops here only where the catalog has no rows of the inspection.
    intro stopped
    apply switched.consistent
    apply Store.Agrees.of_no_rows
    simpa [switchCompleted, named] using stopped
  · intro env _
    cases published : store.catalog.publish result with
    | none => cases env <;> simpa only [effects, published] using switched
    | some outcome =>
      obtain ⟨generation, catalog⟩ := outcome
      cases env with
      | fails | failsLeaving _ => exact switched
      | works =>
        simp only [effects, published]
        have rows := Catalog.rows?_publish published
        refine ⟨⟨⟨fun id => ?_, switched.staging_used⟩, switched.used⟩, switched.installed, ?_⟩
        · by_cases same : id = job.inspectionId
          · subst same
            intro directory existing found present readable described
            rw [switched.installed] at present
            cases present
            cases readable
            have found := rows job.inspectionId
            rw [if_pos named.symm] at found
            rw [found] at described
            cases described
            exact ⟨named, pointing, ⟨provenance, rfl⟩, rfl⟩
          · refine (switched.others_agree id same).congr rfl ?_
            rw [rows id, if_neg (named ▸ same)]
        · rw [rows job.inspectionId, if_pos named.symm]

/-- The transaction with what follows it: the catalog describes the new record, or the publication
fails and leaves a consistent store. -/
theorem commitRecord_leads :
    Leads (Returns (Committed job result provenance) Store.Consistent)
      (commitRecord job result).run store := by
  refine (publishCatalog_leads named pointing switched).plain_bind fun outcome after published => ?_
  cases outcome with
  | ok generation =>
    have tidied : ∀ {program : Publishing Unit} {current}, program.run.Calls (Call.TidiesUp job) →
        Committed job result provenance generation current →
        Leads (fun _ => Committed job result provenance generation) program.run current :=
      fun calls known => .of_calls (fun _ kept _ => kept.consistent) (fun kept => kept.consistent)
        (fun tidies kept => kept.tidiesUp tidies _) calls known
    refine (tidied (discardPrevious_calls job) published).attempt (fun _ discarded kept => ?_)
      fun _ _ kept => kept.consistent
    exact (tidied (removeStaging_calls job) kept).attempt (fun _ _ kept => .pure kept)
      fun _ _ kept => kept.consistent
  | error error =>
    refine (restorePreviousRecord_leads published).plain_bind fun restored after tidy => ?_
    split
    · exact .pure tidy.consistent
    have tidied : Leads (fun _ => Tidy job)
        (ignore (Program.ask (Call.removeStaging job))).run after :=
      .of_calls (fun _ kept _ => kept.consistent) (fun kept => kept.consistent)
        (fun tidies kept => kept.tidiesUp tidies _) (removeStaging_calls job) tidy
    exact tidied.attempt (fun _ _ kept => .pure kept.consistent) fun _ _ kept => kept.consistent

end SteelInspection.Results
