import SteelInspection.Images.Keys
import SteelInspection.Results.Consistent

/-! # Blobs are stored before they are named

What the image service relies on: the name of a blob is the digest of its content, and every row of the
catalog names a blob that is there.  A publication stores the blobs of its artifacts first, no step
one removes, and a name never gets another content.
-/

namespace SteelInspection.Images

open Foundations Results Discipline

/-! ## What a step of a publication changes -/

def HasTemporary (store : Store) (name : String) (content : List Nat) : Prop :=
  ∃ job staging, store.staging job = some staging ∧ staging.temporaries name = some content

/-- What a call does to the blobs, the files that may become blobs, and the catalog. -/
inductive StoreChange (store after : Store) : Results.Call → Prop where
  | keeps {request} (blobs : after.blobs = store.blobs) (catalog : after.catalog = store.catalog)
      (temporaries : ∀ {name content}, HasTemporary after name content →
        HasTemporary store name content) : StoreChange store after request
  | copied {job name content} (blobs : after.blobs = store.blobs)
      (catalog : after.catalog = store.catalog)
      (temporaries : ∀ {other found}, HasTemporary after other found →
        (other = name ∧ found = content) ∨ HasTemporary store other found) :
      StoreChange store after (.copyToTemporary job name content)
  | renamed {job name content} (present : HasTemporary store name content)
      (blobs : after.blobs = fun other => if other = name then some content else store.blobs other)
      (catalog : after.catalog = store.catalog)
      (temporaries : ∀ {other found}, HasTemporary after other found →
        HasTemporary store other found) : StoreChange store after (.renameTemporary job name)
  | committed {result generation} (blobs : after.blobs = store.blobs)
      (staging : after.staging = store.staging)
      (published : store.catalog.publish result = some (generation, after.catalog)) :
      StoreChange store after (.publishCatalog result)

variable {job : Job} {store after : Store} {request : Results.Call} {config : Config} {env : Env}
  {shared : Shared}

theorem StoreChange.same : StoreChange store store request :=
  .keeps rfl rfl id

theorem storeChange_effects (env : Results.Env) (request : Results.Call) (store : Store) :
    StoreChange store (effects env request store).2 request := by
  cases env <;> cases request
  all_goals simp only [effects, changeStaging, fallible]
  case works.createStaging job =>
    refine .keeps rfl rfl fun has => ?_
    obtain ⟨other, directory, there, temporary⟩ := has
    simp only [Store.setStaging] at there
    split at there
    · cases there
      cases opened : store.staging job with
      | none => simp [opened] at temporary
      | some staging => exact ⟨job, staging, opened, by simpa [opened] using temporary⟩
    · exact ⟨other, directory, there, temporary⟩
  all_goals repeat' split
  all_goals first
    | exact .same
    | exact .committed rfl rfl ‹_›
    | exact .keeps rfl rfl fun has => has
    -- only a staging directory has changed, and it brings no temporary file but the one copied
    | refine .keeps rfl rfl fun has => ?_
      obtain ⟨other, directory, there, temporary⟩ := has
      simp only [Store.setStaging, Store.setRecord] at there
      grind [HasTemporary]
    | refine .copied rfl rfl fun has => ?_
      cases has
      grind [HasTemporary, Store.setStaging]
    | refine .renamed ⟨_, _, ‹_›, ‹_›⟩ rfl rfl fun has => ?_
      cases has
      grind [HasTemporary, Store.setStaging]

/-! ## Soundness of the store -/

def Stored (store : Store) (path : String) : Prop :=
  ∃ name, path = blobPath name ∧ (store.blobs name).isSome

structure StoreSound (config : Config) (store : Store) : Prop where
  blobs : ∀ {name content}, store.blobs name = some content → config.sha256 content = name
  temporaries : ∀ {name content}, HasTemporary store name content → config.sha256 content = name
  rows : ∀ row ∈ store.catalog.captureFiles.rows, Stored store row.path

def StoreGood (config : Config) (store : Store) : Results.Call → Prop
  | .copyToTemporary _ name content => config.sha256 content = name
  | .publishCatalog result => ∀ artifact ∈ result.artifacts, Stored store artifact.path
  | _ => True

/-- The rows after a transaction: those of other inspections, and the new ones. -/
theorem rows_of_publish {catalog next : Catalog} {result : UnifiedResult} {generation : Nat}
    (published : catalog.publish result = some (generation, next)) :
    next.captureFiles.rows =
      catalog.captureFiles.rows.filter (fun row => !decide (row.inspectionId = result.inspectionId)) ++
        result.artifacts.map (captureFileRow result.inspectionId) := by
  simp only [Catalog.publish] at published
  split at published
  next defects files _ inserted =>
    obtain ⟨-, rfl⟩ := published
    exact Table.rows_insertAll inserted
  · cases published

section

variable (change : StoreChange store after request)
include change

theorem StoreChange.blobs_stay {name : String} (there : (store.blobs name).isSome) :
    (after.blobs name).isSome := by
  cases change with
  | keeps blobs _ _ | copied blobs _ _ => rwa [blobs]
  | renamed _ blobs _ _ => grind
  | committed blobs _ _ => rwa [blobs]

theorem StoreSound.step (sound : StoreSound config store) (good : StoreGood config store request) :
    StoreSound config after := by
  have stays : ∀ row ∈ store.catalog.captureFiles.rows, Stored after row.path := by
    intro row mem
    obtain ⟨name, named, there⟩ := sound.rows row mem
    exact ⟨name, named, change.blobs_stay there⟩
  cases change with
  | keeps blobs catalog temporaries =>
    refine ⟨fun found => sound.blobs (blobs ▸ found), fun has => sound.temporaries (temporaries has), ?_⟩
    rwa [catalog]
  | copied blobs catalog temporaries =>
    refine ⟨fun found => sound.blobs (blobs ▸ found), fun has => ?_, by rwa [catalog]⟩
    obtain ⟨rfl, rfl⟩ | earlier := temporaries has
    · exact good
    · exact sound.temporaries earlier
  | renamed present blobs catalog temporaries =>
    refine ⟨fun {name content} found => ?_, fun has => sound.temporaries (temporaries has),
      by rwa [catalog]⟩
    rw [blobs] at found
    dsimp only at found
    split at found
    · grind [sound.temporaries]
    · exact sound.blobs found
  | committed blobs staging published =>
    refine ⟨fun found => sound.blobs (blobs ▸ found), fun has => ?_, fun row mem => ?_⟩
    · exact sound.temporaries (by simpa only [HasTemporary, staging] using has)
    rw [rows_of_publish published, List.mem_append] at mem
    rcases mem with old | new
    · exact stays row (List.mem_filter.mp old).1
    · obtain ⟨artifact, listed, rfl⟩ := List.mem_map.mp new
      obtain ⟨name, named, there⟩ := good artifact listed
      exact ⟨name, named, by rwa [blobs]⟩

end

/-! ## Runs -/

/-- The image service starts with empty memory; renditions of earlier runs may lie on the disk. -/
structure Initial (config : Config) (shared : Shared) : Prop where
  store : StoreSound config shared.store
  sources : shared.sources = []
  memory : shared.memory = []
  disk : ∀ {digest bytes}, shared.disk digest = some bytes → bytes ≠ [] →
    StoredUnder config shared.texts digest bytes
  decoded : shared.decoded = []
  resolving : ∀ id, shared.resolving id = false
  held : shared.held = []

/-- Requests and publications in any interleaving. -/
def imageRules (config : Config) : Rules Shared Thread Env Call Call.Reply Answer where
  semantics := semantics config
  handler := Handler config
  undisturbed _ _ _ := True
  initial := Initial config

theorem store_of_execute {id : Nat} {request : Call} {after : Shared} {reply : request.Reply}
    (ran : execute config id env request shared = some (reply, after)) :
    after.store = shared.store := by
  cases request <;> simp only [execute] at ran
  all_goals repeat' split at ran
  all_goals cases ran <;> rfl

theorem store_of_semantics {thread : Thread} {request : Call} {after : Shared}
    {reply : request.Reply}
    (ran : semantics config thread env request shared = some (reply, after)) :
    (∃ id, thread = .request id ∧ execute config id env request shared = some (reply, after)) ∨
      ∃ id call, thread = .publisher id ∧ request = .store call ∧
        after = shared.setStore (effects env.store call shared.store).2 := by
  cases thread with
  | request id => exact .inl ⟨id, rfl, ran⟩
  | publisher id =>
    cases request with
    | store call =>
      cases ran
      exact .inr ⟨id, call, rfl, rfl, rfl⟩
    | _ => cases ran

def BlobsStay (store after : Store) : Prop :=
  ∀ {name}, (store.blobs name).isSome → (after.blobs name).isSome

theorem Stored.stays {path : String} (stored : Stored store path) (stay : BlobsStay store after) :
    Stored after path := by
  obtain ⟨name, named, there⟩ := stored
  exact ⟨name, named, stay there⟩

theorem blobsStay_of_semantics {thread : Thread} {request : Call} {after : Shared}
    {reply : request.Reply}
    (ran : semantics config thread env request shared = some (reply, after)) :
    BlobsStay shared.store after.store := by
  intro name there
  obtain ⟨id, -, done⟩ | ⟨id, call, -, -, rfl⟩ := store_of_semantics ran
  · rwa [store_of_execute done]
  · exact (storeChange_effects env.store call shared.store).blobs_stay there

/-- A publication relies on blobs to stay. -/
def blobDiscipline (config : Config) : Discipline (imageRules config) where
  inv shared := StoreSound config shared.store
  rely _ shared next := BlobsStay shared.store next.store
  good thread request shared :=
    match thread, request with
    | .publisher _, .store call => StoreGood config shared.store call
    | _, _ => True
  rely_refl _ _ := fun there => there
  rely_trans _ _ _ _ first second := fun there => second (first there)
  inv_initial initial := initial.store
  inv_call sound good _ executed := by
    obtain ⟨id, -, done⟩ | ⟨id, call, rfl, rfl, rfl⟩ := store_of_semantics executed
    · rwa [store_of_execute done]
    · exact sound.step (storeChange_effects _ _ _) good
  rely_call _ _ _ _ executed := blobsStay_of_semantics executed

section Publications

variable {config : Config} {id : Nat}

abbrev Writes {β : Type} (config : Config) (id : Nat) (post : β → Store → Prop)
    (program : Program Results.Call Results.Call.Reply β) (shared : Shared) : Prop :=
  (blobDiscipline config).Safe (.publisher id) (fun value after => post value after.store)
    (lift program) shared

variable {shared : Shared} {β : Type} {program : Program Results.Call Results.Call.Reply β}
  {post : β → Store → Prop} {request : Results.Call} {paths : List String} (job : Job)
  (source : String → SourceEntry) (result : UnifiedResult) (input : PublishInput)

theorem Writes.ask (request : Results.Call) {post : request.Reply → Store → Prop}
    (holds : ∀ store, BlobsStay shared.store store → StoreGood config store request)
    (returns : ∀ env store, BlobsStay shared.store store →
      post (effects env request store).1 (effects env request store).2) :
    Writes config id post (Program.ask request) shared := by
  refine Safe.ask (Call.store request) (fun current relied _ => holds _ relied) ?_
  intro current relied _ _ env reply after ran _
  cases ran
  exact returns env.store current.store relied

theorem Writes.bind {γ : Type} {last : γ → Store → Prop}
    {next : β → Program Results.Call Results.Call.Reply γ}
    (writes : Writes config id post program shared)
    (continues : ∀ value current, post value current.store →
      Writes config id last (next value) current) :
    Writes config id last (program >>= next) shared :=
  Safe.lift_bind writes continues

/-- What holds of the store when a piece of a publication has not failed. -/
abbrev Delivers (config : Config) (id : Nat) (post : β → Store → Prop) (program : Publishing β)
    (shared : Shared) : Prop :=
  Writes config id (Returns post fun _ => True) program.run shared

theorem Writes.andThen {γ : Type} {post : Except ResultStoreError β → Store → Prop}
    {last : γ → Store → Prop} {program : Publishing β} {next : β → Publishing γ}
    (writes : Writes config id post program.run shared)
    (continues : ∀ value current, post (.ok value) current.store →
      Delivers config id last (next value) current) :
    Delivers config id last (program >>= next) shared := by
  refine writes.bind fun outcome current holds => ?_
  cases outcome with
  | ok value => exact continues value current holds
  | error error => exact Safe.pure trivial

theorem Writes.plain (writes : Writes config id post program shared) :
    Delivers config id post (plain program) shared :=
  writes.bind fun _ _ holds => Safe.pure holds

def AllStored (paths : List String) (store : Store) : Prop := ∀ path ∈ paths, Stored store path

theorem AllStored.stays {store after : Store} (stored : AllStored paths store)
    (stay : BlobsStay store after) : AllStored paths after :=
  fun path listed => (stored path listed).stays stay

theorem Writes.of_calls {allowed : Results.Call → Prop} (calls : program.Calls allowed)
    (good : ∀ {request store}, allowed request → AllStored paths store → StoreGood config store request)
    (known : AllStored paths shared.store) :
    Writes config id (fun _ store => AllStored paths store) program shared := by
  have safe : (blobDiscipline config).Safe (.publisher id)
      (fun _ => (fun shared : Shared => AllStored paths shared.store)) (lift program) shared := by
    refine Safe.of_calls ?_ ?_ ?_ (calls.lift Call.store fun _ reply => reply) known
    · exact fun relied stored => stored.stays relied
    · rintro request shared ⟨call, rfl, within⟩ _ stored
      exact good within stored
    · rintro request env shared reply after - - stored - ran
      exact stored.stays (blobsStay_of_semantics ran)
  exact safe

/-- The calls that neither copy a file nor commit. -/
def PlainCall : Results.Call → Prop
  | .copyToTemporary _ _ _ | .publishCatalog _ => False
  | _ => True

theorem PlainCall.good (isPlain : PlainCall request) (store : Store) :
    StoreGood config store request := by
  cases request <;> trivial

theorem plain_writes (calls : program.Calls PlainCall) :
    Writes config id (fun _ _ => True) program shared :=
  have none : AllStored [] shared.store := fun _ listed => nomatch listed
  Safe.mono (Writes.of_calls calls (fun isPlain _ => isPlain.good _) none) fun _ _ _ => trivial

/-! ### The artifact loop -/

theorem storeBlob_writes (content : List Nat) (shared : Shared) :
    Delivers config id (fun _ store => (store.blobs (config.sha256 content)).isSome)
      (storeBlob config.sha256 job content) shared := by
  have exists? : ∀ shared, Writes config id (fun present store => present = true →
      (store.blobs (config.sha256 content)).isSome)
      (Program.ask (Results.Call.blobExists (config.sha256 content))) shared :=
    fun shared => .ask (.blobExists _) (fun _ _ => trivial) fun _ _ _ there => there
  refine (exists? shared).plain.andThen fun present current there => ?_
  split
  next known =>
    exact Safe.pure (there known)
  have copies : Writes config id (fun _ _ => True) _ current :=
    .ask (.copyToTemporary job (config.sha256 content) content) (fun _ _ => rfl) fun _ _ _ => trivial
  refine copies.andThen fun _ copied _ => ?_
  have renames : Writes config id (Returns
      (fun _ store => (store.blobs (config.sha256 content)).isSome) fun _ => True)
      (Program.ask (Results.Call.renameTemporary job (config.sha256 content))) copied := by
    refine .ask (.renameTemporary _ _) (fun _ _ => trivial) fun env _ _ => ?_
    simp only [effects]
    split
    · trivial
    split
    · trivial
    · cases env <;> simp [fallible, Returns]
  refine renames.plain.andThen fun renamed moved there => ?_
  split
  · exact Safe.pure there
  -- another publication has stored the same content meanwhile
  refine (exists? moved).plain.andThen fun present last there => ?_
  split
  next known =>
    have removes : Writes config id (fun _ store => (store.blobs (config.sha256 content)).isSome)
        (Program.ask (Results.Call.removeTemporary job (config.sha256 content))) last :=
      .ask (.removeTemporary _ _) (fun _ _ => trivial) fun env store stay =>
        (storeChange_effects env _ store).blobs_stay (stay (there known))
    exact removes.bind fun _ _ stored => Safe.pure stored
  · exact Safe.pure trivial

theorem sealArtifact_writes (job : Job) (artifact : ResultArtifact) (shared : Shared) :
    Delivers config id (fun result store => Stored store result.path)
      (sealArtifact config.sha256 source job artifact) shared := by
  unfold sealArtifact
  split
  · exact Safe.pure trivial
  refine .andThen (plain_writes (.ask (Results.Call.readSource _) trivial)) fun entry current _ => ?_
  split
  · exact Safe.pure trivial
  · exact Safe.pure trivial
  · exact Safe.pure trivial
  rename_i content
  split
  · exact Safe.pure trivial
  split
  · exact Safe.pure trivial
  exact (storeBlob_writes job content current).andThen fun _ _ there => Safe.pure ⟨_, rfl, there⟩

theorem sealArtifacts_writes (job : Job) (artifacts : List ResultArtifact) (shared : Shared) :
    Delivers config id (fun results => AllStored (results.map (·.path)))
      (sealArtifacts config.sha256 source job artifacts) shared := by
  induction artifacts generalizing shared with
  | nil => exact Safe.pure (List.forall_mem_nil _)
  | cons artifact artifacts ih =>
    refine (sealArtifact_writes source job artifact shared).andThen fun first current stored => ?_
    -- the blob of the first artifact stays while the loop goes on
    have rest : Writes config id (fun outcome store => Returns
        (fun results => AllStored (results.map (·.path))) (fun _ => True) outcome store ∧
        Stored store first.path) (sealArtifacts config.sha256 source job artifacts).run current :=
      Safe.carry (fun relied stored => stored.stays relied)
        (fun _ ran stored => stored.stays (blobsStay_of_semantics ran))
        (Program.calls_any _) (ih current) stored
    exact rest.andThen fun later last known => Safe.pure (List.forall_mem_cons.mpr known.symm)

/-! ### After the loop -/

/-- The calls after the artifact loop: nothing is copied, and only this result is committed. -/
def FinishCall (result : UnifiedResult) (request : Results.Call) : Prop :=
  PlainCall request ∨ request = .publishCatalog result

theorem writeRecordStage_calls (provenance : Option String) :
    (writeRecordStage job result provenance).run.Calls PlainCall := by
  refine .attempt (.ask (Results.Call.writeStaged _ _) trivial) fun _ => ?_
  refine .attempt (.ask (Results.Call.writeStaged _ _) trivial) fun _ => ?_
  have last : (try_ (Program.ask (Results.Call.writeStaged job
      (.defects result.inspectionId result.defects)))).run.Calls PlainCall :=
    .ask (Results.Call.writeStaged _ _) trivial
  cases provenance with
  | none => exact last
  | some text =>
    exact .attempt (.ask (Results.Call.writeStaged _ _) trivial) fun _ => last

theorem switchRecord_calls : (switchRecord job).run.Calls PlainCall := by
  refine .attempt ?_ fun _ => ?_
  · refine .attempt (plain_calls (.ask (Results.Call.recordExists _) trivial)) fun there => ?_
    split
    · exact .ask (Results.Call.moveRecordAside _) trivial
    · exact .pure
  · refine .attempt (plain_calls (.ask (Results.Call.installRecord _) trivial)) fun done => ?_
    split
    · exact .pure
    refine .attempt ?_ fun _ => .pure
    refine .attempt (plain_calls (.ask (Results.Call.previousExists _) trivial))
      fun there => ?_
    split
    · exact ignore_calls (.ask (Results.Call.restorePrevious _) trivial)
    · exact .pure

theorem restorePreviousRecord_calls : (restorePreviousRecord job).run.Calls PlainCall := by
  refine .attempt (.ask (Results.Call.removeRecord _) trivial) fun _ => ?_
  refine .attempt (plain_calls (.ask (Results.Call.previousExists _) trivial)) fun there => ?_
  split
  · exact .ask (Results.Call.restorePrevious _) trivial
  · exact .pure

theorem TidiesUp.isPlain {job : Job} (tidies : request.TidiesUp job) : PlainCall request := by
  cases request <;> trivial

theorem commitRecord_calls : (commitRecord job result).run.Calls (FinishCall result) := by
  have tidies : ∀ request, request.TidiesUp job → FinishCall result request :=
    fun _ tidies => .inl (TidiesUp.isPlain tidies)
  refine .attempt (plain_calls (.ask (Results.Call.publishCatalog _) (.inr rfl)))
    fun committed => ?_
  split
  · refine .attempt ((discardPrevious_calls job).mono tidies) fun _ => ?_
    exact .attempt ((removeStaging_calls job).mono tidies) fun _ => .pure
  refine .attempt
    (plain_calls ((restorePreviousRecord_calls job).mono fun _ => .inl)) fun restored => ?_
  split
  · exact .pure
  · exact .attempt ((removeStaging_calls job).mono tidies) fun _ => .pure

theorem publishRecord_writes (shared : Shared) :
    Delivers config id (fun _ _ => True) (publishRecord config.sha256 input) shared := by
  refine (plain_writes (plain_calls (.ask Results.Call.uniqueSuffix trivial))).andThen
    fun suffix suffixed _ => ?_
  refine .andThen (plain_writes (.ask (Results.Call.createStaging _) trivial)) fun _ staged _ => ?_
  refine (sealArtifacts_writes input.source _ input.result.artifacts staged).andThen
    fun artifacts filled stored => ?_
  -- from here on the blobs of the artifacts are there, so the commit may name them
  have finishes : Program.Calls (FinishCall { input.result with artifacts }) (do
        writeRecordStage ⟨input.inspectionId, suffix⟩ { input.result with artifacts }
          input.sourceProvenance
        switchRecord ⟨input.inspectionId, suffix⟩
        commitRecord ⟨input.inspectionId, suffix⟩ { input.result with artifacts } :
          Publishing Nat).run :=
    .attempt ((writeRecordStage_calls _ _ _).mono fun _ => .inl) fun _ =>
      .attempt ((switchRecord_calls _).mono fun _ => .inl) fun _ => commitRecord_calls _ _
  refine Safe.mono (Writes.of_calls finishes ?_ stored) fun outcome _ _ => by cases outcome <;> trivial
  rintro request store (isPlain | rfl) blobs
  · exact isPlain.good store
  · exact fun artifact listed => blobs _ (List.mem_map_of_mem listed)

theorem publication_safe (shared : Shared) :
    (blobDiscipline config).Obeys (.publisher id) (publication config input) shared := by
  have publishes : Delivers config id (fun _ _ => True) (publish config.sha256 input) shared := by
    unfold publish
    split
    · exact Safe.pure trivial
    have looks : (existingGenerationIfUnchanged input).run.Calls PlainCall := by
      refine .attempt (.ask (Results.Call.readRecord _) trivial) fun read => ?_
      split
      · split
        · exact .ask (Results.Call.selectGeneration _) trivial
        · exact .pure
      · exact .pure
    refine (plain_writes looks).andThen fun existing current _ => ?_
    split
    · exact Safe.pure trivial
    · exact publishRecord_writes input current
  exact Safe.bind publishes fun _ _ _ => .pure trivial

end Publications

theorem reachable_storeGood {machine}
    (reached : (imageRules config).Reachable machine) {id : Nat} {call : Results.Call}
    (next : machine.nextCall? (.publisher id) = some (.store call)) :
    StoreGood config machine.shared.store call := by
  refine (blobDiscipline config).reachable_good ?_ reached next
  intro thread program shared handler sound
  cases handler with
  | request request => exact .of_any (fun _ => trivial) (fun _ _ => trivial) _ _
  | publisher input => exact publication_safe input shared

end SteelInspection.Images
