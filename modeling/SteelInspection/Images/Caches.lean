import SteelInspection.Images.Blobs

/-! # What the caches hold

Renditions and decoded images lie under names that say which blob they were made from, so the only cache
that can be out of date is the one in front of the catalog: an entry for an artifact stays when the
inspection is published again with another blob, and nothing ever removes it but the lack of room.  As
long as no commit changes the blob of an artifact that the service remembers, every entry is current.
-/

namespace SteelInspection.Images

open Foundations Results

/-! ## Commits -/

def publishedBlob? (result : UnifiedResult) (key : ArtifactKey) : Option String :=
  ((result.artifacts.map (captureFileRow result.inspectionId)).find? key.names).bind fun row =>
    validatedBlobIdentity row.path

def Shared.remembered (shared : Shared) : List ArtifactKey :=
  shared.sources.map (·.1) ++ shared.held.map (·.2)

/-- A commit names the blobs that the image service remembers, if it remembers any at all. -/
def keepsNames (config : Config) (request : Call) (shared : Shared) : Bool :=
  match request with
  | .store (.publishCatalog result) =>
    config.catalogCacheEntries = 0 || shared.remembered.all fun key =>
      key.recordId ≠ result.inspectionId ||
        publishedBlob? result key = blob? shared.store.catalog key
  | _ => true

/-- No rendition was stored under another text with the digest of the one that is looked up. -/
def distinctKeys (config : Config) (request : Call) (shared : Shared) : Bool :=
  match request with
  | .getMemory text | .readDisk text =>
    shared.texts.all fun other => other = text || config.keyDigest other ≠ config.keyDigest text
  | _ => true

def currentRules (config : Config) : Rules Shared Thread Env Call Call.Reply Answer :=
  (imageRules config).assuming fun _ request shared =>
    (keepsNames config request shared && distinctKeys config request shared) = true

variable {key : ArtifactKey} {config : Config} {shared : Shared} {id : Nat} {after : Store}
  {call : Results.Call} {result : UnifiedResult}

theorem ArtifactKey.inspectionId_of_names {row : CaptureFileRow} (named : key.names row = true) :
    row.inspectionId = key.recordId := by
  simp only [ArtifactKey.names, Bool.and_eq_true, decide_eq_true_eq] at named
  exact named.1.1.1

/-- After a commit the artifacts of the inspection are those of the result, the others as before. -/
theorem row?_publish {catalog next : Catalog} {generation : Nat}
    (published : catalog.publish result = some (generation, next)) (key : ArtifactKey) :
    row? next key = if key.recordId = result.inspectionId then
        (result.artifacts.map (captureFileRow result.inspectionId)).find? key.names
      else row? catalog key := by
  unfold row?
  rw [rows_of_publish published, List.find?_append]
  by_cases own : key.recordId = result.inspectionId
  · have gone : (catalog.captureFiles.rows.filter fun row =>
        !decide (row.inspectionId = result.inspectionId)).find? key.names = none := by
      rw [List.find?_eq_none]
      intro row mem named
      have same := ArtifactKey.inspectionId_of_names named
      simp [same, own] at mem
    rw [gone, Option.none_or, if_pos own]
  · have absent : (result.artifacts.map (captureFileRow result.inspectionId)).find? key.names =
        none := by
      rw [List.find?_eq_none]
      intro row mem named
      obtain ⟨artifact, -, rfl⟩ := List.mem_map.mp mem
      exact own (ArtifactKey.inspectionId_of_names named).symm
    have kept : (catalog.captureFiles.rows.filter fun row =>
        !decide (row.inspectionId = result.inspectionId)).find? key.names =
        catalog.captureFiles.rows.find? key.names := by
      rw [List.find?_filter]
      congr 1
      funext row
      by_cases named : key.names row = true
      · simp [named, ArtifactKey.inspectionId_of_names named, own]
      · simp [named]
    rw [absent, Option.or_none, if_neg own, kept]

/-! ## The invariant -/

structure CachesSound (config : Config) (shared : Shared) : Prop where
  store : StoreSound config shared.store
  sources : ∀ entry ∈ shared.sources, blob? shared.store.catalog entry.1 = some entry.2.identity
  disabled : config.catalogCacheEntries = 0 → shared.sources = []
  memory : ∀ entry ∈ shared.memory, StoredUnder config shared.texts entry.1 entry.2
  disk : ∀ {digest bytes}, shared.disk digest = some bytes → bytes ≠ [] →
    StoredUnder config shared.texts digest bytes
  decoded : ∀ entry ∈ shared.decoded, DecodedFrom config entry.1 entry.2
  since : ∀ {id}, shared.resolving id = true → shared.store.catalog ∈ shared.since id

theorem cachesSound_initial (initial : Initial config shared) : CachesSound config shared where
  store := initial.store
  sources := by simp [initial.sources]
  disabled _ := initial.sources
  memory := by simp [initial.memory]
  disk := initial.disk
  decoded := by simp [initial.decoded]
  since resolving := by simp [initial.resolving] at resolving

/-- What has to hold of an entry when a request puts it into a cache. -/
def RequestGood (config : Config) (shared : Shared) : Call → Prop
  | .insertSource key source =>
    config.catalogCacheEntries ≠ 0 → blob? shared.store.catalog key = some source.identity
  | .insertMemory text bytes | .storeDisk text bytes => Rendition config text bytes
  | .insertDecoded identity image => DecodedFrom config identity image
  | _ => True

theorem mem_insertBytes {Value : Type} {maxBytes : Nat} {size : Value → Nat}
    {entries : List (String × Value)} {key : String} {value : Value} {entry : String × Value}
    (mem : entry ∈ insertBytes maxBytes size entries key value) :
    entry = (key, value) ∨ entry ∈ entries := by
  unfold insertBytes at mem
  split at mem
  · exact .inr mem
  · exact Recency.mem_put (Recency.mem_evictWhile mem)

theorem CachesSound.leave (sound : CachesSound config shared) (id : Nat) :
    CachesSound config (shared.leave id) := by
  refine { sound with since := fun {other} resolving => ?_ }
  by_cases same : other = id
  · simp [Shared.leave, same] at resolving
  · simp only [Shared.leave, Function.update_of_ne same] at resolving
    exact sound.since resolving

theorem CachesSound.execute {env : Env} {request : Call} {after : Shared} {reply : request.Reply}
    (sound : CachesSound config shared) (good : RequestGood config shared request)
    (ran : execute config id env request shared = some (reply, after)) :
    CachesSound config after := by
  cases request with
  | isReady =>
    cases ran
    refine { sound with since := fun {other} resolving => ?_ }
    grind [sound.since]
  | lookup key =>
    simp only [Images.execute] at ran
    split at ran
    · cases ran
      exact sound
    cases ran
    refine { sound.leave id with
      sources := fun entry mem => sound.sources entry (Recency.mem_touch mem)
      disabled := fun off => ?_ }
    simp [sound.disabled off, Recency.touch, Recency.find?]
  | insertSource key source =>
    cases ran
    refine { sound.leave id with sources := fun entry mem => ?_, disabled := fun off => ?_ }
    · split at mem
      · exact sound.sources entry mem
      next caching =>
        obtain rfl | old := Recency.mem_put mem
        · exact good caching
        · exact sound.sources entry (Recency.mem_evictWhile old)
    · simp [off, sound.disabled off]
  | getMemory key =>
    cases ran
    exact { sound with memory := fun entry mem => sound.memory entry (Recency.mem_touch mem) }
  | insertMemory text bytes =>
    cases ran
    refine { sound with
      memory := fun entry mem => ?_
      disk := fun there filled => (sound.disk there filled).cons text }
    obtain rfl | old := mem_insertBytes mem
    · exact ⟨text, List.mem_cons_self, rfl, good⟩
    · exact (sound.memory entry old).cons text
  | storeDisk text bytes =>
    simp only [Images.execute] at ran
    split at ran
    · cases ran
      exact sound
    split at ran
    · cases ran
      exact sound
    cases ran
    refine { sound with
      memory := fun entry mem => (sound.memory entry mem).cons text
      disk := fun {digest found} there filled => ?_ }
    by_cases same : digest = config.keyDigest text
    · subst same
      cases (Function.update_self ..).symm.trans there
      exact ⟨text, List.mem_cons_self, rfl, good⟩
    · exact (sound.disk ((Function.update_of_ne same ..).symm.trans there) filled).cons text
  | getDecoded identity =>
    cases ran
    exact { sound with decoded := fun entry mem => sound.decoded entry (Recency.mem_touch mem) }
  | insertDecoded identity image =>
    cases ran
    refine { sound with decoded := fun entry mem => ?_ }
    dsimp only at mem
    obtain rfl | old := mem_insertBytes mem
    · exact good
    · exact sound.decoded entry old
  | _ =>
    all_goals simp only [Images.execute] at ran
    all_goals repeat' split at ran
    all_goals cases ran
    all_goals first
      | exact sound | exact sound.leave id | exact { sound with }

section

variable (change : StoreChange shared.store after call)
  (keeps : keepsNames config (.store call) shared = true)
include change keeps

/-- What is remembered keeps its blob over every step of a publication. -/
theorem blob?_of_change (caching : config.catalogCacheEntries ≠ 0)
    (remembered : key ∈ shared.remembered) :
    blob? after.catalog key = blob? shared.store.catalog key := by
  cases change with
  | keeps _ catalog _ | copied _ catalog _ | renamed _ _ catalog _ => rw [catalog]
  | @committed result _ _ _ published =>
    -- the publication names the same blobs for what is remembered
    simp only [keepsNames, caching, decide_false, Bool.false_or, List.all_eq_true] at keeps
    have same := keeps key remembered
    unfold blob?
    rw [row?_publish published]
    split
    next own =>
      have agreed : publishedBlob? result key = blob? shared.store.catalog key := by
        simpa [own] using same
      exact agreed
    · rfl

theorem CachesSound.setStore (sound : CachesSound config shared)
    (good : StoreGood config shared.store call) : CachesSound config (shared.setStore after) := by
  refine { sound with store := sound.store.step change good, sources := ?_, since := ?_ }
  · intro entry mem
    by_cases caching : config.catalogCacheEntries = 0
    · simp [Shared.setStore, sound.disabled caching] at mem
    · have remembered : entry.1 ∈ shared.remembered :=
        List.mem_append_left _ (List.mem_map_of_mem mem)
      exact (blob?_of_change change keeps caching remembered).trans (sound.sources entry mem)
  · intro id resolving
    have running : shared.resolving id = true := resolving
    simp [Shared.setStore, running]

end

/-! ## What a request relies on -/

/-- What other threads leave of the call of `resolve` of a request. -/
structure Undisturbed (config : Config) (id : Nat) (shared next : Shared) : Prop where
  blobs : BlobsStay shared.store next.store
  resolving : next.resolving id = shared.resolving id
  since : ∀ catalog ∈ shared.since id, catalog ∈ next.since id
  held : ∀ {key}, (id, key) ∈ shared.held → (id, key) ∈ next.held
  names : config.catalogCacheEntries ≠ 0 → ∀ {key}, (id, key) ∈ shared.held →
    blob? next.store.catalog key = blob? shared.store.catalog key

theorem Undisturbed.refl (config : Config) (id : Nat) (shared : Shared) :
    Undisturbed config id shared shared :=
  ⟨fun there => there, rfl, fun _ mem => mem, fun mem => mem, fun _ _ _ => rfl⟩

theorem undisturbed_of_execute {other : Nat} {env : Env} {request : Call} {after : Shared}
    {reply : request.Reply} (different : other ≠ id)
    (ran : execute config id env request shared = some (reply, after)) :
    Undisturbed config other shared after := by
  have store := store_of_execute ran
  have rest : after.resolving other = shared.resolving other ∧
      after.since other = shared.since other ∧
      ∀ {key}, (other, key) ∈ shared.held → (other, key) ∈ after.held := by
    cases request <;> simp only [execute] at ran
    all_goals repeat' split at ran
    all_goals cases ran
    all_goals
      refine ⟨?_, ?_, fun mem => ?_⟩
      all_goals first
        | rfl
        | exact mem
        | exact Function.update_of_ne different _ _
        | exact List.mem_filter.mpr ⟨mem, by simp [different]⟩
        | exact List.mem_cons_of_mem _ mem
  exact ⟨fun there => by rwa [store], rest.1, fun _ mem => by rwa [rest.2.1], rest.2.2,
    fun _ _ _ => by rw [store]⟩

theorem undisturbed_of_setStore (change : StoreChange shared.store after call)
    (keeps : keepsNames config (.store call) shared = true) :
    Undisturbed config id shared (shared.setStore after) where
  blobs there := change.blobs_stay there
  resolving := rfl
  since catalog mem := by
    simp only [Shared.setStore]
    split
    · exact List.mem_cons_of_mem _ mem
    · exact mem
  held mem := mem
  names caching key mem :=
    blob?_of_change change keeps caching
      (List.mem_append_right _ (List.mem_map.mpr ⟨(id, key), mem, rfl⟩))

end SteelInspection.Images
