import SteelInspection.Images.Caches
import SteelInspection.Results.Publication

/-! # Served images are current

In every run in which no commit changes the blob of an artifact that the service remembers and no two
key texts meet in one digest, `resolve` returns what a catalog says that was current during the call,
and every preview and tile is made from that blob.  Without the first condition the source cache
answers with a blob that was replaced long ago.
-/

namespace SteelInspection.Images

open Foundations Results

/-! ## Answers -/

/-- What `resolve` returned agrees with one of these catalogs; that the catalog cannot be read is no
statement about it. -/
def Resolved (key : ArtifactKey) (catalogs : List Catalog) :
    Except ResolveError ArtifactSource → Prop
  | .ok source => ∃ catalog ∈ catalogs, blob? catalog key = some source.identity
  | .error .notFound => ∃ catalog ∈ catalogs, row? catalog key = none
  | .error .invalidReference => False
  | .error .catalogUnavailable => True

/-- The key of what a request asks for, made from a blob. -/
def Query.renditionKey (config : Config) (identity : String) : Query → String
  | .preview query => PreviewJob.key config ⟨query, "", identity⟩
  | .tile query => TileJob.key config ⟨query, "", identity⟩

/-- The bytes are what a request asks for, made from a blob. -/
def Query.Shows (config : Config) (identity : String) (bytes : List Nat) : Query → Prop
  | .preview query => PreviewOf config identity query.profile bytes
  | .tile query => TileOf config identity query.level query.x query.y bytes

/-- An image in the response is made from the blob, and so is the one its tag stands for. -/
structure MadeFrom (config : Config) (query : Query) (identity : String) (response : Response) :
    Prop where
  tag : ∀ {tag}, response.etag = some tag → tag = quoted (query.renditionKey config identity)
  body : ∀ {bytes}, response.body = .jpeg bytes → query.Shows config identity bytes

/-- The response has no image and no tag. -/
structure Imageless (response : Response) : Prop where
  tag : response.etag = none
  body : ∀ bytes, response.body ≠ .jpeg bytes

def Answer.Current (config : Config) (catalogs : List Catalog) : Answer → Prop
  | .rejected response => Imageless response
  | .served query (.ok source) response =>
    Resolved query.key catalogs (.ok source) ∧ MadeFrom config query source.identity response
  | .served query (.error error) response =>
    Resolved query.key catalogs (.error error) ∧ Imageless response
  | .published _ => True

variable {key : ArtifactKey} {bytes : List Nat} {catalogs more : List Catalog} {identity : String}
  {headers : List (String × String)}

theorem Resolved.mono {outcome : Except ResolveError ArtifactSource}
    (resolved : Resolved key catalogs outcome) (within : ∀ catalog ∈ catalogs, catalog ∈ more) :
    Resolved key more outcome := by
  cases outcome with
  | ok source =>
    obtain ⟨catalog, mem, named⟩ := resolved
    exact ⟨catalog, within catalog mem, named⟩
  | error error =>
    cases error with
    | notFound =>
      obtain ⟨catalog, mem, absent⟩ := resolved
      exact ⟨catalog, within catalog mem, absent⟩
    | invalidReference => exact resolved
    | catalogUnavailable => trivial

theorem Answer.Current.mono {config : Config} {answer : Answer}
    (current : answer.Current config catalogs) (within : ∀ catalog ∈ catalogs, catalog ∈ more) :
    answer.Current config more := by
  cases answer with
  | rejected response => exact current
  | served query outcome response =>
    cases outcome with
    | ok source | error error => exact ⟨current.1.mono within, current.2⟩
  | published outcome => trivial

theorem imageless_errorJson (status : Nat) (error : String) : Imageless (errorJson status error) :=
  ⟨rfl, nofun⟩

theorem Imageless.madeFrom {config : Config} {query : Query} {response : Response}
    (imageless : Imageless response) : MadeFrom config query identity response where
  tag tagged := by
    rw [imageless.tag] at tagged
    cases tagged
  body shown := absurd shown (imageless.body _)

theorem Query.Shows.madeFrom {config : Config} {query : Query} {ifNoneMatch cacheControl : String}
    (shows : query.Shows config identity bytes) :
    MadeFrom config query identity (binaryResponse bytes
      (quoted (query.renditionKey config identity)) ifNoneMatch cacheControl headers) where
  tag tagged := (Option.some.inj tagged).symm
  body shown := by
    simp only [binaryResponse] at shown
    split at shown
    · cases shown
    · cases shown
      exact shows

/-! ## Walking through a request -/

/-- The same runs, with what is known about the calls of publications. -/
def soundRules (config : Config) : Rules Shared Thread Env Call Call.Reply Answer :=
  (currentRules config).assuming fun thread request shared =>
    match thread, request with
    | .publisher _, .store call => StoreGood config shared.store call
    | _, _ => True

def serveDiscipline (config : Config) : Discipline (soundRules config) where
  inv := CachesSound config
  rely thread shared next :=
    match thread with
    | .request id => Undisturbed config id shared next
    | .publisher _ => True
  good thread request shared :=
    match thread with
    | .request _ => RequestGood config shared request
    | .publisher _ => True
  rely_refl thread shared := by
    cases thread with
    | request id => exact .refl config id shared
    | publisher id => trivial
  rely_trans thread := by
    intro first second third before after
    cases thread with
    | request id =>
      exact ⟨fun there => after.blobs (before.blobs there), after.resolving.trans before.resolving,
        fun catalog mem => after.since catalog (before.since catalog mem),
        fun mem => after.held (before.held mem), fun caching _ mem =>
          (after.names caching (before.held mem)).trans (before.names caching mem)⟩
    | publisher id => trivial
  inv_initial := cachesSound_initial
  inv_call sound good calm executed := by
    obtain ⟨id, rfl, done⟩ | ⟨id, call, rfl, rfl, rfl⟩ := store_of_semantics executed
    · exact sound.execute good done
    · exact sound.setStore (storeChange_effects _ _ _) (Bool.and_eq_true_iff.mp calm.1.2).1 calm.2
  rely_call {thread other} := by
    intro _ _ _ _ _ different sound _ calm executed
    cases other with
    | publisher id => trivial
    | request own =>
      obtain ⟨id, rfl, done⟩ | ⟨id, call, rfl, rfl, rfl⟩ := store_of_semantics executed
      · exact undisturbed_of_execute (fun same => different (by rw [same])) done
      · exact undisturbed_of_setStore (storeChange_effects _ _ _) (Bool.and_eq_true_iff.mp calm.1.2).1

section Requests

variable {config : Config} {id : Nat} {shared : Shared}

/-- Whatever the state, the program ends with such a value, and the catalogs that were current since
`resolve` began stay noted. -/
def Serves {β : Type} (config : Config) (id : Nat) (post : β → Prop) (program : Code β) : Prop :=
  ∀ (shared : Shared) (seen : List Catalog), (∀ catalog ∈ seen, catalog ∈ shared.since id) →
    (serveDiscipline config).Safe (.request id)
      (fun value after => post value ∧ ∀ catalog ∈ seen, catalog ∈ after.since id) program shared

section Rules

variable {β γ : Type} {post : β → Prop} {other : γ → Prop} {program : Code β}

theorem Serves.pure {value : β} (holds : post value) : Serves config id post (.pure value) :=
  fun _ _ within => .pure ⟨holds, within⟩

theorem Serves.bind {next : β → Code γ} (first : Serves config id post program)
    (second : ∀ value, post value → Serves config id other (next value)) :
    Serves config id other (program >>= next) := fun shared seen within =>
  (first shared seen within).bind fun value current known => second value known.1 current seen known.2

/-- A call whose reply says something about the caches, whenever it is made. -/
theorem Serves.ask (request : Call) (serving : request ≠ .isReady) {post : request.Reply → Prop}
    (good : ∀ {current}, CachesSound config current → RequestGood config current request)
    (returns : ∀ {current env reply after}, CachesSound config current →
      (soundRules config).undisturbed (.request id) request current →
      execute config id env request current = some (reply, after) → post reply) :
    Serves config id post (ask request) := by
  refine fun shared seen within => .ask request (fun _ _ sound => good sound) ?_
  intro current relied sound calm env reply after ran _
  change execute config id env request current = some (reply, after) at ran
  -- only the beginning of `resolve` starts the note anew
  have noted : after.since = current.since := by
    cases request <;> simp only [execute] at ran
    all_goals repeat' split at ran
    all_goals cases ran
    all_goals first | rfl | exact absurd rfl serving
  refine ⟨returns sound calm ran, fun catalog mem => ?_⟩
  rw [noted]
  exact relied.since catalog (within catalog mem)

theorem Serves.ask_any (request : Call) (serving : request ≠ .isReady)
    (good : ∀ {current}, CachesSound config current → RequestGood config current request) :
    Serves config id (fun _ => True) (Images.ask request) :=
  .ask request serving good fun _ _ _ => trivial

end Rules

/-! ### Renditions -/

/-- What lies under the digest of a text that has it for itself was made for this text. -/
theorem StoredUnder.rendition {text : String}
    (stored : StoredUnder config shared.texts (config.keyDigest text) bytes)
    (distinct : shared.texts.all (fun other =>
      other = text || config.keyDigest other ≠ config.keyDigest text) = true) :
    Rendition config text bytes := by
  obtain ⟨other, mem, digest, made⟩ := stored
  have same : other = text := by simpa [digest] using List.all_eq_true.mp distinct other mem
  rwa [← same]

theorem cacheGet_serves (text : String) :
    Serves config id (fun found => ∀ bytes ∈ found, Rendition config text bytes)
      (cacheGet text) := by
  have remembers : Serves config id
      (fun found => ∀ bytes ∈ found, Rendition config text bytes)
      (ask (.getMemory text)) := by
    refine .ask (.getMemory text) nofun (fun _ => trivial) ?_
    intro current env reply after sound calm ran bytes found
    cases ran
    exact (sound.memory _ (Recency.mem_of_find? found)).rendition (Bool.and_eq_true_iff.mp calm.1.2).2
  refine remembers.bind fun found known => ?_
  cases found with
  | some bytes => exact .pure known
  | none =>
    have reads : Serves config id
        (fun found => ∀ bytes ∈ found, Rendition config text bytes)
        (ask (.readDisk text)) := by
      refine .ask (.readDisk text) nofun (fun _ => trivial) ?_
      intro current env reply after sound calm ran bytes found
      cases ran
      split at found
      · cases found
      · obtain ⟨there, filled⟩ := Option.filter_eq_some_iff.mp found
        exact (sound.disk there (by simpa using filled)).rendition
          (Bool.and_eq_true_iff.mp calm.1.2).2
    refine reads.bind fun found known => ?_
    cases found with
    | none => exact .pure nofun
    | some bytes =>
      exact (Serves.ask_any (.insertMemory text bytes) nofun fun _ => known bytes rfl).bind
        fun _ _ => .pure known

theorem decode_serves (identity : String) :
    Serves config id (fun decoded => ∀ image ∈ decoded, DecodedFrom config identity image)
      (decode config identity) := by
  have opens : Serves config id (fun content => ∀ bytes ∈ content, config.sha256 bytes = identity)
      (ask (.openBlob identity)) := by
    refine .ask (.openBlob identity) nofun (fun _ => trivial) ?_
    intro current env reply after sound _ ran content found
    cases ran
    split at found
    · cases found
    · exact sound.store.blobs found
  refine opens.bind fun content named => .pure fun image decoded => ?_
  obtain ⟨bytes, rfl, made⟩ := Option.bind_eq_some_iff.mp decoded
  exact ⟨bytes, named bytes rfl, made⟩

/-- What the decoded cache has is answered, and otherwise the image is loaded. -/
theorem getDecoded_serves {identity status : String}
    {next : Option DynamicImage → Code (Option (DynamicImage × String))}
    (answers : ∀ image, next (some image) = .pure (some (image, status)))
    (loads : Serves config id (fun loaded => ∀ hit ∈ loaded, DecodedFrom config identity hit.1)
      (next none)) :
    Serves config id (fun loaded => ∀ hit ∈ loaded, DecodedFrom config identity hit.1)
      (ask (.getDecoded identity) >>= next) := by
  have remembers : Serves config id (fun found => ∀ image ∈ found, DecodedFrom config identity image)
      (ask (.getDecoded identity)) := by
    refine .ask (.getDecoded identity) nofun (fun _ => trivial) ?_
    intro current env reply after sound _ ran image found
    cases ran
    exact sound.decoded _ (Recency.mem_of_find? found)
  refine remembers.bind fun found known => ?_
  cases found with
  | some image =>
    rw [answers]
    refine .pure fun hit same => ?_
    cases same
    exact known image rfl
  | none => exact loads

theorem load_serves (identity : String) :
    Serves config id (fun loaded => ∀ hit ∈ loaded, DecodedFrom config identity hit.1)
      (load config identity) := by
  have gated : Serves config id (fun loaded => ∀ hit ∈ loaded, DecodedFrom config identity hit.1)
      (loadGated config identity) := by
    refine getDecoded_serves (fun _ => rfl) ((decode_serves identity).bind fun decoded known => ?_)
    cases decoded with
    | none => exact .pure nofun
    | some image =>
      refine (Serves.ask_any (.insertDecoded identity image) nofun fun _ => known image rfl).bind
        fun _ _ => .pure fun hit same => ?_
      cases same
      exact known image rfl
  refine getDecoded_serves (fun _ => rfl) ((Serves.ask_any (.enterDecode identity) nofun
    fun _ => trivial).bind fun _ _ => gated.bind fun loaded known => ?_)
  exact (Serves.ask_any (.leaveDecode identity) nofun fun _ => trivial).bind fun _ _ => .pure known

theorem storeRendition_serves {live : Bool} {text : String} (made : Rendition config text bytes) :
    Serves config id (fun _ => True) (storeRendition live text bytes) := by
  unfold storeRendition
  split
  · exact .pure trivial
  · refine (Serves.ask_any (.storeDisk text bytes) nofun fun _ => made).bind fun stored _ => ?_
    split <;>
      exact (Serves.ask_any (.insertMemory text bytes) nofun fun _ => made).bind
        fun _ _ => .pure trivial

/-! ### Previews and tiles -/

theorem PreviewJob.serve_serves (job : PreviewJob) (length : job.identity.toList.length = 64) :
    Serves config id (MadeFrom config (.preview job.query) job.identity) (job.serve config) := by
  have renders : Serves config id (MadeFrom config (.preview job.query) job.identity)
      (job.render config) := by
    refine (load_serves job.identity).bind fun loaded known => ?_
    cases loaded with
    | none => exact .pure (imageless_errorJson _ _).madeFrom
    | some loaded =>
      obtain ⟨image, decodeCache⟩ := loaded
      dsimp only
      split
      · exact .pure (imageless_errorJson _ _).madeFrom
      rename_i rendered contained
      have made : (Query.preview job.query).Shows config job.identity rendered.bytes :=
        ⟨image, rendered, known _ rfl, contained, rfl⟩
      refine (storeRendition_serves (.preview job length made)).bind fun _ _ => ?_
      exact .pure made.madeFrom
  -- what the cache has is answered, and otherwise the image is made
  have cached : ∀ {status : String} {next : Option (List Nat) → Code Response},
      (∀ bytes, next (some bytes) = .pure (job.respond config bytes status [])) →
      Serves config id (MadeFrom config (.preview job.query) job.identity) (next none) →
      Serves config id (MadeFrom config (.preview job.query) job.identity)
        (cacheGet job.text >>= next) := by
    intro status next answers makes
    refine (cacheGet_serves job.text).bind fun found known => ?_
    cases found with
    | some bytes =>
      rw [answers]
      exact .pure (Query.Shows.madeFrom ((known bytes rfl).previewOf length))
    | none => exact makes
  have builds : Serves config id (MadeFrom config (.preview job.query) job.identity)
      (job.build config) := by
    unfold build
    split
    · exact renders
    · exact cached (fun _ => rfl) renders
  have gated : Serves config id (MadeFrom config (.preview job.query) job.identity)
      (job.buildGated config) := by
    refine (Serves.ask_any (.enterBuild _) nofun fun _ => trivial).bind fun _ _ => ?_
    refine builds.bind fun response made => ?_
    exact (Serves.ask_any (.leaveBuild _) nofun fun _ => trivial).bind fun _ _ => .pure made
  unfold serve
  split
  · exact gated
  · exact cached (fun _ => rfl) gated

theorem TileJob.serve_serves (job : TileJob) (length : job.identity.toList.length = 64) :
    Serves config id (MadeFrom config (.tile job.query) job.identity) (job.serve config) := by
  refine (cacheGet_serves job.text).bind fun found known => ?_
  cases found with
  | some bytes => exact .pure (Query.Shows.madeFrom ((known bytes rfl).tileOf length))
  | none =>
    refine (decode_serves job.identity).bind fun decoded known => ?_
    cases decoded with
    | none => exact .pure (imageless_errorJson _ _).madeFrom
    | some image =>
      dsimp only
      split
      · exact .pure (imageless_errorJson _ _).madeFrom
      · exact .pure (imageless_errorJson _ _).madeFrom
      · exact .pure (imageless_errorJson _ _).madeFrom
      rename_i bytes cut
      have made : (Query.tile job.query).Shows config job.identity bytes :=
        ⟨image, known image rfl, cut⟩
      exact (Serves.ask_any (.insertMemory _ _) nofun fun _ => .tile job length made).bind
        fun _ _ => .pure made.madeFrom

/-! ### Resolving -/

abbrev Resolves {β : Type} (config : Config) (id : Nat) (post : β → Shared → Prop) (program : Code β)
    (shared : Shared) : Prop :=
  (serveDiscipline config).Safe (.request id) post program shared

theorem Resolves.ask (request : Call) {post : request.Reply → Shared → Prop}
    (good : ∀ current, Undisturbed config id shared current → CachesSound config current →
      RequestGood config current request)
    (returns : ∀ current, Undisturbed config id shared current → CachesSound config current →
      ∀ env reply after, execute config id env request current = some (reply, after) →
        post reply after) : Resolves config id post (ask request) shared :=
  Discipline.Safe.ask request good fun current relied sound _ env reply after ran _ =>
    returns current relied sound env reply after ran

structure Queried (config : Config) (id : Nat) (key : ArtifactKey) (identity : String)
    (shared : Shared) : Prop where
  since : ∃ catalog ∈ shared.since id, blob? catalog key = some identity
  blob : (shared.store.blobs identity).isSome
  held : (id, key) ∈ shared.held
  current : config.catalogCacheEntries ≠ 0 → blob? shared.store.catalog key = some identity

theorem Queried.stays {next : Shared} (queried : Queried config id key identity shared)
    (undisturbed : Undisturbed config id shared next) : Queried config id key identity next where
  since := by
    obtain ⟨catalog, mem, named⟩ := queried.since
    exact ⟨catalog, undisturbed.since catalog mem, named⟩
  blob := undisturbed.blobs queried.blob
  held := undisturbed.held queried.held
  current caching := (undisturbed.names caching queried.held).trans (queried.current caching)

theorem CachesSound.identity_of_row (sound : CachesSound config shared) {row : CaptureFileRow}
    (found : row? shared.store.catalog key = some row) :
    ∃ identity, validatedBlobIdentity row.path = some identity ∧
      (shared.store.blobs identity).isSome := by
  obtain ⟨name, path, there⟩ := sound.store.rows row (List.mem_of_find?_eq_some found)
  obtain ⟨content, stored⟩ := Option.isSome_iff_exists.mp there
  obtain rfl := sound.store.blobs stored
  exact ⟨_, by rw [path, validatedBlobIdentity_blobPath], there⟩

def QueryReply (config : Config) (id : Nat) (key : ArtifactKey) :
    Except ResolveError String → Shared → Prop
  | .error error, after => Resolved key (after.since id) (.error error)
  | .ok path, after => ∃ identity, validatedBlobIdentity path = some identity ∧
    Queried config id key identity after

theorem resolveFromCatalog_resolves (key : ArtifactKey) (resolving : shared.resolving id = true) :
    Resolves config id (fun outcome after => Resolved key (after.since id) outcome)
      (resolveFromCatalog key) shared := by
  have queries : Resolves config id (QueryReply config id key) (ask (.query key)) shared := by
    refine .ask (.query key) (fun _ _ _ => trivial) ?_
    intro current undisturbed sound env reply after ran
    have now := sound.since (undisturbed.resolving.trans resolving)
    simp only [execute] at ran
    split at ran
    · cases ran
      trivial
    split at ran
    next absent =>
      cases ran
      exact ⟨_, now, absent⟩
    rename_i row found
    obtain ⟨identity, valid, there⟩ := sound.identity_of_row found
    have named : blob? current.store.catalog key = some identity := by
      rw [blob?, found, Option.bind_some, valid]
    rw [valid, Option.isSome_some, if_pos rfl] at ran
    cases ran
    exact ⟨identity, valid, ⟨_, now, named⟩, there, List.mem_cons_self, fun _ => named⟩
  refine queries.bind fun reply current known => ?_
  cases reply with
  | error error => exact .pure known
  | ok path =>
    obtain ⟨identity, valid, queried⟩ := known
    simp only [valid]
    -- the blob is there, since a blob never goes
    have looks : Resolves config id (fun present after => present = true ∧
        Queried config id key identity after) (ask (.blobIsFile identity)) current := by
      refine .ask (.blobIsFile identity) (fun _ _ _ => trivial) ?_
      intro now undisturbed _ env reply after ran
      have stillQueried := queried.stays undisturbed
      simp only [execute, stillQueried.blob, if_true, Option.some.injEq] at ran
      cases ran
      exact ⟨rfl, stillQueried⟩
    refine looks.bind ?_
    rintro present seen ⟨rfl, seenQueried⟩
    have inserts : Resolves config id (fun _ after => Resolved key (after.since id) (.ok ⟨identity⟩))
        (ask (.insertSource key ⟨identity⟩)) seen := by
      refine .ask (.insertSource key ⟨identity⟩) ?_ ?_
      · exact fun now undisturbed _ => (seenQueried.stays undisturbed).current
      · intro now undisturbed _ env reply after ran
        cases ran
        exact (seenQueried.stays undisturbed).since
    exact inserts.bind fun _ _ resolved => .pure resolved

def LookupReply (id : Nat) (key : ArtifactKey) : Option ArtifactSource → Shared → Prop
  | none, after => after.resolving id = true
  | some source, after => Resolved key (after.since id) (.ok source)

theorem resolve_resolves (key : ArtifactKey) :
    Resolves config id (fun outcome after => Resolved key (after.since id) outcome) (resolve key)
      shared := by
  have ready : Resolves config id (fun reply after => reply = true → after.resolving id = true)
      (ask .isReady) shared := by
    refine .ask .isReady (fun _ _ _ => trivial) ?_
    intro current _ _ env reply after ran isReady
    cases ran
    simpa using isReady
  refine ready.bind fun isReady current resolving => ?_
  cases isReady with
  | false => exact .pure trivial
  | true =>
    have looks : Resolves config id (LookupReply id key) (ask (.lookup key)) current := by
      refine .ask (.lookup key) (fun _ _ _ => trivial) ?_
      intro now undisturbed sound env reply after ran
      have stillResolving := undisturbed.resolving.trans (resolving rfl)
      simp only [execute] at ran
      split at ran
      · cases ran
        exact stillResolving
      next source found =>
        cases ran
        exact ⟨_, sound.since stillResolving, sound.sources _ (Recency.mem_of_find? found)⟩
    refine looks.bind fun found last known => ?_
    cases found with
    | some source => exact .pure known
    | none => exact resolveFromCatalog_resolves key known

theorem serve_current (request : Request) :
    Resolves config id (fun answer after => answer.Current config (after.since id))
      (serve config request) shared := by
  unfold serve
  split
  · exact .pure (imageless_errorJson _ _)
  rename_i query _
  refine (resolve_resolves query.key).bind fun outcome current resolved => ?_
  cases outcome with
  | error error => exact .pure ⟨resolved, by cases error <;> exact imageless_errorJson _ _⟩
  | ok source =>
    have length : source.identity.toList.length = 64 := by
      obtain ⟨catalog, -, named⟩ := resolved
      obtain ⟨row, -, valid⟩ := Option.bind_eq_some_iff.mp named
      unfold validatedBlobIdentity at valid
      split at valid
      · grind [Text.toAsciiLowercase, String.toList_ofList]
      · cases valid
    have serves : Serves config id (MadeFrom config query source.identity)
        (serveResolved config query request.ifNoneMatch (.ok source)) := by
      cases query with
      | preview query => exact PreviewJob.serve_serves ⟨query, _, _⟩ length
      | tile query => exact TileJob.serve_serves ⟨query, _, _⟩ length
    -- what `resolve` returned stays true of the call while the image is made
    exact (serves current _ fun _ mem => mem).bind fun _ _ known =>
      .pure ⟨resolved.mono known.2, known.1⟩

end Requests

theorem sound_reachable {config : Config} {machine}
    (reached : (currentRules config).Reachable machine) : (soundRules config).Reachable machine := by
  refine reached.assuming fun {machine} earlier {thread request} next => ?_
  have free : (imageRules config).Reachable machine := earlier.free
  cases thread with
  | request id => trivial
  | publisher id => grind [reachable_storeGood]

/-- In every run in which no commit changes the blob of an artifact that the image service remembers,
and no rendition is looked up under the digest of another text that one was stored under: what a
request was told by `resolve` agrees with a catalog that was current during that call, and its image
is made from the blob named there. -/
theorem served_current {config : Config} {machine}
    (reached : (currentRules config).Reachable machine) {id : Nat} {answer : Answer}
    (answered : machine.answer? (.request id) = some answer) :
    answer.Current config (machine.shared.since id) := by
  refine (serveDiscipline config).reachable_answer
    (fun thread answer shared => ∀ id, thread = .request id →
      answer.Current config (shared.since id)) ?_ ?_ (sound_reachable reached) answered id rfl
  · rintro thread answer shared current relied known id rfl
    exact (known id rfl).mono relied.since
  intro thread program shared handler _
  cases handler with
  | @request id request => grind [serve_current]
  | publisher input =>
    exact .of_any (fun _ => trivial) (fun _ _ _ => by simp) _ _

/-! ## A blob that was replaced -/

def firstBlob : String := "4bf5122f344554c53bde2ebb8cd2b7e3d1600ad631c385a5d7cce23c7785459a"

def secondBlob : String := "dbc1b4c900ffe48d575b5da5c638040125f65db0fe3e24494b76ea986457d986"

/-- Two images of one byte with their digests, and the digests of the keys of their first tiles; encoded,
an image is its bytes. -/
def twoImages : Config where
  sha256 content := if content = [1] then firstBlob else secondBlob
  sha256_length content := by split <;> rfl
  sha256_hex content := by
    split <;> exact List.all_eq_true.mp (by decide)
  keyDigest text :=
    if text = "steel.legacy-tile.v1|" ++ firstBlob ++ "|0|0|0" then
      "b5217fa89d7cae7d62eac41b53f8299991e16599d482b376adb489b15b5a389b"
    else "025af19a2916838274fd18f4fc8dd6882305f480d3a99a812d2fbadff28ac801"
  codec :=
    { decode := fun content => some ⟨1, 1, 1, content⟩
      targetDimensions := fun size _ => size
      resizePreview := fun image _ => (image, "triangle")
      resize := fun image _ _ => image
      crop := fun image _ _ _ _ => image
      encodeJpeg := fun image => some image.bytes }
  catalogCacheEntries := 16
  encodedCacheBytes := 16
  decodedCacheBytes := 16

def freshShared : Shared where
  store := Store.empty
  sources := []
  memory := []
  disk _ := none
  decoded := []
  building _ := false
  decoding _ := false
  resolving _ := false
  since _ := []
  held := []
  texts := []

theorem freshShared_initial : Initial twoImages freshShared where
  store :=
    { blobs := nofun
      temporaries := fun ⟨_, _, there, _⟩ => by cases there
      rows := nofun }
  sources := rfl
  memory := rfl
  disk found := by cases found
  decoded := rfl
  resolving _ := rfl
  held := rfl

abbrev Schedule := List (Action Thread Env Call Call.Reply Answer)

def turns (thread : Thread) (count : Nat) : Schedule := .replicate count (.advance thread {})

def plate (sourceHash : String) (content : List Nat) : PublishInput :=
  { inspection sourceHash with source := fun _ => .file content }

def tileRequest : Request :=
  .tile (fun name => if name = "recordId" then some "1" else if name = "sequence" then some "1" else none)
    ""

def tileKey : ArtifactKey := ⟨"1", "C1", 1, "intensity"⟩

/-- The artifact that was asked for and the blob that the answer was made from. -/
def Answer.source? : Answer → Option (ArtifactKey × String)
  | .served query (.ok source) _ => some (query.key, source.identity)
  | _ => none

theorem Answer.Current.named {config : Config} {answer : Answer}
    (current : answer.Current config catalogs) (source : answer.source? = some (key, identity)) :
    ∃ catalog ∈ catalogs, blob? catalog key = some identity := by
  unfold source? at source
  split at source
  · cases source
    exact current.1
  · cases source

/-- The inspection is published with one image; `between` happens; it is published with another image,
and the tile is asked for. -/
def republished (between : Schedule) (replies : Nat) : Schedule :=
  .spawn (.publisher 1) (publication twoImages (plate "first" [1])) :: turns (.publisher 1) 15 ++
    between ++
    .spawn (.publisher 1) (publication twoImages (plate "second" [2])) :: turns (.publisher 1) 17 ++
    .spawn (.request 2) (serve twoImages tileRequest) :: turns (.request 2) replies

/-- The tile is asked for, and the source cache remembers its blob. -/
def firstTile : Schedule :=
  .spawn (.request 1) (serve twoImages tileRequest) :: turns (.request 1) 9

/-- The tile was asked for before: after the second publication the source cache still answers with the
first blob, which no catalog named while `resolve` ran. -/
theorem replaced_blob_served :
    ¬ ∀ (config : Config) machine,
      (imageRules config).Reachable machine → ∀ id answer,
        machine.answer? (.request id) = some answer →
          answer.Current config (machine.shared.since id) := by
  intro claimed
  obtain ⟨machine, reached, seen⟩ : ∃ machine, (imageRules twoImages).Reachable machine ∧
      ((machine.answer? (.request 2)).bind Answer.source?,
        (machine.shared.since 2).map (blob? · tileKey)) =
          (some (tileKey, firstBlob), [some secondBlob]) :=
    Rules.exists_reachable (fun _ _ _ => true) freshShared (republished firstTile 3)
      (fun _ _ _ _ => trivial) freshShared_initial
      ⟨.publisher _, .request _, .publisher _, .request _, trivial⟩ (by decide +kernel)
  obtain ⟨source, named⟩ := Prod.mk.inj seen
  obtain ⟨answer, answered, shown⟩ := Option.bind_eq_some_iff.mp source
  obtain ⟨catalog, member, blob⟩ := (claimed twoImages machine reached 2 answer answered).named shown
  have other : some firstBlob ∈ (machine.shared.since 2).map (blob? · tileKey) :=
    List.mem_map.mpr ⟨catalog, member, blob⟩
  rw [named, List.mem_singleton, Option.some.injEq] at other
  exact absurd other (by decide +kernel)

/-- Nothing was asked for before the second publication.  Then the tile is asked for twice, and the second
time the caches answer, with the new image. -/
theorem new_blob_served : ∃ machine, (currentRules twoImages).Reachable machine ∧
      ∃ answer, machine.answer? (.request 3) = some answer ∧
        answer.source? = some (tileKey, secondBlob) ∧
        answer.Current twoImages (machine.shared.since 3) := by
  obtain ⟨machine, reached, source⟩ : ∃ machine, (currentRules twoImages).Reachable machine ∧
      (machine.answer? (.request 3)).bind Answer.source? = some (tileKey, secondBlob) :=
    Rules.exists_reachable
      (fun _ request shared => keepsNames twoImages request shared &&
        distinctKeys twoImages request shared) freshShared
      (republished [] 9 ++ .spawn (.request 3) (serve twoImages tileRequest) :: turns (.request 3) 3)
      (fun _ _ _ passed => ⟨trivial, passed⟩) freshShared_initial
      ⟨.publisher _, .publisher _, .request _, .request _, trivial⟩ (by decide +kernel)
  obtain ⟨answer, answered, shown⟩ := Option.bind_eq_some_iff.mp source
  exact ⟨machine, reached, answer, answered, shown, served_current reached answered⟩

/-- In every run a blob is named by its digest, and every row of the catalog has its blob. -/
theorem catalog_never_dangles {config : Config} {machine}
    (reached : (imageRules config).Reachable machine) : StoreSound config machine.shared.store := by
  refine reached.invariant (fun shared => StoreSound config shared.store) (·.store) ?_
  intro machine earlier sound thread env request reply after next _ ran
  refine (blobDiscipline config).inv_call sound ?_ trivial ran
  cases thread <;> cases request <;> first | trivial | exact reachable_storeGood earlier next

theorem replaced_never_dangles : ∃ machine, (imageRules twoImages).Reachable machine ∧
      blob? machine.shared.store.catalog tileKey = some secondBlob ∧
      StoreSound twoImages machine.shared.store := by
  obtain ⟨machine, reached, named⟩ : ∃ machine, (imageRules twoImages).Reachable machine ∧
      blob? machine.shared.store.catalog tileKey = some secondBlob :=
    Rules.exists_reachable (fun _ _ _ => true) freshShared (republished firstTile 3)
      (fun _ _ _ _ => trivial) freshShared_initial
      ⟨.publisher _, .request _, .publisher _, .request _, trivial⟩ (by decide +kernel)
  exact ⟨machine, reached, named, catalog_never_dangles reached⟩

end SteelInspection.Images
