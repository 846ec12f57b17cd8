import Mathlib.Algebra.GroupWithZero.Nat
import SteelInspection.Foundations.Interleaving
import SteelInspection.Foundations.Recency
import SteelInspection.Images.Requests
import SteelInspection.Results.Publish

/-! # The image service beside the publisher

Requests for previews and tiles run on any number of threads, beside any number of publications.  Each
access to a table behind a mutex, each file operation, the catalog query and the catalog transaction is
one call.

Between the catalog and an answer stand four caches: the blobs of artifacts by what they are looked up
by, the encoded renditions in memory and on disk by their key, and the decoded images by their blob.
`since` and `held` record what a call of `resolve` has met and `texts` what renditions were stored
under, for the theorems only.
-/

namespace SteelInspection.Images

open Foundations

/-! ## Configuration -/

/-- The lower-case digits of `{:x}`. -/
def isLowerHex (character : Char) : Bool :=
  Text.isAsciiDigit character || ('a' ≤ character && character ≤ 'f')

/-- `sha256` names blobs by their content and `keyDigest` renditions by the text of their key. -/
structure Config where
  sha256 : List Nat → String
  sha256_length : ∀ content, (sha256 content).toList.length = 64
  sha256_hex : ∀ content, ∀ character ∈ (sha256 content).toList, isLowerHex character = true
  keyDigest : String → String
  codec : Codec
  catalogCacheEntries : Nat
  encodedCacheBytes : Nat
  decodedCacheBytes : Nat

/-! ## State -/

inductive Thread where
  | request (id : Nat)
  | publisher (id : Nat)
  deriving DecidableEq, Repr

structure Shared where
  store : Results.Store
  sources : List (ArtifactKey × ArtifactSource)
  memory : List (String × List Nat)
  disk : String → Option (List Nat)
  decoded : List (String × DynamicImage)
  building : String → Bool
  decoding : String → Bool
  /-- The requests that are in `resolve`. -/
  resolving : Nat → Bool
  /-- The catalogs that were current while the last `resolve` of a request ran. -/
  since : Nat → List Results.Catalog
  /-- The artifacts whose row a `resolve` has read and not yet put into the cache. -/
  held : List (Nat × ArtifactKey)
  /-- The texts of the keys under which renditions were stored. -/
  texts : List String

namespace Shared

def leave (shared : Shared) (id : Nat) : Shared :=
  { shared with
    resolving := Function.update shared.resolving id false
    held := shared.held.filter fun entry => !decide (entry.1 = id) }

/-- A step of a publication; the catalog it leaves is current from now on. -/
def setStore (shared : Shared) (store : Results.Store) : Shared :=
  { shared with
    store := store
    since := fun id =>
      if shared.resolving id then store.catalog :: shared.since id else shared.since id }

end Shared

def insertBytes {Value : Type} (maxBytes : Nat) (size : Value → Nat)
    (entries : List (String × Value)) (key : String) (value : Value) : List (String × Value) :=
  if size value > maxBytes ∨ maxBytes = 0 then entries
  else
    Recency.evictWhile (fun entries => (entries.map fun entry => size entry.2).sum > maxBytes)
      (Recency.put entries key value)

/-! ## Calls -/

/-- What a call meets: how the store answers a publication, and whether a file operation or a query of
the image service fails. -/
structure Env where
  store : Results.Env := .works
  fault : Bool := false
  deriving DecidableEq, Repr

/-- A call for a rendition names the text of its key; the rendition lies under the digest of the text. -/
inductive Call where
  | store (request : Results.Call)
  | isReady
  | lookup (key : ArtifactKey)
  /-- `Connection::open_with_flags` and `query_row`. -/
  | query (key : ArtifactKey)
  | blobIsFile (identity : String)
  | insertSource (key : ArtifactKey) (source : ArtifactSource)
  | getMemory (text : String)
  | readDisk (text : String)
  | insertMemory (text : String) (bytes : List Nat)
  /-- `RenditionCache::store` up to the insertion into the memory. -/
  | storeDisk (text : String) (bytes : List Nat)
  | enterBuild (text : String)
  | leaveBuild (text : String)
  | getDecoded (identity : String)
  | enterDecode (identity : String)
  | leaveDecode (identity : String)
  | openBlob (identity : String)
  | insertDecoded (identity : String) (image : DynamicImage)

abbrev Call.Reply : Call → Type
  | .store request => request.Reply
  | .isReady | .blobIsFile _ | .storeDisk _ _ => Bool
  | .lookup _ => Option ArtifactSource
  | .query _ => Except ResolveError String
  | .getMemory _ | .readDisk _ | .openBlob _ => Option (List Nat)
  | .getDecoded _ => Option DynamicImage
  | _ => Unit

def execute (config : Config) (id : Nat) (env : Env) :
    (request : Call) → Shared → Option (request.Reply × Shared)
  | .store _, _ => none
  | .isReady, shared =>
    some (!env.fault,
      { shared with
        resolving := Function.update shared.resolving id (!env.fault)
        since := Function.update shared.since id [shared.store.catalog] })
  | .lookup key, shared =>
    match Recency.find? shared.sources key with
    | none => some (none, shared)
    | some source =>
      some (some source, { shared.leave id with sources := Recency.touch shared.sources key })
  | .query key, shared =>
    if env.fault then some (.error .catalogUnavailable, shared.leave id)
    else
      match row? shared.store.catalog key with
      | none => some (.error .notFound, shared.leave id)
      | some row =>
        if (validatedBlobIdentity row.path).isSome then
          some (.ok row.path, { shared with held := (id, key) :: shared.held })
        else some (.ok row.path, shared.leave id)
  | .blobIsFile identity, shared =>
    if (shared.store.blobs identity).isSome then some (true, shared)
    else some (false, shared.leave id)
  | .insertSource key source, shared =>
    some ((),
      { shared.leave id with
        sources := if config.catalogCacheEntries = 0 then shared.sources
          else Recency.put (Recency.evictWhile
            (fun entries => entries.length ≥ config.catalogCacheEntries) shared.sources) key source })
  | .getMemory text, shared =>
    some (Recency.find? shared.memory (config.keyDigest text),
      { shared with memory := Recency.touch shared.memory (config.keyDigest text) })
  | .readDisk text, shared =>
    some (if env.fault then none
      else (shared.disk (config.keyDigest text)).filter fun bytes => !bytes.isEmpty, shared)
  | .insertMemory text bytes, shared =>
    some ((), { shared with
      memory := insertBytes config.encodedCacheBytes List.length shared.memory
        (config.keyDigest text) bytes
      texts := text :: shared.texts })
  | .storeDisk text bytes, shared =>
    if env.fault then some (false, shared)
    else if (shared.disk (config.keyDigest text)).isSome then some (true, shared)
    else some (true, { shared with
      disk := Function.update shared.disk (config.keyDigest text) (some bytes)
      texts := text :: shared.texts })
  | .enterBuild text, shared =>
    if shared.building (config.keyDigest text) then none
    else some ((), { shared with
      building := Function.update shared.building (config.keyDigest text) true })
  | .leaveBuild text, shared =>
    some ((), { shared with
      building := Function.update shared.building (config.keyDigest text) false })
  | .getDecoded identity, shared =>
    some (Recency.find? shared.decoded identity,
      { shared with decoded := Recency.touch shared.decoded identity })
  | .enterDecode identity, shared =>
    if shared.decoding identity then none
    else some ((), { shared with decoding := Function.update shared.decoding identity true })
  | .leaveDecode identity, shared =>
    some ((), { shared with decoding := Function.update shared.decoding identity false })
  | .openBlob identity, shared =>
    some (if env.fault then none else shared.store.blobs identity, shared)
  | .insertDecoded identity image, shared =>
    some ((), { shared with
      decoded := insertBytes config.decodedCacheBytes (fun image => image.bytes.length)
        shared.decoded identity image })

def semantics (config : Config) : Semantics Shared Thread Env Call Call.Reply
  | .request id, env, request, shared => execute config id env request shared
  | .publisher _, env, .store request, shared =>
    let outcome := Results.effects env.store request shared.store
    some (outcome.1, shared.setStore outcome.2)
  | .publisher _, _, _, _ => none

/-! ## Requests -/

abbrev Code := Program Call Call.Reply

def ask (request : Call) : Code request.Reply := Program.ask request

/-- `resolve` after the source cache has been asked in vain. -/
def resolveFromCatalog (key : ArtifactKey) : Code (Except ResolveError ArtifactSource) := do
  match ← ask (.query key) with
  | .error error => pure (.error error)
  | .ok path =>
    match validatedBlobIdentity path with
    | none => pure (.error .invalidReference)
    | some identity => do
      if ← ask (.blobIsFile identity) then
        ask (.insertSource key ⟨identity⟩)
        pure (.ok ⟨identity⟩)
      else pure (.error .notFound)

def resolve (key : ArtifactKey) : Code (Except ResolveError ArtifactSource) := do
  if ← ask .isReady then
    match ← ask (.lookup key) with
    | some source => pure (.ok source)
    | none => resolveFromCatalog key
  else pure (.error .catalogUnavailable)

def cacheGet (text : String) : Code (Option (List Nat)) := do
  match ← ask (.getMemory text) with
  | some bytes => pure (some bytes)
  | none =>
    match ← ask (.readDisk text) with
    | none => pure none
    | some bytes => do
      ask (.insertMemory text bytes)
      pure (some bytes)

section

variable (config : Config)

def decode (identity : String) : Code (Option DynamicImage) := do
  let content ← ask (.openBlob identity)
  pure (content.bind config.codec.decode)

def loadGated (identity : String) : Code (Option (DynamicImage × String)) := do
  match ← ask (.getDecoded identity) with
  | some image => pure (some (image, "coalesced-hit"))
  | none =>
    match ← decode config identity with
    | none => pure none
    | some image => do
      ask (.insertDecoded identity image)
      pure (some (image, "miss"))

/-- `DecodedImageCache::load`: the image, and where it came from. -/
def load (identity : String) : Code (Option (DynamicImage × String)) := do
  match ← ask (.getDecoded identity) with
  | some image => pure (some (image, "hit"))
  | none => do
    ask (.enterDecode identity)
    let loaded ← loadGated config identity
    ask (.leaveDecode identity)
    pure loaded

/-- What becomes of a rendition that was just made: the text of `X-Steel-Rendition-Cache`. -/
def storeRendition (live : Bool) (text : String) (bytes : List Nat) : Code String :=
  if live then pure "bypass"
  else do
    if ← ask (.storeDisk text bytes) then
      ask (.insertMemory text bytes)
      pure "miss"
    else
      ask (.insertMemory text bytes)
      pure "miss-memory-only"

/-- A preview request after its parameters were checked and its artifact resolved. -/
structure PreviewJob where
  query : PreviewQuery
  ifNoneMatch : String
  identity : String

namespace PreviewJob

variable (job : PreviewJob)

def revision : String := job.query.revision.getD job.identity

def text : String := renditionMaterial job.identity job.revision job.query

def key : String := config.keyDigest job.text

def respond (bytes : List Nat) (cacheStatus : String) (rendered : List (String × String)) : Response :=
  previewResponse bytes (job.key config) job.ifNoneMatch job.revision cacheStatus job.query rendered

def render : Code Response := do
  match ← load config job.identity with
  | none => pure (errorJson 422 "image_decode_failed")
  | some (image, decodeCache) =>
    match config.codec.contain image job.query.profile.bounds with
    | none => pure (errorJson 422 "preview_encode_failed")
    | some rendered => do
      let cacheStatus ← storeRendition job.query.live job.text rendered.bytes
      pure (job.respond config rendered.bytes cacheStatus (renderHeaders decodeCache rendered))

/-- Behind the gate of the key: another request may have made the rendition meanwhile. -/
def build : Code Response :=
  if job.query.live then job.render config
  else do
    match ← cacheGet job.text with
    | some bytes => pure (job.respond config bytes "coalesced-hit" [])
    | none => job.render config

def buildGated : Code Response := do
  ask (.enterBuild job.text)
  let response ← job.build config
  ask (.leaveBuild job.text)
  pure response

def serve : Code Response :=
  if job.query.live then job.buildGated config
  else do
    match ← cacheGet job.text with
    | some bytes => pure (job.respond config bytes "hit" [])
    | none => job.buildGated config

end PreviewJob

structure TileJob where
  query : TileQuery
  ifNoneMatch : String
  identity : String

namespace TileJob

variable (job : TileJob)

def text : String := tileMaterial job.identity job.query

def key : String := config.keyDigest job.text

def respond (bytes : List Nat) : Response := tileResponse bytes (job.key config) job.ifNoneMatch

def render : Code Response := do
  match ← decode config job.identity with
  | none => pure (errorJson 422 "image_decode_failed")
  | some image =>
    match config.codec.tile image job.query.level job.query.x job.query.y with
    | .error .decode => pure (errorJson 422 "image_decode_failed")
    | .error .encode => pure (errorJson 422 "tile_encode_failed")
    | .ok none => pure (errorJson 404 "tile_not_found")
    | .ok (some bytes) => do
      ask (.insertMemory job.text bytes)
      pure (job.respond config bytes)

def serve : Code Response := do
  match ← cacheGet job.text with
  | some bytes => pure (job.respond config bytes)
  | none => job.render config

end TileJob

/-- What a request asks for, with its `If-None-Match`. -/
inductive Request where
  | preview (params : Params) (ifNoneMatch : String)
  | tile (params : Params) (ifNoneMatch : String)

/-- A request that passed its checks. -/
inductive Query where
  | preview (query : PreviewQuery)
  | tile (query : TileQuery)
  deriving DecidableEq, Repr

def Query.key : Query → ArtifactKey
  | .preview query => query.key
  | .tile query => query.key

def Request.query : Request → Except String Query
  | .preview params _ => (previewQuery params).map .preview
  | .tile params _ => (tileQuery params).map .tile

def Request.ifNoneMatch : Request → String
  | .preview _ ifNoneMatch | .tile _ ifNoneMatch => ifNoneMatch

/-- The part of both functions `serve` that follows `resolve`. -/
def serveResolved (query : Query) (ifNoneMatch : String) :
    Except ResolveError ArtifactSource → Code Response
  | .error error => pure (resolveError error)
  | .ok source =>
    match query with
    | .preview query => PreviewJob.serve config ⟨query, ifNoneMatch, source.identity⟩
    | .tile query => TileJob.serve config ⟨query, ifNoneMatch, source.identity⟩

inductive Answer where
  /-- The parameters of the request did not pass. -/
  | rejected (response : Response)
  /-- The answer, with the request behind it and what `resolve` returned to it. -/
  | served (query : Query) (resolved : Except ResolveError ArtifactSource) (response : Response)
  | published (outcome : Except Results.ResultStoreError Nat)

def serve (request : Request) : Code Answer :=
  match request.query with
  | .error error => pure (.rejected (errorJson 400 error))
  | .ok query => do
    let resolved ← resolve query.key
    let response ← serveResolved config query request.ifNoneMatch resolved
    pure (.served query resolved response)

/-! ## Publications -/

abbrev lift {α : Type} (program : Program Results.Call Results.Call.Reply α) : Code α :=
  program.lift Call.store fun _ reply => reply

def publication (input : Results.PublishInput) : Code Answer := do
  let outcome ← lift (Results.publish config.sha256 input).run
  pure (.published outcome)

inductive Handler : Thread → Code Answer → Prop where
  | request {id : Nat} (request : Request) : Handler (.request id) (serve config request)
  | publisher {id : Nat} (input : Results.PublishInput) :
    Handler (.publisher id) (publication config input)

end

end SteelInspection.Images
