import SteelInspection.Results.Catalog

/-! # Requests for images

What a preview and a tile request ask for, the texts whose digests are their cache keys, what is made of
a decoded image, and the answers.
-/

namespace SteelInspection.Images

open Foundations

/-! ## Artifacts -/

structure ArtifactKey where
  recordId : String
  cameraId : String
  sequence : Int
  kind : String
  deriving DecidableEq, Repr

/-- The blob of an artifact, `blobs/<identity>` below the result root. -/
structure ArtifactSource where
  identity : String
  deriving DecidableEq, Repr

inductive ResolveError where
  | catalogUnavailable
  | notFound
  | invalidReference
  deriving DecidableEq, Repr

def isHexDigit (character : Char) : Bool :=
  Text.isAsciiDigit character || ('a' ≤ character && character ≤ 'f') ||
    ('A' ≤ character && character ≤ 'F')

def validatedBlobIdentity (path : String) : Option String :=
  match path.toList.map fun character => if character = '\\' then '/' else character with
  | 'b' :: 'l' :: 'o' :: 'b' :: 's' :: '/' :: identity =>
    if identity.length = 64 ∧ identity.all isHexDigit then
      some (Text.toAsciiLowercase (String.ofList identity))
    else none
  | _ => none

def ArtifactKey.names (key : ArtifactKey) (row : Results.CaptureFileRow) : Bool :=
  row.inspectionId = key.recordId && row.cameraId = key.cameraId &&
    (row.sequenceNo : Int) = key.sequence && row.kind = key.kind

def row? (catalog : Results.Catalog) (key : ArtifactKey) : Option Results.CaptureFileRow :=
  catalog.captureFiles.rows.find? key.names

def blob? (catalog : Results.Catalog) (key : ArtifactKey) : Option String :=
  (row? catalog key).bind fun row => validatedBlobIdentity row.path

/-! ## Parameters -/

abbrev Params := String → Option String

inductive Profile where
  | xs
  | sm
  | md
  | lg
  | xl
  deriving DecidableEq, Repr

namespace Profile

def bounds : Profile → Nat × Nat
  | .xs => (512, 128)
  | .sm => (768, 192)
  | .md => (1024, 256)
  | .lg => (1536, 384)
  | .xl => (2048, 512)

def name : Profile → String
  | .xs => "xs"
  | .sm => "sm"
  | .md => "md"
  | .lg => "lg"
  | .xl => "xl"

def all : List Profile := [.xs, .sm, .md, .lg, .xl]

def parse (value : String) : Option Profile :=
  all.find? fun profile => profile.name = Text.toAsciiLowercase value

def select (slotWidth slotHeight : Nat) : Profile :=
  (all.find? fun profile =>
    slotWidth ≤ profile.bounds.1 && slotHeight ≤ profile.bounds.2).getD .xl

end Profile

def requestedProfile (params : Params) : Except String Profile :=
  match params "profile" with
  | some value =>
    match Profile.parse value with
    | some profile => .ok profile
    | none => .error "profile_invalid"
  | none =>
    let width := ((params "slotWidth").bind Text.parseU32).getD 1024
    let height := ((params "slotHeight").bind Text.parseU32).getD 256
    .ok (Profile.select (max width 1) (max height 1))

/-- The parameters both requests share; the kind is the one to look up. -/
def artifactKey (params : Params) (recordId kind : String) : ArtifactKey where
  recordId := recordId
  cameraId := ((params "camera").or (params "cameraId")).getD "C1"
  sequence := (((params "sequenceNo").or (params "sequence")).bind Text.parseI64).getD 0
  kind := kind

structure PreviewQuery where
  key : ArtifactKey
  colorMode : String
  profile : Profile
  live : Bool
  revision : Option String
  deriving DecidableEq, Repr

/-- The parameters of `rendition::serve`, checked in its order. -/
def previewQuery (params : Params) : Except String PreviewQuery :=
  match (params "recordId").or (params "inspectionId") with
  | none => .error "recordId_required"
  | some recordId =>
    let colorMode := ((params "colorMode").map Text.toAsciiLowercase).getD "gray"
    if colorMode ≠ "gray" ∧ colorMode ≠ "jet" then .error "colorMode_invalid"
    else
      let sourceKind := (params "kind").getD (if colorMode = "jet" then "jet" else "intensity")
      if colorMode = "jet" ∧ sourceKind ≠ "jet" then .error "jet_requires_processed_jet_artifact"
      else
        match requestedProfile params with
        | .error error => .error error
        | .ok profile =>
          .ok
            { key := artifactKey params recordId sourceKind
              colorMode := colorMode
              profile := profile
              live := (params "live").any fun value => value = "1" || value = "true"
              revision := params "revision" }

structure TileQuery where
  key : ArtifactKey
  level : Nat
  x : Nat
  y : Nat
  deriving DecidableEq, Repr

def maxTileLevel : Nat := 3

def tileQuery (params : Params) : Except String TileQuery :=
  match (params "recordId").or (params "inspectionId") with
  | none => .error "recordId_required"
  | some recordId =>
    let number := fun name => ((params name).bind Text.parseU32).getD 0
    .ok { key := artifactKey params recordId ((params "kind").getD "intensity")
          level := min (number "level") maxTileLevel, x := number "x", y := number "y" }

/-! ## Cache keys -/

def renditionSchema : String := "steel.thumbnail.v1"

def encoderRevision : String := "image-jpeg-v2-adaptive-staged-triangle"

/-- The text whose digest is the key of a preview. -/
def renditionMaterial (identity revision : String) (query : PreviewQuery) : String :=
  renditionSchema ++ "|" ++ encoderRevision ++ "|" ++ identity ++ "|" ++ revision ++ "|" ++
    query.key.recordId ++ "|" ++ query.key.cameraId ++ "|" ++ toString query.key.sequence ++ "|" ++
    query.key.kind ++ "|" ++ query.colorMode ++ "|" ++ query.profile.name

/-- The text whose digest is the key of a tile. -/
def tileMaterial (identity : String) (query : TileQuery) : String :=
  "steel.legacy-tile.v1|" ++ identity ++ "|" ++ toString query.level ++ "|" ++ toString query.x ++
    "|" ++ toString query.y

/-! ## Images -/

structure DynamicImage where
  width : Nat
  height : Nat
  channels : Nat
  bytes : List Nat
  deriving DecidableEq, Repr

inductive CodecError where
  | decode
  | encode
  deriving DecidableEq, Repr

/-- The operations on pixels.  `targetDimensions` and `resizePreview` choose sizes with floating-point
arithmetic; all that matters here is that they are functions of the image. -/
structure Codec where
  decode : List Nat → Option DynamicImage
  targetDimensions : Nat × Nat → Nat × Nat → Nat × Nat
  resizePreview : DynamicImage → Nat × Nat → DynamicImage × String
  resize : DynamicImage → Nat → Nat → DynamicImage
  crop : DynamicImage → Nat → Nat → Nat → Nat → DynamicImage
  encodeJpeg : DynamicImage → Option (List Nat)

/-- `RenderedImage`, without the times. -/
structure RenderedImage where
  bytes : List Nat
  sourceSize : Nat × Nat
  renditionSize : Nat × Nat
  resizeMode : String
  deriving DecidableEq, Repr

namespace Codec

variable (codec : Codec)

def contain (image : DynamicImage) (bounds : Nat × Nat) : Option RenderedImage :=
  let sourceSize := (image.width, image.height)
  let renditionSize := codec.targetDimensions sourceSize bounds
  let resized := if renditionSize = sourceSize then (image, "identity")
    else codec.resizePreview image renditionSize
  (codec.encodeJpeg resized.1).map fun bytes => ⟨bytes, sourceSize, renditionSize, resized.2⟩

def tileSize : Nat := 512

def saturatingMul (left right : Nat) : Nat := min (left * right) (2 ^ 32 - 1)

/-- `render_tile_jpeg` once the image is decoded; no bytes for a tile outside the image. -/
def tile (image : DynamicImage) (level x y : Nat) : Except CodecError (Option (List Nat)) :=
  let resized := if level = 0 then image
    else codec.resize image (max (image.width / 2 ^ level) 1) (max (image.height / 2 ^ level) 1)
  let left := saturatingMul x tileSize
  let top := saturatingMul y tileSize
  if left ≥ resized.width ∨ top ≥ resized.height then .ok none
  else
    match codec.encodeJpeg (codec.crop resized left top (min tileSize (resized.width - left))
        (min tileSize (resized.height - top))) with
    | some bytes => .ok (some bytes)
    | none => .error .encode

end Codec

/-! ## Answers -/

inductive Body where
  | empty
  | json (error : String)
  | jpeg (bytes : List Nat)
  deriving DecidableEq, Repr

structure Response where
  status : Nat
  contentType : Option String
  etag : Option String
  cacheControl : Option String
  headers : List (String × String)
  body : Body
  deriving DecidableEq, Repr

def errorJson (status : Nat) (error : String) : Response where
  status := status
  contentType := some "application/json; charset=utf-8"
  etag := none
  cacheControl := none
  headers := []
  body := .json error

def safeHeaderValue (value : String) : String :=
  String.ofList (value.toList.filter fun character => character ≠ '\r' && character ≠ '\n')

/-- A client that already has the bytes under this tag is told so. -/
def binaryResponse (bytes : List Nat) (tag ifNoneMatch cacheControl : String)
    (headers : List (String × String)) : Response where
  status := if ifNoneMatch = tag then 304 else 200
  contentType := if ifNoneMatch = tag then none else some "image/jpeg"
  etag := some tag
  cacheControl := some cacheControl
  headers := headers.map fun header => (header.1, safeHeaderValue header.2)
  body := if ifNoneMatch = tag then .empty else .jpeg bytes

def quoted (key : String) : String := "\"" ++ key ++ "\""

def immutableCache : String := "public, max-age=31536000, immutable"

def sizeText (size : Nat × Nat) : String := toString size.1 ++ "x" ++ toString size.2

/-- The headers of an image that was rendered for this request. -/
def renderHeaders (decodeCache : String) (rendered : RenderedImage) : List (String × String) :=
  [("X-Steel-Decode-Cache", decodeCache),
   ("X-Steel-Resize-Mode", rendered.resizeMode),
   ("X-Steel-Source-Size", sizeText rendered.sourceSize),
   ("X-Steel-Rendition-Size", sizeText rendered.renditionSize)]

/-- `preview_response`, without `Server-Timing`. -/
def previewResponse (bytes : List Nat) (key ifNoneMatch revision cacheStatus : String)
    (query : PreviewQuery) (rendered : List (String × String)) : Response :=
  binaryResponse bytes (quoted key) ifNoneMatch (if query.live then "no-store" else immutableCache)
    ([("X-Steel-Rendition-Schema", renditionSchema),
      ("X-Steel-Rendition-Profile", query.profile.name),
      ("X-Steel-Source-Revision", revision),
      ("X-Steel-Rendition-Cache", cacheStatus),
      ("X-Steel-Encoder-Revision", encoderRevision)] ++ rendered)

def tileResponse (bytes : List Nat) (key ifNoneMatch : String) : Response :=
  binaryResponse bytes (quoted key) ifNoneMatch immutableCache
    [("Warning", "299 steel-image-service \"legacy tile endpoint; use /internal/v1/preview\"")]

def resolveError : ResolveError → Response
  | .catalogUnavailable => errorJson 503 "catalog_unavailable"
  | .notFound => errorJson 404 "artifact_not_found"
  | .invalidReference => errorJson 422 "artifact_reference_invalid"

end SteelInspection.Images
