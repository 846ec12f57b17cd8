import Mathlib.Data.List.Basic
import SteelInspection.Images.Service

/-! # What a key says

The key of a rendition is the digest of a text.  The text of a preview key determines the blob and the
profile, the text of a tile key the blob and the tile, and no text is both.  The other parts of a preview
key come from the request and may hold the separator, so they are not determined; nothing depends on
them.  So what is stored for a text is the rendition the text was made for, and what lies under a digest
is that of the text looked up as long as no other text with this digest was stored.
-/

namespace SteelInspection.Images

open Foundations

variable {identity : String} {character : Char}

theorem Profile.length_name (profile : Profile) : profile.name.toList.length = 2 := by
  cases profile <;> rfl

theorem Profile.name_inj {profile other : Profile} (same : profile.name = other.name) :
    profile = other := by
  cases profile <;> cases other <;> first | rfl | exact absurd same (by decide)

/-! ## The names of digests -/

section

variable (lower : isLowerHex character = true)
include lower

theorem isLowerHex_ne {other : Char} (otherNot : isLowerHex other = false) : character ≠ other := by
  rintro rfl
  rw [lower] at otherNot
  cases otherNot

theorem isAsciiUpper_of_isLowerHex : Text.isAsciiUpper character = false := by
  simp only [isLowerHex, Text.isAsciiDigit, Bool.or_eq_true, Bool.and_eq_true, decide_eq_true_eq,
    Char.le_def, UInt32.le_iff_toNat_le] at lower
  simp only [Text.isAsciiUpper, Bool.and_eq_false_iff, decide_eq_false_iff_not, Char.le_def,
    UInt32.le_iff_toNat_le]
  rcases lower with digit | letter
  · grind
  · grind

end

theorem validatedBlobIdentity_blobPath (config : Config) (content : List Nat) :
    validatedBlobIdentity (Results.blobPath (config.sha256 content)) =
      some (config.sha256 content) := by
  have length := config.sha256_length content
  have hex := config.sha256_hex content
  generalize config.sha256 content = name at length hex ⊢
  have kept : name.toList.map (fun character => if character = '\\' then '/' else character) =
      name.toList := by
    rw [List.map_congr_left (g := id), List.map_id]
    intro character mem
    simp [isLowerHex_ne (hex character mem) (by decide : isLowerHex '\\' = false)]
  have lowered : Text.toAsciiLowercase name = name := by
    unfold Text.toAsciiLowercase
    rw [List.map_congr_left (g := id), List.map_id, String.ofList_toList]
    intro character mem
    simp [isAsciiUpper_of_isLowerHex (hex character mem)]
  have path : (Results.blobPath name).toList = 'b' :: 'l' :: 'o' :: 'b' :: 's' :: '/' :: name.toList := by
    simp [Results.blobPath]
  have digits : name.toList.all isHexDigit = true := by
    rw [List.all_eq_true]
    intro character mem
    have lower := hex character mem
    simp only [isHexDigit, isLowerHex, Bool.or_eq_true] at lower ⊢
    exact .inl lower
  unfold validatedBlobIdentity
  rw [path]
  simp only [List.map_cons, kept]
  simp [length, digits, lowered]

/-! ## The texts of keys -/

/-- What stands between the blob and the profile in the text of a preview key. -/
def renditionMiddle (revision : String) (query : PreviewQuery) : String :=
  "|" ++ revision ++ "|" ++ query.key.recordId ++ "|" ++ query.key.cameraId ++ "|" ++
    toString query.key.sequence ++ "|" ++ query.key.kind ++ "|" ++ query.colorMode ++ "|"

def renditionHead : String := renditionSchema ++ "|" ++ encoderRevision ++ "|"

theorem renditionMaterial_eq (identity revision : String) (query : PreviewQuery) :
    renditionMaterial identity revision query =
      renditionHead ++ (identity ++ (renditionMiddle revision query ++ query.profile.name)) := by
  unfold renditionMaterial renditionHead renditionMiddle
  simp only [String.append_assoc]

def tileHead : String := "steel.legacy-tile.v1|"

theorem tileMaterial_eq (identity : String) (query : TileQuery) :
    tileMaterial identity query = tileHead ++ (identity ++ ("|" ++ (toString query.level ++
      ("|" ++ (toString query.x ++ ("|" ++ toString query.y)))))) := by
  unfold tileMaterial tileHead
  simp only [String.append_assoc]

theorem toList_toString (number : Nat) : (toString number).toList = Nat.toDigits 10 number := by
  rw [Nat.toString_eq_repr, Nat.toList_repr]

theorem separator_notMem (number : Nat) : '|' ∉ (toString number).toList := by
  rw [toList_toString]
  intro mem
  have digit := Nat.isDigit_of_mem_toDigits (by decide) (by decide) mem
  exact absurd digit (by decide)

theorem toString_inj {number other : Nat}
    (same : (toString number).toList = (toString other).toList) : number = other := by
  rw [toList_toString, toList_toString] at same
  have numbers := congrArg (fun digits => Nat.ofDigitChars 10 digits 0) same
  simpa only [Nat.ofDigitChars_ten_toDigits] using numbers

/-- The first separator ends what stands in front of it. -/
theorem append_separator_inj {first other rest otherRest : List Char} {separator : Char}
    (free : separator ∉ first) (otherFree : separator ∉ other)
    (same : first ++ separator :: rest = other ++ separator :: otherRest) :
    first = other ∧ rest = otherRest := by
  induction first generalizing other with
  | nil =>
    cases other with
    | nil => exact ⟨rfl, (List.cons.inj same).2⟩
    | cons head tail =>
      simp only [List.mem_cons, not_or] at otherFree
      exact absurd (List.cons.inj same).1 otherFree.1
  | cons character first ih =>
    cases other with
    | nil =>
      simp only [List.mem_cons, not_or] at free
      exact absurd (List.cons.inj same).1.symm free.1
    | cons head tail => grind

theorem number_inj {number other : Nat} {rest otherRest : String}
    (same : toString number ++ ("|" ++ rest) = toString other ++ ("|" ++ otherRest)) :
    number = other ∧ rest = otherRest := by
  have texts := congrArg String.toList same
  simp only [String.toList_append] at texts
  obtain ⟨numbers, rests⟩ := append_separator_inj (separator_notMem number) (separator_notMem other)
    texts
  exact ⟨toString_inj numbers, String.toList_injective rests⟩

section

variable {other : String} (length : identity.toList.length = 64)
  (otherLength : other.toList.length = 64)
include length otherLength

theorem renditionMaterial_inj {revision otherRevision : String} {query otherQuery : PreviewQuery}
    (same : renditionMaterial identity revision query =
      renditionMaterial other otherRevision otherQuery) :
    identity = other ∧ query.profile = otherQuery.profile := by
  rw [renditionMaterial_eq, renditionMaterial_eq] at same
  have texts := congrArg String.toList same
  simp only [String.toList_append] at texts
  -- the head is fixed and the identities are equally long, so both can be taken off the front
  obtain ⟨identities, rests⟩ := List.append_inj (List.append_cancel_left texts)
    (length.trans otherLength.symm)
  -- the names of the profiles are equally long, so they can be taken off the back
  have profiles := (List.append_inj' rests
    (query.profile.length_name.trans otherQuery.profile.length_name.symm)).2
  exact ⟨String.toList_injective identities, Profile.name_inj (String.toList_injective profiles)⟩

theorem tileMaterial_inj {query otherQuery : TileQuery}
    (same : tileMaterial identity query = tileMaterial other otherQuery) :
    identity = other ∧ query.level = otherQuery.level ∧ query.x = otherQuery.x ∧
      query.y = otherQuery.y := by
  rw [tileMaterial_eq, tileMaterial_eq] at same
  have texts := congrArg String.toList same
  simp only [String.toList_append] at texts
  obtain ⟨identities, rests⟩ := List.append_inj (List.append_cancel_left texts)
    (length.trans otherLength.symm)
  have parts := List.append_cancel_left rests
  simp only [← String.toList_append] at parts
  obtain ⟨levels, parts⟩ := number_inj (String.toList_injective parts)
  obtain ⟨columns, lines⟩ := number_inj parts
  exact ⟨String.toList_injective identities, levels, columns,
    toString_inj (congrArg String.toList lines)⟩

end

theorem renditionMaterial_ne_tileMaterial (identity revision other : String) (query : PreviewQuery)
    (tile : TileQuery) : renditionMaterial identity revision query ≠ tileMaterial other tile := by
  intro same
  rw [renditionMaterial_eq, tileMaterial_eq] at same
  -- the texts differ in their seventh character
  have characters := congrArg (fun text : String => text.toList[6]?) same
  simp only [String.toList_append] at characters
  rw [List.getElem?_append_left (by decide), List.getElem?_append_left (by decide)] at characters
  exact absurd characters (by decide)

/-! ## Renditions -/

section

variable (config : Config)

def DecodedFrom (identity : String) (image : DynamicImage) : Prop :=
  ∃ content, config.sha256 content = identity ∧ config.codec.decode content = some image

/-- The bytes are the preview of the blob in this profile. -/
def PreviewOf (identity : String) (profile : Profile) (bytes : List Nat) : Prop :=
  ∃ image rendered, DecodedFrom config identity image ∧
    config.codec.contain image profile.bounds = some rendered ∧ rendered.bytes = bytes

def TileOf (identity : String) (level x y : Nat) (bytes : List Nat) : Prop :=
  ∃ image, DecodedFrom config identity image ∧ config.codec.tile image level x y = .ok (some bytes)

/-- The bytes are what a key with this text is made for. -/
inductive Rendition : String → List Nat → Prop where
  | preview (job : PreviewJob) {bytes : List Nat} (length : job.identity.toList.length = 64)
      (made : PreviewOf config job.identity job.query.profile bytes) : Rendition job.text bytes
  | tile (job : TileJob) {bytes : List Nat} (length : job.identity.toList.length = 64)
      (made : TileOf config job.identity job.query.level job.query.x job.query.y bytes) :
      Rendition job.text bytes

/-- The bytes were stored under this digest for one of the texts. -/
def StoredUnder (texts : List String) (digest : String) (bytes : List Nat) : Prop :=
  ∃ text ∈ texts, config.keyDigest text = digest ∧ Rendition config text bytes

variable {config} {texts : List String} {bytes : List Nat}

theorem Rendition.previewOf {job : PreviewJob} (length : job.identity.toList.length = 64)
    (found : Rendition config job.text bytes) :
    PreviewOf config job.identity job.query.profile bytes := by
  generalize same : job.text = text at found
  cases found with
  | preview other otherLength made =>
    obtain ⟨identities, profiles⟩ := renditionMaterial_inj length otherLength same
    rwa [identities, profiles]
  | tile other _ _ => exact absurd same (renditionMaterial_ne_tileMaterial _ _ _ _ _)

theorem Rendition.tileOf {job : TileJob} (length : job.identity.toList.length = 64)
    (found : Rendition config job.text bytes) :
    TileOf config job.identity job.query.level job.query.x job.query.y bytes := by
  generalize same : job.text = text at found
  cases found with
  | preview other _ _ => exact absurd same.symm (renditionMaterial_ne_tileMaterial _ _ _ _ _)
  | tile other otherLength made =>
    obtain ⟨identities, levels, columns, lines⟩ := tileMaterial_inj length otherLength same
    rwa [identities, levels, columns, lines]

theorem StoredUnder.cons {digest : String} (stored : StoredUnder config texts digest bytes)
    (text : String) : StoredUnder config (text :: texts) digest bytes := by
  obtain ⟨other, mem, rest⟩ := stored
  exact ⟨other, List.mem_cons_of_mem _ mem, rest⟩

end

end SteelInspection.Images
