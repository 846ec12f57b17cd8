import Mathlib.Algebra.Group.Nat.Defs
import SteelInspection.Foundations.Fallible
import SteelInspection.Foundations.Table

/-! # The inspection world

The frames of each camera stand below each other, cut off at the head row of the plate; the cameras
stand side by side.  Sizes and positions are `u32`: arithmetic that may leave that range is checked,
and what is not checked is shown to stay inside it.
-/

namespace SteelInspection.Tiles

open Foundations Foundations.Fallible

inductive FrameOrder where
  | ascending
  | descending
  deriving DecidableEq, Repr

structure CameraOrientation where
  frameOrder : FrameOrder
  rotation : Nat
  flipX : Bool
  flipY : Bool
  deriving DecidableEq, Repr

def CameraOrientation.identity : CameraOrientation := ⟨.ascending, 0, false, false⟩

structure CameraAlignment where
  aligned : Bool
  headOffsetY : Nat
  confidenceMilli : Nat
  deriving DecidableEq, Repr

def CameraAlignment.unaligned : CameraAlignment := ⟨false, 0, 0⟩

structure CameraSpec where
  cameraId : Nat
  frameWidth : Nat
  frameHeight : Nat
  frameNumbers : List Nat
  orientation : CameraOrientation
  deriving DecidableEq, Repr

structure CameraWorld where
  cameraId : Nat
  offsetX : Nat
  width : Nat
  height : Nat
  rawHeight : Nat
  headOffsetY : Nat
  aligned : Bool
  alignmentConfidenceMilli : Nat
  frameWidth : Nat
  frameHeight : Nat
  frameNumbers : List Nat
  orientation : CameraOrientation
  deriving DecidableEq, Repr

structure PixelRect where
  x : Nat
  y : Nat
  width : Nat
  height : Nat
  deriving DecidableEq, Repr

def PixelRect.Contains (rect : PixelRect) (x y : Nat) : Prop :=
  rect.x ≤ x ∧ x < rect.x + rect.width ∧ rect.y ≤ y ∧ y < rect.y + rect.height

instance (rect : PixelRect) (x y : Nat) : Decidable (rect.Contains x y) :=
  inferInstanceAs (Decidable (_ ∧ _))

structure InspectionWorld where
  width : Nat
  height : Nat
  tileSize : Nat
  maxLevel : Nat
  cameras : List CameraWorld
  deriving DecidableEq, Repr

inductive WorldError where
  | dimensionOverflow
  | duplicateCamera (cameraId : Nat)
  | invalidCameraDimensions (cameraId : Nat)
  | invalidHeadOffset (cameraId : Nat)
  | invalidRectangle
  | invalidTileSize
  | image (message : String)
  | tileOutOfBounds
  | unknownCamera (cameraId : Nat)
  | unknownFrame (cameraId imageIndex : Nat)
  | unsupportedOrientation (cameraId : Nat)
  deriving DecidableEq, Repr

def maxTileLevel : Nat := 3

def checked (value : Nat) : Except WorldError Nat :=
  if value < 2 ^ 32 then .ok value else .error .dimensionOverflow

@[simp] theorem checked_eq_ok {value result : Nat} :
    checked value = .ok result ↔ value < 2 ^ 32 ∧ result = value := by
  unfold checked
  split
  · simp_all [eq_comm]
  · simp only [reduceCtorEq, false_iff, not_and]
    omega

/-! ## Construction -/

structure Placement where
  cameraIds : List Nat
  offsetX : Nat
  worldHeight : Nat
  cameras : List CameraWorld

/-- `frame_numbers.iter().max()…checked_add(1)`. -/
def frameExtent (spec : CameraSpec) : Except WorldError Nat :=
  match spec.frameNumbers.max? with
  | none => .error .dimensionOverflow
  | some frame => checked (frame + 1)

def placeCamera (placement : Placement) (entry : CameraSpec × CameraAlignment) :
    Except WorldError Placement := do
  let (spec, alignment) := entry
  require (spec.cameraId ∉ placement.cameraIds) (.duplicateCamera spec.cameraId)
  require (¬(spec.frameWidth = 0 ∨ spec.frameHeight = 0 ∨ spec.frameNumbers = []))
    (.invalidCameraDimensions spec.cameraId)
  require (spec.orientation = .identity) (.unsupportedOrientation spec.cameraId)
  let extent ← frameExtent spec
  let rawHeight ← checked (spec.frameHeight * extent)
  let headOffsetY := if alignment.aligned then alignment.headOffsetY else 0
  require (headOffsetY ≤ rawHeight) (.invalidHeadOffset spec.cameraId)
  let camera : CameraWorld :=
    { cameraId := spec.cameraId
      offsetX := placement.offsetX
      width := spec.frameWidth
      height := rawHeight - headOffsetY
      rawHeight
      headOffsetY
      aligned := alignment.aligned
      alignmentConfidenceMilli := alignment.confidenceMilli
      frameWidth := spec.frameWidth
      frameHeight := spec.frameHeight
      frameNumbers := spec.frameNumbers
      orientation := spec.orientation }
  let offsetX ← checked (placement.offsetX + spec.frameWidth)
  return { cameraIds := spec.cameraId :: placement.cameraIds
           offsetX
           worldHeight := max placement.worldHeight camera.height
           cameras := placement.cameras ++ [camera] }

/-- How often a side is halved until it fits a tile, at most so many times. -/
def levelsFor (tileSize : Nat) : Nat → Nat → Nat
  | 0, _ => 0
  | more + 1, longestSide =>
    if tileSize < longestSide then levelsFor tileSize more ((longestSide + 1) / 2) + 1 else 0

def longestSide (cameras : List CameraWorld) : Nat :=
  cameras.foldl (fun longest camera => max (max longest camera.width) camera.height) 0

def withTileSizeAndAlignments (specs : List (CameraSpec × CameraAlignment)) (tileSize : Fin (2 ^ 32)) :
    Except WorldError InspectionWorld := do
  require (tileSize.val ≠ 0) .invalidTileSize
  let placement ← specs.foldlM placeCamera ⟨[], 0, 0, []⟩
  return { width := placement.offsetX
           height := placement.worldHeight
           tileSize := tileSize
           maxLevel := levelsFor tileSize maxTileLevel (longestSide placement.cameras)
           cameras := placement.cameras }

def InspectionWorld.mapDefect (world : InspectionWorld) (cameraId imageIndex : Nat)
    (rect : PixelRect) : Except WorldError PixelRect := do
  match world.cameras.find? fun camera => camera.cameraId = cameraId with
  | none => throw (.unknownCamera cameraId)
  | some camera =>
    require (imageIndex ∈ camera.frameNumbers) (.unknownFrame cameraId imageIndex)
    let x ← checked (camera.offsetX + rect.x)
    let frameY ← checked (imageIndex * camera.frameHeight)
    let rawY ← checked (frameY + rect.y)
    require (camera.headOffsetY ≤ rawY) .invalidRectangle
    return ⟨x, rawY - camera.headOffsetY, rect.width, rect.height⟩

/-! ## What is known of an accepted world -/

structure CameraWorld.Placed (camera : CameraWorld) : Prop where
  width : camera.width = camera.frameWidth
  frameWidth_pos : 0 < camera.frameWidth
  frameHeight_pos : 0 < camera.frameHeight
  head : camera.headOffsetY ≤ camera.rawHeight
  height : camera.height = camera.rawHeight - camera.headOffsetY
  rawHeight_lt : camera.rawHeight < 2 ^ 32
  frames : ∀ frame ∈ camera.frameNumbers, (frame + 1) * camera.frameHeight ≤ camera.rawHeight
  right : camera.offsetX + camera.width < 2 ^ 32

theorem CameraWorld.Placed.height_add {camera : CameraWorld} (placed : camera.Placed) :
    camera.height + camera.headOffsetY = camera.rawHeight := by
  rw [placed.height]
  exact Nat.sub_add_cancel placed.head

theorem frameExtent_bound {spec : CameraSpec} {extent : Nat} (found : frameExtent spec = .ok extent) :
    ∀ frame ∈ spec.frameNumbers, frame + 1 ≤ extent := by
  unfold frameExtent at found
  split at found
  · cases found
  rename_i largest isMax
  rw [checked_eq_ok] at found
  obtain ⟨_, rfl⟩ := found
  intro frame mem
  have := (List.max?_eq_some_iff.mp isMax).2 frame mem
  omega

structure Placement.Sound (placement : Placement) : Prop where
  cameras : ∀ camera ∈ placement.cameras, camera.Placed
  ids : ∀ id, id ∈ placement.cameraIds ↔ id ∈ placement.cameras.map CameraWorld.cameraId
  distinct : (placement.cameras.map CameraWorld.cameraId).Nodup

theorem placeCamera_sound {placement next : Placement} {entry : CameraSpec × CameraAlignment}
    (sound : placement.Sound) (placed : placeCamera placement entry = .ok next) : next.Sound := by
  obtain ⟨spec, alignment⟩ := entry
  simp only [placeCamera, bind_eq_ok, require_eq_ok, checked_eq_ok, exists_const, pure, Except.pure,
    Except.ok.injEq] at placed
  obtain ⟨fresh, sizes, _, extent, extentFound, rawHeight, ⟨rawFits, rfl⟩, headFits, right,
    ⟨rightFits, rfl⟩, rfl⟩ := placed
  constructor
  · intro camera mem
    rcases List.mem_append.mp mem with old | new
    · exact sound.cameras camera old
    rw [List.mem_singleton] at new
    subst new
    exact
      { width := rfl
        frameWidth_pos := by dsimp only; omega
        frameHeight_pos := by dsimp only; omega
        head := headFits
        height := rfl
        rawHeight_lt := rawFits
        frames := fun frame listed => by
          rw [Nat.mul_comm spec.frameHeight]
          exact Nat.mul_le_mul_right _ (frameExtent_bound extentFound frame listed)
        right := rightFits }
  · intro id
    simp only [List.mem_cons, sound.ids, List.map_append, List.mem_append, List.map_cons,
      List.map_nil, List.not_mem_nil, or_false]
    exact Or.comm
  · grind [sound.distinct, sound.ids]

theorem levelsFor_le (tileSize more side : Nat) : levelsFor tileSize more side ≤ more := by
  induction more generalizing side with
  | zero => exact Nat.le_refl 0
  | succ more ih =>
    simp only [levelsFor]
    split
    · exact Nat.succ_le_succ (ih _)
    · exact Nat.zero_le _

structure InspectionWorld.Accepted (world : InspectionWorld) : Prop where
  cameras : ∀ camera ∈ world.cameras, camera.Placed
  distinct : (world.cameras.map CameraWorld.cameraId).Nodup
  tileSize_pos : 0 < world.tileSize
  tileSize_lt : world.tileSize < 2 ^ 32
  maxLevel_le : world.maxLevel ≤ maxTileLevel

theorem accepted_of_constructed {specs : List (CameraSpec × CameraAlignment)}
    {tileSize : Fin (2 ^ 32)} {world : InspectionWorld}
    (constructed : withTileSizeAndAlignments specs tileSize = .ok world) : world.Accepted := by
  simp only [withTileSizeAndAlignments, bind_eq_ok, require_eq_ok, exists_const, pure, Except.pure,
    Except.ok.injEq] at constructed
  obtain ⟨positive, placement, placed, rfl⟩ := constructed
  have empty : Placement.Sound ⟨[], 0, 0, []⟩ :=
    ⟨fun _ mem => (List.not_mem_nil mem).elim, fun _ => Iff.rfl, List.nodup_nil⟩
  have sound : placement.Sound :=
    foldlM_keeps (fun kept stepped => placeCamera_sound kept stepped) placed empty
  exact
    { cameras := sound.cameras
      distinct := sound.distinct
      tileSize_pos := Nat.pos_of_ne_zero positive
      tileSize_lt := tileSize.isLt
      maxLevel_le := levelsFor_le _ _ _ }

theorem InspectionWorld.Accepted.find_camera {world : InspectionWorld} (accepted : world.Accepted)
    {camera : CameraWorld} (mem : camera ∈ world.cameras) :
    (world.cameras.find? fun other => other.cameraId = camera.cameraId) = some camera := by
  let cameras : Table CameraWorld CameraWorld.cameraId := ⟨world.cameras, accepted.distinct⟩
  have listed : camera ∈ cameras.rows := mem
  exact Table.mem_rows_iff.mp listed

/-! ## Defects -/

theorem row_div_mod (frame : Nat) {height row : Nat} (inside : row < height) :
    (frame * height + row) / height = frame ∧ (frame * height + row) % height = row := by
  have positive : 0 < height := by omega
  constructor
  · rw [Nat.mul_comm, Nat.mul_add_div positive, Nat.div_eq_of_lt inside, Nat.add_zero]
  · rw [Nat.mul_comm, Nat.mul_add_mod, Nat.mod_eq_of_lt inside]

section Defect

variable {world : InspectionWorld} {camera : CameraWorld} {imageIndex : Nat} {rect : PixelRect}

variable (inY : rect.y + rect.height ≤ camera.frameHeight)
  (head : camera.headOffsetY ≤ imageIndex * camera.frameHeight + rect.y)
include inY head

/-- A rectangle inside a frame whose head row is not below it is moved by the camera's offset, the
frame's first row and the head. -/
theorem mapDefect_inside (accepted : world.Accepted) (mem : camera ∈ world.cameras)
    (listed : imageIndex ∈ camera.frameNumbers) (inX : rect.x + rect.width ≤ camera.frameWidth) :
    world.mapDefect camera.cameraId imageIndex rect =
      .ok ⟨camera.offsetX + rect.x, imageIndex * camera.frameHeight + rect.y - camera.headOffsetY,
        rect.width, rect.height⟩ := by
  have placed := accepted.cameras camera mem
  have frameFits := placed.frames imageIndex listed
  have rawFits := placed.rawHeight_lt
  have right := placed.right
  have width := placed.width
  rw [Nat.add_mul, Nat.one_mul] at frameFits
  simp only [InspectionWorld.mapDefect, accepted.find_camera mem, bind_eq_ok, require_eq_ok,
    checked_eq_ok, exists_const, pure, Except.pure, listed, true_and]
  refine ⟨_, ⟨by omega, rfl⟩, _, ⟨by omega, rfl⟩, _, ⟨by omega, rfl⟩, head, rfl⟩

/-- The mapped rectangle consists of the world pixels whose frame pixel lies in the rectangle. -/
theorem mapped_contains_iff (x y : Nat) : (PixelRect.mk (camera.offsetX + rect.x)
        (imageIndex * camera.frameHeight + rect.y - camera.headOffsetY) rect.width
        rect.height).Contains x y ↔
      camera.offsetX ≤ x ∧ (y + camera.headOffsetY) / camera.frameHeight = imageIndex ∧
        rect.Contains (x - camera.offsetX) ((y + camera.headOffsetY) % camera.frameHeight) := by
  simp only [PixelRect.Contains]
  constructor
  · rintro ⟨left, right, top, bottom⟩
    -- the raw row is row `row` of the frame
    obtain ⟨row, isRow⟩ : ∃ row, y + camera.headOffsetY = imageIndex * camera.frameHeight + row :=
      ⟨y + camera.headOffsetY - imageIndex * camera.frameHeight, by omega⟩
    obtain ⟨frame, inFrame⟩ := row_div_mod imageIndex (show row < camera.frameHeight by omega)
    rw [isRow, frame, inFrame]
    omega
  · grind [Nat.div_add_mod]

end Defect

end SteelInspection.Tiles
