import SteelInspection.Foundations.Raster
import SteelInspection.Tiles.World

/-! # Composition of camera tiles

`compose_camera_tile` cuts the tile's rows out of every frame that meets the tile, reduces each
piece by the scale of the level and puts the pieces on an image of the missing colour.  At level 0
nothing is reduced, and the tiles together show the aligned image of the camera.

Finding and opening the images of the frames, the choice of source pixels when an image is reduced
and the encoder are parameters.  The encoder may lose detail: what is said here is about the image
it is given.
-/

namespace SteelInspection.Tiles

open Foundations Foundations.Fallible

structure Rgb where
  red : Nat
  green : Nat
  blue : Nat
  deriving DecidableEq, Repr

def missingTileColor : Rgb := ⟨16, 20, 24⟩

inductive TileFormat where
  | jpeg
  | png
  deriving DecidableEq, Repr

structure TileRequest where
  cameraId : Nat
  level : Nat
  tileX : Nat
  tileY : Nat
  format : TileFormat
  deriving DecidableEq, Repr

/-- The caller's `resolve` and the parts of the image library that a tile is made with. -/
structure Imaging where
  resolve : (cameraId frame : Nat) → Except WorldError (Option String)
  openImage : (path : String) → Except String (Raster Rgb)
  sampling : Sampling
  encode : TileFormat → Raster Rgb → Except String (List Nat)

/-- The part of a camera's raw rows and columns that a tile shows. -/
structure TileWindow where
  scale : Nat
  startX : Nat
  rawStartY : Nat
  sourceWidth : Nat
  sourceHeight : Nat
  deriving DecidableEq, Repr

/-- The first half of `compose_camera_tile`. -/
def tileWindow (world : InspectionWorld) (camera : CameraWorld) (request : TileRequest) :
    Except WorldError TileWindow := do
  require (request.level < 32) .dimensionOverflow
  let scale := 2 ^ request.level
  let tileSpan ← checked (world.tileSize * scale)
  let startX ← checked (request.tileX * tileSpan)
  let displayStartY ← checked (request.tileY * tileSpan)
  require (startX < camera.width ∧ displayStartY < camera.height) .tileOutOfBounds
  let rawStartY ← checked (displayStartY + camera.headOffsetY)
  return ⟨scale, startX, rawStartY, min tileSpan (camera.width - startX),
    min tileSpan (camera.height - displayStartY)⟩

def loadFrame (imaging : Imaging) (camera : CameraWorld) (frame : Nat) :
    Except WorldError (Option (Raster Rgb)) := do
  match ← imaging.resolve camera.cameraId frame with
  | none => return none
  | some path =>
    match imaging.openImage path with
    | .error error => throw (.image (path ++ ": " ++ error))
    | .ok source =>
      if source.width = camera.frameWidth ∧ source.height = camera.frameHeight then
        return some source
      else
        throw (.image ("camera " ++ toString camera.cameraId ++ " frame " ++ toString frame ++
          " expected " ++ toString camera.frameWidth ++ "x" ++ toString camera.frameHeight ++
          ", found " ++ toString source.width ++ "x" ++ toString source.height))

def TileWindow.start (window : TileWindow) (frameTop : Nat) : Nat :=
  max frameTop window.rawStartY - window.rawStartY

def TileWindow.stop (window : TileWindow) (frameBottom : Nat) : Nat :=
  min frameBottom (window.rawStartY + window.sourceHeight) - window.rawStartY

/-- The piece of a frame that goes into the tile, reduced, and the row it is put at. -/
def frameLayer (sampling : Sampling) (window : TileWindow) (frameTop frameBottom : Nat)
    (source : Raster Rgb) : Raster.Layer Rgb :=
  let intersectionTop := max frameTop window.rawStartY
  let intersectionBottom := min frameBottom (window.rawStartY + window.sourceHeight)
  let cropHeight := intersectionBottom - intersectionTop
  let cropped :=
    source.view window.startX (intersectionTop - frameTop) window.sourceWidth cropHeight
  { image := cropped.resize sampling (divCeil window.sourceWidth window.scale)
      (divCeil cropHeight window.scale)
    row := (intersectionTop - window.rawStartY) / window.scale }

def pasteFrame (imaging : Imaging) (camera : CameraWorld) (window : TileWindow)
    (output : Raster Rgb) (frame : Nat) : Except WorldError (Raster Rgb) := do
  let frameTop ← checked (frame * camera.frameHeight)
  let frameBottom ← checked (frameTop + camera.frameHeight)
  if frameBottom ≤ window.rawStartY ∨ window.rawStartY + window.sourceHeight ≤ frameTop then
    return output
  else
    match ← loadFrame imaging camera frame with
    | none => return output
    | some source =>
      return output.replace (frameLayer imaging.sampling window frameTop frameBottom source)

/-- The image of a tile before it is encoded. -/
def composeImage (imaging : Imaging) (world : InspectionWorld) (request : TileRequest) :
    Except WorldError (Raster Rgb) := do
  require (request.level ≤ world.maxLevel) .tileOutOfBounds
  match world.cameras.find? fun camera => camera.cameraId = request.cameraId with
  | none => throw (.unknownCamera request.cameraId)
  | some camera =>
    let window ← tileWindow world camera request
    camera.frameNumbers.foldlM (pasteFrame imaging camera window)
      (.filled (divCeil window.sourceWidth window.scale) (divCeil window.sourceHeight window.scale)
        missingTileColor)

def encodeTile (imaging : Imaging) (format : TileFormat) (image : Raster Rgb) :
    Except WorldError (List Nat) :=
  match imaging.encode format image with
  | .error error => .error (.image error)
  | .ok bytes => .ok bytes

def composeCameraTile (imaging : Imaging) (world : InspectionWorld) (request : TileRequest) :
    Except WorldError (List Nat) := do
  encodeTile imaging request.format (← composeImage imaging world request)

theorem composeCameraTile_eq (imaging : Imaging) (world : InspectionWorld) (request : TileRequest) :
    composeCameraTile imaging world request = (composeImage imaging world request).bind fun image =>
      (imaging.encode request.format image).mapError .image := by
  unfold composeCameraTile
  congr 1
  funext image
  unfold encodeTile
  cases imaging.encode request.format image <;> rfl

/-! ## The window -/

/-- The window lies in the aligned part of the camera. -/
structure TileWindow.Fits (window : TileWindow) (camera : CameraWorld) : Prop where
  scale_pos : 0 < window.scale
  right : window.startX + window.sourceWidth ≤ camera.width
  head : camera.headOffsetY ≤ window.rawStartY
  bottom : window.rawStartY + window.sourceHeight ≤ camera.rawHeight
  width_pos : 0 < window.sourceWidth
  height_pos : 0 < window.sourceHeight

variable {camera : CameraWorld} {window : TileWindow} {world : InspectionWorld} {x : Nat}
  {request : TileRequest} {source : Raster Rgb} {layer : Raster.Layer Rgb}

theorem tileWindow_fits (accepted : world.Accepted) (placed : camera.Placed)
    (found : tileWindow world camera request = .ok window) : window.Fits camera := by
  simp only [tileWindow, bind_eq_ok, require_eq_ok, checked_eq_ok, exists_const, pure, Except.pure,
    Except.ok.injEq] at found
  obtain ⟨_, span, ⟨_, rfl⟩, startX, ⟨_, rfl⟩, startY, ⟨_, rfl⟩, ⟨inX, inY⟩, rawStartY, ⟨_, rfl⟩,
    rfl⟩ := found
  have scale : 0 < 2 ^ request.level := Nat.two_pow_pos _
  have span : 0 < world.tileSize * 2 ^ request.level := Nat.mul_pos accepted.tileSize_pos scale
  have height := placed.height_add
  constructor <;> dsimp only <;> omega

/-- A frame has rows in the window. -/
def TileWindow.Meets (window : TileWindow) (camera : CameraWorld) (frame : Nat) : Prop :=
  window.rawStartY < frame * camera.frameHeight + camera.frameHeight ∧
    frame * camera.frameHeight < window.rawStartY + window.sourceHeight

instance (window : TileWindow) (camera : CameraWorld) (frame : Nat) :
    Decidable (window.Meets camera frame) := inferInstanceAs (Decidable (_ ∧ _))

theorem TileWindow.meets_of_row (positive : 0 < camera.frameHeight) {row : Nat}
    (inside : row < window.sourceHeight) :
    window.Meets camera ((window.rawStartY + row) / camera.frameHeight) := by
  have raw := Nat.div_add_mod (window.rawStartY + row) camera.frameHeight
  have rest := Nat.mod_lt (window.rawStartY + row) positive
  rw [Nat.mul_comm] at raw
  constructor <;> omega

section Layers

variable {imaging : Imaging} {camera : CameraWorld} {window : TileWindow}

/-- What a frame contributes to the tile: at most one layer. -/
def frameLayers (imaging : Imaging) (camera : CameraWorld) (window : TileWindow) (frame : Nat) :
    List (Raster.Layer Rgb) :=
  if window.Meets camera frame then
    match loadFrame imaging camera frame with
    | .ok (some source) =>
      [frameLayer imaging.sampling window (frame * camera.frameHeight)
        (frame * camera.frameHeight + camera.frameHeight) source]
    | _ => []
  else []

/-- The image of the tile, as a stack of layers. -/
def tileLayers (imaging : Imaging) (camera : CameraWorld) (window : TileWindow) :
    List (Raster.Layer Rgb) :=
  camera.frameNumbers.flatMap (frameLayers imaging camera window)

variable {frame : Nat} {world : InspectionWorld}

theorem mem_frameLayers : layer ∈ frameLayers imaging camera window frame ↔
      window.Meets camera frame ∧ ∃ source, loadFrame imaging camera frame = .ok (some source) ∧
        layer = frameLayer imaging.sampling window (frame * camera.frameHeight)
          (frame * camera.frameHeight + camera.frameHeight) source := by
  unfold frameLayers
  split
  · grind
  next apart =>
    simp [apart]

/-- No frame of the window fails to load. -/
def Loads (imaging : Imaging) (camera : CameraWorld) (window : TileWindow) : Prop :=
  ∀ frame ∈ camera.frameNumbers, window.Meets camera frame →
    ∃ found, loadFrame imaging camera frame = .ok found

theorem pasteFrame_eq (placed : camera.Placed) (listed : frame ∈ camera.frameNumbers)
    (loads : window.Meets camera frame → ∃ found, loadFrame imaging camera frame = .ok found)
    (output : Raster Rgb) : pasteFrame imaging camera window output frame =
      .ok (output.paint (frameLayers imaging camera window frame)) := by
  have fits := placed.frames frame listed
  have raw := placed.rawHeight_lt
  rw [Nat.add_mul, Nat.one_mul] at fits
  have top : checked (frame * camera.frameHeight) = .ok (frame * camera.frameHeight) :=
    checked_eq_ok.mpr ⟨by omega, rfl⟩
  have bottom : checked (frame * camera.frameHeight + camera.frameHeight) =
      .ok (frame * camera.frameHeight + camera.frameHeight) := checked_eq_ok.mpr ⟨by omega, rfl⟩
  simp only [pasteFrame, top, bottom, bind, Except.bind, frameLayers]
  by_cases meets : window.Meets camera frame
  · obtain ⟨found, loaded⟩ := loads meets
    have near : ¬(frame * camera.frameHeight + camera.frameHeight ≤ window.rawStartY ∨
        window.rawStartY + window.sourceHeight ≤ frame * camera.frameHeight) := by
      unfold TileWindow.Meets at meets
      omega
    cases found <;> simp [near, meets, loaded, Raster.paint, pure, Except.pure]
  · have apart : frame * camera.frameHeight + camera.frameHeight ≤ window.rawStartY ∨
        window.rawStartY + window.sourceHeight ≤ frame * camera.frameHeight := by
      unfold TileWindow.Meets at meets
      omega
    simp [apart, meets, Raster.paint, pure, Except.pure]

theorem foldlM_pasteFrame {frames : List Nat} (placed : camera.Placed)
    (listed : ∀ frame ∈ frames, frame ∈ camera.frameNumbers)
    (loads : Loads imaging camera window) (output : Raster Rgb) :
    frames.foldlM (pasteFrame imaging camera window) output =
      .ok (output.paint (frames.flatMap (frameLayers imaging camera window))) := by
  induction frames generalizing output with
  | nil => rfl
  | cons frame frames ih =>
    have first := listed frame List.mem_cons_self
    rw [List.foldlM_cons, pasteFrame_eq placed first (loads frame first) output, List.flatMap_cons,
      Raster.paint_append]
    exact ih (fun other mem => listed other (List.mem_cons_of_mem _ mem)) _

/-- A loop that comes to its end has loaded every frame of the window. -/
theorem loads_of_foldlM {frames : List Nat} {output image : Raster Rgb}
    (ran : frames.foldlM (pasteFrame imaging camera window) output = .ok image)
    (mem : frame ∈ frames) (meets : window.Meets camera frame) :
    ∃ found, loadFrame imaging camera frame = .ok found := by
  induction frames generalizing output with
  | nil => cases mem
  | cons first frames ih =>
    rw [List.foldlM_cons, bind_eq_ok] at ran
    obtain ⟨next, pasted, rest⟩ := ran
    rcases List.mem_cons.mp mem with rfl | later
    · simp only [pasteFrame, bind_eq_ok, checked_eq_ok] at pasted
      obtain ⟨top, ⟨_, rfl⟩, bottom, ⟨_, rfl⟩, pasted⟩ := pasted
      split at pasted
      · unfold TileWindow.Meets at meets
        omega
      · obtain ⟨found, loaded, _⟩ := bind_eq_ok.mp pasted
        exact ⟨found, loaded⟩
    · exact ih rest later

section

variable (accepted : world.Accepted) (mem : camera ∈ world.cameras)
  (ofCamera : request.cameraId = camera.cameraId)
include accepted mem ofCamera

theorem composeImage_eq (level : request.level ≤ world.maxLevel)
    (found : tileWindow world camera request = .ok window) (loads : Loads imaging camera window) :
    composeImage imaging world request =
      .ok ((Raster.filled (divCeil window.sourceWidth window.scale)
        (divCeil window.sourceHeight window.scale) missingTileColor).paint
          (tileLayers imaging camera window)) := by
  simp only [composeImage, ofCamera, accepted.find_camera mem, found, require, level, if_true,
    bind, Except.bind]
  exact foldlM_pasteFrame (accepted.cameras camera mem) (fun _ listed => listed) loads _

theorem loads_of_composeImage {image : Raster Rgb}
    (found : tileWindow world camera request = .ok window)
    (composed : composeImage imaging world request = .ok image) : Loads imaging camera window := by
  simp only [composeImage, ofCamera, accepted.find_camera mem, bind_eq_ok, require_eq_ok,
    exists_const] at composed
  obtain ⟨_, other, foundOther, ran⟩ := composed
  cases found.symm.trans foundOther
  exact fun frame listed meets => loads_of_foldlM ran listed meets

end

theorem frameLayer_covers_iff (fits : window.Fits camera) (meets : window.Meets camera frame)
    {x y : Nat} : (frameLayer imaging.sampling window (frame * camera.frameHeight)
        (frame * camera.frameHeight + camera.frameHeight) source).Covers x y ↔
      x < divCeil window.sourceWidth window.scale ∧
      window.start (frame * camera.frameHeight) / window.scale ≤ y ∧
      y * window.scale + window.start (frame * camera.frameHeight) % window.scale <
        window.stop (frame * camera.frameHeight + camera.frameHeight) := by
  have order : window.start (frame * camera.frameHeight) ≤
      window.stop (frame * camera.frameHeight + camera.frameHeight) := by
    unfold TileWindow.Meets at meets
    unfold TileWindow.start TileWindow.stop
    omega
  have cropHeight : min (frame * camera.frameHeight + camera.frameHeight)
        (window.rawStartY + window.sourceHeight) - max (frame * camera.frameHeight) window.rawStartY =
      window.stop (frame * camera.frameHeight + camera.frameHeight) -
        window.start (frame * camera.frameHeight) := by
    unfold TileWindow.start TileWindow.stop
    omega
  rw [Raster.Layer.Covers, ← strip_row_iff fits.scale_pos order, ← cropHeight]
  rfl

end Layers

/-! ## Level 0 -/

/-- What the aligned image of a camera shows at a raw row: the pixel of the row's frame, if that frame
is listed and there is an image of it, and the missing colour otherwise. -/
def shown (imaging : Imaging) (camera : CameraWorld) (x row : Nat) : Rgb :=
  if row / camera.frameHeight ∈ camera.frameNumbers then
    match loadFrame imaging camera (row / camera.frameHeight) with
    | .ok (some source) => source.pixel x (row % camera.frameHeight)
    | _ => missingTileColor
  else missingTileColor

/-- Unless the row's frame is listed and has an image, the missing colour is shown. -/
theorem shown_cases (imaging : Imaging) (camera : CameraWorld) (x row : Nat) :
    (row / camera.frameHeight ∈ camera.frameNumbers ∧ ∃ source,
      loadFrame imaging camera (row / camera.frameHeight) = .ok (some source)) ∨
    shown imaging camera x row = missingTileColor := by
  by_cases listed : row / camera.frameHeight ∈ camera.frameNumbers
  · cases loaded : loadFrame imaging camera (row / camera.frameHeight) with
    | error error => exact .inr (by simp [shown, loaded])
    | ok found =>
      cases found with
      | none => exact .inr (by simp [shown, loaded])
      | some source => exact .inl ⟨listed, source, rfl⟩
  · exact .inr (by simp [shown, listed])

section Unreduced

variable {imaging : Imaging} {camera : CameraWorld} {window : TileWindow} {x y : Nat}

variable (placed : camera.Placed) (unreduced : window.scale = 1) (inX : x < window.sourceWidth)
  (inY : y < window.sourceHeight)
include placed unreduced inX inY

/-- At scale 1 a frame's layer covers the rows of the frame. -/
theorem covers_iff_of_unreduced (fits : window.Fits camera) {frame : Nat}
    (meets : window.Meets camera frame) :
    (frameLayer imaging.sampling window (frame * camera.frameHeight)
        (frame * camera.frameHeight + camera.frameHeight) source).Covers x y ↔
      (window.rawStartY + y) / camera.frameHeight = frame := by
  rw [frameLayer_covers_iff fits meets, unreduced, divCeil_one, Nat.div_one, Nat.mul_one,
    Nat.mod_one, Nat.div_eq_iff placed.frameHeight_pos, TileWindow.start, TileWindow.stop]
  have := placed.frameHeight_pos
  omega

theorem frameLayer_pixel_of_unreduced (isLayer : layer = frameLayer imaging.sampling window
      ((window.rawStartY + y) / camera.frameHeight * camera.frameHeight)
      ((window.rawStartY + y) / camera.frameHeight * camera.frameHeight + camera.frameHeight) source) :
    layer.image.pixel x (y - layer.row) =
      source.pixel (window.startX + x) ((window.rawStartY + y) % camera.frameHeight) := by
  have raw := Nat.div_add_mod (window.rawStartY + y) camera.frameHeight
  have rest := Nat.mod_lt (window.rawStartY + y) placed.frameHeight_pos
  rw [Nat.mul_comm] at raw
  subst isLayer
  simp only [frameLayer, unreduced, divCeil_one, Nat.div_one]
  rw [Raster.resize]
  dsimp only [Raster.view]
  rw [imaging.sampling.index_same inX, imaging.sampling.index_same (by omega)]
  congr 1
  omega

theorem paint_of_unreduced (fits : window.Fits camera) (width height : Nat) :
    ((Raster.filled width height missingTileColor).paint (tileLayers imaging camera window)).pixel
        x y = shown imaging camera (window.startX + x) (window.rawStartY + y) := by
  by_cases covered : ∃ layer ∈ tileLayers imaging camera window, layer.Covers x y
  · obtain ⟨layer, mem, covers, painted⟩ := Raster.paint_of_covered covered
    obtain ⟨frame, listed, inFrame⟩ := List.mem_flatMap.mp mem
    obtain ⟨meets, source, loaded, isLayer⟩ := mem_frameLayers.mp inFrame
    have isFrame := (covers_iff_of_unreduced placed unreduced inX inY fits meets).mp (isLayer ▸
      covers)
    subst isFrame
    rw [painted]
    simp only [shown, listed, if_true, loaded]
    exact frameLayer_pixel_of_unreduced placed unreduced inX inY isLayer
  · have free : ∀ layer ∈ tileLayers imaging camera window, ¬ layer.Covers x y :=
      fun layer mem covers => covered ⟨layer, mem, covers⟩
    rw [Raster.paint_of_uncovered free]
    rcases shown_cases imaging camera (window.startX + x) (window.rawStartY + y) with
      ⟨listed, source, loaded⟩ | missing
    · -- the row's own frame would have covered it
      have meets := window.meets_of_row placed.frameHeight_pos inY
      refine (covered ⟨_, List.mem_flatMap.mpr ⟨_, listed, mem_frameLayers.mpr
        ⟨meets, source, loaded, rfl⟩⟩, ?_⟩).elim
      exact (covers_iff_of_unreduced placed unreduced inX inY fits meets).mpr rfl
    · exact missing.symm

end Unreduced

/-- What a level 0 tile has to show: it is as large as its part of the aligned area, and at every place
of the aligned area that lies in it there is the pixel that is shown there. -/
structure ShowsTile (imaging : Imaging) (world : InspectionWorld) (camera : CameraWorld)
    (tileX tileY : Nat) (image : Raster Rgb) : Prop where
  width : image.width = min world.tileSize (camera.width - tileX * world.tileSize)
  height : image.height = min world.tileSize (camera.height - tileY * world.tileSize)
  pixels : ∀ x < camera.width, ∀ y < camera.height, x / world.tileSize = tileX →
    y / world.tileSize = tileY → x % world.tileSize < image.width ∧
      y % world.tileSize < image.height ∧
      image.pixel (x % world.tileSize) (y % world.tileSize) =
        shown imaging camera x (y + camera.headOffsetY)

def levelZeroTile (camera : CameraWorld) (tileX tileY : Nat) (format : TileFormat) : TileRequest :=
  ⟨camera.cameraId, 0, tileX, tileY, format⟩

section

variable {tileX tileY : Nat} (accepted : world.Accepted) (format : TileFormat)
include accepted

theorem tileWindow_level_zero (inX : tileX * world.tileSize < camera.width)
    (inY : tileY * world.tileSize < camera.height) (placed : camera.Placed) :
    tileWindow world camera (levelZeroTile camera tileX tileY format) =
      .ok ⟨1, tileX * world.tileSize, tileY * world.tileSize + camera.headOffsetY,
        min world.tileSize (camera.width - tileX * world.tileSize),
        min world.tileSize (camera.height - tileY * world.tileSize)⟩ := by
  have right := placed.right
  have raw := placed.rawHeight_lt
  have height := placed.height_add
  have size := accepted.tileSize_lt
  unfold levelZeroTile
  simp only [tileWindow, bind_eq_ok, require_eq_ok, checked_eq_ok, exists_const, pure, Except.pure,
    Nat.pow_zero, Nat.mul_one]
  refine ⟨by omega, _, ⟨size, rfl⟩, _, ⟨by omega, rfl⟩, _, ⟨by omega, rfl⟩, ⟨by omega, by omega⟩, _,
    ⟨by omega, rfl⟩, rfl⟩

theorem showsTile_of_composed {imaging : Imaging} {image : Raster Rgb}
    (mem : camera ∈ world.cameras) (inX : tileX * world.tileSize < camera.width)
    (inY : tileY * world.tileSize < camera.height)
    (composed : composeImage imaging world (levelZeroTile camera tileX tileY format) = .ok image) :
    ShowsTile imaging world camera tileX tileY image := by
  have placed := accepted.cameras camera mem
  have found := tileWindow_level_zero accepted format inX inY placed
  have fits := tileWindow_fits accepted placed found
  have loads := loads_of_composeImage accepted mem rfl found composed
  have isImage := Except.ok.inj
    (composed.symm.trans (composeImage_eq accepted mem rfl (Nat.zero_le _) found loads))
  have width : image.width = _ := isImage ▸ (Raster.paint_size _ _).1.trans (divCeil_one _)
  have height : image.height = _ := isImage ▸ (Raster.paint_size _ _).2.trans (divCeil_one _)
  refine ⟨width, height, fun x xLt y yLt isX isY => ?_⟩
  subst isX isY
  have column := Nat.div_add_mod x world.tileSize
  have row := Nat.div_add_mod y world.tileSize
  have columnLt := Nat.mod_lt x accepted.tileSize_pos
  have rowLt := Nat.mod_lt y accepted.tileSize_pos
  rw [Nat.mul_comm] at column row
  have inWidth : x % world.tileSize < min world.tileSize
      (camera.width - x / world.tileSize * world.tileSize) := by omega
  have inHeight : y % world.tileSize < min world.tileSize
      (camera.height - y / world.tileSize * world.tileSize) := by omega
  refine ⟨width ▸ inWidth, height ▸ inHeight, ?_⟩
  rw [isImage, paint_of_unreduced placed rfl inWidth inHeight fits, column, Nat.add_right_comm, row]

end

/-- Two frames of two rows; the plate begins at the second row of the first one. -/
def headCamera : CameraSpec × CameraAlignment := (⟨7, 1, 2, [0, 1], .identity⟩, ⟨true, 1, 1000⟩)

/-- Every frame is there; its rows are black and white.  The encoder writes the pixels row by row. -/
def stripedImaging : Imaging where
  resolve _ _ := .ok (some "frame")
  openImage _ := .ok ⟨1, 2, fun _ y => if y = 0 then ⟨0, 0, 0⟩ else ⟨255, 255, 255⟩⟩
  sampling := .nearest
  encode _ image := .ok ((List.range image.height).flatMap fun y =>
    (List.range image.width).flatMap fun x =>
      [(image.pixel x y).red, (image.pixel x y).green, (image.pixel x y).blue])

/-- `headCamera` in its world. -/
def headPlaced : CameraWorld := ⟨7, 0, 1, 3, 4, 1, true, 1000, 1, 2, [0, 1], .identity⟩

/-- The world of `headCamera` with tiles of two pixels. -/
def headWorld : InspectionWorld := ⟨1, 3, 2, 1, [headPlaced]⟩

theorem headWorld_constructed : withTileSizeAndAlignments [headCamera] 2 = .ok headWorld := rfl

end SteelInspection.Tiles
