import SteelInspection.Tiles.Composition

/-! # Rows that no frame covers

Above level 0 the piece of each frame is placed at its first row divided by the scale, rounded down,
and is as high as its own length divided by the scale, rounded up.  Two pieces that follow each other
leave no gap between them.  The last piece may end one row above the bottom of the tile: this is
so exactly when its first row is further into a group of `scale` rows than the last row of the tile is.
-/

namespace SteelInspection.Tiles

open Foundations Foundations.Fallible

/-- The last piece reaches the bottom of the tile. -/
def LastPieceFits (camera : CameraWorld) (window : TileWindow) : Prop :=
  let lastFrame := (window.rawStartY + window.sourceHeight - 1) / camera.frameHeight
  window.start (lastFrame * camera.frameHeight) % window.scale ≤
    (window.sourceHeight - 1) % window.scale

instance (camera : CameraWorld) (window : TileWindow) : Decidable (LastPieceFits camera window) :=
  inferInstanceAs (Decidable (_ ≤ _))

/-- Some frame of the window has its piece on this row of the tile. -/
def RowCovered (camera : CameraWorld) (window : TileWindow) (y : Nat) : Prop :=
  ∃ frame, window.Meets camera frame ∧
    window.start (frame * camera.frameHeight) / window.scale ≤ y ∧
    y * window.scale + window.start (frame * camera.frameHeight) % window.scale <
      window.stop (frame * camera.frameHeight + camera.frameHeight)

theorem div_mod_between {value row scale : Nat} (low : row * scale ≤ value)
    (high : value < row * scale + scale) :
    value / scale = row ∧ value % scale = value - row * scale := by
  have split : row * scale + (value - row * scale) = value := by omega
  have parts := row_div_mod row (show value - row * scale < scale by omega)
  rwa [split] at parts

section Rows

variable {camera : CameraWorld} {window : TileWindow}

variable (fits : window.Fits camera) (placed : camera.Placed)
include fits placed

/-- The frame of the first raw row of a tile row: its piece ends above that row, or it covers the row,
or the piece after it does, or it is the last one. -/
theorem rowCovered_of_fits (last : LastPieceFits camera window) {y : Nat}
    (inside : y * window.scale < window.sourceHeight) : RowCovered camera window y := by
  have fh := placed.frameHeight_pos
  have scale := fits.scale_pos
  -- the frame that has the first raw row of this tile row
  obtain ⟨frame, isFrame⟩ : ∃ frame, frame = (window.rawStartY + y * window.scale) / camera.frameHeight :=
    ⟨_, rfl⟩
  have meets : window.Meets camera frame := isFrame ▸ window.meets_of_row fh inside
  have raw := Nat.div_add_mod (window.rawStartY + y * window.scale) camera.frameHeight
  have rest := Nat.mod_lt (window.rawStartY + y * window.scale) fh
  rw [← isFrame, Nat.mul_comm] at raw
  have startLe : window.start (frame * camera.frameHeight) ≤ y * window.scale := by
    unfold TileWindow.start
    omega
  have startDiv : window.start (frame * camera.frameHeight) / window.scale ≤ y :=
    Nat.div_le_of_le_mul (Nat.mul_comm y window.scale ▸ startLe)
  have startMod := Nat.mod_lt (window.start (frame * camera.frameHeight)) scale
  by_cases reaches : y * window.scale + window.start (frame * camera.frameHeight) % window.scale <
      window.stop (frame * camera.frameHeight + camera.frameHeight)
  · exact ⟨frame, meets, startDiv, reaches⟩
  by_cases isLast : window.rawStartY + window.sourceHeight ≤
      frame * camera.frameHeight + camera.frameHeight
  · -- the piece is the last one and ends at the bottom of the window
    have stop : window.stop (frame * camera.frameHeight + camera.frameHeight) = window.sourceHeight := by
      unfold TileWindow.stop
      omega
    have lastFrame : (window.rawStartY + window.sourceHeight - 1) / camera.frameHeight = frame :=
      (div_mod_between (by omega) (by omega)).1
    have lastRow : (window.sourceHeight - 1) % window.scale =
        window.sourceHeight - 1 - y * window.scale := (div_mod_between (by omega) (by omega)).2
    simp only [LastPieceFits, lastFrame, lastRow] at last
    omega
  · -- the next frame begins inside this tile row
    have next : (frame + 1) * camera.frameHeight = frame * camera.frameHeight + camera.frameHeight := by
      rw [Nat.add_mul, Nat.one_mul]
    have start : window.start ((frame + 1) * camera.frameHeight) =
        window.stop (frame * camera.frameHeight + camera.frameHeight) := by
      unfold TileWindow.start TileWindow.stop
      omega
    have after : y * window.scale ≤ window.stop (frame * camera.frameHeight + camera.frameHeight) := by
      unfold TileWindow.stop
      omega
    obtain ⟨div, mod⟩ := div_mod_between after (by omega)
    refine ⟨frame + 1, ⟨by omega, by omega⟩, ?_, ?_⟩
    · exact Nat.le_of_eq (by rw [start, div])
    · grind [TileWindow.stop]

/-- If the last piece does not fit, nothing is put on the last row of the tile. -/
theorem fits_of_rowCovered
    (covered : RowCovered camera window ((window.sourceHeight - 1) / window.scale)) :
    LastPieceFits camera window := by
  obtain ⟨frame, meets, startDiv, reaches⟩ := covered
  have fh := placed.frameHeight_pos
  have lastRow := Nat.div_add_mod (window.sourceHeight - 1) window.scale
  rw [Nat.mul_comm] at lastRow
  obtain ⟨last, isLast⟩ : ∃ last, last =
      (window.rawStartY + window.sourceHeight - 1) / camera.frameHeight := ⟨_, rfl⟩
  have raw := Nat.div_add_mod (window.rawStartY + window.sourceHeight - 1) camera.frameHeight
  rw [← isLast, Nat.mul_comm] at raw
  simp only [LastPieceFits, ← isLast]
  rcases Nat.lt_or_ge frame last with earlier | notEarlier
  · -- an earlier piece reaches the last row only if the last piece begins inside that row
    have order : (frame + 1) * camera.frameHeight ≤ last * camera.frameHeight :=
      Nat.mul_le_mul_right _ earlier
    rw [Nat.add_mul, Nat.one_mul] at order
    have low : (window.sourceHeight - 1) / window.scale * window.scale ≤
        window.start (last * camera.frameHeight) := by
      unfold TileWindow.start TileWindow.stop at *
      omega
    have startLt : window.start (last * camera.frameHeight) ≤ window.sourceHeight - 1 := by
      unfold TileWindow.start
      omega
    have rowLt := Nat.mod_lt (window.sourceHeight - 1) fits.scale_pos
    rw [(div_mod_between low (by omega)).2]
    omega
  · -- no frame of the window comes after the last one
    have same : frame = last := by
      have meetsLast := meets.2
      have : frame ≤ last := by
        rw [isLast, Nat.le_div_iff_mul_le fh]
        omega
      omega
    subst same
    have stop : window.stop (frame * camera.frameHeight + camera.frameHeight) ≤
        window.sourceHeight := by
      unfold TileWindow.stop
      omega
    omega

theorem rows_covered_iff :
    (∀ y < divCeil window.sourceHeight window.scale, RowCovered camera window y) ↔
      LastPieceFits camera window := by
  constructor
  · intro covered
    apply fits_of_rowCovered fits placed
    apply covered
    rw [lt_divCeil fits.scale_pos]
    have := Nat.div_mul_le_self (window.sourceHeight - 1) window.scale
    have := fits.height_pos
    omega
  · intro last y inside
    exact rowCovered_of_fits fits placed last ((lt_divCeil fits.scale_pos).mp inside)

end Rows

section Tiles

variable {imaging : Imaging} {camera : CameraWorld} {window : TileWindow}

/-- Every frame that meets the window is listed and has an image. -/
def AllAvailable (imaging : Imaging) (camera : CameraWorld) (window : TileWindow) : Prop :=
  ∀ frame, window.Meets camera frame → frame ∈ camera.frameNumbers ∧
    ∃ source, loadFrame imaging camera frame = .ok (some source)

theorem AllAvailable.loads (available : AllAvailable imaging camera window) :
    Loads imaging camera window := by
  intro frame _ meets
  obtain ⟨_, source, loaded⟩ := available frame meets
  exact ⟨some source, loaded⟩

/-- The value is that of a pixel of a frame of the window. -/
def FromFrame (imaging : Imaging) (camera : CameraWorld) (window : TileWindow) (value : Rgb) : Prop :=
  ∃ frame source, window.Meets camera frame ∧
    loadFrame imaging camera frame = .ok (some source) ∧
    ∃ x < camera.frameWidth, ∃ y < camera.frameHeight, value = source.pixel x y

theorem frameLayer_fromFrame (fits : window.Fits camera) (placed : camera.Placed) {frame x y : Nat}
    (meets : window.Meets camera frame) {source : Raster Rgb}
    (loaded : loadFrame imaging camera frame = .ok (some source)) {layer : Raster.Layer Rgb}
    (isLayer : layer = frameLayer imaging.sampling window (frame * camera.frameHeight)
      (frame * camera.frameHeight + camera.frameHeight) source) (covers : layer.Covers x y) :
    FromFrame imaging camera window (layer.image.pixel x (y - layer.row)) := by
  obtain ⟨inX, above, below⟩ := covers
  subst isLayer
  have width := fits.width_pos
  have right := fits.right
  have whole := placed.width
  refine ⟨frame, source, meets, loaded, _, ?_, _, ?_, rfl⟩
  · have column : imaging.sampling.index window.sourceWidth
        (divCeil window.sourceWidth window.scale) x < window.sourceWidth :=
      imaging.sampling.index_lt width inX
    dsimp only [Raster.view]
    omega
  · unfold TileWindow.Meets at meets
    -- the rows of the frame that are in the window
    obtain ⟨crop, isCrop⟩ : ∃ crop, crop = min (frame * camera.frameHeight + camera.frameHeight)
        (window.rawStartY + window.sourceHeight) - max (frame * camera.frameHeight) window.rawStartY :=
      ⟨_, rfl⟩
    have cropPos : 0 < crop := by
      have := fits.height_pos
      have := placed.frameHeight_pos
      omega
    have row : imaging.sampling.index crop (divCeil crop window.scale)
        (y - (max (frame * camera.frameHeight) window.rawStartY - window.rawStartY) / window.scale) <
        crop := by
      apply imaging.sampling.index_lt cropPos
      rw [isCrop]
      exact Nat.sub_lt_left_of_lt_add above below
    dsimp only [Raster.view, frameLayer]
    rw [← isCrop]
    omega

/-- A tile pixel is a pixel of a frame if its row is covered, and has the missing colour if not. -/
theorem paint_rowCovered (fits : window.Fits camera) (placed : camera.Placed)
    (available : AllAvailable imaging camera window) {x y : Nat}
    (inX : x < divCeil window.sourceWidth window.scale) (width height : Nat) :
    (RowCovered camera window y ∧ FromFrame imaging camera window
      (((Raster.filled width height missingTileColor).paint
        (tileLayers imaging camera window)).pixel x y)) ∨ (¬ RowCovered camera window y ∧
      ((Raster.filled width height missingTileColor).paint
        (tileLayers imaging camera window)).pixel x y = missingTileColor) := by
  by_cases covered : RowCovered camera window y
  · left
    obtain ⟨frame, meets, rows⟩ := covered
    obtain ⟨listed, source, loaded⟩ := available frame meets
    have layered : ∃ layer ∈ tileLayers imaging camera window, layer.Covers x y :=
      ⟨_, List.mem_flatMap.mpr ⟨frame, listed, mem_frameLayers.mpr ⟨meets, source, loaded, rfl⟩⟩,
        (frameLayer_covers_iff fits meets).mpr ⟨inX, rows⟩⟩
    obtain ⟨layer, mem, covers, painted⟩ := Raster.paint_of_covered layered
    obtain ⟨other, _, inFrame⟩ := List.mem_flatMap.mp mem
    obtain ⟨meetsToo, otherSource, otherLoaded, isLayer⟩ := mem_frameLayers.mp inFrame
    refine ⟨⟨frame, meets, rows⟩, ?_⟩
    rw [painted]
    exact frameLayer_fromFrame fits placed meetsToo otherLoaded isLayer covers
  · right
    refine ⟨covered, Raster.paint_of_uncovered fun layer mem covers => ?_⟩
    obtain ⟨frame, _, inFrame⟩ := List.mem_flatMap.mp mem
    obtain ⟨meets, source, _, rfl⟩ := mem_frameLayers.mp inFrame
    exact covered ⟨frame, meets, ((frameLayer_covers_iff fits meets).mp covers).2⟩

end Tiles

/-- A tile whose frames are all there is composed, and each of its pixels comes from a frame exactly
when the last piece fits.  If it does not fit, some pixel keeps the missing colour; that this is no
pixel of a frame can be told when the frames do not show the missing colour themselves. -/
theorem tile_covered_iff {specs : List (CameraSpec × CameraAlignment)} {tileSize : Fin (2 ^ 32)}
    {world : InspectionWorld} {camera : CameraWorld} {request : TileRequest} {window : TileWindow}
    {imaging : Imaging} (constructed : withTileSizeAndAlignments specs tileSize = .ok world)
    (member : camera ∈ world.cameras) (ofCamera : request.cameraId = camera.cameraId)
    (level : request.level ≤ world.maxLevel)
    (inRange : tileWindow world camera request = .ok window)
    (available : AllAvailable imaging camera window) :
    ∃ image, composeImage imaging world request = .ok image ∧
      composeCameraTile imaging world request =
        (imaging.encode request.format image).mapError .image ∧
      image.width = divCeil window.sourceWidth window.scale ∧
      image.height = divCeil window.sourceHeight window.scale ∧
      (LastPieceFits camera window →
        ∀ x < image.width, ∀ y < image.height, FromFrame imaging camera window (image.pixel x y)) ∧
      (¬ FromFrame imaging camera window missingTileColor →
        (∀ x < image.width, ∀ y < image.height, FromFrame imaging camera window (image.pixel x y)) →
          LastPieceFits camera window) := by
  have accepted := accepted_of_constructed constructed
  have placed := accepted.cameras camera member
  have fits := tileWindow_fits accepted placed inRange
  have composed := composeImage_eq accepted member ofCamera level inRange available.loads
  obtain ⟨sameWidth, sameHeight⟩ := Raster.paint_size
    (Raster.filled (divCeil window.sourceWidth window.scale)
      (divCeil window.sourceHeight window.scale) missingTileColor) (tileLayers imaging camera window)
  refine ⟨_, composed, by rw [composeCameraTile_eq, composed]; rfl, sameWidth, sameHeight, ?_⟩
  rw [sameWidth, sameHeight, ← rows_covered_iff fits placed]
  constructor
  · intro covered x inX y inY
    rcases paint_rowCovered fits placed available inX _ _ with fromFrame | uncovered
    · exact fromFrame.2
    · exact (uncovered.1 (covered y inY)).elim
  · intro coloured fromFrames y inY
    have column : 0 < divCeil window.sourceWidth window.scale :=
      (lt_divCeil fits.scale_pos).mpr (by rw [Nat.zero_mul]; exact fits.width_pos)
    rcases paint_rowCovered fits placed available column _ _ with covered | ⟨_, missing⟩
    · exact covered.1
    · exact (coloured (missing ▸ fromFrames 0 column y inY)).elim

/-! ## Two frames of two rows -/

/-- The level 1 tile at the top of camera 7. -/
def firstTile : TileRequest := ⟨7, 1, 0, 0, .png⟩

/-- With the head in the first frame the three rows of the tile are one of the first frame and two of
the second.  Both pieces are put on the first row of the tile, and the second row keeps the missing
colour. -/
theorem head_tile_uncovered :
    ¬ ∀ {specs : List (CameraSpec × CameraAlignment)} {tileSize : Fin (2 ^ 32)}
      {world : InspectionWorld} {camera : CameraWorld} {request : TileRequest} {window : TileWindow}
      {imaging : Imaging} {image : Raster Rgb},
      withTileSizeAndAlignments specs tileSize = .ok world → camera ∈ world.cameras →
      request.cameraId = camera.cameraId → request.level ≤ world.maxLevel →
      tileWindow world camera request = .ok window → AllAvailable imaging camera window →
      composeImage imaging world request = .ok image →
      ∀ x < image.width, ∀ y < image.height, FromFrame imaging camera window (image.pixel x y) := by
  intro holds
  have available : AllAvailable stripedImaging headPlaced ⟨2, 0, 1, 1, 3⟩ := by
    rintro frame ⟨_, inside⟩
    dsimp only [headPlaced] at inside
    exact ⟨by simp only [headPlaced, List.mem_cons, List.not_mem_nil, or_false]; omega, _, rfl⟩
  have ofCamera : firstTile.cameraId = headPlaced.cameraId := rfl
  obtain ⟨frame, source, _, loaded, x, _, y, _, shows⟩ := holds headWorld_constructed
    List.mem_cons_self ofCamera (by decide) rfl available rfl 0 (by decide) 1 (by decide)
  -- no pixel of a frame has the colour of what is missing
  simp only [loadFrame, stripedImaging, bind, Except.bind] at loaded
  split at loaded
  · cases loaded
    dsimp only at shows
    split at shows <;> cases shows
  · cases loaded

/-- The same camera without a head: four rows, two of each frame. -/
def plainPlaced : CameraWorld := ⟨7, 0, 1, 4, 4, 0, false, 0, 1, 2, [0, 1], .identity⟩

def plainWorld : InspectionWorld := ⟨1, 4, 2, 1, [plainPlaced]⟩

theorem plain_tile_covered : ∃ image, composeImage stripedImaging plainWorld firstTile = .ok image ∧
      composeCameraTile stripedImaging plainWorld firstTile = .ok [255, 255, 255, 255, 255, 255] ∧
      ∀ x < image.width, ∀ y < image.height,
        FromFrame stripedImaging plainPlaced ⟨2, 0, 0, 1, 4⟩ (image.pixel x y) := by
  have constructed :
      withTileSizeAndAlignments [(headCamera.1, .unaligned)] 2 = .ok plainWorld := rfl
  have available : AllAvailable stripedImaging plainPlaced ⟨2, 0, 0, 1, 4⟩ := by
    rintro frame ⟨_, inside⟩
    dsimp only [plainPlaced] at inside
    exact ⟨by simp only [plainPlaced, List.mem_cons, List.not_mem_nil, or_false]; omega, _, rfl⟩
  have ofCamera : firstTile.cameraId = plainPlaced.cameraId := rfl
  obtain ⟨image, composed, _, _, _, covered, _⟩ := tile_covered_iff constructed List.mem_cons_self
    ofCamera (by decide) rfl available
  exact ⟨image, composed, rfl, covered (by decide)⟩

end SteelInspection.Tiles
