import Mathlib.Init

/-! # Images as functions of column and row

Crops, nearest-neighbour resizing and pasting of images, and what a stack of pasted layers shows.
The second part is about images that are cut into strips, reduced strip by strip and put together
again: a strip is placed at its start divided by the scale and is as high as its length divided by
the scale and rounded up.
-/

namespace Foundations

/-- An image; the pixels are those of the columns below `width` and the rows below `height`. -/
structure Raster (α : Type) where
  width : Nat
  height : Nat
  pixel : Nat → Nat → α

/-- A choice of one source position for each target position, which is the identity between equal
sizes. -/
structure Sampling where
  index : (source target position : Nat) → Nat
  index_lt : ∀ {source target position}, 0 < source → position < target →
    index source target position < source
  index_same : ∀ {size position}, position < size → index size size position = position

/-- The source position under the middle of the target position. -/
def Sampling.nearest : Sampling where
  index source target position := (2 * position + 1) * source / (2 * target)
  index_lt {source target position} some_ inside := by
    have positive : 0 < 2 * target := by omega
    rw [Nat.div_lt_iff_lt_mul positive]
    have closer : 2 * position + 1 < 2 * target := by omega
    calc (2 * position + 1) * source < 2 * target * source := Nat.mul_lt_mul_of_pos_right closer some_
      _ = source * (2 * target) := Nat.mul_comm _ _
  index_same {size position} inside := by
    have positive : 0 < 2 * size := by omega
    rw [Nat.div_eq_iff positive]
    have split : (2 * position + 1) * size = position * (2 * size) + size := by
      rw [Nat.add_mul, Nat.one_mul, Nat.mul_comm 2 position, Nat.mul_assoc]
    omega

namespace Raster

variable {α : Type} {image : Raster α}

def filled (width height : Nat) (value : α) : Raster α := ⟨width, height, fun _ _ => value⟩

/-- The part of an image whose corner is at this column and row. -/
def view (image : Raster α) (left top width height : Nat) : Raster α :=
  ⟨width, height, fun x y => image.pixel (left + x) (top + y)⟩

def resize (sampling : Sampling) (image : Raster α) (width height : Nat) : Raster α :=
  ⟨width, height, fun x y =>
    image.pixel (sampling.index image.width width x) (sampling.index image.height height y)⟩

/-- An image to be put on another one, with its left edge on the left edge of that. -/
structure Layer (α : Type) where
  image : Raster α
  row : Nat

def Layer.Covers (layer : Layer α) (x y : Nat) : Prop :=
  x < layer.image.width ∧ layer.row ≤ y ∧ y < layer.row + layer.image.height

instance (layer : Layer α) (x y : Nat) : Decidable (layer.Covers x y) :=
  inferInstanceAs (Decidable (_ ∧ _))

/-- Puts a layer on an image, whose size stays as it is. -/
def replace (image : Raster α) (layer : Layer α) : Raster α :=
  { image with
    pixel := fun x y =>
      if layer.Covers x y then layer.image.pixel x (y - layer.row) else image.pixel x y }

/-- Puts the layers on an image, one after the other. -/
def paint (image : Raster α) (layers : List (Layer α)) : Raster α := layers.foldl replace image

theorem paint_append (image : Raster α) (first second : List (Layer α)) :
    image.paint (first ++ second) = (image.paint first).paint second := List.foldl_append

theorem paint_size (image : Raster α) (layers : List (Layer α)) :
    (image.paint layers).width = image.width ∧ (image.paint layers).height = image.height := by
  induction layers generalizing image with
  | nil => exact ⟨rfl, rfl⟩
  | cons layer layers ih => exact ih (image.replace layer)

variable {layers : List (Layer α)}

theorem paint_of_uncovered {x y : Nat} (free : ∀ layer ∈ layers, ¬ layer.Covers x y) :
    (image.paint layers).pixel x y = image.pixel x y := by
  induction layers generalizing image with
  | nil => rfl
  | cons layer layers ih =>
    have later := @ih (image.replace layer)
      fun other mem => free other (List.mem_cons_of_mem layer mem)
    exact later.trans (by simp only [replace, free layer List.mem_cons_self, if_false])

theorem paint_of_covered {x y : Nat} (covered : ∃ layer ∈ layers, layer.Covers x y) :
    ∃ layer ∈ layers, layer.Covers x y ∧
      (image.paint layers).pixel x y = layer.image.pixel x (y - layer.row) := by
  induction layers generalizing image with
  | nil =>
    obtain ⟨_, mem, _⟩ := covered
    cases mem
  | cons layer layers ih =>
    by_cases later : ∃ other ∈ layers, other.Covers x y
    · obtain ⟨other, mem, covers, shown⟩ := @ih (image.replace layer) later
      exact ⟨other, List.mem_cons_of_mem layer mem, covers, shown⟩
    -- nothing is put on top of this layer
    have free : ∀ other ∈ layers, ¬ other.Covers x y :=
      fun other mem covers => later ⟨other, mem, covers⟩
    obtain ⟨other, mem, covers⟩ := covered
    rcases List.mem_cons.mp mem with rfl | deeper
    · exact ⟨other, List.mem_cons_self, covers,
        (paint_of_uncovered free).trans (by simp only [replace, covers, if_true])⟩
    · exact (free other deeper covers).elim

end Raster

/-! ## Strips of a reduced image -/

/-- `div_ceil`. -/
def divCeil (value scale : Nat) : Nat := (value + scale - 1) / scale

theorem lt_divCeil {value scale position : Nat} (positive : 0 < scale) :
    position < divCeil value scale ↔ position * scale < value := by
  rw [divCeil, ← Nat.succ_le_iff, Nat.le_div_iff_mul_le positive, Nat.succ_mul]
  omega

theorem divCeil_one (value : Nat) : divCeil value 1 = value := by simp [divCeil]

theorem strip_row_iff {start stop scale row : Nat} (positive : 0 < scale) (order : start ≤ stop) :
    (start / scale ≤ row ∧ row < start / scale + divCeil (stop - start) scale) ↔
      start / scale ≤ row ∧ row * scale + start % scale < stop := by
  refine and_congr_right fun below => ?_
  have offset : row < start / scale + divCeil (stop - start) scale ↔
      row - start / scale < divCeil (stop - start) scale := by omega
  have whole : scale * (start / scale) + start % scale = start := Nat.div_add_mod start scale
  have product : (row - start / scale) * scale + scale * (start / scale) = row * scale := by
    rw [Nat.mul_comm scale, ← Nat.add_mul, Nat.sub_add_cancel below]
  rw [offset, lt_divCeil positive]
  omega

end Foundations
