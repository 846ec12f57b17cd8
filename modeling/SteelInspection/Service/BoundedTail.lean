import Mathlib.Algebra.Group.Nat.Defs
import Mathlib.Data.List.Rotate

/-! # The tail of a child's output

A thread reads what a controlled process writes, counts it and keeps its last bytes in a ring.
-/

namespace SteelInspection.Requests

/-- What the calls of `read` give: the bytes now in the chunk, or an error. -/
abbrev Reader := List (Option (List UInt8))

/-- The chunks before `Ok(0) | Err(_) => break`. -/
def Reader.chunks : Reader → List (List UInt8)
  | some (byte :: bytes) :: later => (byte :: bytes) :: chunks later
  | _ => []

structure BoundedRead where
  bytes : List UInt8
  totalBytes : Nat
  truncated : Bool

structure Ring where
  bytes : List UInt8
  totalBytes : Nat := 0
  writeIndex : Nat := 0

def saturatingAdd (total count : Nat) : Nat := min (total + count) (2 ^ 64 - 1)

def Ring.write (limit : Nat) (ring : Ring) (byte : UInt8) : Ring :=
  { ring with
    bytes := ring.bytes.set ring.writeIndex byte
    writeIndex := (ring.writeIndex + 1) % limit }

def Ring.read (limit : Nat) (ring : Ring) (chunk : List UInt8) : Ring :=
  chunk.foldl (write limit) { ring with totalBytes := saturatingAdd ring.totalBytes chunk.length }

def Ring.after (limit : Nat) (chunks : List (List UInt8)) : Ring :=
  chunks.foldl (read limit) { bytes := List.replicate limit 0 }

/-- The bytes held: the ring and the chunk. -/
def Ring.held (ring : Ring) : Nat := ring.bytes.length + 16 * 1024

/-- `read_bounded_tail`. A vector of more than `isize::MAX` bytes panics. -/
def readBoundedTail (reader : Reader) (limit : Nat) : Option BoundedRead :=
  if limit = 0 then
    let totalBytes := reader.chunks.foldl (fun total chunk => saturatingAdd total chunk.length) 0
    some ⟨[], totalBytes, 0 < totalBytes⟩
  else if 2 ^ 63 ≤ limit then none
  else
    let ring := Ring.after limit reader.chunks
    let retained := min ring.totalBytes limit
    let bytes :=
      if retained < limit then ring.bytes.take retained
      else if limit < ring.totalBytes ∧ ring.writeIndex ≠ 0 then ring.bytes.rotate ring.writeIndex
      else ring.bytes
    some ⟨bytes, ring.totalBytes, limit < ring.totalBytes⟩

variable {limit total : Nat} {ring : Ring} {stream : List UInt8} {byte : UInt8}

/-- From its index on, the ring holds the end of the zeros it began with and the stream. -/
structure Ring.Holds (limit : Nat) (stream : List UInt8) (total : Nat) (ring : Ring) : Prop where
  index : ring.writeIndex = stream.length % limit
  bytes : ring.bytes.rotate ring.writeIndex = (List.replicate limit 0 ++ stream).drop stream.length
  total : ring.totalBytes = total

theorem saturatingAdd_min (total count : Nat) :
    saturatingAdd (min total (2 ^ 64 - 1)) count = min (total + count) (2 ^ 64 - 1) := by
  unfold saturatingAdd
  omega

theorem total_eq (chunks : List (List UInt8)) :
    chunks.foldl (fun total chunk => saturatingAdd total chunk.length) 0 =
      min chunks.flatten.length (2 ^ 64 - 1) := by
  induction chunks using List.reverseRecOn with
  | nil => rfl
  | append_singleton chunks chunk ih =>
    rw [List.foldl_concat, ih, saturatingAdd_min, List.flatten_concat, List.length_append]

theorem rotate_set {bytes : List UInt8} {index : Nat} (inside : index < bytes.length) :
    (bytes.set index byte).rotate (index + 1) = (bytes.rotate index).tail ++ [byte] := by
  rw [List.rotate_eq_drop_append_take (by simp; omega), List.rotate_eq_drop_append_take (by omega),
    List.drop_set_of_lt (by omega), List.drop_eq_getElem_cons inside, List.take_add_one,
    List.take_set_of_le le_rfl]
  simp [inside]

namespace Ring.Holds

variable (holds : ring.Holds limit stream total)
include holds

theorem length : ring.bytes.length = limit := by
  simpa using congrArg List.length holds.bytes

theorem write : (ring.write limit byte).Holds limit (stream ++ [byte]) total := by
  refine ⟨by simp [Ring.write, holds.index], ?_, holds.total⟩
  obtain rfl | positive := Nat.eq_zero_or_pos limit
  · simp [Ring.write, List.eq_nil_of_length_eq_zero holds.length]
  have inside : ring.writeIndex < ring.bytes.length := by
    rw [holds.index, holds.length]
    exact Nat.mod_lt _ positive
  have room : stream.length + 1 ≤ (List.replicate limit 0 ++ stream).length := by
    simp
    omega
  calc
    _ = (ring.bytes.set ring.writeIndex byte).rotate (ring.writeIndex + 1) := by
      rw [← List.rotate_mod _ (_ + 1), List.length_set, holds.length]
      rfl
    _ = ((List.replicate limit 0 ++ stream).drop stream.length).tail ++ [byte] := by
      rw [rotate_set inside, holds.bytes]
    _ = _ := by
      rw [List.tail_drop, List.length_append, ← List.append_assoc, List.length_singleton,
        List.drop_append_of_le_length room]

theorem writes (chunk : List UInt8) :
    (chunk.foldl (Ring.write limit) ring).Holds limit (stream ++ chunk) total := by
  induction chunk generalizing ring stream with
  | nil => simpa using holds
  | cons byte chunk ih => simpa using ih holds.write

theorem read (chunk : List UInt8) :
    (ring.read limit chunk).Holds limit (stream ++ chunk) (saturatingAdd total chunk.length) := by
  apply writes
  exact ⟨holds.index, holds.bytes, by rw [holds.total]⟩

theorem tail (full : limit ≤ stream.length) :
    ring.bytes.rotate ring.writeIndex = stream.drop (stream.length - limit) := by
  rw [holds.bytes, List.drop_append, List.drop_of_length_le (by simpa), List.length_replicate,
    List.nil_append]

theorem front (below : stream.length < limit) : ring.bytes.take stream.length = stream := by
  have bytes := holds.bytes
  rw [holds.index, Nat.mod_eq_of_lt below,
    List.rotate_eq_drop_append_take (holds.length ▸ below.le),
    List.drop_append_of_le_length (by simp; omega)] at bytes
  exact (List.append_inj' bytes (by simp [holds.length]; omega)).2

end Ring.Holds

theorem Ring.after_holds (chunks : List (List UInt8)) :
    (after limit chunks).Holds limit chunks.flatten (min chunks.flatten.length (2 ^ 64 - 1)) := by
  induction chunks using List.reverseRecOn with
  | nil => exact ⟨by simp [after], by simp [after], rfl⟩
  | append_singleton chunks chunk ih =>
    rw [after, List.foldl_concat, List.flatten_concat, List.length_append, ← saturatingAdd_min]
    exact ih.read chunk

theorem readBoundedTail_eq_iff (reader : Reader) (limit : Nat) :
    (∀ count, (Ring.after limit (reader.chunks.take count)).held ≤ limit + 16 * 1024) ∧
    let stream := reader.chunks.flatten
    readBoundedTail reader limit = some ⟨stream.drop (stream.length - min limit stream.length),
      stream.length, limit < stream.length⟩ ↔ limit < 2 ^ 63 ∧ stream.length < 2 ^ 64 := by
  refine ⟨fun count => by rw [Ring.held, (Ring.after_holds _).length], ?_⟩
  unfold readBoundedTail
  generalize reader.chunks = chunks
  have holds := @Ring.after_holds limit chunks
  split
  · subst limit
    simp [total_eq]
    omega
  split
  · simp
    omega
  generalize Ring.after limit chunks = ring at holds ⊢
  simp only [holds.total, Option.some.injEq, BoundedRead.mk.injEq]
  refine ⟨fun ⟨_, total, _⟩ => by omega, fun ⟨_, counted⟩ => ?_⟩
  rw [Nat.min_eq_left (by omega : chunks.flatten.length ≤ 2 ^ 64 - 1)]
  refine ⟨?_, rfl, rfl⟩
  split
  · rw [Nat.min_eq_left (by omega), holds.front (by omega), Nat.min_eq_right (by omega),
      Nat.sub_self, List.drop_zero]
  rw [Nat.min_eq_left (by omega), ← holds.tail (by omega)]
  split
  · rfl
  · have start : ring.writeIndex = 0 := by
      by_contra moved
      have full : chunks.flatten.length = limit := by omega
      rw [holds.index, full, Nat.mod_self] at moved
      exact moved rfl
    rw [start, List.rotate_zero]

theorem oversized_limit_panics : ¬ ∀ (reader : Reader) (limit : Nat),
    let stream := reader.chunks.flatten
    readBoundedTail reader limit = some ⟨stream.drop (stream.length - min limit stream.length),
      stream.length, limit < stream.length⟩ := fun all => by
  simpa [readBoundedTail] using all [] 9223372036854775808

end SteelInspection.Requests
