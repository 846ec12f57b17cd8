import Mathlib.Data.List.Basic
import SteelInspection.Foundations.Text

/-! # Reading requests from a socket

A request arrives in reads of any sizes.  The readers look for the end of the header block in all that
has arrived so far.
-/

namespace SteelInspection.Requests

open Foundations

def terminator : List Nat := [13, 10, 13, 10]

/-- `header_end_index`: where the first window that is the terminator ends. -/
def headerEndIndex : List Nat → Option Nat
  | [] => none
  | byte :: bytes =>
    if terminator <+: byte :: bytes then some 4 else (headerEndIndex bytes).map (· + 1)

variable {bytes rest : List Nat} {reads : List (List Nat)} {ends : Nat}

theorem headerEndIndex_bounds (found : headerEndIndex bytes = some ends) :
    4 ≤ ends ∧ ends ≤ bytes.length := by
  induction bytes generalizing ends with
  | nil => cases found
  | cons byte bytes ih =>
    rw [headerEndIndex] at found
    split at found
    next front =>
      cases found
      exact ⟨Nat.le_refl 4, front.length_le⟩
    · obtain ⟨later, foundLater, rfl⟩ := Option.map_eq_some_iff.mp found
      have := ih foundLater
      rw [List.length_cons]
      omega

/-- In what has arrived the header block ends where it ends in the whole, or not at all. -/
theorem headerEndIndex_front (found : headerEndIndex (bytes ++ rest) = some ends) :
    headerEndIndex bytes = if ends ≤ bytes.length then some ends else none := by
  have bounds := headerEndIndex_bounds found
  induction bytes generalizing ends with
  | nil => rw [if_neg (by rw [List.length_nil]; omega), headerEndIndex]
  | cons byte bytes ih =>
    rw [List.cons_append, headerEndIndex] at found
    split at found
    next front =>
      cases found
      split
      next enough =>
        rw [headerEndIndex,
          if_pos (List.prefix_of_prefix_length_le front (List.prefix_append (byte :: bytes) rest) enough)]
      · rw [Option.eq_none_iff_forall_ne_some]
        intro other cut
        have := headerEndIndex_bounds cut
        omega
    next notFront =>
      obtain ⟨later, foundLater, rfl⟩ := Option.map_eq_some_iff.mp found
      have front : ¬terminator <+: byte :: bytes :=
        fun front => notFront (front.trans (List.prefix_append (byte :: bytes) rest))
      rw [headerEndIndex, if_neg front, ih foundLater (headerEndIndex_bounds foundLater)]
      grind

namespace PipelineWorker

/-- `read_http_request` of the pipeline workers, for the reads up to the end of the connection or its
timeout. -/
def readHttpRequest (bytes : List Nat) : List (List Nat) → List Nat
  | [] => bytes
  | read :: reads =>
    if (headerEndIndex (bytes ++ read)).isSome then bytes ++ read
    else readHttpRequest (bytes ++ read) reads

/-- The reader stops with the read that ends the header block. -/
theorem readHttpRequest_whole_iff (found : headerEndIndex (bytes ++ reads.flatten) = some ends)
    (missing : bytes.length < ends) (received : ∀ read ∈ reads, read ≠ []) :
    readHttpRequest bytes reads = bytes ++ reads.flatten ↔
      (bytes ++ reads.dropLast.flatten).length < ends := by
  induction reads generalizing bytes with
  | nil =>
    have := headerEndIndex_bounds found
    simp only [List.flatten_nil, List.append_nil] at this
    omega
  | cons read reads ih =>
    rw [List.flatten_cons, ← List.append_assoc] at found ⊢
    rw [readHttpRequest, headerEndIndex_front found]
    by_cases enough : ends ≤ (bytes ++ read).length
    · rw [if_pos enough, Option.isSome_some, if_pos rfl]
      cases reads with
      | nil => simp [missing]
      | cons next reads =>
        refine iff_of_false (fun same => ?_) fun less => ?_
        · rw [List.self_eq_append_right, List.flatten_cons, List.append_eq_nil_iff] at same
          exact received next (by simp) same.1
        · rw [List.dropLast_cons_cons, List.flatten_cons, ← List.append_assoc, List.length_append] at less
          omega
    · have more : reads ≠ [] := by
        rintro rfl
        rw [List.flatten_nil, List.append_nil] at found
        exact enough (headerEndIndex_bounds found).2
      rw [if_neg enough, Option.isSome_none, if_neg Bool.false_ne_true, ih found (Nat.lt_of_not_le enough)
        fun read mem => received read (List.mem_cons_of_mem _ mem),
        List.dropLast_cons_of_ne_nil more, List.flatten_cons, List.append_assoc]

/-- A request is read whole just when its last read begins in its header block. -/
theorem request_read_whole_iff {header body : List Nat} {reads : List (List Nat)}
    (block : headerEndIndex (header ++ body) = some header.length)
    (split : reads.flatten = header ++ body) (received : ∀ read ∈ reads, read ≠ []) :
    readHttpRequest [] reads = header ++ body ↔ reads.dropLast.flatten.length < header.length := by
  rw [← split] at block ⊢
  have long := (headerEndIndex_bounds block).1
  exact readHttpRequest_whole_iff block (by rw [List.length_nil]; omega) received

def reprocessHeader : List Nat :=
  Text.bytes "POST /internal/v1/reprocess HTTP/1.1\r\nContent-Length: 19\r\n\r\n"

def reprocessBody : List Nat := Text.bytes "\x7b\"materialId\":\"70\"\x7d"

/-- The header block comes in two reads, the second of which also has the body. -/
theorem reprocess_read_whole :
    readHttpRequest [] [reprocessHeader.take 40, reprocessHeader.drop 40 ++ reprocessBody] =
      reprocessHeader ++ reprocessBody :=
  (request_read_whole_iff (by decide +kernel) (by decide +kernel) (by decide +kernel)).mpr
    (by decide +kernel)

/-- A body that comes in a read of its own is not read. -/
theorem late_body_unread :
    readHttpRequest [] [reprocessHeader, reprocessBody] ≠ reprocessHeader ++ reprocessBody := by
  decide +kernel

end PipelineWorker

end SteelInspection.Requests
