import Mathlib.Data.List.Infix
import Mathlib.Order.Bounds.Basic

/-! # The coverage gap

The bins of a coverage mask go once around the circumference that the cameras see. The longest
uncovered run is looked for in two copies of the mask side by side, where a run over the end stands
in one piece.
-/

namespace SteelInspection.Capture

/-- The loop: the run that ends here, and the longest so far. -/
def longestRun (values : List Bool) : Nat × Nat :=
  values.foldl (fun (current, best) value =>
    let current := if value then current + 1 else 0
    (current, max best current)) (0, 0)

/-- `_maximum_circular_gap`. -/
def maximumCircularGap (mask : List Bool) : Nat :=
  if mask.all id then 0
  else if !mask.any id then mask.length
  else
    let uncovered := mask.map (!·)
    min mask.length (longestRun (uncovered ++ uncovered)).2

/-- So many bins of the circle, none twice, are uncovered from `start` on. -/
def Gap (mask : List Bool) (start length : Nat) : Prop :=
  length ≤ mask.length ∧ ∀ i < length, mask[(start + i) % mask.length]? = some false

variable {mask : List Bool} {length : Nat}

theorem longestRun_spec (values : List Bool) : ∀ length,
    (length ≤ (longestRun values).1 ↔ List.replicate length true <:+ values) ∧
    (length ≤ (longestRun values).2 ↔ List.replicate length true <:+: values) := by
  induction values using List.reverseRecOn with
  | nil => simp [longestRun]
  | append_singleton values value ih =>
    intro length
    have ends : length ≤ (longestRun (values ++ [value])).1 ↔
        List.replicate length true <:+ values ++ [value] := by
      cases length with
      | zero => simp
      | succ length =>
        rw [List.replicate_succ', List.suffix_concat_iff]
        cases value <;> simp_all [longestRun]
    rw [List.infix_concat_iff, ← ends, ← (ih length).2]
    refine ⟨.rfl, ?_⟩
    simp only [longestRun, List.foldl_append, List.foldl_cons, List.foldl_nil]
    omega

/-- A place in the two copies is a place on the circle. -/
theorem getElem?_doubled {index : Nat} (inside : index < mask.length + mask.length) :
    (mask.map (!·) ++ mask.map (!·))[index]? = some true ↔
      mask[index % mask.length]? = some false := by
  rw [List.getElem?_append]
  split <;> rename_i place <;> rw [List.length_map] at place
  · simp [Nat.mod_eq_of_lt place]
  · simp [Nat.mod_eq_sub_mod (by omega : index ≥ mask.length),
      Nat.mod_eq_of_lt (by omega : index - mask.length < mask.length)]

theorem le_longestRun_iff (within : length ≤ mask.length) :
    length ≤ (longestRun (mask.map (!·) ++ mask.map (!·))).2 ↔ ∃ start, Gap mask start length := by
  simp only [(longestRun_spec _ _).2, List.infix_iff_getElem?, List.length_replicate,
    List.getElem_replicate, List.length_append, List.length_map]
  constructor
  · rintro ⟨start, fits, run⟩
    refine ⟨start, within, fun i earlier => ?_⟩
    rw [Nat.add_comm, ← getElem?_doubled (by omega), run i earlier]
  · rintro ⟨start, -, run⟩
    obtain rfl | nonempty := Nat.eq_zero_or_pos length
    · exact ⟨0, by simp⟩
    have first := Nat.mod_lt start (by omega : mask.length > 0)
    refine ⟨start % mask.length, by omega, fun i earlier => ?_⟩
    rw [getElem?_doubled (by omega), Nat.add_mod_mod, Nat.add_comm, run i earlier]

theorem le_maximumCircularGap_iff :
    length ≤ maximumCircularGap mask ↔ ∃ start, Gap mask start length := by
  unfold maximumCircularGap
  split
  next all =>
    refine ⟨fun zero => ⟨0, by omega, by omega⟩, fun ⟨_, _, run⟩ => Nat.le_of_not_lt fun more => ?_⟩
    simpa using List.all_eq_true.1 all _ (List.mem_of_getElem? (run 0 more))
  split
  next none =>
    refine ⟨fun within => ⟨0, within, fun i earlier => ?_⟩, fun ⟨_, within, _⟩ => within⟩
    have place := Nat.mod_lt (0 + i) (by omega : mask.length > 0)
    simp only [Bool.not_eq_true', List.any_eq_false, id, Bool.not_eq_true] at none
    rw [List.getElem?_eq_getElem place, none _ (List.getElem_mem _)]
  · rw [Nat.le_min]
    exact ⟨fun ⟨within, run⟩ => (le_longestRun_iff within).1 run,
      fun ⟨start, gap⟩ => ⟨gap.1, (le_longestRun_iff gap.1).2 ⟨start, gap⟩⟩⟩

theorem maximumCircularGap_spec (mask : List Bool) :
    IsGreatest {length | ∃ start, Gap mask start length} (maximumCircularGap mask) ∧
    ((∀ covered ∈ mask, covered = false) → maximumCircularGap mask = mask.length) ∧
    ((∀ covered ∈ mask, covered = true) → maximumCircularGap mask = 0) := by
  refine ⟨⟨le_maximumCircularGap_iff.1 le_rfl, fun _ => le_maximumCircularGap_iff.2⟩, ?_, ?_⟩
  · intro none
    cases mask <;> simp_all [maximumCircularGap]
  · intro all
    simp_all [maximumCircularGap]

end SteelInspection.Capture
