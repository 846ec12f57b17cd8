import SteelInspection.Repair.Boundary
import SteelInspection.Foundations.Fallible

/-! # The segments of a flow

`reference_observations` drops the rounds without a frame of the reference camera as unknown, and
`detect_one_round_segments` takes a jump of the round number for a boundary.
-/

namespace SteelInspection.Repair

open Foundations Fallible

/-- A frame of a committed event; a ratio that is missing or `None` is read as zero. -/
structure CommittedFrame (Ratio : Type) where
  cameraId : Option String
  brightPixelRatio : Option Ratio
  storageIndex : Option Int

structure CommittedEvent (Ratio : Type) where
  captureRound : Nat
  frames : List (CommittedFrame Ratio)

structure ReferenceObservation (Ratio : Type) where
  captureRound : Nat
  storageIndex : Int
  brightPixelRatio : Ratio
  steelPresent : Bool

/-- A segment with the storage indexes of its ends. -/
structure StoredSegment extends BoundarySegment where
  startStorageIndex : Int
  endStorageIndex : Int

variable {Ratio : Type}

section Observations

variable [Zero Ratio] [LE Ratio] [DecidableLE Ratio] (casefold : String → String)
  (referenceCamera : String) (threshold : Ratio)

/-- What an event tells of the reference camera: nothing when it has no frame of it. -/
def observe (event : CommittedEvent Ratio) :
    Except RepairError (Option (ReferenceObservation Ratio)) :=
  match event.frames.filter fun frame =>
    casefold (frame.cameraId.getD "") = casefold referenceCamera with
  | [] => .ok none
  | [frame] =>
    let ratio := frame.brightPixelRatio.getD 0
    .ok (some ⟨event.captureRound, frame.storageIndex.getD (-1), ratio, threshold ≤ ratio⟩)
  | _ => .error (.value ("round " ++ toString event.captureRound ++
      " contains duplicate reference camera " ++ referenceCamera))

def observations :
    List (CommittedEvent Ratio) → Except RepairError (List (ReferenceObservation Ratio))
  | [] => .ok []
  | event :: events => do
    let seen ← observe casefold referenceCamera threshold event
    let later ← observations events
    pure (seen.toList ++ later)

def referenceObservations (events : List (CommittedEvent Ratio)) :
    Except RepairError (List (ReferenceObservation Ratio)) := do
  let seen ← observations casefold referenceCamera threshold events
  if seen.isEmpty then
    throw (.value ("reference camera " ++ referenceCamera ++ " has no committed frames"))
  else pure seen

end Observations

structure Scan (Ratio : Type) where
  start : Option (ReferenceObservation Ratio) := none
  previous : Option (ReferenceObservation Ratio) := none
  segments : List StoredSegment := []

def Scan.close (scan : Scan Ratio) (start last : ReferenceObservation Ratio) : List StoredSegment :=
  scan.segments ++ [⟨⟨scan.segments.length + 1, start.captureRound, last.captureRound⟩,
    start.storageIndex, last.storageIndex⟩]

/-- One turn of the loop of `detect_one_round_segments`. -/
def Scan.step (scan : Scan Ratio) (seen : ReferenceObservation Ratio) : Scan Ratio :=
  match scan.start with
  | none => { scan with start := if seen.steelPresent then some seen else none, previous := some seen }
  | some start =>
    match scan.previous.filter fun previous => previous.captureRound + 1 < seen.captureRound with
    | some previous =>
      ⟨if seen.steelPresent then some seen else none, some seen, scan.close start previous⟩
    | none =>
      if seen.steelPresent then { scan with previous := some seen }
      else ⟨none, some seen, scan.close start seen⟩

def detectOneRoundSegments (seen : List (ReferenceObservation Ratio)) : List StoredSegment :=
  (seen.foldl Scan.step {}).segments

/-! ## What a run of the loop closes -/

section Scanning

variable {scan : Scan Ratio} {seen before after : ReferenceObservation Ratio}

theorem Scan.step_previous : (scan.step seen).previous = some seen := by
  unfold Scan.step
  grind

/-- A segment ends with an observation without steel or with the one before a jump. -/
theorem Scan.step_segments {segment : StoredSegment} (mem : segment ∈ (scan.step seen).segments) :
    segment ∈ scan.segments ∨ seen.steelPresent = false ∧ segment.endRound = seen.captureRound ∨
      ∃ previous ∈ scan.previous, segment.endRound = previous.captureRound := by
  unfold Scan.step at mem
  grind [Scan.close, Option.filter_eq_some_iff]

theorem Scan.segments_step : scan.segments ⊆ (scan.step seen).segments := by
  unfold Scan.step
  grind [Scan.close]

/-- What a run of the loop closes ends within the rounds it has seen. -/
theorem Scan.foldl_segments {within : Nat → Prop} {all : List (ReferenceObservation Ratio)}
    (previous : ∀ last ∈ scan.previous, within last.captureRound)
    (rounds : ∀ seen ∈ all, within seen.captureRound) :
    (∀ last ∈ (all.foldl Scan.step scan).previous, within last.captureRound) ∧
      scan.segments ⊆ (all.foldl Scan.step scan).segments ∧
      ∀ segment ∈ (all.foldl Scan.step scan).segments,
        segment ∈ scan.segments ∨ within segment.endRound := by
  induction all generalizing scan with
  | nil => exact ⟨previous, fun _ mem => mem, fun _ mem => .inl mem⟩
  | cons seen all ih =>
    have here := rounds seen List.mem_cons_self
    obtain ⟨last, grows, closed⟩ := @ih (scan.step seen)
      (by rw [Scan.step_previous]; rintro _ ⟨⟩; exact here)
      fun seen mem => rounds seen (List.mem_cons_of_mem _ mem)
    refine ⟨last, fun _ mem => grows (Scan.segments_step mem), fun segment mem => ?_⟩
    rcases closed segment mem with old | new
    · rcases Scan.step_segments old with old | ⟨-, now⟩ | ⟨last, isLast, now⟩
      · exact .inl old
      · exact .inr (now ▸ here)
      · exact .inr (now ▸ previous last isLast)
    · exact .inr new

/-- Two observations of steel in a row: the segment goes on just when their rounds are adjacent. -/
theorem unbroken_iff {front back : List (ReferenceObservation Ratio)}
    (earlier : ∀ seen ∈ front, seen.captureRound < before.captureRound)
    (next : before.captureRound < after.captureRound)
    (later : ∀ seen ∈ back, after.captureRound ≤ seen.captureRound)
    (steelBefore : before.steelPresent = true) (steelAfter : after.steelPresent = true) :
    (∀ segment ∈ detectOneRoundSegments (front ++ before :: after :: back),
        ¬(before.captureRound ≤ segment.endRound ∧ segment.endRound < after.captureRound)) ↔
      after.captureRound = before.captureRound + 1 := by
  have opening := @Scan.foldl_segments Ratio {} (· < before.captureRound) front
    nofun earlier
  generalize scanned : front.foldl Scan.step ({} : Scan Ratio) = scan at opening
  obtain ⟨last, -, closed⟩ := opening
  have opens : (scan.step before).start.isSome := by
    unfold Scan.step
    grind
  obtain ⟨start, opened⟩ := Option.isSome_iff_exists.1 opens
  have done : ∀ segment ∈ (scan.step before).segments, segment.endRound < before.captureRound := by
    grind [Scan.step_segments]
  have turn : ((scan.step before).step after).segments =
      if before.captureRound + 1 < after.captureRound then (scan.step before).close start before
      else (scan.step before).segments := by
    rw [Scan.step, opened, Scan.step_previous]
    grind
  have rest := @Scan.foldl_segments Ratio ((scan.step before).step after) (after.captureRound ≤ ·)
    back (by rw [Scan.step_previous]; rintro _ ⟨⟩; exact Nat.le_refl _) later
  rw [detectOneRoundSegments, List.foldl_append, scanned, List.foldl_cons, List.foldl_cons]
  constructor
  · intro unbroken
    by_contra jumped
    rw [if_pos (by omega)] at turn
    have kept := rest.2.1
    rw [turn] at kept
    exact unbroken _ (kept (List.mem_append_right _ (List.mem_singleton_self _)))
      ⟨Nat.le_refl _, next⟩
  · intro adjacent segment mem
    grind

end Scanning

section Observations

variable [Zero Ratio] [LE Ratio] [DecidableLE Ratio] {casefold : String → String}
  {referenceCamera : String} {threshold : Ratio}

theorem observe_round {event : CommittedEvent Ratio} {seen : ReferenceObservation Ratio}
    (observed : (observe casefold referenceCamera threshold event).toOption.join = some seen) :
    seen.captureRound = event.captureRound := by
  unfold observe at observed
  split at observed <;> cases observed
  rfl

theorem observations_eq {events : List (CommittedEvent Ratio)}
    {seen : List (ReferenceObservation Ratio)}
    (read : observations casefold referenceCamera threshold events = .ok seen) :
    seen = events.filterMap fun event =>
      (observe casefold referenceCamera threshold event).toOption.join := by
  induction events generalizing seen with
  | nil => cases read; rfl
  | cons event events ih =>
    obtain ⟨first, here, read⟩ := bind_eq_ok.1 read
    obtain ⟨later, rest, done⟩ := bind_eq_ok.1 read
    cases done
    rw [List.filterMap_cons, here, ← ih rest]
    cases first <;> rfl

variable (casefold referenceCamera threshold) in
/-- Between two observations of steel with nothing but unknown rounds between them a segment is
closed unless their rounds are adjacent. -/
theorem neutral_iff_adjacent (front block back : List (CommittedEvent Ratio))
    (before after : CommittedEvent Ratio) {first second : ReferenceObservation Ratio}
    {seen : List (ReferenceObservation Ratio)}
    (rounds : (front ++ before :: (block ++ after :: back)).Pairwise
      (·.captureRound < ·.captureRound))
    (read : referenceObservations casefold referenceCamera threshold
      (front ++ before :: (block ++ after :: back)) = .ok seen)
    (left : observe casefold referenceCamera threshold before = .ok (some first))
    (missing : ∀ event ∈ block, observe casefold referenceCamera threshold event = .ok none)
    (right : observe casefold referenceCamera threshold after = .ok (some second))
    (steel : first.steelPresent = true ∧ second.steelPresent = true) :
    (∀ segment ∈ detectOneRoundSegments seen,
        ¬(before.captureRound ≤ segment.endRound ∧ segment.endRound < after.captureRound)) ↔
      after.captureRound = before.captureRound + 1 := by
  obtain ⟨all, read, done⟩ := bind_eq_ok.1 read
  split at done <;> cases done
  obtain ⟨-, rounds, earlier⟩ := List.pairwise_append.1 rounds
  obtain ⟨next, rounds⟩ := List.pairwise_cons.1 rounds
  obtain ⟨later, -⟩ := List.pairwise_cons.1 (List.pairwise_append.1 rounds).2.1
  replace next := next after (List.mem_append_right _ List.mem_cons_self)
  replace earlier event mem := earlier event mem before List.mem_cons_self
  have dropped : block.filterMap (fun event =>
      (observe casefold referenceCamera threshold event).toOption.join) = [] :=
    List.filterMap_eq_nil_iff.2 fun event mem => by rw [missing event mem]; rfl
  rw [observations_eq read, List.filterMap_append, List.filterMap_cons, left, List.filterMap_append,
    List.filterMap_cons, right, dropped]
  rw [← observe_round (congrArg (·.toOption.join) left),
    ← observe_round (congrArg (·.toOption.join) right)] at *
  refine unbroken_iff (fun seen mem => ?_) next (fun seen mem => ?_) steel.1 steel.2
  · obtain ⟨event, mem, observed⟩ := List.mem_filterMap.1 mem
    exact observe_round observed ▸ earlier event mem
  · obtain ⟨event, mem, observed⟩ := List.mem_filterMap.1 mem
    exact observe_round observed ▸ (later event mem).le

/-- A round whose only frame is of `C0` and bright. -/
def steelRound (number : Nat) : CommittedEvent Nat := ⟨number, [⟨some "C0", some 1, some number⟩]⟩

def readSteel (events : List (CommittedEvent Nat)) :
    Except RepairError (List (ReferenceObservation Nat)) :=
  @referenceObservations Nat ⟨0⟩ _ Nat.decLe id "C0" 1 events

/-- Among the rounds 1, 2, 3 and 5 no segment ends between 2 and 3; between 3 and 5 one does when the
round 4 has no frame. -/
theorem adjacent_rounds_neutral : ∃ seen,
    readSteel [steelRound 1, steelRound 2, steelRound 3, ⟨4, []⟩, steelRound 5] = .ok seen ∧
    (∀ segment ∈ detectOneRoundSegments seen, ¬(2 ≤ segment.endRound ∧ segment.endRound < 3)) ∧
    ¬∀ segment ∈ detectOneRoundSegments seen, ¬(3 ≤ segment.endRound ∧ segment.endRound < 5) :=
  ⟨_, rfl, (@neutral_iff_adjacent Nat ⟨0⟩ _ Nat.decLe id "C0" 1 [steelRound 1] []
      [⟨4, []⟩, steelRound 5] (steelRound 2) (steelRound 3) _ _ _ (by decide) rfl rfl
      (List.forall_mem_nil _) rfl ⟨rfl, rfl⟩).2 rfl,
    fun neutral => absurd ((@neutral_iff_adjacent Nat ⟨0⟩ _ Nat.decLe id "C0" 1
      [steelRound 1, steelRound 2] [⟨4, []⟩] [] (steelRound 3) (steelRound 5) _ _ _ (by decide) rfl rfl
      (List.forall_mem_singleton.mpr rfl) rfl ⟨rfl, rfl⟩).1 neutral) (by decide)⟩

theorem unknown_round_closes : ∃ seen, readSteel [steelRound 1, ⟨2, []⟩, steelRound 3] = .ok seen ∧
      ∃ segment ∈ detectOneRoundSegments seen, 1 ≤ segment.endRound ∧ segment.endRound < 3 :=
  ⟨_, rfl, ⟨⟨1, 1, 1⟩, 1, 1⟩, List.mem_singleton_self _, by decide⟩

end Observations

end SteelInspection.Repair
