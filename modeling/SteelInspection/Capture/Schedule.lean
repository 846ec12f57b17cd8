import SteelInspection.Capture.Closing

/-! # Bars under the cameras

Any number of bars passes any number of cameras.  Every frame is received, every camera sees every
bar as one run of rounds, and the runs of two bars are at least one round apart.  The reference
camera numbers the flows: a flow opens with the first frame of its bar and is asked to close with
the first frame without material after it.
-/

namespace SteelInspection.Capture

open Foundations

/-- When which camera sees which bar. -/
structure Schedule where
  profile : RoutingProfile
  reference : String
  reference_enabled : reference ∈ profile.enabledCameras
  bars : Nat
  first : String → Nat → Nat
  last : String → Nat → Nat
  materialId : Nat → String
  sessionId : Nat → String
  flowCode : Nat → String
  frame : String → Nat → String
  intensity : String → Nat → Nat
  /-- Rounds are counted from one. -/
  counted : ∀ camera ∈ profile.enabledCameras, ∀ bar < bars, 0 < first camera bar
  seen : ∀ camera ∈ profile.enabledCameras, ∀ bar < bars, first camera bar ≤ last camera bar
  apart : ∀ camera ∈ profile.enabledCameras, ∀ bar, bar + 1 < bars →
    last camera bar + 1 < first camera (bar + 1)
  named : ∀ bar < bars, materialId bar ≠ "" ∧ sessionId bar ≠ ""
  distinct : ∀ bar < bars, ∀ other < bars, materialId bar = materialId other → bar = other
  /-- A head is at most the buffer limit ahead of its flow. -/
  leading : ∀ camera ∈ profile.enabledCameras, ∀ bar < bars,
    first reference bar ≤ first camera bar + profile.bufferRounds
  /-- A tail leaves before the close timeout of its flow. -/
  lagging : ∀ camera ∈ profile.enabledCameras, ∀ bar < bars,
    last camera bar < last reference bar + 1 + profile.closeTimeoutRounds

variable {flow : CameraMaterialFlow}

namespace Schedule

variable (schedule : Schedule)

def openedAt (bar : Nat) : Nat := schedule.first schedule.reference bar

def closeRequestedAt (bar : Nat) : Nat := schedule.last schedule.reference bar + 1

def During (camera : String) (bar round : Nat) : Prop :=
  schedule.first camera bar ≤ round ∧ round ≤ schedule.last camera bar

instance (camera : String) (bar round : Nat) : Decidable (schedule.During camera bar round) :=
  inferInstanceAs (Decidable (_ ∧ _))

def Active (bar round : Nat) : Prop :=
  schedule.openedAt bar ≤ round ∧ round < schedule.closeRequestedAt bar

def sees (camera : String) (round : Nat) : Bool :=
  (List.range schedule.bars).any fun bar => schedule.During camera bar round

def row (camera : String) (round : Nat) : Row where
  cameraKey := camera
  round := round
  frameReceived := true
  rawFrame := some (schedule.frame camera round)
  materialSignal := schedule.sees camera round
  maxIntensity := schedule.intensity camera round

def results (round : Nat) : List Row :=
  schedule.profile.enabledCameras.map fun camera => schedule.row camera round

def closing? (round : Nat) : Option Nat :=
  (List.range schedule.bars).find? fun bar => schedule.closeRequestedAt bar = round

def opening? (round : Nat) : Option Nat :=
  (List.range schedule.bars).find? fun bar => schedule.openedAt bar = round

def events (round : Nat) : List SteelEvent :=
  ((schedule.closing? round).map fun _ => SteelEvent.steelOut "" "").toList ++
    ((schedule.opening? round).map fun bar => SteelEvent.steelIn (schedule.materialId bar)
      (schedule.sessionId bar) (schedule.flowCode bar)).toList

structure Record where
  router : CameraRouter := {}
  batches : List Batch := []

/-- The acquisition loop after so many rounds; `pending` is the storage queue in each of them. -/
def after (pending : Nat → String → Nat) : Nat → Record
  | 0 => {}
  | round + 1 =>
    let (batches, router) := acquisitionRound schedule.profile (schedule.events (round + 1))
      (schedule.results (round + 1)) (pending (round + 1)) (after pending round).router
    { router, batches := (after pending round).batches ++ batches }

/-- The flows a frame was put into, once for each time. -/
def Record.flowsOf (record : Record) (camera : String) (round : Nat) : List String :=
  record.batches.flatMap fun batch =>
    (batch.items.filter fun row => row.cameraKey = camera && row.round = round).map fun _ =>
      batch.header.1.materialId

/-- Every frame of a bar whose flow has opened is in that flow, once, and no frame was thrown away. -/
def Delivers (pending : Nat → String → Nat) (rounds : Nat) : Prop :=
  (∀ camera ∈ schedule.profile.enabledCameras, ∀ bar < schedule.bars,
    schedule.openedAt bar ≤ rounds → ∀ round ≤ rounds, schedule.During camera bar round →
      (schedule.after pending rounds).flowsOf camera round = [schedule.materialId bar]) ∧
    (schedule.after pending rounds).router.discardedFrames = 0

/-! ## Order of the bars -/

variable {schedule} {camera : String}

variable {bar other round : Nat} {router : CameraRouter}

section

variable (enabled : camera ∈ schedule.profile.enabledCameras)
include enabled

theorem first_after_last {later : Nat} (before : bar < later) (exists' : later < schedule.bars) :
    schedule.last camera bar + 1 < schedule.first camera later := by
  induction later, before using Nat.le_induction with
  | base => exact schedule.apart camera enabled bar exists'
  | succ later _ ih =>
    have long := schedule.seen camera enabled later (by omega)
    have gap := schedule.apart camera enabled later exists'
    omega

variable (inBar : bar < schedule.bars) (inOther : other < schedule.bars)
include inBar inOther

/-- Two bars are one, or one has left the camera a round before the other comes. -/
theorem bars_apart : schedule.last camera other + 1 < schedule.first camera bar ∨ other = bar ∨
      schedule.last camera bar + 1 < schedule.first camera other := by
  rcases Nat.lt_trichotomy other bar with before | same | after
  · exact .inl (first_after_last enabled before inBar)
  · exact .inr (.inl same)
  · exact .inr (.inr (first_after_last enabled after inOther))

end

theorem sees_iff :
    schedule.sees camera round = true ↔ ∃ bar < schedule.bars, schedule.During camera bar round := by
  simp [sees]

theorem opened_lt_close (inBar : bar < schedule.bars) :
    schedule.openedAt bar < schedule.closeRequestedAt bar :=
  Nat.lt_succ_of_le (schedule.seen _ schedule.reference_enabled bar inBar)

theorem opened_pos (inBar : bar < schedule.bars) : 0 < schedule.openedAt bar :=
  schedule.counted _ schedule.reference_enabled bar inBar

theorem close_lt_opened {later : Nat} (before : bar < later) (inBar : later < schedule.bars) :
    schedule.closeRequestedAt bar < schedule.openedAt later :=
  first_after_last schedule.reference_enabled before inBar

/-! ## The flows of a round -/

structure IsFlow (schedule : Schedule) (round bar : Nat) (flow : CameraMaterialFlow) : Prop where
  inBars : bar < schedule.bars
  generation : flow.generation = bar + 1
  opened : schedule.openedAt bar ≤ round
  materialId : flow.materialId = schedule.materialId bar
  closed : flow.closed = false
  closeRequested : flow.closeRequested = decide (schedule.closeRequestedAt bar ≤ round)
  closeRequestedRound : schedule.closeRequestedAt bar ≤ round →
    flow.closeRequestedRound = schedule.closeRequestedAt bar

/-- The router numbers the bars in order: what it holds of the flows after a round's edges. -/
structure Numbered (schedule : Schedule) (round : Nat) (router : CameraRouter) : Prop where
  continuousRound : router.continuousRound = round
  routeGeneration : ∀ bar < schedule.bars,
    (schedule.openedAt bar ≤ round ↔ bar < router.routeGeneration)
  activeMaterialId :
    (∃ bar < schedule.bars, schedule.Active bar round ∧
      router.activeMaterialId = schedule.materialId bar) ∨
    (∀ bar < schedule.bars, ¬schedule.Active bar round) ∧ router.activeMaterialId = ""
  flows : ∀ generation flow, router.flows.find? generation = some flow →
    ∃ bar, schedule.IsFlow round bar flow
  flowById : ∀ materialId generation, router.flowById materialId = some generation →
    ∃ bar < schedule.bars, schedule.openedAt bar ≤ round ∧
      materialId = schedule.materialId bar ∧ generation = bar + 1
  current : ∀ bar < schedule.bars, schedule.Active bar round →
    router.flowById (schedule.materialId bar) = some (bar + 1) ∧
      (router.flows.find? (bar + 1)).isSome

theorem Numbered.initial : schedule.Numbered 0 {} where
  continuousRound := rfl
  routeGeneration bar inBar := by
    simp only [Nat.not_lt_zero, iff_false, Nat.not_le]
    exact opened_pos inBar
  activeMaterialId :=
    .inr ⟨fun _ inBar active => absurd active.1 (Nat.not_le.mpr (opened_pos inBar)), rfl⟩
  flows generation flow found := by cases found
  flowById materialId generation found := by cases found
  current _ inBar active := absurd active.1 (Nat.not_le.mpr (opened_pos inBar))

theorem IsFlow.same {other : CameraMaterialFlow} (isFlow : schedule.IsFlow round bar flow)
    (same : flow.Same other) : schedule.IsFlow round bar other := by
  rw [same]
  exact { isFlow with }

variable (numbered : schedule.Numbered round router)
include numbered

theorem Numbered.isFlow_of_find (found : router.flows.find? (bar + 1) = some flow) :
    schedule.IsFlow round bar flow := by
  obtain ⟨other, isFlow⟩ := numbered.flows _ flow found
  have key : flow.generation = bar + 1 := Table.find?_key found
  have same : other = bar := by
    have := isFlow.generation
    omega
  exact same ▸ isFlow

theorem Numbered.congr {other : CameraRouter} (same : router.SameFlows other) :
    schedule.Numbered round other where
  continuousRound := same.continuousRound.trans numbered.continuousRound
  routeGeneration := by
    rw [same.routeGeneration]
    exact numbered.routeGeneration
  activeMaterialId := by
    rw [same.activeMaterialId]
    exact numbered.activeMaterialId
  flows := by
    rw [same.flows]
    exact numbered.flows
  flowById := by
    rw [same.flowById]
    exact numbered.flowById
  current := by
    rw [same.flowById, same.flows]
    exact numbered.current

/-- The close pass leaves the numbering alone: it removes no flow that takes new segments. -/
theorem Numbered.finalize {pending : String → Nat} : schedule.Numbered round
      (finalizeCameraMaterialFlows schedule.profile pending router.continuousRound router) := by
  have closes : router.Closes
      (finalizeCameraMaterialFlows schedule.profile pending router.continuousRound router) :=
    .finalize _ _ _
  refine ⟨closes.continuousRound.trans numbered.continuousRound, ?_, ?_, ?_, ?_, ?_⟩
  · rw [closes.routeGeneration]
    exact numbered.routeGeneration
  · rw [closes.activeMaterialId]
    exact numbered.activeMaterialId
  · intro generation flow found
    obtain ⟨old, foundOld, same⟩ := closes.flows generation flow found
    obtain ⟨bar, isFlow⟩ := numbered.flows generation old foundOld
    exact ⟨bar, isFlow.same same⟩
  · exact fun materialId generation found =>
      numbered.flowById materialId generation (closes.flowById materialId generation found)
  · intro bar inBar active
    obtain ⟨named, found⟩ := numbered.current bar inBar active
    obtain ⟨flow, found⟩ := Option.isSome_iff_exists.mp found
    have isFlow := numbered.isFlow_of_find found
    have generation := isFlow.generation
    -- The flow of an active bar is not asked to close.
    have open' : flow.closeRequested = false := by
      rw [isFlow.closeRequested, decide_eq_false_iff_not]
      have := active.2
      omega
    have retains : router.Retains flow
        (finalizeCameraMaterialFlows schedule.profile pending router.continuousRound router) := by
      apply finalize_retains
      · rw [generation]
        exact found
      · grind
    obtain ⟨now, foundNow, -⟩ := retains.found
    rw [generation] at foundNow
    refine ⟨?_, by rw [foundNow]; rfl⟩
    have kept := retains.named (schedule.materialId bar) (by rw [generation]; exact named)
    rw [kept, generation]

end Schedule

/-! ## The edges of a round -/

namespace Schedule

variable {schedule : Schedule} {round : Nat} {router : CameraRouter}

variable {bar : Nat}

theorem active_succ_iff (noOpening : schedule.openedAt bar ≠ round + 1)
    (noClosing : schedule.closeRequestedAt bar ≠ round + 1) :
    schedule.Active bar (round + 1) ↔ schedule.Active bar round := by
  unfold Active
  omega

theorem IsFlow.succ (isFlow : schedule.IsFlow round bar flow)
    (noClosing : schedule.closeRequestedAt bar ≠ round + 1) :
    schedule.IsFlow (round + 1) bar flow := by
  refine { isFlow with
    opened := Nat.le_succ_of_le isFlow.opened, closeRequested := ?_
    closeRequestedRound := fun requested => isFlow.closeRequestedRound (by omega) }
  rw [isFlow.closeRequested, decide_eq_decide]
  omega

theorem Numbered.idle (numbered : schedule.Numbered round router)
    (noOpening : ∀ bar < schedule.bars, schedule.openedAt bar ≠ round + 1)
    (noClosing : ∀ bar < schedule.bars, schedule.closeRequestedAt bar ≠ round + 1) :
    schedule.Numbered (round + 1) { router with continuousRound := round + 1 } where
  continuousRound := rfl
  routeGeneration bar inBar := by
    rw [← numbered.routeGeneration bar inBar]
    have := noOpening bar inBar
    omega
  activeMaterialId := by
    rcases numbered.activeMaterialId with ⟨bar, inBar, active, named⟩ | ⟨nobody, empty⟩
    · exact .inl ⟨bar, inBar, (active_succ_iff (noOpening bar inBar) (noClosing bar inBar)).mpr active,
        named⟩
    · refine .inr ⟨fun bar inBar active => nobody bar inBar ?_, empty⟩
      exact (active_succ_iff (noOpening bar inBar) (noClosing bar inBar)).mp active
  flows generation flow found := by
    obtain ⟨bar, isFlow⟩ := numbered.flows generation flow found
    exact ⟨bar, isFlow.succ (noClosing bar isFlow.inBars)⟩
  flowById materialId generation found := by
    obtain ⟨bar, inBar, opened, named, same⟩ := numbered.flowById materialId generation found
    exact ⟨bar, inBar, Nat.le_succ_of_le opened, named, same⟩
  current bar inBar active :=
    numbered.current bar inBar
      ((active_succ_iff (noOpening bar inBar) (noClosing bar inBar)).mp active)

section

variable (inBar : bar < schedule.bars)
include inBar

/-- In the round of a close request nothing opens and no flow takes new segments. -/
theorem quiet_of_closing {other : Nat} (inOther : other < schedule.bars)
    (closing : schedule.closeRequestedAt bar = round + 1) :
    schedule.openedAt other ≠ round + 1 ∧ ¬schedule.Active other (round + 1) ∧
      (other ≠ bar → schedule.closeRequestedAt other ≠ round + 1) := by
  have long := opened_lt_close inBar
  have otherLong := opened_lt_close inOther
  unfold Active openedAt closeRequestedAt at *
  rcases bars_apart schedule.reference_enabled inBar inOther with before | rfl | after <;> omega

/-- In the round of an opening no other flow has an edge or takes new segments. -/
theorem alone_of_opening {other : Nat} (inOther : other < schedule.bars)
    (opening : schedule.openedAt bar = round + 1) :
    schedule.closeRequestedAt other ≠ round + 1 ∧ ¬schedule.Active other round ∧
      (schedule.Active other (round + 1) → other = bar) ∧
      (schedule.openedAt other ≤ round + 1 ↔ other < bar + 1) ∧
      (schedule.openedAt other ≤ round ↔ other < bar) := by
  have long := opened_lt_close inBar
  have otherLong := opened_lt_close inOther
  unfold Active
  rcases Nat.lt_trichotomy other bar with before | rfl | after
  · have gap := close_lt_opened before inBar
    omega
  · omega
  · have gap := close_lt_opened after inOther
    omega

variable (numbered : schedule.Numbered round router)
include numbered

/-- The bar that is active is the one the router has its number from. -/
theorem Numbered.activeMaterialId_eq (active : schedule.Active bar round) :
    router.activeMaterialId = schedule.materialId bar := by
  rcases numbered.activeMaterialId with ⟨other, inOther, activeOther, named⟩ | ⟨nobody, -⟩
  · have same : other = bar := by
      have := bars_apart schedule.reference_enabled inBar inOther
      unfold Active openedAt closeRequestedAt at *
      omega
    rw [named, same]
  · exact absurd active (nobody bar inBar)

theorem Numbered.close (closing : schedule.closeRequestedAt bar = round + 1) :
    schedule.Numbered (round + 1)
      (({ router with continuousRound := round + 1 } : CameraRouter).steelOut "" "") := by
  have active : schedule.Active bar round := by
    have := opened_lt_close inBar
    exact ⟨by omega, by omega⟩
  have name := numbered.activeMaterialId_eq inBar active
  obtain ⟨named, found⟩ := numbered.current bar inBar active
  obtain ⟨flow, found⟩ := Option.isSome_iff_exists.mp found
  have isFlow := numbered.isFlow_of_find found
  have generation := isFlow.generation
  have marked : ({ router with continuousRound := round + 1 } : CameraRouter).steelOut "" "" =
      { router with
        continuousRound := round + 1
        activeMaterialId := ""
        activeSessionId := ""
        flows := router.flows.update (bar + 1) fun flow =>
          { flow with
            closeRequested := true
            closeRequestedRound := round + 1
            closeReason := "steel-out-or-reset" } } := by
    simp [CameraRouter.steelOut, CameraRouter.requestCameraMaterialFlowClose, CameraRouter.flow?,
      CameraRouter.markCloseRequested, name, (schedule.named bar inBar).1, named, found, generation]
  rw [marked]
  refine ⟨rfl, ?_, ?_, ?_, ?_, ?_⟩
  · intro other inOther
    have quiet := quiet_of_closing inBar inOther closing
    have before := numbered.routeGeneration other inOther
    rw [← before]
    omega
  · exact .inr ⟨fun other inOther => (quiet_of_closing inBar inOther closing).2.1, rfl⟩
  · intro other changed foundChanged
    rw [Table.find?_update] at foundChanged
    split at foundChanged
    · -- The flow of the bar, now with its request.
      rename_i same
      subst same
      rw [found, Option.map_some, Option.some.injEq] at foundChanged
      subst foundChanged
      exact ⟨bar, isFlow.inBars, isFlow.generation, Nat.le_succ_of_le isFlow.opened,
        isFlow.materialId, isFlow.closed, by simp [closing], fun _ => closing.symm⟩
    next different =>
      obtain ⟨owner, isOther⟩ := numbered.flows other changed foundChanged
      have key : changed.generation = other := Table.find?_key foundChanged
      have notMine : owner ≠ bar := by
        rintro rfl
        exact different (key.symm.trans isOther.generation)
      exact ⟨owner, isOther.succ ((quiet_of_closing inBar isOther.inBars closing).2.2 notMine)⟩
  · grind [numbered.flowById]
  · exact fun other inOther active => absurd active (quiet_of_closing inBar inOther closing).2.1

theorem Numbered.open (opening : schedule.openedAt bar = round + 1) : schedule.Numbered (round + 1)
      (({ router with continuousRound := round + 1 } : CameraRouter).steelIn
        (schedule.materialId bar) (schedule.sessionId bar) (schedule.flowCode bar)) := by
  have empty : router.activeMaterialId = "" := by
    rcases numbered.activeMaterialId with ⟨other, inOther, active, -⟩ | ⟨-, empty⟩
    · exact absurd active (alone_of_opening inBar inOther opening).2.1
    · exact empty
  have unknown : router.flowById (schedule.materialId bar) = none := by
    rw [Option.eq_none_iff_forall_not_mem]
    intro generation found
    obtain ⟨other, inOther, opened, same, -⟩ := numbered.flowById _ generation found
    have mine := schedule.distinct bar inBar other inOther same
    subst mine
    omega
  have counted : router.routeGeneration = bar := by
    have here := numbered.routeGeneration bar inBar
    rcases Nat.eq_zero_or_pos bar with none | some
    · omega
    · have below := numbered.routeGeneration (bar - 1) (by omega)
      have earlier := (alone_of_opening inBar (show bar - 1 < schedule.bars by omega)
        opening).2.2.2.2
      omega
  have registered : ({ router with continuousRound := round + 1 } : CameraRouter).steelIn
      (schedule.materialId bar) (schedule.sessionId bar) (schedule.flowCode bar) =
        { router with
          continuousRound := round + 1
          activeMaterialId := schedule.materialId bar
          activeSessionId := schedule.sessionId bar
          routeGeneration := bar + 1
          flows := router.flows.put
            { generation := bar + 1
              materialId := schedule.materialId bar
              sessionId := schedule.sessionId bar
              productionEventId := schedule.flowCode bar }
          flowById := Function.update router.flowById (schedule.materialId bar) (some (bar + 1)) } := by
    simp [CameraRouter.steelIn, CameraRouter.openCameraMaterialFlow, CameraRouter.register, empty,
      (schedule.named bar inBar).1, (schedule.named bar inBar).2, unknown, counted]
  rw [registered]
  have long := opened_lt_close inBar
  refine ⟨rfl, ?_, ?_, ?_, ?_, ?_⟩
  · exact fun other inOther => (alone_of_opening inBar inOther opening).2.2.2.1
  · exact .inl ⟨bar, inBar, ⟨by omega, by omega⟩, rfl⟩
  · intro other flow found
    rw [Table.find?_put] at found
    split at found
    · cases found
      refine ⟨bar, inBar, rfl, by omega, rfl, rfl, ?_, by omega⟩
      rw [eq_comm, decide_eq_false_iff_not]
      omega
    · obtain ⟨owner, isFlow⟩ := numbered.flows other flow found
      exact ⟨owner, isFlow.succ (alone_of_opening inBar isFlow.inBars opening).1⟩
  · grind [numbered.flowById]
  · intro other inOther active
    have mine := (alone_of_opening inBar inOther opening).2.2.1 active
    subst mine
    simp [Table.find?_put]

end

/-- The edges of a round bring the numbering up to that round. -/
theorem Numbered.events (numbered : schedule.Numbered round router) :
    schedule.Numbered (round + 1) ((schedule.events (round + 1)).foldl CameraRouter.steelEvent
      { router with continuousRound := round + 1 }) := by
  have inRange : ∀ {condition : Nat → Bool} {bar : Nat},
      (List.range schedule.bars).find? condition = some bar →
        bar < schedule.bars ∧ condition bar = true := fun found =>
    ⟨List.mem_range.mp (List.mem_of_find?_eq_some found), List.find?_some found⟩
  have notInRange : ∀ {condition : Nat → Bool} {bar : Nat},
      (List.range schedule.bars).find? condition = none → bar < schedule.bars →
        condition bar = false := by
    intro condition bar none inBar
    simpa using List.find?_eq_none.mp none bar (List.mem_range.mpr inBar)
  unfold Schedule.events
  cases closing : schedule.closing? (round + 1) with
  | some bar =>
    obtain ⟨inBar, closes⟩ := inRange closing
    have noOpening : schedule.opening? (round + 1) = none := by
      rw [opening?, List.find?_eq_none]
      intro other inOther
      simpa using (quiet_of_closing inBar (List.mem_range.mp inOther) (of_decide_eq_true closes)).1
    rw [noOpening]
    exact numbered.close inBar (of_decide_eq_true closes)
  | none =>
    cases opening : schedule.opening? (round + 1) with
    | some bar =>
      obtain ⟨inBar, opens⟩ := inRange opening
      exact numbered.open inBar (of_decide_eq_true opens)
    | none =>
      exact numbered.idle
        (fun bar inBar => of_decide_eq_false (notInRange opening inBar))
        (fun bar inBar => of_decide_eq_false (notInRange closing inBar))

end Schedule

end SteelInspection.Capture
