import SteelInspection.Capture.Schedule

/-! # Every frame goes to the flow of its bar

A camera gets the frames of a bar into the right flow when its run of the bar meets the rounds in
which the flow takes new segments: the run is still going on when the flow is opened, and it has
begun before the flow is asked to close.  A camera whose runs all do so loses nothing.
-/

namespace SteelInspection.Capture

open Foundations CameraMaterialRouteState

namespace Schedule

variable {schedule : Schedule} {camera : String} {flow : CameraMaterialFlow}

/-- The camera's run of the bar meets the rounds in which the flow of the bar takes segments. -/
def Meets (schedule : Schedule) (camera : String) (bar : Nat) : Prop :=
  schedule.first camera bar < schedule.closeRequestedAt bar ∧
    schedule.openedAt bar ≤ schedule.last camera bar

instance (bar : Nat) : Decidable (schedule.Meets camera bar) :=
  inferInstanceAs (Decidable (_ ∧ _))

/-! ## The flows a round can use -/

section Flows

variable {round : Nat} {router : CameraRouter}

section

variable (numbered : schedule.Numbered round router)
include numbered

theorem Numbered.find_zero : router.flows.find? 0 = none := by
  rw [Option.eq_none_iff_forall_not_mem]
  intro flow found
  obtain ⟨bar, isFlow⟩ := numbered.flows 0 flow found
  have key : flow.generation = 0 := Table.find?_key found
  have := isFlow.generation
  omega

theorem Numbered.activeFlow_inv (active : router.activeFlow = some flow) :
    ∃ bar, schedule.IsFlow round bar flow ∧ schedule.Active bar round := by
  simp only [CameraRouter.activeFlow, Option.filter_eq_some_iff] at active
  obtain ⟨found, usable⟩ := active
  obtain ⟨bar, isFlow⟩ := numbered.flows _ flow found
  refine ⟨bar, isFlow, isFlow.opened, ?_⟩
  rw [isFlow.closed, isFlow.closeRequested] at usable
  simpa using usable

theorem Numbered.activeFlow_of_active {bar : Nat} (inBar : bar < schedule.bars)
    (active : schedule.Active bar round) :
    ∃ flow, router.activeFlow = some flow ∧ schedule.IsFlow round bar flow ∧
      router.flows.find? (bar + 1) = some flow := by
  obtain ⟨named, found⟩ := numbered.current bar inBar active
  obtain ⟨flow, found⟩ := Option.isSome_iff_exists.mp found
  have isFlow := numbered.isFlow_of_find found
  have notYet : ¬schedule.closeRequestedAt bar ≤ round := Nat.not_le.mpr active.2
  refine ⟨flow, ?_, isFlow, found⟩
  simp [CameraRouter.activeFlow, CameraRouter.flow?, numbered.activeMaterialId_eq inBar active, named,
    found, Option.filter, isFlow.closed, isFlow.closeRequested, notYet]

end

end Flows

/-! ## Where a camera stands -/

def rows (schedule : Schedule) (camera : String) (rounds : List Nat) : List Row :=
  rounds.map (schedule.row camera)

def shots (schedule : Schedule) (camera : String) (bar round : Nat) : List Nat :=
  List.range' (schedule.first camera bar) (round + 1 - schedule.first camera bar)

theorem rows_shots_succ {bar round : Nat} (starts : schedule.first camera bar ≤ round + 1) :
    schedule.rows camera (schedule.shots camera bar (round + 1)) =
      schedule.rows camera (schedule.shots camera bar round) ++ [schedule.row camera (round + 1)] := by
  have length : round + 1 + 1 - schedule.first camera bar =
      round + 1 - schedule.first camera bar + 1 := by omega
  have last : schedule.first camera bar + (round + 1 - schedule.first camera bar) = round + 1 := by
    omega
  rw [shots, length, List.range'_concat, Nat.one_mul, last, rows, rows, List.map_append]
  rfl

/-- A camera in a segment: its owner, the generation it had last and the rows held back. -/
structure InSegment (state : CameraMaterialRouteState) (generation : Option Nat) (last : Nat)
    (rows : List Row) : Prop where
  present : state.localPresent = true
  owner : state.ownerGeneration = generation
  assigned : state.lastAssignedGeneration = last
  held : state.pendingRows = rows
  free : state.pendingSuppressedUntilGap = false

/-- The state of a camera whose runs all meet their flows, after a round. -/
inductive Placed (schedule : Schedule) (camera : String) (round : Nat) (flows : FlowTable)
    (state : CameraMaterialRouteState) : Prop where
  /-- Between two bars. -/
  | between (next : Nat) (inBars : next ≤ schedule.bars)
      (passed : ∀ bar < next, schedule.last camera bar < round)
      (coming : ∀ bar < schedule.bars, next ≤ bar → round < schedule.first camera bar)
      (absent : state.localPresent = false) (nobody : state.ownerGeneration = none)
      (assigned : state.lastAssignedGeneration = next) (nothing : state.pendingRows = [])
      (free : state.pendingSuppressedUntilGap = false)
  /-- In a bar whose flow has no number yet. -/
  | waiting (bar : Nat) (inBar : bar < schedule.bars) (during : schedule.During camera bar round)
      (early : round < schedule.openedAt bar)
      (segment : InSegment state none bar (schedule.rows camera (schedule.shots camera bar round)))
  /-- In a bar whose flow owns the camera's segment. -/
  | owned (bar : Nat) (inBar : bar < schedule.bars) (during : schedule.During camera bar round)
      (opened : schedule.openedAt bar ≤ round) (found : (flows.find? (bar + 1)).isSome)
      (segment : InSegment state (some (bar + 1)) (bar + 1) [])

theorem Placed.initial (enabled : camera ∈ schedule.profile.enabledCameras) (flows : FlowTable) :
    schedule.Placed camera 0 flows {} := by
  refine .between 0 (Nat.zero_le _) (fun bar none => absurd none (Nat.not_lt_zero bar)) ?_ rfl rfl rfl
    rfl rfl
  exact fun bar inBar _ => schedule.counted camera enabled bar inBar

theorem Placed.mono {round : Nat} {flows later : FlowTable} {state : CameraMaterialRouteState}
    (placed : schedule.Placed camera round flows state)
    (stays : ∀ generation, state.ownerGeneration = some generation →
      (flows.find? generation).isSome → (later.find? generation).isSome) :
    schedule.Placed camera round later state := by
  cases placed with
  | between next inBars passed coming absent nobody assigned nothing free =>
    exact .between next inBars passed coming absent nobody assigned nothing free
  | waiting bar inBar during early segment => exact .waiting bar inBar during early segment
  | owned bar inBar during opened found segment =>
    exact .owned bar inBar during opened (stays _ segment.owner found) segment

/-! ## What has been delivered -/

def generationsOf (round : Nat) (assigned : Multiset Assignment) : Multiset Nat :=
  (assigned.filter fun assignment => assignment.2.round = round).map fun assignment => assignment.1.2

theorem generationsOf_add (round : Nat) (one two : Multiset Assignment) :
    generationsOf round (one + two) = generationsOf round one + generationsOf round two := by
  simp [generationsOf]

theorem generationsOf_rows (flow : CameraMaterialFlow) {rounds : List Nat} (nodup : rounds.Nodup)
    (round : Nat) :
    generationsOf round ((schedule.rows camera rounds).map (assign flow) : List Assignment) =
      if round ∈ rounds then {flow.generation} else 0 := by
  induction rounds with
  | nil => simp [rows, generationsOf]
  | cons head rest ih =>
    have tail := ih (List.nodup_cons.mp nodup).2
    have split : ((schedule.rows camera (head :: rest)).map (assign flow) : Multiset Assignment) =
        {assign flow (schedule.row camera head)} +
          ((schedule.rows camera rest).map (assign flow) : List Assignment) := by
      simp [rows]
    rw [split, generationsOf_add, tail]
    have own : (assign flow (schedule.row camera head)).2.round = head := rfl
    have target : (assign flow (schedule.row camera head)).1.2 = flow.generation := rfl
    by_cases here : head = round
    · subst here
      have absent := (List.nodup_cons.mp nodup).1
      simp [generationsOf, Multiset.filter_singleton, own, target, absent]
    · simp [generationsOf, Multiset.filter_singleton, own, here, Ne.symm here]

/-- The flow a frame of the bar has to be in after so many rounds. -/
def delivered (schedule : Schedule) (rounds bar round : Nat) : Multiset Nat :=
  if round ≤ rounds ∧ schedule.openedAt bar ≤ rounds then {bar + 1} else 0

/-- The assignments of a round are just those that were missing. -/
def Advances (schedule : Schedule) (camera : String) (round : Nat) (assigned : List Assignment) :
    Prop :=
  ∀ bar < schedule.bars, ∀ shot, schedule.During camera bar shot →
    generationsOf shot assigned + schedule.delivered round bar shot =
      schedule.delivered (round + 1) bar shot

theorem advances_nothing {round : Nat}
    (complete : ∀ bar < schedule.bars, ∀ shot, schedule.During camera bar shot →
      shot ≤ round + 1 → schedule.openedAt bar ≤ round + 1 →
        shot ≤ round ∧ schedule.openedAt bar ≤ round) : schedule.Advances camera round [] := by
  intro bar inBar shot during
  have same : (shot ≤ round ∧ schedule.openedAt bar ≤ round) ↔
      (shot ≤ round + 1 ∧ schedule.openedAt bar ≤ round + 1) := by
    have := complete bar inBar shot during
    omega
  simp [generationsOf, delivered, same]

/-- Of the frames up to the next round just those of these rounds, all of this bar, are missing. -/
def Missing (schedule : Schedule) (camera : String) (round bar : Nat) (rounds : List Nat) : Prop :=
  ∀ other < schedule.bars, ∀ shot, schedule.During camera other shot →
    (shot ∈ rounds → other = bar) ∧
    (shot ∈ rounds ↔ (shot ≤ round + 1 ∧ schedule.openedAt other ≤ round + 1) ∧
      ¬(shot ≤ round ∧ schedule.openedAt other ≤ round))

theorem Missing.advances {round bar : Nat} {rounds : List Nat}
    (missing : schedule.Missing camera round bar rounds) (generation : flow.generation = bar + 1)
    (nodup : rounds.Nodup) :
    schedule.Advances camera round ((schedule.rows camera rounds).map (assign flow)) := by
  intro other inOther shot during
  obtain ⟨mine, exact'⟩ := missing other inOther shot during
  rw [generationsOf_rows flow nodup]
  unfold delivered
  by_cases present : shot ∈ rounds
  · obtain ⟨now, before⟩ := exact'.mp present
    rw [if_pos present, if_neg before, if_pos now, mine present, generation, add_zero]
  · grind

/-! ## One round of a camera -/

section Step

variable {round : Nat} {router : CameraRouter} {state : CameraMaterialRouteState} {bar : Nat}
  (enabled : camera ∈ schedule.profile.enabledCameras)
  (meets : ∀ bar < schedule.bars, schedule.Meets camera bar)
  (numbered : schedule.Numbered (round + 1) router) (inBar : bar < schedule.bars)
  (during : schedule.During camera bar (round + 1))

abbrev step (schedule : Schedule) (camera : String) (round : Nat) (router : CameraRouter)
    (state : CameraMaterialRouteState) : CameraMaterialRouteState × List Assignment :=
  state.round schedule.profile.bufferRounds router.activeFlow router.flows
    (schedule.row camera (round + 1))

/-- What a round does for a camera that is where it should be. -/
structure RoundDone (schedule : Schedule) (camera : String) (round : Nat) (router : CameraRouter)
    (state : CameraMaterialRouteState) : Prop where
  placed : schedule.Placed camera (round + 1) router.flows
    (schedule.step camera round router state).1
  advances : schedule.Advances camera round (schedule.step camera round router state).2
  spares : state.Spares schedule.profile.bufferRounds router.activeFlow router.flows
    (schedule.row camera (round + 1))

include inBar during in
theorem row_lit : (schedule.row camera (round + 1)).materialSignal = true :=
  sees_iff.mpr ⟨bar, inBar, during⟩

theorem step_dark (dark : (schedule.row camera (round + 1)).materialSignal = false) :
    schedule.step camera round router state = (state.gap (schedule.row camera (round + 1)), []) := by
  simp [step, CameraMaterialRouteState.round, dark]

def arrived (schedule : Schedule) (camera : String) (round : Nat) (router : CameraRouter)
    (state : CameraMaterialRouteState) : CameraMaterialRouteState :=
  (arrive router.activeFlow (state.release router.activeFlow).1 (schedule.row camera (round + 1))).1

section

variable (lit : (schedule.row camera (round + 1)).materialSignal = true)
include lit

theorem step_owned {owner : CameraMaterialFlow}
    (owned : (schedule.arrived camera round router state).owner router.flows = some owner) :
    schedule.step camera round router state = (schedule.arrived camera round router state,
      (state.release router.activeFlow).2 ++ [assign owner (schedule.row camera (round + 1))]) := by
  unfold arrived at owned
  simp [step, CameraMaterialRouteState.round, take, lit, owned, arrived]

theorem step_unowned
    (unowned : (schedule.arrived camera round router state).owner router.flows = none) :
    schedule.step camera round router state =
      ((schedule.arrived camera round router state).hold schedule.profile.bufferRounds
        (schedule.row camera (round + 1)), (state.release router.activeFlow).2) := by
  unfold arrived at unowned
  simp [step, CameraMaterialRouteState.round, take, lit, unowned, arrived]

end

theorem release_empty (active : Option CameraMaterialFlow) (nothing : state.pendingRows = []) :
    state.release active = (state, []) := by
  cases active with
  | none => rfl
  | some flow => simp [release, releases, nothing]

theorem arrived_present (present : (state.release router.activeFlow).1.localPresent = true) :
    schedule.arrived camera round router state =
      { (state.release router.activeFlow).1 with lastSignalRound := round + 1 } := by
  simp only [arrived, arrive, present, if_true]
  rfl

section

include numbered inBar

/-- As long as a bar's flow has no number, the active flow is that of an earlier bar. -/
theorem Numbered.not_newer (early : round + 1 < schedule.openedAt bar)
    (usable : router.activeFlow = some flow) : ¬bar < flow.generation := by
  obtain ⟨other, isFlow, opened, -⟩ := numbered.activeFlow_inv usable
  rw [isFlow.generation]
  intro newer
  rcases Nat.lt_or_eq_of_le (Nat.le_of_lt_succ newer) with later | rfl
  · have := close_lt_opened later isFlow.inBars
    have := opened_lt_close inBar
    omega
  · omega

include during

/-- A frame of a bar whose flow has its number, with what was held back until then. -/
theorem roundDone_assigned (opened : schedule.openedAt bar ≤ round + 1)
    (found : router.flows.find? (bar + 1) = some flow) (rounds : List Nat)
    (released : (state.release router.activeFlow).2 = (schedule.rows camera rounds).map (assign flow))
    (segment : InSegment (schedule.arrived camera round router state) (some (bar + 1)) (bar + 1) [])
    (nodup : (rounds ++ [round + 1]).Nodup)
    (missing : schedule.Missing camera round bar (rounds ++ [round + 1])) :
    schedule.RoundDone camera round router state := by
  have lit := row_lit inBar during
  have isFlow := numbered.isFlow_of_find found
  have owned : (schedule.arrived camera round router state).owner router.flows = some flow := by
    simp [CameraMaterialRouteState.owner, segment.owner, found, Option.filter, isFlow.closed]
  have result := step_owned lit owned
  have rowsOut : (schedule.rows camera rounds).map (assign flow) ++
      [assign flow (schedule.row camera (round + 1))] =
        (schedule.rows camera (rounds ++ [round + 1])).map (assign flow) := by
    simp [rows]
  refine ⟨?_, ?_, ?_⟩
  · rw [result]
    exact .owned bar inBar during opened (by rw [found]; rfl) segment
  · rw [result, released, rowsOut]
    exact missing.advances isFlow.generation nodup
  · simp only [Spares, lit, if_true]
    intro unowned
    cases owned.symm.trans unowned

include enabled meets

theorem roundDone_held (early : round + 1 < schedule.openedAt bar)
    (kept : (state.release router.activeFlow).2 = [])
    (segment : InSegment (schedule.arrived camera round router state) none bar
      (schedule.rows camera (schedule.shots camera bar round))) :
    schedule.RoundDone camera round router state := by
  obtain ⟨present, nobody, assigned, held, free⟩ := segment
  obtain ⟨starts, ends⟩ := during
  have lit := row_lit inBar ⟨starts, ends⟩
  have unowned : (schedule.arrived camera round router state).owner router.flows = none := by
    simp [CameraMaterialRouteState.owner, nobody, numbered.find_zero]
  have room : (schedule.arrived camera round router state).pendingRows.length <
      schedule.profile.bufferRounds := by
    have := schedule.leading camera enabled bar inBar
    have opened : schedule.openedAt bar = schedule.first schedule.reference bar := rfl
    rw [held, rows, shots, List.length_map, List.length_range']
    omega
  have result := step_unowned lit unowned
  refine ⟨?_, ?_, ?_⟩
  · rw [result]
    have notFull : ¬schedule.profile.bufferRounds <
        (schedule.arrived camera round router state).pendingRows.length + 1 := by omega
    simp only [hold, free, Bool.false_eq_true, if_false, notFull]
    refine .waiting bar inBar ⟨starts, ends⟩ early ⟨present, nobody, assigned, ?_, rfl⟩
    rw [rows_shots_succ starts, held]
  · rw [result, kept]
    apply advances_nothing
    intro other inOther shot shown recent opened
    cases shown
    have := (meets other inOther).2
    rcases bars_apart enabled inBar inOther with _ | rfl | _ <;> omega
  · simp only [Spares, lit, if_true]
    exact fun _ => room

omit numbered

/-- The frame of this round is all that is missing of the bar. -/
theorem missing_single (opened : schedule.openedAt bar ≤ round + 1)
    (upToDate : schedule.openedAt bar ≤ round ∨ schedule.first camera bar = round + 1) :
    schedule.Missing camera round bar ([] ++ [round + 1]) := by
  intro other inOther shot shown
  obtain ⟨starts, ends⟩ := during
  cases shown
  have := (meets other inOther).2
  simp only [List.nil_append, List.mem_singleton]
  rcases bars_apart enabled inBar inOther with _ | rfl | _ <;> omega

/-- In the round in which the flow gets its number the whole run up to now is missing. -/
theorem missing_all (opens : schedule.openedAt bar = round + 1) :
    schedule.Missing camera round bar (schedule.shots camera bar round ++ [round + 1]) := by
  intro other inOther shot shown
  obtain ⟨starts, ends⟩ := during
  cases shown
  have := (meets other inOther).2
  simp only [shots, List.mem_append, List.mem_range'_1, List.mem_singleton]
  rcases bars_apart enabled inBar inOther with _ | rfl | _ <;> omega

include numbered

theorem roundDone_owned (opened : schedule.openedAt bar ≤ round)
    (found : (router.flows.find? (bar + 1)).isSome)
    (segment : InSegment state (some (bar + 1)) (bar + 1) []) :
    schedule.RoundDone camera round router state := by
  obtain ⟨present, owner, assigned, nothing, free⟩ := segment
  obtain ⟨flow, found⟩ := Option.isSome_iff_exists.mp found
  have kept := release_empty router.activeFlow nothing
  refine roundDone_assigned numbered inBar during (Nat.le_succ_of_le opened) found []
    (by rw [kept]; rfl) ?_ (by simp)
    (missing_single enabled meets inBar during (Nat.le_succ_of_le opened) (.inl opened))
  rw [arrived_present (by rw [kept]; exact present), kept]
  exact ⟨present, owner, assigned, nothing, free⟩

end

include meets

theorem roundDone_dark (next : Nat) (inBars : next ≤ schedule.bars)
    (passed : ∀ bar < next, schedule.last camera bar < round + 1)
    (coming : ∀ bar < schedule.bars, next ≤ bar → round + 1 < schedule.first camera bar)
    (assigned : state.lastAssignedGeneration = next) (nothing : state.pendingRows = []) :
    schedule.RoundDone camera round router state := by
  have away : ∀ bar < schedule.bars,
      schedule.last camera bar < round + 1 ∨ round + 1 < schedule.first camera bar := by
    intro bar inBar
    rcases Nat.lt_or_ge bar next with before | later
    · exact .inl (passed bar before)
    · exact .inr (coming bar inBar later)
  have dark : (schedule.row camera (round + 1)).materialSignal = false := by
    rw [← Bool.not_eq_true]
    intro seen
    obtain ⟨bar, inBar, starts, ends⟩ := sees_iff.mp seen
    have := away bar inBar
    omega
  refine ⟨?_, ?_, ?_⟩
  · rw [step_dark dark]
    exact .between next inBars passed coming rfl rfl assigned rfl rfl
  · rw [step_dark dark]
    apply advances_nothing
    intro bar inBar shot during recent opened
    obtain ⟨starts, ends⟩ := during
    -- a run with a frame up to now is over, and its flow was open before it was
    have := (meets bar inBar).2
    have := away bar inBar
    omega
  · simp [Spares, dark, nothing]

include enabled numbered

section

include inBar

theorem roundDone_enter (head : schedule.first camera bar = round + 1)
    (absent : state.localPresent = false) (assigned : state.lastAssignedGeneration = bar)
    (nothing : state.pendingRows = []) (free : state.pendingSuppressedUntilGap = false) :
    schedule.RoundDone camera round router state := by
  have during : schedule.During camera bar (round + 1) :=
    ⟨Nat.le_of_eq head, head ▸ schedule.seen camera enabled bar inBar⟩
  have kept := release_empty router.activeFlow nothing
  have entering : schedule.arrived camera round router state =
      ({ state with lastSignalRound := round + 1 } : CameraMaterialRouteState).enter
        router.activeFlow := by
    simp only [arrived, arrive, kept, absent, Bool.false_eq_true, if_false]
    rfl
  by_cases opened : schedule.openedAt bar ≤ round + 1
  · have active : schedule.Active bar (round + 1) := ⟨opened, head ▸ (meets bar inBar).1⟩
    obtain ⟨flow, usable, isFlow, found⟩ := numbered.activeFlow_of_active inBar active
    refine roundDone_assigned numbered inBar during opened found [] (by rw [kept]; rfl) ?_ (by simp)
      (missing_single enabled meets inBar during opened (.inr head))
    rw [entering, usable]
    simp only [enter, assigned, isFlow.generation, Nat.lt_succ_self, if_true]
    exact ⟨rfl, rfl, rfl, nothing, free⟩
  · have early : round + 1 < schedule.openedAt bar := Nat.lt_of_not_le opened
    have entered : schedule.arrived camera round router state = { state with
          lastSignalRound := round + 1, localPresent := true, ownerGeneration := none } := by
      rw [entering]
      cases usable : router.activeFlow with
      | none => rfl
      | some flow =>
        simp [enter, assigned, numbered.not_newer inBar early usable]
    refine roundDone_held enabled meets numbered inBar during early (by rw [kept]) ?_
    rw [entered, shots, head, Nat.sub_self]
    exact ⟨rfl, rfl, assigned, nothing, free⟩

theorem roundDone_waiting (during : schedule.During camera bar round)
    (early : round < schedule.openedAt bar)
    (segment : InSegment state none bar (schedule.rows camera (schedule.shots camera bar round))) :
    schedule.RoundDone camera round router state := by
  obtain ⟨present, nobody, assigned, held, free⟩ := segment
  obtain ⟨starts, ends⟩ := during
  have stays := (meets bar inBar).2
  have during : schedule.During camera bar (round + 1) := ⟨by omega, by omega⟩
  by_cases opens : schedule.openedAt bar = round + 1
  · have active : schedule.Active bar (round + 1) :=
      ⟨Nat.le_of_eq opens, opens ▸ opened_lt_close inBar⟩
    obtain ⟨flow, usable, isFlow, found⟩ := numbered.activeFlow_of_active inBar active
    have some' : state.pendingRows ≠ [] := by
      intro nothing
      have length := congrArg List.length (held.symm.trans nothing)
      rw [rows, shots, List.length_map, List.length_range', List.length_nil] at length
      omega
    have released : state.release router.activeFlow = ({ state with
            pendingRows := []
            lastAssignedGeneration := bar + 1
            pendingSuppressedUntilGap := false
            ownerGeneration := some (bar + 1) },
          state.pendingRows.map (assign flow)) := by
      simp [usable, release, releases, some',
        present, assigned, isFlow.generation]
    refine roundDone_assigned numbered inBar during (Nat.le_of_eq opens) found
      (schedule.shots camera bar round) (by rw [released, held]) ?_ ?_
      (missing_all enabled meets inBar during opens)
    · rw [arrived_present (by rw [released]; exact present), released]
      exact ⟨present, rfl, rfl, rfl, rfl⟩
    rw [List.nodup_append]
    refine ⟨List.nodup_range', List.nodup_singleton _, ?_⟩
    intro shot before other last same
    rw [shots, List.mem_range'_1] at before
    rw [List.mem_singleton] at last
    omega
  · have kept : state.release router.activeFlow = (state, []) := by
      cases usable : router.activeFlow with
      | none => rfl
      | some flow =>
        simp [release, releases, assigned,
          numbered.not_newer inBar (by omega) usable]
    refine roundDone_held enabled meets numbered inBar during (by omega) (by rw [kept]) ?_
    rw [arrived_present (by rw [kept]; exact present), kept]
    exact ⟨present, nobody, assigned, held, free⟩

end

/-- A camera that is where it should be is there after the next round. -/
theorem Placed.roundDone (placed : schedule.Placed camera round router.flows state) :
    schedule.RoundDone camera round router state := by
  cases placed with
  | between next inBars passed coming absent nobody assigned nothing free =>
    by_cases enters : next < schedule.bars ∧ schedule.first camera next = round + 1
    · exact roundDone_enter enabled meets numbered enters.1 enters.2 absent assigned nothing free
    refine roundDone_dark meets next inBars
      (fun bar before => Nat.lt_succ_of_lt (passed bar before)) ?_ assigned nothing
    intro bar inBar later
    have here := coming bar inBar later
    rcases Nat.eq_or_lt_of_le later with rfl | after
    · omega
    · have := first_after_last enabled after inBar
      have := schedule.seen camera enabled next (by omega)
      have := coming next (by omega) (Nat.le_refl next)
      omega
  | waiting bar inBar during early segment =>
    exact roundDone_waiting enabled meets numbered inBar during early segment
  | owned bar inBar during opened found segment =>
    by_cases stays : round + 1 ≤ schedule.last camera bar
    · exact roundDone_owned enabled meets numbered inBar ⟨Nat.le_succ_of_le during.1, stays⟩ opened
        found segment
    refine roundDone_dark meets (bar + 1) inBar ?_ ?_ segment.assigned segment.held
    · intro other before
      rcases Nat.eq_or_lt_of_le (Nat.le_of_lt_succ before) with rfl | earlier
      · omega
      · have := first_after_last enabled earlier inBar
        have := during.1
        omega
    · intro other inOther after
      have := first_after_last enabled after inOther
      have := during.2
      omega

end Step

/-! ## The close pass -/

section Closing

theorem finished_of_had {state : CameraMaterialRouteState} {bar : Nat}
    (generation : flow.generation = bar + 1) (had : bar < state.lastAssignedGeneration)
    (notOwner : state.ownerGeneration ≠ some (bar + 1)) : state.unfinished flow = false := by
  simp only [unfinished, generation, notOwner, decide_false, Bool.false_or,
    decide_eq_false_iff_not]
  omega

variable {round : Nat} {router : CameraRouter}
  (enabled : camera ∈ schedule.profile.enabledCameras) (numbered : schedule.Numbered round router)
include enabled numbered

/-- When the timeout of a flow comes, its bar has left every camera. -/
theorem overdue_passed (mem : flow ∈ router.flows.rows)
    (overdue : flow.Overdue schedule.profile round) :
    ∃ bar, schedule.IsFlow round bar flow ∧ schedule.last camera bar < round := by
  obtain ⟨bar, isFlow⟩ := numbered.flows _ flow (Table.mem_rows_iff.mp mem)
  obtain ⟨requested, late⟩ := overdue
  rw [isFlow.closeRequested, decide_eq_true_eq] at requested
  rw [isFlow.closeRequestedRound requested] at late
  have leaves := schedule.lagging camera enabled bar isFlow.inBars
  have close : schedule.closeRequestedAt bar = schedule.last schedule.reference bar + 1 := rfl
  exact ⟨bar, isFlow, by omega⟩

variable (placed : schedule.Placed camera round router.flows (router.routeStates camera))
include placed

/-- A camera that is where it should be is done with every flow whose timeout comes. -/
theorem Placed.finished : ∀ flow ∈ router.flows.rows, flow.Overdue schedule.profile round →
      (router.routeStates camera).unfinished flow = false := by
  intro flow mem overdue
  obtain ⟨bar, isFlow, left⟩ := overdue_passed enabled numbered mem overdue
  have long := schedule.seen camera enabled bar isFlow.inBars
  have before : ∀ now < schedule.bars, schedule.During camera now round → bar < now := by
    intro now inNow during
    obtain ⟨starts, ends⟩ := during
    by_contra later
    rcases Nat.eq_or_lt_of_le (Nat.le_of_not_lt later) with rfl | after
    · omega
    · have := first_after_last enabled after isFlow.inBars
      omega
  cases placed with
  | between next inBars passed coming absent nobody assigned nothing free =>
    grind [finished_of_had, isFlow.inBars, isFlow.generation]
  | waiting now inBar during early segment =>
    exact finished_of_had isFlow.generation (segment.assigned ▸ before now inBar during)
      (by simp [segment.owner])
  | owned now inBar during opened found segment =>
    have had := before now inBar during
    refine finished_of_had isFlow.generation (by rw [segment.assigned]; omega) ?_
    simp only [segment.owner, ne_eq, Option.some.injEq]
    omega

/-- The close pass takes nothing from a camera that is where it should be. -/
theorem Placed.finalize {pending : String → Nat} : schedule.Placed camera round
      (finalizeCameraMaterialFlows schedule.profile pending round router).flows
      ((finalizeCameraMaterialFlows schedule.profile pending round router).routeStates camera) := by
  have done := placed.finished enabled numbered
  have same : (finalizeCameraMaterialFlows schedule.profile pending round router).routeStates camera =
      router.routeStates camera := by
    refine finalize_state (· = router.routeStates camera) rfl ?_
    intro state flow mem overdue unfinished equal
    rw [equal, done flow mem overdue] at unfinished
    cases unfinished
  rw [same]
  apply placed.mono
  intro generation owner found
  cases placed with
  | between _ _ _ _ _ nobody => cases nobody.symm.trans owner
  | waiting _ _ _ _ segment => cases segment.owner.symm.trans owner
  | owned bar inBar during opened _ segment =>
    have mine := segment.owner
    obtain rfl : bar + 1 = generation := Option.some.inj (mine.symm.trans owner)
    obtain ⟨flow, found⟩ := Option.isSome_iff_exists.mp found
    have isFlow := numbered.isFlow_of_find found
    have busy : router.Busy schedule.profile round flow camera := by
      refine ⟨enabled, ?_, ?_, done⟩
      · simp [unfinished, mine, isFlow.generation]
      intro overdue
      obtain ⟨other, isOther, left⟩ :=
        overdue_passed enabled numbered (List.mem_of_find?_eq_some found) overdue
      have := isFlow.generation
      have := isOther.generation
      obtain rfl : other = bar := by omega
      have := during.2
      omega
    have retains : router.Retains flow
        (finalizeCameraMaterialFlows schedule.profile pending round router) :=
      finalize_retains (by rw [isFlow.generation]; exact found) fun _ => ⟨camera, busy⟩
    obtain ⟨now, foundNow, -⟩ := retains.found
    rw [isFlow.generation] at foundNow
    rw [foundNow]
    rfl

end Closing

/-! ## Whole runs -/

section Run

variable {pending : Nat → String → Nat} (round : Nat)

theorem results_nodup : ((schedule.results round).map Row.cameraKey).Nodup := by
  have keys : (schedule.results round).map Row.cameraKey = schedule.profile.enabledCameras := by
    rw [results, List.map_map]
    exact List.map_id _
  rw [keys]
  exact schedule.profile.distinct

def edges (schedule : Schedule) (pending : Nat → String → Nat) (round : Nat) : CameraRouter :=
  (schedule.events (round + 1)).foldl CameraRouter.steelEvent
    { (schedule.after pending round).router with
      continuousRound := (schedule.after pending round).router.continuousRound + 1 }

def routed (schedule : Schedule) (pending : Nat → String → Nat) (round : Nat) :
    List Batch × CameraRouter :=
  routeCameraMaterialRound schedule.profile (schedule.results (round + 1))
    (schedule.edges pending round)

theorem after_succ : schedule.after pending (round + 1) =
      { router := finalizeCameraMaterialFlows schedule.profile (pending (round + 1))
          (schedule.edges pending round).continuousRound (schedule.routed pending round).2
        batches := (schedule.after pending round).batches ++ (schedule.routed pending round).1 } :=
  rfl

theorem opens_edges : (schedule.after pending round).router.Opens (schedule.edges pending round) :=
  foldl_invariant (schedule.after pending round).router.Opens
    (fun _ event opens => opens.trans (.steelEvent event)) _ ⟨rfl, rfl, fun _ found => found⟩

variable (schedule pending)

theorem numbered_edges_of {round : Nat}
    (known : schedule.Numbered round (schedule.after pending round).router ∧
      (schedule.after pending round).router.OwnRows) :
    schedule.Numbered (round + 1) (schedule.edges pending round) ∧
      (schedule.edges pending round).OwnRows := by
  obtain ⟨numbered, own⟩ := known
  refine ⟨?_, fun key => ?_⟩
  · rw [edges, numbered.continuousRound]
    exact numbered.events
  · rw [(opens_edges round).routeStates]
    exact own key

theorem numbered_after : schedule.Numbered round (schedule.after pending round).router ∧
      (schedule.after pending round).router.OwnRows := by
  induction round with
  | zero => exact ⟨.initial, nofun⟩
  | succ round ih =>
    obtain ⟨edged, own⟩ := numbered_edges_of schedule pending ih
    have swept : Swept (schedule.edges pending round) (schedule.routed pending round).2 :=
      swept_route own
    rw [after_succ]
    refine ⟨?_, fun key => by rw [finalize_pendingRows]; exact swept.own key⟩
    rw [← swept.flows.continuousRound]
    exact (edged.congr swept.flows).finalize

theorem numbered_edges : schedule.Numbered (round + 1) (schedule.edges pending round) ∧
      (schedule.edges pending round).OwnRows :=
  numbered_edges_of schedule pending (numbered_after schedule pending round)

variable {schedule pending}

theorem assignments_append (key : String) (first second : List Batch) :
    assignments key (first ++ second) = assignments key second + assignments key first := by
  simp [assignments, Group.entries, ← Multiset.coe_add, add_comm]

/-- Every batch belongs to the flow of a bar. -/
theorem batch_after : ∀ batch ∈ (schedule.after pending round).batches, ∃ bar < schedule.bars,
      batch.key.2 = bar + 1 ∧ batch.header.1.materialId = schedule.materialId bar := by
  induction round with
  | zero => exact nofun
  | succ round ih =>
    intro batch mem
    rcases List.mem_append.mp mem with old | new
    · exact ih batch old
    obtain ⟨numbered, own⟩ := numbered_edges schedule pending round
    have proper := proper_route own batch new
    obtain ⟨bar, isFlow⟩ := numbered.flows _ _ proper.header
    have key : batch.header.1.generation = batch.key.2 := Table.find?_key proper.header
    exact ⟨bar, isFlow.inBars, key ▸ isFlow.generation, isFlow.materialId⟩

theorem generationsOf_batches (camera : String) (shot : Nat) (batches : List Batch) :
    generationsOf shot (assignments camera batches) =
      (batches.flatMap fun batch =>
        (batch.items.filter fun row => row.cameraKey = camera && row.round = shot).map fun _ =>
          batch.key.2 : List Nat) := by
  simp only [generationsOf, assignments, Group.entries, Multiset.filter_coe, Multiset.map_coe,
    List.filter_flatMap, List.map_flatMap, List.filter_filter, List.filter_map, List.map_map,
    Function.comp_def, Bool.and_comm]

/-- The flows of a frame, read off the generations. -/
theorem flowsOf_after (schedule : Schedule) (pending : Nat → String → Nat) (camera : String)
    (round shot : Nat) :
    ((schedule.after pending round).flowsOf camera shot : Multiset String) =
      (generationsOf shot (assignments camera (schedule.after pending round).batches)).map fun
        generation => schedule.materialId (generation - 1) := by
  rw [generationsOf_batches, Multiset.map_coe, Record.flowsOf, List.map_flatMap]
  congr 1
  apply List.flatMap_congr
  intro batch mem
  obtain ⟨bar, -, key, named⟩ := batch_after round batch mem
  simp [key, named]

section

variable (pending) (enabled : camera ∈ schedule.profile.enabledCameras)
include pending enabled

theorem routed_camera (round : Nat) : (schedule.routed pending round).2.routeStates camera =
      (schedule.step camera round (schedule.edges pending round)
        ((schedule.after pending round).router.routeStates camera)).1 ∧
    assignments camera (schedule.routed pending round).1 =
      (schedule.step camera round (schedule.edges pending round)
        ((schedule.after pending round).router.routeStates camera)).2 := by
  rw [← (opens_edges round).routeStates]
  have view := route_camera (numbered_edges schedule pending round).2 (results_nodup (round + 1))
    (List.mem_map_of_mem enabled) rfl enabled
  have assigned := congrArg Prod.snd view
  dsimp only [CameraView.after] at assigned
  rw [add_zero] at assigned
  exact ⟨congrArg Prod.fst view, assigned⟩

/-- A camera whose runs all meet their flows is always where it should be. -/
theorem camera_after (meets : ∀ bar < schedule.bars, schedule.Meets camera bar) (round : Nat) :
    schedule.Placed camera round (schedule.after pending round).router.flows
        ((schedule.after pending round).router.routeStates camera) ∧
      ∀ bar < schedule.bars, ∀ shot, schedule.During camera bar shot →
        generationsOf shot (assignments camera (schedule.after pending round).batches) =
          schedule.delivered round bar shot := by
  induction round with
  | zero =>
    refine ⟨.initial enabled _, ?_⟩
    intro bar inBar shot _
    rw [delivered, if_neg fun opened => Nat.not_le.mpr (opened_pos inBar) opened.2]
    rfl
  | succ round ih =>
    obtain ⟨placed, deliveries⟩ := ih
    obtain ⟨numbered, own⟩ := numbered_edges schedule pending round
    have swept : Swept _ (schedule.routed pending round).2 := swept_route own
    have done := (placed.mono fun generation _ => (opens_edges round).flows generation).roundDone
      enabled meets numbered
    obtain ⟨state, assigned⟩ := routed_camera pending enabled round
    rw [after_succ]
    refine ⟨?_, ?_⟩
    · have here : schedule.Placed camera (round + 1) (schedule.routed pending round).2.flows
          ((schedule.routed pending round).2.routeStates camera) := by
        rw [state, swept.flows.flows]
        exact done.placed
      rw [numbered.continuousRound]
      exact here.finalize enabled (numbered.congr swept.flows)
    · intro bar inBar shot during
      rw [assignments_append, generationsOf_add, assigned, deliveries bar inBar shot during]
      exact done.advances bar inBar shot during

/-- A camera whose runs all meet their flows has every frame in the flow of its bar, once. -/
theorem flowsOf_of_meets (meets : ∀ bar < schedule.bars, schedule.Meets camera bar)
    {rounds bar shot : Nat} (inBar : bar < schedule.bars) (opened : schedule.openedAt bar ≤ rounds)
    (taken : shot ≤ rounds) (during : schedule.During camera bar shot) :
    (schedule.after pending rounds).flowsOf camera shot = [schedule.materialId bar] := by
  have deliveries := (camera_after pending enabled meets rounds).2 bar inBar shot during
  have flows := flowsOf_after schedule pending camera rounds shot
  rw [deliveries, delivered, if_pos ⟨taken, opened⟩, Multiset.map_singleton, Nat.add_sub_cancel] at flows
  exact Multiset.coe_eq_singleton.mp flows

end

/-- With cameras whose runs all meet their flows no frame is ever thrown away. -/
theorem discardedFrames_after
    (meets : ∀ camera ∈ schedule.profile.enabledCameras, ∀ bar < schedule.bars,
      schedule.Meets camera bar) (round : Nat) :
    (schedule.after pending round).router.discardedFrames = 0 := by
  induction round with
  | zero => rfl
  | succ round ih =>
    obtain ⟨numbered, own⟩ := numbered_edges schedule pending round
    have kept : (schedule.routed pending round).2.discardedFrames =
        (schedule.edges pending round).discardedFrames := by
      apply route_discardedFrames own (results_nodup (round + 1))
      · intro row mem _ _
        obtain ⟨camera, enabled, rfl⟩ := List.mem_map.mp mem
        have placed := (camera_after pending enabled (meets camera enabled) round).1
        have done := (placed.mono fun generation _ =>
          (opens_edges round).flows generation).roundDone enabled (meets camera enabled) numbered
        change Spares _ _ _ _
          ((schedule.edges pending round).routeStates camera)
        rw [(opens_edges round).routeStates]
        exact done.spares
      · intro row mem
        obtain ⟨camera, enabled, rfl⟩ := List.mem_map.mp mem
        exact enabled
    rw [after_succ]
    rw [(CameraRouter.Closes.finalize _ _ _).discardedFrames, kept, (opens_edges round).discardedFrames]
    exact ih

end Run

/-! ## Bars -/

/-- The routing of a whole production run.  Every camera sees every bar in some round from the
opening of its flow to the request to close it. -/
theorem bars_reach_their_flows (schedule : Schedule)
    (meets : ∀ camera ∈ schedule.profile.enabledCameras, ∀ bar < schedule.bars,
      schedule.Meets camera bar) (pending : Nat → String → Nat) (rounds : Nat) :
    schedule.Delivers pending rounds :=
  ⟨fun _ enabled _ inBar opened _ taken during =>
      flowsOf_of_meets pending enabled (meets _ enabled) inBar opened taken during,
    discardedFrames_after meets rounds⟩

/-- A leading camera, the reference and a lagging camera on two bars. -/
def offsetCameras : Schedule where
  profile := { enabledCameras := ["C1", "C4", "C6"], distinct := by decide }
  reference := "C4"
  reference_enabled := by decide
  bars := 2
  first camera bar :=
    (if camera = "C1" then 2 else if camera = "C4" then 3 else 4) + 5 * bar
  last camera bar :=
    (if camera = "C1" then 4 else if camera = "C4" then 5 else 7) + 5 * bar
  materialId bar := if bar = 0 then "70" else "71"
  sessionId _ := "S"
  flowCode _ := "F"
  frame _ _ := "frame"
  intensity _ _ := 200
  counted := by decide
  seen := by decide
  apart camera enabled bar inBars := by
    obtain rfl : bar = 0 := by omega
    revert camera
    decide
  named := by decide
  distinct := by decide
  leading := by decide
  lagging := by decide

theorem offsetCameras_delivers :
    (∀ camera ∈ offsetCameras.profile.enabledCameras, ∀ bar < offsetCameras.bars,
      offsetCameras.Meets camera bar) ∧ offsetCameras.Delivers (fun _ _ => 0) 14 :=
  ⟨by decide, bars_reach_their_flows offsetCameras (by decide) _ _⟩

/-- The bar has left the leading camera before the reference camera sees it. -/
def earlyCamera : Schedule :=
  { offsetCameras with
    profile := { enabledCameras := ["C1", "C4"], distinct := by decide }
    reference_enabled := by decide
    bars := 1
    first camera _ := if camera = "C1" then 1 else 4
    last camera _ := if camera = "C1" then 2 else 5
    counted := by decide
    seen := by decide
    apart camera enabled bar inBars := by omega
    named := by decide
    distinct := by decide
    leading := by decide
    lagging := by decide }

/-- The lagging camera first sees a bar when the reference camera has left it, and still sees it
when the next flow is opened. -/
def lateCamera : Schedule :=
  { offsetCameras with
    profile := { enabledCameras := ["C4", "C6"], distinct := by decide }
    reference_enabled := by decide
    first camera bar := if camera = "C4" then (if bar = 0 then 1 else 5) else if bar = 0 then 3 else 7
    last camera bar := if camera = "C4" then (if bar = 0 then 2 else 8) else if bar = 0 then 5 else 9
    counted := by decide
    seen := by decide
    apart camera enabled bar inBars := by
      obtain rfl : bar = 0 := Nat.lt_one_iff.mp (Nat.lt_of_add_lt_add_right inBars)
      revert camera
      decide
    leading := by decide
    lagging := by decide }

/-- The frames of the early camera are thrown away, those of the late camera go to the next bar. -/
theorem frames_miss_their_flow :
    (¬earlyCamera.Delivers (fun _ _ => 0) 6 ∧
      (earlyCamera.after (fun _ _ => 0) 6).router.discardedFrames = 2) ∧
    (¬lateCamera.Delivers (fun _ _ => 0) 10 ∧
      (lateCamera.after (fun _ _ => 0) 10).flowsOf "C6" 3 = ["71"]) := by
  have thrown : (earlyCamera.after (fun _ _ => 0) 6).router.discardedFrames = 2 := by
    decide +kernel
  have leaked : (lateCamera.after (fun _ _ => 0) 10).flowsOf "C6" 3 = ["71"] := by
    decide +kernel
  refine ⟨⟨fun delivers => ?_, thrown⟩, ⟨fun delivers => ?_, leaked⟩⟩
  · have none := delivers.2
    cases none
  · have mine := delivers.1 "C6" (by decide) 0 (by decide) (by decide) 3 (by decide) (by decide)
    revert mine
    decide

end Schedule

end SteelInspection.Capture
