import Mathlib.Algebra.Order.Group.Multiset
import SteelInspection.Capture.Routing
import SteelInspection.Foundations.Sweep

/-! # What a routed round means to one camera

The router works on all cameras in three sweeps.  No camera reads what another one left, so the
round is, for a camera that has a frame, a function of its own state, its own row and the flows.
-/

namespace SteelInspection.Capture

open Foundations CameraMaterialRouteState

abbrev Assignment := (Nat × Nat) × Row

def assign (flow : CameraMaterialFlow) (row : Row) : Assignment :=
  (cameraMaterialBatchKey flow row, row.assignedTo flow)

/-! ## The round of one camera -/

namespace CameraMaterialRouteState

def gap (state : CameraMaterialRouteState) (row : Row) : CameraMaterialRouteState :=
  { state with
    localPresent := false
    ownerGeneration := none
    pendingRows := []
    pendingSuppressedUntilGap := false
    lastSignalRound := row.round }

def release (active : Option CameraMaterialFlow) (state : CameraMaterialRouteState) :
    CameraMaterialRouteState × List Assignment :=
  match active with
  | some flow =>
    if state.releases flow (some true) then
      ({ state with
          pendingRows := []
          lastAssignedGeneration := flow.generation
          pendingSuppressedUntilGap := false
          ownerGeneration := some flow.generation },
        state.pendingRows.map (assign flow))
    else (state, [])
  | none => (state, [])

/-- A row without an owner is held back, unless the segment was given up. -/
def hold (limit : Nat) (row : Row) (state : CameraMaterialRouteState) : CameraMaterialRouteState :=
  if state.pendingSuppressedUntilGap then state
  else if limit < state.pendingRows.length + 1 then
    { state with pendingRows := [], pendingSuppressedUntilGap := true }
  else { state with pendingRows := state.pendingRows ++ [row] }

def owner (flows : FlowTable) (state : CameraMaterialRouteState) : Option CameraMaterialFlow :=
  (flows.find? (state.ownerGeneration.getD 0)).filter fun flow => !flow.closed

/-- The row goes to the owner of the segment or is held back. -/
def take (limit : Nat) (active : Option CameraMaterialFlow) (flows : FlowTable) (row : Row)
    (state : CameraMaterialRouteState) : CameraMaterialRouteState × List Assignment :=
  let state := (arrive active state row).1
  match state.owner flows with
  | some owner => (state, [assign owner row])
  | none => (state.hold limit row, [])

def round (limit : Nat) (active : Option CameraMaterialFlow) (flows : FlowTable) (row : Row)
    (state : CameraMaterialRouteState) : CameraMaterialRouteState × List Assignment :=
  if row.materialSignal then
    let (released, rows) := state.release active
    let (next, own) := released.take limit active flows row
    (next, rows ++ own)
  else (state.gap row, [])

def Spares (limit : Nat) (active : Option CameraMaterialFlow) (flows : FlowTable) (row : Row)
    (state : CameraMaterialRouteState) : Prop :=
  if row.materialSignal then
    let arrived := (arrive active (state.release active).1 row).1
    arrived.owner flows = none → arrived.pendingRows.length < limit
  else state.pendingRows = []

end CameraMaterialRouteState

/-! ## Updates of one camera -/

namespace CameraRouter

/-- The routing of a round reads the flows and changes none of them. -/
structure SameFlows (before after : CameraRouter) : Prop where
  continuousRound : after.continuousRound = before.continuousRound
  activeMaterialId : after.activeMaterialId = before.activeMaterialId
  activeSessionId : after.activeSessionId = before.activeSessionId
  routeGeneration : after.routeGeneration = before.routeGeneration
  flows : after.flows = before.flows
  flowById : after.flowById = before.flowById

theorem SameFlows.refl (router : CameraRouter) : SameFlows router router :=
  ⟨rfl, rfl, rfl, rfl, rfl, rfl⟩

variable {before router : CameraRouter} {cameraKey other : String}

theorem SameFlows.trans {after : CameraRouter} (first : SameFlows before router)
    (second : SameFlows router after) : SameFlows before after :=
  ⟨second.1.trans first.1, second.2.trans first.2, second.3.trans first.3, second.4.trans first.4,
    second.5.trans first.5, second.6.trans first.6⟩

def OwnRows (router : CameraRouter) : Prop :=
  ∀ cameraKey, ∀ row ∈ (router.routeStates cameraKey).pendingRows, row.cameraKey = cameraKey

theorem setState_routeStates (change : CameraMaterialRouteState → CameraMaterialRouteState) :
    (router.setState cameraKey change).routeStates other =
      if cameraKey = other then change (router.routeStates other) else router.routeStates other := by
  by_cases same : cameraKey = other
  · simp [setState, same]
  · simp [setState, same, Ne.symm same]

theorem discard_routeStates (reason : String) (suppress : Bool) :
    (router.discardPendingSegment cameraKey reason suppress).routeStates other =
      if cameraKey = other ∧ (router.routeStates other).pendingRows ≠ [] then
        { router.routeStates other with pendingRows := [], pendingSuppressedUntilGap := suppress }
      else router.routeStates other := by
  unfold discardPendingSegment
  extract_lets discarded
  split
  · grind
  · rw [setState_routeStates]
    grind

theorem SameFlows.discard (same : SameFlows before router) (reason : String) (suppress : Bool) :
    SameFlows before (router.discardPendingSegment cameraKey reason suppress) := by
  refine same.trans ?_
  unfold discardPendingSegment
  extract_lets discarded
  split <;> exact ⟨rfl, rfl, rfl, rfl, rfl, rfl⟩

end CameraRouter

/-! ## The three sweeps -/

structure Swept (before router : CameraRouter) : Prop where
  flows : CameraRouter.SameFlows before router
  own : router.OwnRows

section ClosingGaps

variable {results : List Row} {before router : CameraRouter} {cameraKey other : String}

def CameraMaterialRouteState.clear (signal : Option Bool) (state : CameraMaterialRouteState) :
    CameraMaterialRouteState :=
  if signal = some false then
    { state with
      pendingRows := []
      pendingSuppressedUntilGap := false
      localPresent := false
      ownerGeneration := none }
  else state

theorem closeLocalGap_state : (closeLocalGap results router cameraKey).routeStates other =
      if cameraKey = other then (router.routeStates other).clear (currentSignal results cameraKey)
      else router.routeStates other := by
  unfold closeLocalGap clear
  split
  · rw [CameraRouter.setState_routeStates, CameraRouter.discard_routeStates]
    grind
  · grind

theorem Swept.closeLocalGap (swept : Swept before router) (cameraKey : String) :
    Swept before (closeLocalGap results router cameraKey) := by
  constructor
  · unfold Capture.closeLocalGap
    split
    · exact (swept.flows.discard _ false).trans ⟨rfl, rfl, rfl, rfl, rfl, rfl⟩
    · exact swept.flows
  · intro other row
    rw [closeLocalGap_state]
    grind [clear, swept.own other row]

end ClosingGaps

/-- A camera and what has been assigned of its frames in this pass. -/
abbrev CameraView := CameraMaterialRouteState × Multiset Assignment

def CameraView.after (view : CameraView)
    (move : CameraMaterialRouteState → CameraMaterialRouteState × List Assignment) : CameraView :=
  ((move view.1).1, (move view.1).2 + view.2)

theorem CameraView.after_still {view : CameraView}
    {move : CameraMaterialRouteState → CameraMaterialRouteState × List Assignment}
    (still : move view.1 = (view.1, [])) : view.after move = view := by
  simp [CameraView.after, still]

def assignments (cameraKey : String) (grouped : List Batch) : Multiset Assignment :=
  (Group.entries grouped : Multiset Assignment).filter fun assignment =>
    assignment.2.cameraKey = cameraKey

def RoutePass.camera (cameraKey : String) (pass : RoutePass) : CameraView :=
  (pass.router.routeStates cameraKey, assignments cameraKey pass.grouped)

section Adding

variable {cameraKey : String} {grouped : List Batch} {flow : CameraMaterialFlow}
  {phase : BoundaryPhase}

theorem assignments_addRow (row : Row) : assignments cameraKey (addRow grouped row flow phase) =
      (if row.cameraKey = cameraKey then {assign flow row} else 0) +
        assignments cameraKey grouped := by
  have added : (Group.entries (addRow grouped row flow phase) : Multiset Assignment) =
      assign flow row ::ₘ Group.entries grouped :=
    Multiset.coe_eq_coe.mpr (Group.entries_add _ _ _ _)
  unfold assignments
  rw [added]
  by_cases own : row.cameraKey = cameraKey
  · rw [Multiset.filter_cons_of_pos _ (by exact own), if_pos own, Multiset.singleton_add]
  · rw [Multiset.filter_cons_of_neg _ (by exact own), if_neg own, zero_add]

theorem assignments_addRows {owner : String} {rows : List Row}
    (own : ∀ row ∈ rows, row.cameraKey = owner) :
    assignments cameraKey (rows.foldl (fun grouped row => addRow grouped row flow phase) grouped) =
      (if owner = cameraKey then (rows.map (assign flow) : Multiset Assignment) else 0) +
        assignments cameraKey grouped := by
  induction rows generalizing grouped with
  | nil => simp
  | cons row rows ih =>
    rw [List.foldl_cons, ih fun other mem => own other (List.mem_cons_of_mem _ mem),
      assignments_addRow, own row List.mem_cons_self]
    split
    · rw [List.map_cons, ← Multiset.cons_coe, ← add_assoc, Multiset.add_comm _ {_},
        Multiset.singleton_add]
    · simp

end Adding

section Releasing

variable {results : List Row} {before : CameraRouter} {active : CameraMaterialFlow} {pass : RoutePass}
  {cameraKey other : String}

def CameraMaterialRouteState.handOver (signal : Option Bool) (active : Option CameraMaterialFlow)
    (state : CameraMaterialRouteState) : CameraMaterialRouteState × List Assignment :=
  if signal = some true then state.release active else (state, [])

theorem releaseBuffered_camera (own : pass.router.OwnRows) :
    (releaseBuffered results active pass cameraKey).camera other = if cameraKey = other then
        (pass.camera other).after (handOver (currentSignal results cameraKey) (some active))
      else pass.camera other := by
  unfold releaseBuffered
  extract_lets state
  split
  · have shown : currentSignal results cameraKey = some true := by
      grind [releases]
    have mine : ∀ row ∈ state.pendingRows, row.cameraKey = cameraKey := own cameraKey
    simp only [RoutePass.camera, CameraRouter.setState_routeStates, assignments_addRows mine]
    grind [CameraView.after, handOver, release]
  · split
    · refine (CameraView.after_still ?_).symm
      grind [RoutePass.camera, handOver, release]
    · rfl

theorem Swept.releaseBuffered (swept : Swept before pass.router) (cameraKey : String) :
    Swept before (releaseBuffered results active pass cameraKey).router := by
  unfold Capture.releaseBuffered
  extract_lets state
  split
  · refine ⟨swept.flows.trans ⟨rfl, rfl, rfl, rfl, rfl, rfl⟩, fun other row => ?_⟩
    rw [CameraRouter.setState_routeStates]
    grind [swept.own other row]
  · exact swept

end Releasing

section Rows

variable {before router : CameraRouter} {limit : Nat} {row : Row} {other : String}

theorem bufferRow_state : (bufferRow limit router row).routeStates other =
      if row.cameraKey = other then (router.routeStates other).hold limit row
      else router.routeStates other := by
  unfold bufferRow hold
  by_cases same : row.cameraKey = other
  · subst same
    simp only [CameraRouter.setState_routeStates, if_true, List.length_append, List.length_singleton]
    split
    · rfl
    · split
      · simp [CameraRouter.discard_routeStates, CameraRouter.setState_routeStates]
      · simp [CameraRouter.setState_routeStates]
  · split
    · rfl
    · extract_lets buffered
      split
      · simp [CameraRouter.discard_routeStates, same, buffered, CameraRouter.setState_routeStates]
      · simp [buffered, CameraRouter.setState_routeStates, same]

theorem SameFlows.bufferRow (same : CameraRouter.SameFlows before router) :
    CameraRouter.SameFlows before (bufferRow limit router row) := by
  unfold Capture.bufferRow
  split
  · exact same
  extract_lets buffered
  split
  · refine CameraRouter.SameFlows.discard ?_ _ true
    exact same.trans ⟨rfl, rfl, rfl, rfl, rfl, rfl⟩
  · exact same.trans ⟨rfl, rfl, rfl, rfl, rfl, rfl⟩

theorem bufferRow_discardedFrames
    (fits : (router.routeStates row.cameraKey).pendingRows.length < limit) :
    (bufferRow limit router row).discardedFrames = router.discardedFrames := by
  have notFull : ¬limit < (router.routeStates row.cameraKey).pendingRows.length + 1 := by omega
  unfold bufferRow
  split
  · rfl
  · simp [notFull, CameraRouter.setState]

variable {profile : RoutingProfile} {active : Option CameraMaterialFlow} {pass : RoutePass}

/-- What the third sweep does to a camera without material. -/
def CameraMaterialRouteState.darken (row : Row) (state : CameraMaterialRouteState) :
    CameraMaterialRouteState :=
  { state with
    lastSignalRound := row.round
    localPresent := false
    ownerGeneration := if state.localPresent then none else state.ownerGeneration
    pendingSuppressedUntilGap := false }

/-- A row is skipped, ends the segment of its camera, or goes to its owner or into the buffer. -/
theorem routeRow_eq : routeRow profile active pass row =
      if row.cameraKey ∉ profile.enabledCameras || !row.framed then pass
      else if !row.materialSignal then
        { pass with router := pass.router.setState row.cameraKey (.darken row) }
      else
        match (arrive active (pass.router.routeStates row.cameraKey) row).1.owner pass.router.flows with
        | some owner =>
          { router := pass.router.setState row.cameraKey fun state => (arrive active state row).1
            grouped := addRow pass.grouped row owner
              (arrive active (pass.router.routeStates row.cameraKey) row).2 }
        | none =>
          { pass with
            router := bufferRow profile.bufferRounds
              (pass.router.setState row.cameraKey fun state => (arrive active state row).1) row } :=
  rfl

@[simp] theorem arrive_pendingRows (state : CameraMaterialRouteState) :
    (arrive active state row).1.pendingRows = state.pendingRows := by
  unfold arrive enter
  extract_lets arrived
  repeat' split
  all_goals rfl

def CameraView.turn (profile : RoutingProfile) (active : Option CameraMaterialFlow)
    (flows : FlowTable) (row : Row) (view : CameraView) : CameraView :=
  if row.cameraKey ∉ profile.enabledCameras || !row.framed then view
  else if !row.materialSignal then (view.1.darken row, view.2)
  else view.after (take profile.bufferRounds active flows row)

theorem routeRow_camera : (routeRow profile active pass row).camera other =
      if row.cameraKey = other then (pass.camera other).turn profile active pass.router.flows row
      else pass.camera other := by
  rw [routeRow_eq]
  unfold CameraView.turn CameraView.after take
  simp only [RoutePass.camera]
  split
  · grind
  split
  · grind [CameraRouter.setState_routeStates]
  split <;> by_cases same : row.cameraKey = other <;>
    simp_all [bufferRow_state, CameraRouter.setState_routeStates, assignments_addRow]

theorem SameFlows.routeRow (same : CameraRouter.SameFlows before pass.router) :
    CameraRouter.SameFlows before (routeRow profile active pass row).router := by
  rw [routeRow_eq]
  split
  · exact same
  split
  · exact same.trans ⟨rfl, rfl, rfl, rfl, rfl, rfl⟩
  · split
    · exact same.trans ⟨rfl, rfl, rfl, rfl, rfl, rfl⟩
    · exact SameFlows.bufferRow (same.trans ⟨rfl, rfl, rfl, rfl, rfl, rfl⟩)

theorem CameraView.mem_turn {flows : FlowTable} {view : CameraView} {held : Row}
    (mem : held ∈ (view.turn profile active flows row).1.pendingRows) :
    held ∈ view.1.pendingRows ∨ held = row := by
  unfold CameraView.turn CameraView.after take at mem
  grind [arrive_pendingRows, hold, darken]

theorem Swept.routeRow (swept : Swept before pass.router) :
    Swept before (routeRow profile active pass row).router := by
  refine ⟨SameFlows.routeRow swept.flows, fun other held mem => ?_⟩
  change held ∈ ((Capture.routeRow profile active pass row).camera other).1.pendingRows at mem
  rw [routeRow_camera] at mem
  split at mem
  next mine =>
    rcases CameraView.mem_turn mem with old | rfl
    · exact swept.own other held old
    · exact mine
  · exact swept.own other held mem

end Rows

/-! ## The whole round -/

section Round

variable {profile : RoutingProfile} {results : List Row} {router before : CameraRouter}
  {active : Option CameraMaterialFlow} {row : Row} {cameraKey : String} {pass : RoutePass}
  {flow : CameraMaterialFlow}

theorem currentSignal_of_mem (nodup : (results.map Row.cameraKey).Nodup) {row : Row}
    (mem : row ∈ results) (framed : row.framed = true) :
    currentSignal results row.cameraKey = some row.materialSignal := by
  have only : results.filter (fun other => other.framed && other.cameraKey = row.cameraKey) = [row] := by
    induction results with
    | nil => cases mem
    | cons head rest ih =>
      rcases List.mem_cons.mp mem with rfl | later
      · grind [List.filter_eq_nil_iff]
      · grind
  simp [currentSignal, only]

theorem swept_cleared (own : router.OwnRows) :
    Swept router (profile.enabledCameras.foldl (closeLocalGap results) router) :=
  foldl_invariant (Swept router) (fun _ cameraKey swept => swept.closeLocalGap cameraKey) _
    ⟨.refl router, own⟩

theorem cleared_state (own : router.OwnRows) (cameraKey : String) :
    (profile.enabledCameras.foldl (closeLocalGap results) router).routeStates cameraKey =
      if cameraKey ∈ profile.enabledCameras then
        (router.routeStates cameraKey).clear (currentSignal results cameraKey)
      else router.routeStates cameraKey := by
  have keeps : ∀ (now : CameraRouter) other, Swept router now →
      Swept router (closeLocalGap results now other) := fun _ other swept => swept.closeLocalGap other
  split
  next enabled =>
    exact foldl_view id (Swept router) (fun router => router.routeStates cameraKey)
      (fun other state => state.clear (currentSignal results other)) keeps
      (fun _ _ _ => closeLocalGap_state) rfl profile.distinct enabled ⟨.refl router, own⟩
  next disabled =>
    exact foldl_view_of_absent id (Swept router) (fun router => router.routeStates cameraKey)
      (fun other state => state.clear (currentSignal results other)) keeps
      (fun _ _ _ => closeLocalGap_state) (fun _ mem same => disabled (same ▸ mem)) ⟨.refl router, own⟩

theorem swept_released (swept : Swept before router) :
    Swept before (releaseAll profile results active router).router := by
  unfold releaseAll
  split
  · exact foldl_invariant (fun pass : RoutePass => Swept before pass.router)
      (fun _ cameraKey kept => kept.releaseBuffered cameraKey) _ swept
  · exact swept

theorem released_camera (swept : Swept before router) (cameraKey : String) :
    (releaseAll profile results active router).camera cameraKey =
      if cameraKey ∈ profile.enabledCameras then CameraView.after (router.routeStates cameraKey, 0)
          (handOver (currentSignal results cameraKey) active)
      else (router.routeStates cameraKey, 0) := by
  cases active with
  | none =>
    split
    · refine (CameraView.after_still ?_).symm
      simp [handOver, release]
    · rfl
  | some flow =>
    let turn := fun other (view : CameraView) =>
      view.after (handOver (currentSignal results other) (some flow))
    have keeps : ∀ (pass : RoutePass) other, Swept before pass.router →
        Swept before (releaseBuffered results flow pass other).router :=
      fun _ other kept => kept.releaseBuffered other
    have start : Swept before (RoutePass.mk router []).router := swept
    split
    next enabled =>
      exact foldl_view id (fun pass : RoutePass => Swept before pass.router)
        (RoutePass.camera cameraKey) turn keeps (fun _ _ kept => releaseBuffered_camera kept.own) rfl
        profile.distinct enabled start
    next disabled =>
      exact foldl_view_of_absent id (fun pass : RoutePass => Swept before pass.router)
        (RoutePass.camera cameraKey) turn keeps (fun _ _ kept => releaseBuffered_camera kept.own)
        (fun _ mem same => disabled (same ▸ mem)) start

def prepared (profile : RoutingProfile) (results : List Row) (router : CameraRouter) : RoutePass :=
  releaseAll profile results router.activeFlow
    (profile.enabledCameras.foldl (closeLocalGap results) router)

theorem assignments_sorted (cameraKey : String) (grouped : List Batch) :
    assignments cameraKey (grouped.insertionSort batchOrder) = assignments cameraKey grouped := by
  have same : (Group.entries (grouped.insertionSort batchOrder) : Multiset Assignment) =
      Group.entries grouped :=
    Multiset.coe_eq_coe.mpr ((List.perm_insertionSort batchOrder grouped).flatMap_right _)
  rw [assignments, same, assignments]

section

variable (own : router.OwnRows)
include own

theorem swept_prepared : Swept router (prepared profile results router).router :=
  swept_released (swept_cleared own)

theorem prepared_camera (cameraKey : String) :
    (prepared profile results router).camera cameraKey = if cameraKey ∈ profile.enabledCameras then
        CameraView.after ((router.routeStates cameraKey).clear (currentSignal results cameraKey), 0)
          (handOver (currentSignal results cameraKey) router.activeFlow)
      else (router.routeStates cameraKey, 0) := by
  rw [prepared, released_camera (swept_cleared own), cleared_state own]
  split <;> rfl

theorem swept_route : Swept router (routeCameraMaterialRound profile results router).2 :=
  foldl_invariant (fun pass : RoutePass => Swept router pass.router)
    (fun _ _ kept => kept.routeRow) results (swept_prepared own)

/-- A routed round is, for a camera with a frame, the round of that camera alone. -/
theorem route_camera (nodup : (results.map Row.cameraKey).Nodup) (mem : row ∈ results)
    (framed : row.framed = true) (enabled : row.cameraKey ∈ profile.enabledCameras) :
    RoutePass.camera row.cameraKey ⟨(routeCameraMaterialRound profile results router).2,
          (routeCameraMaterialRound profile results router).1⟩ =
      CameraView.after (router.routeStates row.cameraKey, 0)
        (CameraMaterialRouteState.round profile.bufferRounds router.activeFlow router.flows row) := by
  have routed : (results.foldl (routeRow profile router.activeFlow)
      (prepared profile results router)).camera row.cameraKey =
        ((prepared profile results router).camera row.cameraKey).turn profile router.activeFlow
          router.flows row := by
    refine foldl_view Row.cameraKey (fun pass : RoutePass => Swept router pass.router)
      (RoutePass.camera row.cameraKey)
      (fun row view => view.turn profile router.activeFlow router.flows row)
      (fun _ _ kept => kept.routeRow) ?_ rfl (List.pairwise_map.mp nodup) mem (swept_prepared own)
    intro pass other kept
    rw [← kept.flows.flows]
    exact routeRow_camera
  simp only [RoutePass.camera, routeCameraMaterialRound, assignments_sorted]
  refine routed.trans ?_
  rw [prepared_camera own, if_pos enabled, currentSignal_of_mem nodup mem framed]
  cases signal : row.materialSignal with
  | true =>
    simp [CameraView.turn, CameraView.after, handOver,
      clear, CameraMaterialRouteState.round, enabled, framed, signal, add_comm]
  | false =>
    simp [CameraView.turn, CameraView.after, handOver,
      clear, CameraMaterialRouteState.round, enabled, framed, signal]
    rfl

end

/-! ## Cameras without a frame -/

def Idle (profile : RoutingProfile) (results : List Row) (cameraKey : String) : Prop :=
  cameraKey ∉ profile.enabledCameras ∨
    ∀ row ∈ results, row.cameraKey = cameraKey → row.framed = false

theorem currentSignal_of_frameless
    (frameless : ∀ row ∈ results, row.cameraKey = cameraKey → row.framed = false) :
    currentSignal results cameraKey = none := by
  have nothing : results.filter (fun row => row.framed && row.cameraKey = cameraKey) = [] := by
    rw [List.filter_eq_nil_iff]
    intro row mem
    simp only [Bool.and_eq_true, decide_eq_true_eq, not_and]
    intro framed own
    rw [frameless row mem own] at framed
    cases framed
  simp [currentSignal, nothing]

theorem route_idle (own : router.OwnRows) (idle : Idle profile results cameraKey) :
    RoutePass.camera cameraKey ⟨(routeCameraMaterialRound profile results router).2,
          (routeCameraMaterialRound profile results router).1⟩ =
      (router.routeStates cameraKey, 0) := by
  have start : (prepared profile results router).camera cameraKey =
      (router.routeStates cameraKey, 0) := by
    rw [prepared_camera own]
    split
    next enabled =>
      rw [currentSignal_of_frameless (idle.resolve_left (not_not_intro enabled))]
      exact CameraView.after_still rfl
    · rfl
  have routed : (results.foldl (routeRow profile router.activeFlow)
      (prepared profile results router)).camera cameraKey = (router.routeStates cameraKey, 0) := by
    refine foldl_invariant_of_mem
      (fun pass : RoutePass => pass.camera cameraKey = (router.routeStates cameraKey, 0)) ?_ start
    intro pass row mem same
    rw [routeRow_camera, ← same]
    grind [CameraView.turn, Idle]
  simp only [RoutePass.camera, routeCameraMaterialRound, assignments_sorted]
  exact routed

theorem idle_or_framed (cameraKey : String) : Idle profile results cameraKey ∨
      cameraKey ∈ profile.enabledCameras ∧
        ∃ row ∈ results, row.cameraKey = cameraKey ∧ row.framed = true := by
  by_cases enabled : cameraKey ∈ profile.enabledCameras
  · by_cases framed : ∃ row ∈ results, row.cameraKey = cameraKey ∧ row.framed = true
    · exact .inr ⟨enabled, framed⟩
    · refine .inl (.inr fun row mem own => ?_)
      rw [← Bool.not_eq_true]
      exact fun lit => framed ⟨row, mem, own, lit⟩
  · exact .inl (.inl enabled)

/-! ## Frames thrown away -/

theorem mem_of_currentSignal {signal : Bool} (shown : currentSignal results cameraKey = some signal) :
    ∃ row ∈ results, row.framed = true ∧ row.cameraKey = cameraKey ∧ row.materialSignal = signal := by
  simp only [currentSignal, Option.map_eq_some_iff] at shown
  obtain ⟨row, last, rfl⟩ := shown
  have found := List.mem_of_mem_getLast? last
  simp only [List.mem_filter, Bool.and_eq_true, decide_eq_true_eq] at found
  exact ⟨row, found.1, found.2.1, found.2.2, rfl⟩

theorem cleared_discardedFrames (own : router.OwnRows)
    (nothing : ∀ cameraKey, currentSignal results cameraKey = some false →
      (router.routeStates cameraKey).pendingRows = []) :
    (profile.enabledCameras.foldl (closeLocalGap results) router).discardedFrames =
      router.discardedFrames :=
  foldl_unchanged id (Swept router) (fun cameraKey router => router.routeStates cameraKey)
    (fun cameraKey state => currentSignal results cameraKey = some false → state.pendingRows = [])
    CameraRouter.discardedFrames (fun _ cameraKey swept => swept.closeLocalGap cameraKey)
    (fun _ _ _ _ different => by rw [closeLocalGap_state]; exact if_neg different)
    (fun _ _ _ quiet => by
      unfold closeLocalGap
      split
      next dark =>
        simp [CameraRouter.discardPendingSegment, quiet dark, CameraRouter.setState]
      · rfl) profile.distinct ⟨.refl router, own⟩
    (fun cameraKey _ => nothing cameraKey)

theorem released_discardedFrames :
    (releaseAll profile results active router).router.discardedFrames = router.discardedFrames := by
  unfold releaseAll
  split
  · exact foldl_invariant (fun pass : RoutePass => pass.router.discardedFrames = router.discardedFrames)
      (fun _ cameraKey same => by
        unfold releaseBuffered
        extract_lets state
        split <;> exact same) _ rfl
  · rfl

/-- The row finds its owner or a place in the buffer. -/
def Fits (profile : RoutingProfile) (active : Option CameraMaterialFlow) (flows : FlowTable) (row : Row)
    (state : CameraMaterialRouteState) : Prop :=
  row.cameraKey ∈ profile.enabledCameras → row.framed = true → row.materialSignal = true →
    (arrive active state row).1.owner flows = none → state.pendingRows.length < profile.bufferRounds

theorem routeRow_discardedFrames
    (fits : Fits profile active pass.router.flows row (pass.router.routeStates row.cameraKey)) :
    (routeRow profile active pass row).router.discardedFrames = pass.router.discardedFrames := by
  rw [routeRow_eq]
  split
  · rfl
  split
  · rfl
  split
  · rfl
  rename_i routed lit _ unowned
  rw [bufferRow_discardedFrames]
  · rfl
  · simp only [Bool.or_eq_true, decide_eq_true_eq, Bool.not_eq_true', not_or, not_not,
      Bool.not_eq_false] at routed lit
    simpa [CameraRouter.setState_routeStates] using fits routed.1 routed.2 lit unowned

/-- A round that throws away nothing of any camera leaves the counter alone. -/
theorem route_discardedFrames (own : router.OwnRows) (nodup : (results.map Row.cameraKey).Nodup)
    (spares : ∀ row ∈ results, row.framed = true → row.cameraKey ∈ profile.enabledCameras →
      (router.routeStates row.cameraKey).Spares profile.bufferRounds router.activeFlow router.flows row)
    (known : ∀ row ∈ results, row.cameraKey ∈ profile.enabledCameras) :
    (routeCameraMaterialRound profile results router).2.discardedFrames = router.discardedFrames := by
  have first : (profile.enabledCameras.foldl (closeLocalGap results) router).discardedFrames =
      router.discardedFrames := by
    apply cleared_discardedFrames own
    intro cameraKey dark
    obtain ⟨row, mem, framed, rfl, signal⟩ := mem_of_currentSignal dark
    have spared := spares row mem framed (known row mem)
    simpa [Spares, signal] using spared
  -- The third sweep meets each camera as the second one left it.
  have quiet : ∀ row ∈ results, Fits profile router.activeFlow router.flows row
      ((prepared profile results router).router.routeStates row.cameraKey) := by
    intro row mem enabled framed signal
    have released : (prepared profile results router).router.routeStates row.cameraKey =
        ((router.routeStates row.cameraKey).release router.activeFlow).1 := by
      have camera : ((prepared profile results router).camera row.cameraKey).1 = _ :=
        congrArg Prod.fst (prepared_camera own row.cameraKey)
      rw [if_pos enabled, currentSignal_of_mem nodup mem framed, signal] at camera
      exact camera
    have spared := spares row mem framed enabled
    simp only [Spares, signal, if_true, arrive_pendingRows] at spared
    rw [released]
    exact spared
  have third : (results.foldl (routeRow profile router.activeFlow)
      (prepared profile results router)).router.discardedFrames =
        (prepared profile results router).router.discardedFrames := by
    refine foldl_unchanged Row.cameraKey (fun pass : RoutePass => Swept router pass.router)
      (fun row pass => pass.router.routeStates row.cameraKey)
      (Fits profile router.activeFlow router.flows) (fun pass => pass.router.discardedFrames)
      (fun _ _ kept => kept.routeRow) ?_
      (fun _ _ kept room => routeRow_discardedFrames (kept.flows.flows ▸ room))
      (List.pairwise_map.mp nodup) (swept_prepared own) quiet
    intro pass row other _ different
    exact congrArg Prod.fst (routeRow_camera.trans (if_neg different))
  exact third.trans (released_discardedFrames.trans first)

/-! ## The batches -/

/-- A batch is headed by the flow its key names and holds rows of the round its key names. -/
structure Proper (flows : FlowTable) (batch : Batch) : Prop where
  header : flows.find? batch.key.2 = some batch.header.1
  rows : ∀ row ∈ batch.items, row.round = batch.key.1

theorem proper_addRow {flows : FlowTable} {grouped : List Batch}
    (proper : ∀ batch ∈ grouped, Proper flows batch)
    (found : flows.find? flow.generation = some flow) (row : Row) (phase : BoundaryPhase) :
    ∀ batch ∈ addRow grouped row flow phase, Proper flows batch := by
  intro batch mem
  rcases Group.mem_add mem with old | ⟨key, header, items⟩ | ⟨old, inGrouped, key, rfl⟩
  · exact proper batch old
  · refine ⟨?_, ?_⟩
    · rw [key, header]
      exact found
    · rw [items, key]
      intro other mine
      rw [List.mem_singleton.mp mine]
      rfl
  · refine ⟨(proper old inGrouped).header, ?_⟩
    intro other inItems
    rcases List.mem_append.mp inItems with before | now
    · exact (proper old inGrouped).rows other before
    · rw [List.mem_singleton.mp now]
      exact (congrArg Prod.fst key).symm

theorem activeFlow_found (usable : router.activeFlow = some flow) :
    router.flows.find? flow.generation = some flow := by
  simp only [CameraRouter.activeFlow, Option.filter_eq_some_iff] at usable
  have key : flow.generation = _ := Table.find?_key usable.1
  rw [key]
  exact usable.1


/-- The batches of a routing are built by adding rows to flows of the router, nothing else. -/
theorem grouped_routed (profile : RoutingProfile) (results : List Row) (own : router.OwnRows)
    (holds : List Batch → Prop) (empty : holds [])
    (adds : ∀ grouped row flow phase, router.flows.find? flow.generation = some flow →
      holds grouped → holds (addRow grouped row flow phase)) :
    holds (results.foldl (routeRow profile router.activeFlow)
      (prepared profile results router)).grouped := by
  have released : holds (prepared profile results router).grouped := by
    unfold prepared releaseAll
    split
    next flow usable =>
      apply foldl_invariant (fun pass : RoutePass => holds pass.grouped) ?_ _ empty
      intro pass cameraKey kept
      unfold releaseBuffered
      extract_lets state
      split
      · exact foldl_invariant holds
          (fun grouped row => adds grouped row flow _ (activeFlow_found usable)) _ kept
      · exact kept
    · exact empty
  refine (foldl_invariant (fun pass : RoutePass => Swept router pass.router ∧ holds pass.grouped)
    (fun pass row kept => ⟨kept.1.routeRow, ?_⟩) results ⟨swept_prepared own, released⟩).2
  rw [routeRow_eq]
  split
  · exact kept.2
  split
  · exact kept.2
  split
  next owner owned =>
    rw [kept.1.flows.flows, CameraMaterialRouteState.owner, Option.filter_eq_some_iff] at owned
    have key : owner.generation = _ := Table.find?_key owned.1
    exact adds _ row owner _ (key ▸ owned.1) kept.2
  · exact kept.2

theorem proper_route (own : router.OwnRows) :
    ∀ batch ∈ (routeCameraMaterialRound profile results router).1, Proper router.flows batch := by
  have built := grouped_routed profile results own
    (fun grouped => ∀ batch ∈ grouped, Proper router.flows batch) nofun
    (fun _ row _ phase found proper => proper_addRow proper found row phase)
  exact fun batch mem => built batch ((List.mem_insertionSort _).mp mem)

end Round

end SteelInspection.Capture
