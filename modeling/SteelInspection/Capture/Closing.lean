import SteelInspection.Capture.Assignment

/-! # What closing the flows means to a camera and to a flow

The close pass goes through the flows in the order of their generations.  It changes a camera only
when the timeout of a flow finds the camera unfinished, and it removes a flow only when no camera is
unfinished in it or its timeout has come.
-/

namespace SteelInspection.Capture

open Foundations

def CameraMaterialFlow.Overdue (profile : RoutingProfile) (roundIndex : Nat)
    (flow : CameraMaterialFlow) : Prop :=
  flow.closeRequested = true ∧ profile.closeTimeoutRounds ≤ roundIndex - flow.closeRequestedRound

variable {generation : Nat}

section Camera

variable {profile : RoutingProfile} {roundIndex : Nat} {newestOpen : Option CameraMaterialFlow}
  {flow : CameraMaterialFlow} {router : CameraRouter} {pending : String → Nat} {cameraKey : String}

theorem forceClose_state {unfinished : List String} (nodup : unfinished.Nodup) (cameraKey : String) :
    (forceClose router flow newestOpen unfinished).routeStates cameraKey =
      if cameraKey ∈ unfinished then (router.routeStates cameraKey).force flow newestOpen
      else router.routeStates cameraKey := by
  have forces : ∀ (router : CameraRouter) (other : String), True →
      (router.setState other fun state => state.force flow newestOpen).routeStates cameraKey =
        if other = cameraKey then (router.routeStates cameraKey).force flow newestOpen
        else router.routeStates cameraKey :=
    fun _ _ _ => CameraRouter.setState_routeStates _
  split
  next mem =>
    exact foldl_view id (fun _ => True) (fun router : CameraRouter => router.routeStates cameraKey)
      (fun _ state => state.force flow newestOpen) (fun _ _ _ => trivial) forces rfl nodup mem trivial
  rename_i absent
  exact foldl_view_of_absent id (fun _ => True)
    (fun router : CameraRouter => router.routeStates cameraKey)
    (fun _ state => state.force flow newestOpen) (fun _ _ _ => trivial) forces
    (fun _ mem same => absent (same ▸ mem)) trivial

/-- The cameras a flow is closed without when its turn in the close pass comes. -/
def forcedOut (profile : RoutingProfile) (roundIndex : Nat) (router : CameraRouter)
    (flow : CameraMaterialFlow) : List String :=
  if flow.closed || !flow.closeRequested ||
      roundIndex - flow.closeRequestedRound < profile.closeTimeoutRounds then []
  else profile.enabledCameras.filter fun cameraKey => (router.routeStates cameraKey).unfinished flow

theorem mem_forcedOut : cameraKey ∈ forcedOut profile roundIndex router flow ↔
      flow.closed = false ∧ flow.Overdue profile roundIndex ∧
        cameraKey ∈ profile.enabledCameras ∧ (router.routeStates cameraKey).unfinished flow = true := by
  simp only [forcedOut, CameraMaterialFlow.Overdue]
  grind

theorem finalizeFlow_state (pass : FinalizePass) (cameraKey : String) :
    (finalizeFlow profile roundIndex newestOpen pass flow).router.routeStates cameraKey =
      if cameraKey ∈ forcedOut profile roundIndex pass.router flow then
        (pass.router.routeStates cameraKey).force flow newestOpen
      else pass.router.routeStates cameraKey := by
  unfold finalizeFlow forcedOut
  by_cases requested : (flow.closed || !flow.closeRequested) = true
  · simp [requested]
  by_cases late : profile.closeTimeoutRounds ≤ roundIndex - flow.closeRequestedRound
  · have nodup := profile.distinct.filter fun cameraKey =>
      (pass.router.routeStates cameraKey).unfinished flow
    simp only [requested, Bool.false_eq_true, if_false, late, if_true, Bool.false_or,
      decide_eq_true_eq, Nat.not_lt.mpr late]
    split
    · simp_all
    · exact forceClose_state nodup cameraKey
  · simp only [requested, Bool.false_eq_true, if_false, late, Nat.lt_of_not_le late]
    split <;> simp

def closePass (profile : RoutingProfile) (roundIndex : Nat) (router : CameraRouter) : FinalizePass :=
  (router.flows.rows.insertionSort fun first second => first.generation ≤ second.generation).foldl
    (finalizeFlow profile roundIndex router.newestOpen) { router }

theorem finalize_routeStates :
    (finalizeCameraMaterialFlows profile pending roundIndex router).routeStates =
      (closePass profile roundIndex router).router.routeStates :=
  foldl_invariant (fun now : CameraRouter =>
      now.routeStates = (closePass profile roundIndex router).router.routeStates)
    (fun _ generation same => by
      unfold closeReady
      split
      · split <;> exact same
      · exact same) _ rfl

/-- What the timeouts of unfinished flows keep of a camera, the close pass keeps. -/
theorem finalize_state (holds : CameraMaterialRouteState → Prop)
    (start : holds (router.routeStates cameraKey))
    (forced : ∀ state, ∀ flow ∈ router.flows.rows, flow.Overdue profile roundIndex →
      state.unfinished flow = true → holds state → holds (state.force flow router.newestOpen)) :
    holds ((finalizeCameraMaterialFlows profile pending roundIndex router).routeStates cameraKey) := by
  rw [finalize_routeStates]
  refine foldl_invariant_of_mem
    (fun pass : FinalizePass => holds (pass.router.routeStates cameraKey)) ?_ start
  intro pass flow mem kept
  rw [finalizeFlow_state]
  split
  next out =>
    obtain ⟨-, overdue, -, unfinished⟩ := mem_forcedOut.mp out
    exact forced _ flow ((List.mem_insertionSort _).mp mem) overdue unfinished kept
  · exact kept

/-- A camera stays out of a flow that it was forced out of. -/
theorem force_owner {state : CameraMaterialRouteState}
    (owner : (state.force flow newestOpen).ownerGeneration = some generation) :
    state.ownerGeneration = some generation ∧ generation ≠ flow.generation ∨
      ∃ newest ∈ newestOpen, newest.generation = generation ∧ flow.generation < generation := by
  unfold CameraMaterialRouteState.force at owner
  split at owner
  · split at owner
    · grind [Option.filter_eq_some_iff]
    · cases owner
  · grind

/-- The timeout moves a camera between flows and leaves what it holds back alone. -/
theorem finalize_pendingRows (cameraKey : String) :
    ((finalizeCameraMaterialFlows profile pending roundIndex router).routeStates
      cameraKey).pendingRows = (router.routeStates cameraKey).pendingRows := by
  apply finalize_state (fun state => state.pendingRows = (router.routeStates cameraKey).pendingRows) rfl
  intro state flow _ _ _ same
  unfold CameraMaterialRouteState.force
  split <;> split <;> exact same

theorem newestOpen_mem {flow : CameraMaterialFlow} (newest : router.newestOpen = some flow) :
    flow ∈ router.flows.rows ∧ flow.closed = false ∧ flow.closeRequested = false := by
  have found : flow ∈ router.flows.rows.filter fun flow => !flow.closed && !flow.closeRequested := by
    unfold CameraRouter.newestOpen at newest
    generalize router.flows.rows.filter (fun flow => !flow.closed && !flow.closeRequested) = flows
      at newest ⊢
    refine foldl_invariant_of_mem
      (fun newest : Option CameraMaterialFlow => ∀ flow, newest = some flow → flow ∈ flows) ?_
      (fun _ nothing => by cases nothing) flow newest
    intro best other mem kept flow same
    cases best with
    | none =>
      cases same
      exact mem
    | some old => grind
  simpa [List.mem_filter, and_assoc] using found

end Camera

/-! ## Flows -/

/-- The same flow, up to the note which cameras were forced out of it. -/
def CameraMaterialFlow.Same (flow other : CameraMaterialFlow) : Prop :=
  other = { flow with forcedCameraKeys := other.forcedCameraKeys }

theorem CameraMaterialFlow.Same.refl (flow : CameraMaterialFlow) : flow.Same flow := rfl

theorem CameraMaterialFlow.Same.trans {first second third : CameraMaterialFlow}
    (one : first.Same second) (two : second.Same third) : first.Same third := by
  rw [CameraMaterialFlow.Same] at *
  rw [two, one]

/-- The pass removes flows and changes nothing else about them. -/
structure CameraRouter.Closes (before after : CameraRouter) : Prop where
  continuousRound : after.continuousRound = before.continuousRound
  activeMaterialId : after.activeMaterialId = before.activeMaterialId
  routeGeneration : after.routeGeneration = before.routeGeneration
  discardedFrames : after.discardedFrames = before.discardedFrames
  flows : ∀ generation flow, after.flows.find? generation = some flow →
    ∃ old, before.flows.find? generation = some old ∧ old.Same flow
  flowById : ∀ materialId generation, after.flowById materialId = some generation →
    before.flowById materialId = some generation

namespace CameraRouter.Closes

variable {before middle after router : CameraRouter} (profile : RoutingProfile)
  (pending : String → Nat)

theorem refl (router : CameraRouter) : router.Closes router :=
  ⟨rfl, rfl, rfl, rfl, fun _ flow found => ⟨flow, found, .refl flow⟩, fun _ _ found => found⟩

theorem trans (one : before.Closes middle) (two : middle.Closes after) : before.Closes after where
  continuousRound := two.continuousRound.trans one.continuousRound
  activeMaterialId := two.activeMaterialId.trans one.activeMaterialId
  routeGeneration := two.routeGeneration.trans one.routeGeneration
  discardedFrames := two.discardedFrames.trans one.discardedFrames
  flows generation flow found := by
    obtain ⟨between, foundBetween, later⟩ := two.flows generation flow found
    obtain ⟨old, foundOld, earlier⟩ := one.flows generation between foundBetween
    exact ⟨old, foundOld, earlier.trans later⟩
  flowById materialId generation found :=
    one.flowById materialId generation (two.flowById materialId generation found)

theorem setState (cameraKey : String)
    (change : CameraMaterialRouteState → CameraMaterialRouteState) :
    router.Closes (router.setState cameraKey change) :=
  ⟨rfl, rfl, rfl, rfl, (refl router).flows, fun _ _ found => found⟩

theorem forceClose (flow : CameraMaterialFlow) (newestOpen : Option CameraMaterialFlow)
    (unfinished : List String) : router.Closes (forceClose router flow newestOpen unfinished) := by
  refine foldl_invariant router.Closes (fun _ cameraKey closes => closes.trans (setState cameraKey _))
    _ ⟨rfl, rfl, rfl, rfl, ?_, fun _ _ found => found⟩
  intro generation changed found
  rw [Table.find?_update] at found
  split at found
  · obtain ⟨old, foundOld, rfl⟩ := Option.map_eq_some_iff.mp found
    exact ⟨old, foundOld, rfl⟩
  · exact ⟨changed, found, .refl changed⟩

theorem finalizeFlow (roundIndex : Nat) (newestOpen : Option CameraMaterialFlow)
    (pass : FinalizePass) (flow : CameraMaterialFlow) :
    pass.router.Closes (finalizeFlow profile roundIndex newestOpen pass flow).router := by
  unfold Capture.finalizeFlow
  split
  · exact refl _
  extract_lets unfinished elapsed
  split
  · exact refl _
  · split
    · exact forceClose flow newestOpen unfinished
    · exact refl _

theorem closeReady (generation : Nat) : router.Closes (closeReady pending router generation) := by
  unfold Capture.closeReady
  split
  · split
    · exact refl _
    refine ⟨rfl, rfl, rfl, rfl, ?_, ?_⟩
    · intro other flow found
      rw [Table.find?_deleteWhere, Option.filter_eq_some_iff] at found
      exact ⟨flow, found.1, .refl flow⟩
    · grind
  · exact refl _

theorem finalize (roundIndex : Nat) :
    router.Closes (finalizeCameraMaterialFlows profile pending roundIndex router) := by
  unfold finalizeCameraMaterialFlows
  extract_lets byGeneration finished
  have forcing : router.Closes finished.router :=
    foldl_invariant (fun pass : FinalizePass => router.Closes pass.router)
      (fun pass flow closes => closes.trans (finalizeFlow profile roundIndex _ pass flow)) _
      (refl router)
  exact foldl_invariant router.Closes
    (fun _ generation closes => closes.trans (closeReady pending generation)) _ forcing

end CameraRouter.Closes

/-! ## Flows that stay -/

/-- The flow is still there and still found under its names. -/
structure CameraRouter.Retains (before : CameraRouter) (flow : CameraMaterialFlow)
    (router : CameraRouter) : Prop where
  found : ∃ now, router.flows.find? flow.generation = some now ∧ flow.Same now
  named : ∀ materialId, before.flowById materialId = some flow.generation →
    router.flowById materialId = some flow.generation

section Retaining

variable {profile : RoutingProfile} {pending : String → Nat} {roundIndex : Nat}
  {before router : CameraRouter} {flow : CameraMaterialFlow}

section

variable (retains : before.Retains flow router)
include retains

theorem retains_setState (cameraKey : String)
    (change : CameraMaterialRouteState → CameraMaterialRouteState) :
    before.Retains flow (router.setState cameraKey change) :=
  ⟨retains.found, retains.named⟩

theorem retains_forceClose (other : CameraMaterialFlow) (newestOpen : Option CameraMaterialFlow)
    (unfinished : List String) :
    before.Retains flow (forceClose router other newestOpen unfinished) := by
  refine foldl_invariant (before.Retains flow)
    (fun _ cameraKey kept => retains_setState kept cameraKey _) _ ⟨?_, retains.named⟩
  obtain ⟨now, found, same⟩ := retains.found
  rw [Table.find?_update]
  split
  · refine ⟨{ now with forcedCameraKeys := unfinished.dedup.insertionSort (· ≤ ·) }, ?_,
      same.trans rfl⟩
    rw [found, Option.map_some]
  · exact ⟨now, found, same⟩

theorem retains_closeReady (different : generation ≠ flow.generation) :
    before.Retains flow (closeReady pending router generation) := by
  unfold closeReady
  split
  next removed _ =>
    split
    · exact retains
    refine ⟨?_, ?_⟩
    · obtain ⟨now, found, same⟩ := retains.found
      refine ⟨now, ?_, same⟩
      have mine : now.generation = flow.generation := Table.find?_key found
      rw [Table.find?_deleteWhere, found]
      simp [Option.filter, mine, Ne.symm different]
    · intro materialId named
      have here := retains.named materialId named
      dsimp only
      split
      next target =>
        -- The removed name leads to another generation.
        have apart : materialId ≠ removed.materialId := by
          rintro rfl
          rw [here] at target
          exact different (Option.some.inj target).symm
        rw [Function.update_of_ne apart]
        exact here
      · exact here
  · exact retains

end

structure CameraRouter.Busy (profile : RoutingProfile) (roundIndex : Nat) (router : CameraRouter)
    (flow : CameraMaterialFlow) (cameraKey : String) : Prop where
  enabled : cameraKey ∈ profile.enabledCameras
  unfinished : (router.routeStates cameraKey).unfinished flow = true
  inTime : ¬flow.Overdue profile roundIndex
  untouched : ∀ other ∈ router.flows.rows, other.Overdue profile roundIndex →
    (router.routeStates cameraKey).unfinished other = false

theorem finalizeFlow_ready {newestOpen : Option CameraMaterialFlow} {pass : FinalizePass}
    {other : CameraMaterialFlow}
    (mem : generation ∈ (finalizeFlow profile roundIndex newestOpen pass other).ready) :
    generation ∈ pass.ready ∨
      generation = other.generation ∧ other.closed = false ∧ other.closeRequested = true ∧
        (other.Overdue profile roundIndex ∨ ∀ cameraKey ∈ profile.enabledCameras,
          (pass.router.routeStates cameraKey).unfinished other = false) := by
  unfold finalizeFlow at mem
  split at mem
  · exact .inl mem
  rename_i open'
  simp only [Bool.or_eq_true, Bool.not_eq_true', not_or, Bool.not_eq_false] at open'
  extract_lets unfinished elapsed at mem
  split at mem
  · grind [List.filter_eq_nil_iff]
  split at mem
  next late =>
    rcases List.mem_append.mp mem with old | new
    · exact .inl old
    · exact .inr ⟨List.mem_singleton.mp new, by simpa using open'.1, open'.2, .inl ⟨open'.2, late⟩⟩
  · exact .inl mem

variable (found : router.flows.find? flow.generation = some flow)
include found

theorem retains_of_notReady
    (notReady : flow.generation ∉ (closePass profile roundIndex router).ready) :
    router.Retains flow (finalizeCameraMaterialFlows profile pending roundIndex router) := by
  have start : router.Retains flow router := ⟨⟨flow, found, .refl flow⟩, fun _ named => named⟩
  have forcing : router.Retains flow (closePass profile roundIndex router).router :=
    foldl_invariant (fun pass : FinalizePass => router.Retains flow pass.router)
      (fun _ other kept => by
        unfold finalizeFlow
        split
        · exact kept
        · grind [retains_forceClose]) _ start
  refine foldl_invariant_of_mem (router.Retains flow) ?_ forcing
  intro between generation mem kept
  exact retains_closeReady kept fun same => notReady (same ▸ mem)

/-- A flow whose close is not requested, or that a camera is not done with in time, stays. -/
theorem finalize_retains
    (busy : flow.closeRequested = true → ∃ cameraKey, router.Busy profile roundIndex flow cameraKey) :
    router.Retains flow (finalizeCameraMaterialFlows profile pending roundIndex router) := by
  have mine : ∀ other ∈ router.flows.rows, other.generation = flow.generation → other = flow := by
    grind [Table.mem_rows_iff]
  refine retains_of_notReady found ?_
  cases requested : flow.closeRequested with
  | false =>
    refine foldl_invariant_of_mem (fun pass : FinalizePass => flow.generation ∉ pass.ready) ?_
      (List.not_mem_nil)
    intro pass other mem absent present
    rcases finalizeFlow_ready present with old | ⟨same, -, asked, -⟩
    · exact absent old
    · rw [mine other ((List.mem_insertionSort _).mp mem) same.symm, requested] at asked
      cases asked
  | true =>
    obtain ⟨cameraKey, camera⟩ := busy requested
    -- The camera is as it was when the turn of the flow comes.
    suffices walked : (closePass profile roundIndex router).router.routeStates cameraKey =
        router.routeStates cameraKey ∧
        flow.generation ∉ (closePass profile roundIndex router).ready from walked.2
    refine foldl_invariant_of_mem (fun pass : FinalizePass =>
      pass.router.routeStates cameraKey = router.routeStates cameraKey ∧
        flow.generation ∉ pass.ready) ?_ ⟨rfl, List.not_mem_nil⟩
    intro pass other mem kept
    have listed := (List.mem_insertionSort _).mp mem
    refine ⟨?_, ?_⟩
    · grind [finalizeFlow_state, mem_forcedOut, camera.untouched]
    intro present
    rcases finalizeFlow_ready present with old | ⟨same, -, -, late | nobody⟩
    · exact kept.2 old
    · exact camera.inTime (mine other listed same.symm ▸ late)
    · grind [camera.enabled, camera.unfinished]

end Retaining

/-! ## Steel events -/

/-- A steel event adds and marks flows and touches no camera. -/
structure CameraRouter.Opens (before after : CameraRouter) : Prop where
  routeStates : after.routeStates = before.routeStates
  discardedFrames : after.discardedFrames = before.discardedFrames
  flows : ∀ generation, (before.flows.find? generation).isSome →
    (after.flows.find? generation).isSome

namespace CameraRouter.Opens

variable {before middle after router : CameraRouter}

theorem trans (one : before.Opens middle) (two : middle.Opens after) : before.Opens after :=
  ⟨two.1.trans one.1, two.2.trans one.2, fun generation found =>
    two.flows generation (one.flows generation found)⟩

theorem register (materialId sessionId productionEventId : String) :
    router.Opens (router.register materialId sessionId productionEventId) := by
  refine ⟨rfl, rfl, fun generation found => ?_⟩
  simp only [CameraRouter.register, Table.find?_put]
  split
  · rfl
  · exact found

theorem update (generation : Nat) (change : CameraMaterialFlow → CameraMaterialFlow)
    (keeps : ∀ flow, (change flow).generation = flow.generation) :
    router.Opens { router with flows := router.flows.update generation change keeps } := by
  refine ⟨rfl, rfl, fun other found => ?_⟩
  simp only [Table.find?_update]
  split
  · simpa using found
  · exact found

theorem request (materialId sessionId reason : String) :
    router.Opens (router.requestCameraMaterialFlowClose materialId sessionId reason) := by
  unfold requestCameraMaterialFlowClose
  split
  · exact update _ _ _
  · exact (register _ _ _).trans (update _ _ _)

theorem openFlow (materialId sessionId productionEventId : String) :
    router.Opens (router.openCameraMaterialFlow materialId sessionId productionEventId) := by
  unfold openCameraMaterialFlow
  split
  · exact ⟨rfl, rfl, fun _ found => found⟩
  split
  · split
    · exact register _ _ _
    · exact update _ _ _
  · exact register _ _ _

theorem steelEvent (event : SteelEvent) : router.Opens (router.steelEvent event) := by
  cases event with
  | steelIn materialId sessionId flowCode =>
    have opened : router.Opens
        { router with activeMaterialId := materialId, activeSessionId := sessionId } :=
      ⟨rfl, rfl, fun _ found => found⟩
    simp only [CameraRouter.steelEvent, steelIn]
    split
    · exact (opened.trans (request _ _ _)).trans (openFlow _ _ _)
    · exact opened.trans (openFlow _ _ _)
  | steelOut materialId sessionId =>
    have left : router.Opens { router with activeMaterialId := "", activeSessionId := "" } :=
      ⟨rfl, rfl, fun _ found => found⟩
    simp only [CameraRouter.steelEvent]
    unfold steelOut
    extract_lets completed completedSession now
    split
    · exact left
    · exact left.trans (request _ _ _)

end CameraRouter.Opens

end SteelInspection.Capture
