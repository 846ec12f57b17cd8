import SteelInspection.Capture.Closing

/-! # What a routing hands out

Where the rows of a batch come from, which flows they can go to, and what of the router every step
keeps.  A row of a batch is one its camera held back for the active flow, or its row of the round that
is routed.
-/

namespace SteelInspection.Capture

open Foundations

/-! ## The batches of one routing -/

section Batches

variable {profile : RoutingProfile} {results : List Row} {router : CameraRouter}

theorem route_nodup_keys (own : router.OwnRows) :
    ((routeCameraMaterialRound profile results router).1.map Group.key).Nodup := by
  have built := grouped_routed profile results own
    (fun grouped => (grouped.map Group.key).Nodup) List.nodup_nil
    (fun _ _ _ _ _ nodup => Group.nodup_keys_add _ _ _ nodup)
  exact ((List.perm_insertionSort batchOrder _).map Group.key).nodup_iff.mpr built

theorem route_filled (own : router.OwnRows) :
    ∀ batch ∈ (routeCameraMaterialRound profile results router).1, batch.items ≠ [] := by
  have built := grouped_routed profile results own
    (fun grouped => ∀ batch ∈ grouped, batch.items ≠ []) nofun
    (fun _ _ _ _ _ filled _ => Group.items_ne_nil_add filled)
  exact fun batch mem => built batch ((List.mem_insertionSort _).mp mem)

theorem route_origin (own : router.OwnRows) (nodup : (results.map Row.cameraKey).Nodup)
    {batch : Batch} (mem : batch ∈ (routeCameraMaterialRound profile results router).1)
    {row : Row} (inItems : row ∈ batch.items) : row.cameraKey ∈ profile.enabledCameras ∧
      ∃ shown ∈ results, shown.cameraKey = row.cameraKey ∧ shown.framed = true ∧
        (batch.key, row) ∈ ((router.routeStates row.cameraKey).round profile.bufferRounds
          router.activeFlow router.flows shown).2 := by
  have listed : (batch.key, row) ∈
      assignments row.cameraKey (routeCameraMaterialRound profile results router).1 := by
    simp only [assignments, Multiset.mem_filter, Multiset.mem_coe, and_true]
    exact Group.mem_entries.mpr ⟨batch, mem, rfl, inItems⟩
  have part : Idle profile results row.cameraKey ∨ _ := idle_or_framed row.cameraKey
  rcases part with idle | ⟨enabled, shown, inResults, camera, framed⟩
  · have nothing := congrArg Prod.snd (route_idle own idle)
    dsimp only [RoutePass.camera] at nothing
    rw [nothing] at listed
    simp at listed
  · refine ⟨enabled, shown, inResults, camera, framed, ?_⟩
    have handed := congrArg Prod.snd (route_camera own nodup inResults framed (camera ▸ enabled))
    simp only [RoutePass.camera, CameraView.after, camera] at handed
    rw [handed] at listed
    simpa using listed

end Batches

/-! ## What a camera hands out -/

namespace CameraMaterialRouteState

section Round

variable {limit : Nat} {active : Option CameraMaterialFlow} {flows : FlowTable} {row : Row}
  {state : CameraMaterialRouteState}

def arrived (active : Option CameraMaterialFlow) (row : Row) (state : CameraMaterialRouteState) :
    CameraMaterialRouteState :=
  (arrive active (state.release active).1 row).1

theorem round_lit (lit : row.materialSignal = true) :
    state.round limit active flows row =
      match (state.arrived active row).owner flows with
      | some owner => (state.arrived active row, (state.release active).2 ++ [assign owner row])
      | none => ((state.arrived active row).hold limit row, (state.release active).2) := by
  simp only [round, lit, if_true, take, arrived]
  split <;> simp_all

theorem mem_round {assignment : Assignment}
    (mem : assignment ∈ (state.round limit active flows row).2) : row.materialSignal = true ∧
      ((∃ flow ∈ active, state.releases flow (some true) = true ∧
        ∃ held ∈ state.pendingRows, assignment = assign flow held) ∨
      ∃ flow, (state.arrived active row).owner flows = some flow ∧ assignment = assign flow row) := by
  cases lit : row.materialSignal with
  | false => simp [round, lit] at mem
  | true =>
    have fromBuffer : assignment ∈ (state.release active).2 →
        ∃ flow ∈ active, state.releases flow (some true) = true ∧
          ∃ held ∈ state.pendingRows, assignment = assign flow held := by
      intro released
      unfold release at released
      split at released
      · grind
      · cases released
    rw [round_lit lit] at mem
    cases owned : (state.arrived active row).owner flows with
    | none =>
      rw [owned] at mem
      exact ⟨rfl, .inl (fromBuffer mem)⟩
    | some flow => grind

/-- The segment of a camera keeps its owner, loses it, or gets the active flow. -/
theorem arrived_owner : (state.arrived active row).ownerGeneration = none ∨
      (state.arrived active row).ownerGeneration = state.ownerGeneration ∨
      ∃ flow ∈ active, (state.arrived active row).ownerGeneration = some flow.generation := by
  have released : (state.release active).1.ownerGeneration = state.ownerGeneration ∨
      ∃ flow ∈ active, (state.release active).1.ownerGeneration = some flow.generation := by
    unfold release
    split
    · grind
    · exact .inl rfl
  unfold arrived arrive
  extract_lets shown
  split
  · exact .inr released
  · unfold enter
    split
    · grind
    · exact .inl rfl

end Round

/-- What a camera holds back: own frames, in the order of the rounds they were taken in. -/
structure Stock (cameraKey : String) (last : Nat) (state : CameraMaterialRouteState) : Prop where
  own : ∀ row ∈ state.pendingRows, row.cameraKey = cameraKey
  framed : ∀ row ∈ state.pendingRows, row.framed = true
  rounds : ∀ row ∈ state.pendingRows, row.round ≤ last
  ascending : (state.pendingRows.map Row.round).Pairwise (· < ·)

section Stock

variable {cameraKey : String} {last : Nat} {limit : Nat} {active : Option CameraMaterialFlow}
  {flows : FlowTable} {row : Row} {state other : CameraMaterialRouteState}

theorem Stock.congr (stock : state.Stock cameraKey last)
    (same : other.pendingRows = state.pendingRows) : other.Stock cameraKey last := by
  constructor
  all_goals rw [same]
  · exact stock.own
  · exact stock.framed
  · exact stock.rounds
  · exact stock.ascending

theorem Stock.of_empty (empty : state.pendingRows = []) : state.Stock cameraKey last := by
  constructor <;> simp [empty]

section

variable (stock : state.Stock cameraKey last)
include stock

theorem Stock.mono {later : Nat} (le : last ≤ later) : state.Stock cameraKey later :=
  { stock with rounds := fun row mem => (stock.rounds row mem).trans le }

section

variable (camera : row.cameraKey = cameraKey) (framed : row.framed = true) (new : last < row.round)
include camera framed new

theorem Stock.hold : (state.hold limit row).Stock cameraKey row.round := by
  unfold CameraMaterialRouteState.hold
  split
  · exact stock.mono new.le
  split
  · exact .of_empty rfl
  constructor
  · simpa [or_imp, forall_and] using ⟨stock.own, camera⟩
  · simpa [or_imp, forall_and] using ⟨stock.framed, framed⟩
  · have old := fun row mem => (stock.rounds row mem).trans new.le
    simpa [or_imp, forall_and] using old
  simp only [List.map_append, List.map_cons, List.map_nil, List.pairwise_append,
    List.pairwise_singleton, List.mem_singleton, true_and, List.mem_map]
  refine ⟨stock.ascending, ?_⟩
  rintro round ⟨held, mem, rfl⟩ _ rfl
  exact (stock.rounds held mem).trans_lt new

theorem Stock.round : (state.round limit active flows row).1.Stock cameraKey row.round := by
  cases lit : row.materialSignal with
  | false => exact .of_empty (by simp [CameraMaterialRouteState.round, lit, gap])
  | true =>
    have waiting : (state.arrived active row).Stock cameraKey last := by
      have held : (state.arrived active row).pendingRows = [] ∨
          (state.arrived active row).pendingRows = state.pendingRows := by
        simp only [arrived, arrive_pendingRows, release]
        split
        · split
          · exact .inl rfl
          · exact .inr rfl
        · exact .inr rfl
      rcases held with empty | same
      · exact .of_empty empty
      · exact stock.congr same
    rw [round_lit lit]
    split
    · exact waiting.mono new.le
    · exact waiting.hold camera framed new

end

theorem Stock.handed (new : last < row.round) :
    ((state.round limit active flows row).2.map fun assignment => assignment.1.1).Nodup := by
  have released : ((state.release active).2.map fun assignment => assignment.1.1).Pairwise (· < ·) ∧
      ∀ assignment ∈ (state.release active).2, assignment.1.1 ≤ last := by
    unfold release
    split
    · split
      · simp only [List.map_map, List.mem_map]
        refine ⟨stock.ascending, ?_⟩
        rintro _ ⟨held, mem, rfl⟩
        exact stock.rounds held mem
      · simp
    · simp
  have ascending : ((state.round limit active flows row).2.map
      fun assignment => assignment.1.1).Pairwise (· < ·) := by
    cases lit : row.materialSignal with
    | false => simp [CameraMaterialRouteState.round, lit]
    | true =>
      rw [round_lit lit]
      split
      · simp only [List.map_append, List.map_cons, List.map_nil, List.pairwise_append,
          List.pairwise_singleton, List.mem_singleton, true_and, List.mem_map]
        refine ⟨released.1, ?_⟩
        rintro _ ⟨assignment, mem, rfl⟩ _ rfl
        exact (released.2 assignment mem).trans_lt new
      · exact released.1
  exact ascending.imp Nat.ne_of_lt

end

end Stock

end CameraMaterialRouteState

/-! ## The flows of a router -/

def CameraMaterialFlow.Named (flow : CameraMaterialFlow) : Prop :=
  flow.materialId ≠ "" ∧ flow.sessionId ≠ ""

/-- The camera's segment is owned by no flow, or by one that the storage takes frames for. -/
def CameraRouter.Owns (router : CameraRouter) (state : CameraMaterialRouteState) : Prop :=
  ∀ generation, state.ownerGeneration = some generation → generation ≤ router.routeGeneration ∧
    ∀ flow, router.flows.find? generation = some flow → flow.Named

def CameraRouter.Indexed (router : CameraRouter) : Prop :=
  ∀ generation flow, router.flows.find? generation = some flow →
    router.flowById flow.materialId = some generation

/-- A material id has one flow, and whatever frames may go to has its names. -/
structure CameraRouter.Sound (router : CameraRouter) : Prop where
  generations : ∀ generation flow, router.flows.find? generation = some flow →
    0 < generation ∧ generation ≤ router.routeGeneration
  present : ∀ generation flow, router.flows.find? generation = some flow → flow.closed = false
  indexed : router.Indexed
  index : ∀ materialId generation, router.flowById materialId = some generation →
    generation ≤ router.routeGeneration ∧
      ∀ flow, router.flows.find? generation = some flow → flow.materialId = materialId
  named : ∀ generation flow, router.flows.find? generation = some flow →
    flow.closeRequested = false → flow.Named
  owners : ∀ cameraKey, router.Owns (router.routeStates cameraKey)

namespace CameraRouter.Indexed

variable {router : CameraRouter}

theorem forceClose (indexed : router.Indexed) (flow : CameraMaterialFlow)
    (newestOpen : Option CameraMaterialFlow) (unfinished : List String) :
    (forceClose router flow newestOpen unfinished).Indexed := by
  have moves : ∀ (router : CameraRouter) (cameraKey : String), router.Indexed →
      (router.setState cameraKey fun state => state.force flow newestOpen).Indexed :=
    fun _ _ kept => kept
  refine foldl_invariant CameraRouter.Indexed moves _ ?_
  intro generation changed found
  rw [Table.find?_update] at found
  split at found
  · obtain ⟨old, foundOld, rfl⟩ := Option.map_eq_some_iff.mp found
    exact indexed generation old foundOld
  · exact indexed generation changed found

theorem closeReady (indexed : router.Indexed) (pending : String → Nat) (closed : Nat) :
    (closeReady pending router closed).Indexed := by
  unfold Capture.closeReady
  split
  · split
    · exact indexed
    intro generation kept found
    rw [Table.find?_deleteWhere, Option.filter_eq_some_iff] at found
    have index := indexed generation kept found.1
    have key : kept.generation = generation := Table.find?_key found.1
    have different : generation ≠ closed := by simpa [key] using found.2
    dsimp only
    split
    · -- The entry that goes names the removed flow, not this one.
      rename_i entry
      rw [Function.update_of_ne, index]
      intro same
      rw [← same, index] at entry
      exact different (Option.some.inj entry)
    · exact index
  · exact indexed

theorem finalize (indexed : router.Indexed) (profile : RoutingProfile) (pending : String → Nat)
    (roundIndex : Nat) :
    (finalizeCameraMaterialFlows profile pending roundIndex router).Indexed := by
  have forcing : ∀ (pass : FinalizePass) (flow : CameraMaterialFlow), pass.router.Indexed →
      (finalizeFlow profile roundIndex router.newestOpen pass flow).router.Indexed := by
    intro pass flow kept
    unfold finalizeFlow
    split
    · exact kept
    extract_lets unfinished elapsed
    split
    · exact kept
    · split
      · exact kept.forceClose flow router.newestOpen unfinished
      · exact kept
  exact foldl_invariant CameraRouter.Indexed (fun _ closed kept => kept.closeReady pending closed) _
    (foldl_invariant (fun pass : FinalizePass => pass.router.Indexed) forcing _ indexed)

end CameraRouter.Indexed

namespace CameraRouter.Sound

variable {router : CameraRouter}

theorem initial : CameraRouter.Sound {} := by
  constructor
  all_goals exact nofun

section

variable (sound : router.Sound)
include sound

theorem activeFlow_named {flow : CameraMaterialFlow} (active : router.activeFlow = some flow) :
    flow.Named := by
  have found := activeFlow_found active
  simp only [activeFlow, Option.filter_eq_some_iff, Bool.not_eq_true', Bool.or_eq_false_iff] at active
  exact sound.named _ flow found active.2.2

theorem unnumbered : router.flows.find? 0 = none := by
  cases found : router.flows.find? 0 with
  | none => rfl
  | some flow => exact absurd (sound.generations 0 flow found).1 (lt_irrefl 0)

/-- A new flow, under the next generation. -/
theorem enlarge {next : CameraRouter} (flow : CameraMaterialFlow)
    (states : next.routeStates = router.routeStates)
    (generation : next.routeGeneration = router.routeGeneration + 1) (index : next.flowById =
      Function.update router.flowById flow.materialId (some (router.routeGeneration + 1)))
    (find : ∀ other, next.flows.find? other =
      if router.routeGeneration + 1 = other then some flow else router.flows.find? other)
    (absent : ∀ other old, router.flows.find? other = some old → old.materialId ≠ flow.materialId)
    (present : flow.closed = false) (named : flow.closeRequested = false → flow.Named) :
    next.Sound := by
  have index := fun materialId => congrFun index materialId
  obtain ⟨generations, closed, indexed, byId, names, owners⟩ := sound
  rw [← states] at owners
  -- Every flow of the new table is the new one or an old one with another material id.
  constructor <;> grind [Indexed, Owns]

theorem mark (generation : Nat) (change : CameraMaterialFlow → CameraMaterialFlow)
    (keeps : ∀ flow, (change flow).generation = flow.generation)
    (material : ∀ flow, (change flow).materialId = flow.materialId)
    (present : ∀ flow, (change flow).closed = flow.closed)
    (named : ∀ flow, router.flows.find? generation = some flow →
      (change flow).closeRequested = false → (change flow).Named)
    (stays : ∀ flow, flow.Named → (change flow).Named) :
    ({ router with flows := router.flows.update generation change keeps } : CameraRouter).Sound := by
  cases sound
  constructor <;> grind [Indexed, Owns, Table.find?_update, Option.map_eq_some_iff]

theorem rename (materialId sessionId : String) (round : Nat) :
    ({ router with
      activeMaterialId := materialId
      activeSessionId := sessionId
      continuousRound := round } : CameraRouter).Sound :=
  { sound with }

theorem request (materialId sessionId reason : String) :
    (router.requestCameraMaterialFlowClose materialId sessionId reason).Sound := by
  unfold requestCameraMaterialFlowClose
  split
  · exact sound.mark _ _ _ (fun _ => rfl) (fun _ => rfl) (fun _ _ open' => by cases open')
      (fun _ named => named)
  rename_i none
  -- The flow is registered and marked at once, so that its session need not have a name.
  refine sound.enlarge
    { generation := router.routeGeneration + 1
      materialId := materialId
      sessionId := sessionId
      productionEventId := ""
      closeRequested := true
      closeRequestedRound := router.continuousRound
      closeReason := reason } rfl rfl rfl ?_ ?_ rfl (fun open' => by cases open')
  · intro other
    simp only [markCloseRequested, register, Table.find?_update, Table.find?_put]
    by_cases new : router.routeGeneration + 1 = other
    · simp [new]
    · simp [new, Ne.symm new]
  · rintro other old found rfl
    rw [sound.indexed other old found, flow?, Option.getD_some, found] at none
    cases none

theorem openFlow (materialId sessionId productionEventId : String) :
    (router.openCameraMaterialFlow materialId sessionId productionEventId).Sound := by
  unfold openCameraMaterialFlow
  split
  · exact sound
  rename_i names
  simp only [Bool.or_eq_true, decide_eq_true_eq, not_or] at names
  split
  next existing found =>
    obtain ⟨generation, entry, isFound⟩ := Option.bind_eq_some_iff.mp found
    rw [sound.present generation existing isFound]
    refine sound.mark _ _ _ (fun _ => rfl) (fun _ => rfl) ?_ (fun flow named => ⟨named.1, names.2⟩)
    intro flow isFlow _
    have key : existing.generation = generation := Table.find?_key isFound
    rw [key, isFound] at isFlow
    cases isFlow
    have material := (sound.index materialId generation entry).2 existing isFound
    exact ⟨material ▸ names.1, names.2⟩
  next nothing =>
    refine sound.enlarge
      { generation := router.routeGeneration + 1
        materialId := materialId
        sessionId := sessionId
        productionEventId := productionEventId } rfl rfl rfl ?_ ?_ rfl (fun _ => names)
    · intro other
      simp only [register, Table.find?_put]
    · rintro generation flow found rfl
      rw [sound.indexed generation flow found, Option.bind_some, found] at nothing
      cases nothing

theorem steelEvent (event : SteelEvent) : (router.steelEvent event).Sound := by
  cases event with
  | steelIn materialId sessionId flowCode =>
    have opened := sound.rename materialId sessionId router.continuousRound
    simp only [CameraRouter.steelEvent, steelIn]
    split
    · exact (opened.request _ _ _).openFlow _ _ _
    · exact opened.openFlow _ _ _
  | steelOut materialId sessionId =>
    have left := sound.rename "" "" router.continuousRound
    simp only [CameraRouter.steelEvent]
    unfold steelOut
    extract_lets completed completedSession now
    split
    · exact left
    · exact left.request _ _ _

/-- The close pass removes flows and hands cameras to the newest open one. -/
theorem finalize (profile : RoutingProfile) (pending : String → Nat) (roundIndex : Nat) :
    (finalizeCameraMaterialFlows profile pending roundIndex router).Sound := by
  have closes : router.Closes (finalizeCameraMaterialFlows profile pending roundIndex router) :=
    .finalize profile pending roundIndex
  have owns : ∀ cameraKey, router.Owns
      ((finalizeCameraMaterialFlows profile pending roundIndex router).routeStates cameraKey) := by
    intro cameraKey
    apply finalize_state router.Owns (sound.owners cameraKey)
    intro state flow _ _ _ owned
    unfold CameraMaterialRouteState.force
    split
    · split
      next newest isNewest =>
        rw [Option.filter_eq_some_iff] at isNewest
        obtain ⟨inTable, -, open'⟩ := newestOpen_mem isNewest.1
        have found := Table.mem_rows_iff.mp inTable
        intro generation same
        cases same
        refine ⟨(sound.generations _ newest found).2, ?_⟩
        intro other isOther
        rw [found] at isOther
        cases isOther
        exact sound.named _ newest found open'
      · exact nofun
    · split
      · exact owned
      · exact owned
  have indexed := sound.indexed.finalize profile pending roundIndex
  obtain ⟨generations, closed, -, byId, names, -⟩ := sound
  obtain ⟨-, -, generation, -, flows, index⟩ := closes
  constructor <;> grind [Owns, CameraMaterialFlow.Same, CameraMaterialFlow.Named]

end

end CameraRouter.Sound

/-! ## A routing on a sound router -/

section Routing

variable {profile : RoutingProfile} {results : List Row} {router : CameraRouter}

theorem route_state (profile : RoutingProfile) (own : router.OwnRows)
    (nodup : (results.map Row.cameraKey).Nodup) (cameraKey : String) :
    (routeCameraMaterialRound profile results router).2.routeStates cameraKey =
        router.routeStates cameraKey ∨
      ∃ shown ∈ results, shown.cameraKey = cameraKey ∧ shown.framed = true ∧
        (routeCameraMaterialRound profile results router).2.routeStates cameraKey =
          ((router.routeStates cameraKey).round profile.bufferRounds router.activeFlow router.flows
            shown).1 := by
  have part : Idle profile results cameraKey ∨ _ := idle_or_framed cameraKey
  rcases part with idle | ⟨enabled, shown, inResults, rfl, framed⟩
  · exact .inl (congrArg Prod.fst (route_idle own idle))
  · exact .inr ⟨shown, inResults, rfl, framed,
      congrArg Prod.fst (route_camera own nodup inResults framed enabled)⟩

/-- A flow that a camera may be handed to is one the storage takes frames for. -/
theorem CameraRouter.Sound.owns_of (sound : router.Sound) {state next : CameraMaterialRouteState}
    (owned : router.Owns state)
    (moved : next.ownerGeneration = none ∨ next.ownerGeneration = state.ownerGeneration ∨
      ∃ flow ∈ router.activeFlow, next.ownerGeneration = some flow.generation) :
    router.Owns next := by
  intro generation owner
  rcases moved with none | same | ⟨active, isActive, entered⟩
  · rw [none] at owner
    cases owner
  · exact owned generation (same ▸ owner)
  rw [entered] at owner
  cases owner
  have found := activeFlow_found isActive
  refine ⟨(sound.generations _ active found).2, ?_⟩
  intro flow isFlow
  rw [found] at isFlow
  cases isFlow
  exact sound.activeFlow_named isActive

variable (sound : router.Sound) (own : router.OwnRows) (nodup : (results.map Row.cameraKey).Nodup)
include sound own nodup

theorem CameraRouter.Sound.route : (routeCameraMaterialRound profile results router).2.Sound := by
  have same : CameraRouter.SameFlows router (routeCameraMaterialRound profile results router).2 :=
    (swept_route own).flows
  constructor
  case owners =>
    intro cameraKey
    simp only [CameraRouter.Owns, same.routeGeneration, same.flows]
    apply sound.owns_of (sound.owners cameraKey)
    rcases route_state profile own nodup cameraKey with unmoved | ⟨shown, -, -, -, moved⟩
    · exact .inr (.inl (by rw [unmoved]))
    rw [moved]
    cases lit : shown.materialSignal with
    | false => exact .inl (by simp [CameraMaterialRouteState.round, lit, CameraMaterialRouteState.gap])
    | true =>
      grind [CameraMaterialRouteState.hold, CameraMaterialRouteState.round_lit,
        CameraMaterialRouteState.arrived_owner]
  case indexed =>
    simp only [CameraRouter.Indexed, same.flows, same.flowById]
    exact sound.indexed
  all_goals simp only [same.flows, same.flowById, same.routeGeneration]
  · exact sound.generations
  · exact sound.present
  · exact sound.index
  · exact sound.named

/-- Every row of a batch is one that was held back for the active flow or one of this round. -/
theorem route_row {batch : Batch}
    (mem : batch ∈ (routeCameraMaterialRound profile results router).1) {row : Row}
    (inItems : row ∈ batch.items) : batch.header.1.Named ∧
      ((∃ active ∈ router.activeFlow, batch.header.1 = active ∧
          (router.routeStates row.cameraKey).releases active
            (currentSignal results row.cameraKey) = true ∧
          ∃ held ∈ (router.routeStates row.cameraKey).pendingRows, row = held.assignedTo active) ∨
        ∃ shown ∈ results, shown.framed = true ∧ row = shown.assignedTo batch.header.1) := by
  obtain ⟨enabled, shown, inResults, camera, framed, handed⟩ :=
    route_origin own nodup mem inItems
  have header := (proper_route own batch mem).header
  obtain ⟨lit, released | ⟨flow, owned, now⟩⟩ := CameraMaterialRouteState.mem_round handed
  · obtain ⟨active, isActive, ready, held, inBuffer, same⟩ := released
    have key : batch.key = (held.round, active.generation) := congrArg Prod.fst same
    rw [key, activeFlow_found isActive] at header
    cases header
    refine ⟨sound.activeFlow_named isActive, .inl ⟨_, isActive, rfl, ?_, held, inBuffer,
      congrArg Prod.snd same⟩⟩
    rw [← camera, currentSignal_of_mem nodup inResults framed, lit, camera]
    exact ready
  · have key : batch.key = (shown.round, flow.generation) := congrArg Prod.fst now
    simp only [CameraMaterialRouteState.owner, Option.filter_eq_some_iff] at owned
    have generation : flow.generation = _ := Table.find?_key owned.1
    rw [key, generation, owned.1] at header
    cases header
    refine ⟨?_, .inr ⟨shown, inResults, framed, congrArg Prod.snd now⟩⟩
    have owns : router.Owns ((router.routeStates row.cameraKey).arrived router.activeFlow shown) :=
      sound.owns_of (sound.owners row.cameraKey) CameraMaterialRouteState.arrived_owner
    cases owner : ((router.routeStates row.cameraKey).arrived router.activeFlow
        shown).ownerGeneration with
    | none =>
      rw [owner, Option.getD_none, sound.unnumbered] at owned
      cases owned.1
    | some generation =>
      rw [owner] at owned
      exact (owns generation owner).2 _ owned.1

end Routing

end SteelInspection.Capture
