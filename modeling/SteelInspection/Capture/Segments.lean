import SteelInspection.Capture.RoundEvents

/-! # Local runs of material

What holds of the frames of a camera in every run of the routing.  A camera stays in the flow of its
segment until it shows no material or until that flow is closed by force, it only goes on to younger
flows, and what it holds back belongs to the segment it is in.  The frames that came and the flows that
were closed by force are kept beside the recorder.
-/

namespace SteelInspection.Capture

open Foundations

/-! ## Forced closures -/

variable {flow : CameraMaterialFlow} {cameraKey : String}

section Forcing

variable {profile : RoutingProfile} {roundIndex : Nat} {newestOpen : Option CameraMaterialFlow}

/-- The closures by force of a close pass: the generation and a camera that was not done with it. -/
def forcedIn (profile : RoutingProfile) (roundIndex : Nat) (newestOpen : Option CameraMaterialFlow) :
    FinalizePass → List CameraMaterialFlow → List (Nat × String)
  | _, [] => []
  | pass, flow :: flows =>
    (forcedOut profile roundIndex pass.router flow).map (flow.generation, ·) ++
      forcedIn profile roundIndex newestOpen
        (finalizeFlow profile roundIndex newestOpen pass flow) flows

/-- No camera is left in a flow that is ready to be closed. -/
def FinalizePass.Left (profile : RoutingProfile) (newestOpen : Option CameraMaterialFlow)
    (pass : FinalizePass) : Prop :=
  ∀ generation ∈ pass.ready, (∀ newest ∈ newestOpen, newest.generation ≠ generation) ∧
    ∀ cameraKey ∈ profile.enabledCameras,
      (pass.router.routeStates cameraKey).ownerGeneration ≠ some generation

theorem FinalizePass.Left.finalizeFlow {pass : FinalizePass} (left : pass.Left profile newestOpen)
    (other : flow.closeRequested = true → ∀ newest ∈ newestOpen, newest.generation ≠ flow.generation) :
    (finalizeFlow profile roundIndex newestOpen pass flow).Left profile newestOpen := by
  intro generation mem
  rcases finalizeFlow_ready mem with old | ⟨rfl, present, requested, late⟩
  · obtain ⟨apart, unowned⟩ := left generation old
    refine ⟨apart, fun cameraKey enabled owner => unowned cameraKey enabled ?_⟩
    rw [finalizeFlow_state] at owner
    split at owner
    · rcases force_owner owner with ⟨same, -⟩ | ⟨newest, isNewest, same, -⟩
      · exact same
      · exact absurd same (apart newest isNewest)
    · exact owner
  · -- Whoever is in the flow at its turn is moved out of it.
    refine ⟨other requested, fun cameraKey enabled owner => ?_⟩
    rw [finalizeFlow_state] at owner
    split at owner
    · rcases force_owner owner with ⟨-, apart⟩ | ⟨newest, -, -, younger⟩
      · exact apart rfl
      · exact lt_irrefl _ younger
    · grind [mem_forcedOut, CameraMaterialRouteState.unfinished]

theorem owner_stays {router : CameraRouter} {pending : String → Nat} {generation : Nat}
    (enabled : cameraKey ∈ profile.enabledCameras)
    (owner : ((finalizeCameraMaterialFlows profile pending roundIndex router).routeStates
      cameraKey).ownerGeneration = some generation)
    (found : (router.flows.find? generation).isSome) :
    ((finalizeCameraMaterialFlows profile pending roundIndex router).flows.find?
      generation).isSome := by
  obtain ⟨flow, found⟩ := Option.isSome_iff_exists.mp found
  have key : flow.generation = generation := Table.find?_key found
  have left : (closePass profile roundIndex router).Left profile router.newestOpen := by
    refine foldl_invariant_of_mem (FinalizePass.Left profile router.newestOpen) ?_
      nofun
    intro pass other mem kept
    refine kept.finalizeFlow fun requested newest isNewest same => ?_
    obtain ⟨inTable, -, open'⟩ := newestOpen_mem isNewest
    grind [Table.mem_rows_iff, List.mem_insertionSort]
  have retains : router.Retains flow (finalizeCameraMaterialFlows profile pending roundIndex router) :=
    retains_of_notReady (key ▸ found) fun ready =>
      (left _ ready).2 cameraKey enabled (by rw [key, ← owner, finalize_routeStates])
  obtain ⟨now, isNow, -⟩ := retains.found
  rw [← key, isNow]
  rfl

end Forcing

/-! ## What is known of a camera -/

namespace CameraMaterialRouteState

/-- Of two frames of a camera the later one is in the same flow or in a younger one.  Between two
rounds without material the flow changes only when it was closed by force. -/
structure Ordered (dark forced : Nat → Prop) (one other : Assignment) : Prop where
  once : one.2.round = other.2.round → one.1 = other.1
  ascending : one.2.round < other.2.round → one.1.2 ≤ other.1.2
  segments : one.2.round < other.2.round →
    (∀ round, dark round → one.2.round ≤ round → other.2.round < round) →
    one.1.2 ≠ other.1.2 → forced one.1.2

/-- A camera with what it has handed out, its rounds without material, and the generations it was
forced out of. -/
structure Follows (handed : Assignment → Prop) (dark forced : Nat → Prop) (now limit : Nat)
    (flows : FlowTable) (state : CameraMaterialRouteState) : Prop where
  bounded : state.pendingRows.length ≤ limit
  away : state.localPresent = false → state.pendingRows = []
  owned : ∀ generation, state.ownerGeneration = some generation → state.pendingRows = [] ∧
    generation ≤ state.lastAssignedGeneration ∧ (flows.find? generation).isSome
  held : ∀ row ∈ state.pendingRows, row.materialSignal = true ∧ row.round ≤ now ∧
    ∀ round, dark round → round < row.round
  came : ∀ round, dark round → round ≤ now
  lit : ∀ old, handed old → old.2.materialSignal = true ∧ old.1.1 = old.2.round ∧ old.2.round ≤ now
  order : ∀ old, handed old → ∀ row ∈ state.pendingRows, old.2.round < row.round
  younger : ∀ old, handed old → old.1.2 ≤ state.lastAssignedGeneration ∧
    ∀ generation, state.ownerGeneration = some generation → old.1.2 ≤ generation
  stays : ∀ old, handed old → (∀ round, dark round → round < old.2.round) →
    state.localPresent = true ∧ (state.ownerGeneration = some old.1.2 ∨ forced old.1.2)
  pairs : ∀ one, handed one → ∀ other, handed other → Ordered dark forced one other

section Follows

variable {handed : Assignment → Prop} {dark forced : Nat → Prop} {now limit : Nat}
  {flows : FlowTable} {state : CameraMaterialRouteState}
  {active newestOpen : Option CameraMaterialFlow} {row : Row}

theorem Follows.initial (unhanded : ∀ old, ¬handed old) (undark : ∀ round, ¬dark round) :
    Follows handed dark forced now limit flows {} := by
  constructor <;> simp_all

theorem Follows.mono {fewer : Assignment → Prop} {more : Nat → Prop} {later : Nat} {table : FlowTable}
    (follows : Follows handed dark forced now limit flows state)
    (less : ∀ old, fewer old → handed old) (also : ∀ generation, forced generation → more generation)
    (le : now ≤ later) (stays : ∀ generation, state.ownerGeneration = some generation →
      (flows.find? generation).isSome → (table.find? generation).isSome) :
    Follows fewer dark more later limit table state := by
  obtain ⟨bounded, away, owned, held, came, lit, order, younger, present, pairs⟩ := follows
  refine ⟨bounded, away, by grind, by grind, by grind, by grind, by grind, by grind, by grind, ?_⟩
  intro one inOne other inOther
  obtain ⟨once, ascending, segments⟩ := pairs one (less one inOne) other (less other inOther)
  exact ⟨once, ascending, fun before run apart => also _ (segments before run apart)⟩

/-- A row with material meets a segment that goes on, or one that the active flow takes over. -/
theorem arrived_cases (active : Option CameraMaterialFlow) (row : Row)
    (away : state.localPresent = false → state.pendingRows = []) :
    (state.arrived active row).localPresent = true ∧
      ((∃ flow ∈ active, state.lastAssignedGeneration < flow.generation ∧
          (state.localPresent = true → state.pendingRows ≠ []) ∧
          (state.arrived active row).ownerGeneration = some flow.generation ∧
          (state.arrived active row).lastAssignedGeneration = flow.generation ∧
          (state.arrived active row).pendingRows = [] ∧
          (state.release active).2 = state.pendingRows.map (assign flow)) ∨
        (state.arrived active row).lastAssignedGeneration = state.lastAssignedGeneration ∧
          (state.arrived active row).pendingRows = state.pendingRows ∧
          (state.release active).2 = [] ∧ (state.localPresent = true ∧
              (state.arrived active row).ownerGeneration = state.ownerGeneration ∨
            state.localPresent = false ∧ (state.arrived active row).ownerGeneration = none)) := by
  cases active with
  | none =>
    cases present : state.localPresent <;> simp [arrived, arrive, release, enter, present]
  | some flow =>
    cases present : state.localPresent
    · by_cases younger : state.lastAssignedGeneration < flow.generation <;>
        simp [arrived, arrive, release, releases, enter, present, away present, younger]
    · by_cases younger : state.lastAssignedGeneration < flow.generation <;>
        by_cases nothing : state.pendingRows = [] <;>
        simp [arrived, arrive, release, releases, present, younger, nothing]

section

variable (follows : Follows handed dark forced now limit flows state)
include follows

theorem Follows.hold (nobody : state.ownerGeneration = none) (here : state.localPresent = true)
    (lit : row.materialSignal = true) (new : now < row.round) :
    Follows handed dark forced row.round limit flows (state.hold limit row) := by
  cases follows
  unfold CameraMaterialRouteState.hold
  split
  · constructor <;> grind
  · split <;> constructor <;> grind

/-- Rows of the present segment go to the owner of the segment. -/
theorem Follows.hand {next : CameraMaterialRouteState} (rows : List Row)
    (here : next.localPresent = true) (pending : next.pendingRows = [])
    (owner : next.ownerGeneration = some flow.generation)
    (last : flow.generation ≤ next.lastAssignedGeneration)
    (found : (flows.find? flow.generation).isSome)
    (mine : ∀ shown ∈ rows, shown ∈ state.pendingRows ∨ shown.materialSignal = true ∧
      now < shown.round ∧ shown.round = row.round)
    (newer : ∀ old, handed old → old.1.2 ≤ flow.generation)
    (moved : ∀ old, handed old → (∀ round, dark round → round < old.2.round) →
      old.1.2 = flow.generation ∨ forced old.1.2)
    (new : now < row.round) :
    Follows (fun old => handed old ∨ old ∈ rows.map (assign flow)) dark forced row.round limit flows
      next := by
  obtain ⟨bounded, away, owned, held, came, lit, order, younger, stays, pairs⟩ := follows
  have out : ∀ new ∈ rows.map (assign flow), ∃ shown ∈ rows,
      new.1 = (shown.round, flow.generation) ∧ new.2.round = shown.round ∧
        new.2.materialSignal = shown.materialSignal := by
    grind [assign, Row.assignedTo, cameraMaterialBatchKey]
  constructor
  case pairs =>
    rintro one (old | new) other (also | alsoNew)
    · exact pairs one old other also
    all_goals constructor <;> grind
  all_goals grind

theorem Follows.round (unnumbered : flows.find? 0 = none)
    (unclosed : ∀ generation flow, flows.find? generation = some flow → flow.closed = false)
    (isActive : ∀ flow ∈ active, flows.find? flow.generation = some flow) (new : now < row.round) :
    Follows (fun old => handed old ∨ old ∈ (state.round limit active flows row).2)
      (fun round => dark round ∨ round = row.round ∧ row.materialSignal = false) forced row.round limit
      flows (state.round limit active flows row).1 := by
  cases lit : row.materialSignal with
  | false =>
    obtain ⟨bounded, away, owned, held, came, lit, order, younger, stays, pairs⟩ := follows
    constructor
    case pairs =>
      exact fun one _ other _ => by constructor <;> grind [Ordered, CameraMaterialRouteState.round]
    all_goals grind [CameraMaterialRouteState.round, gap]
  | true =>
    obtain ⟨here, ⟨flow, mem, newer, segment, owner, last, pending, released⟩ |
      ⟨last, pending, released, owner⟩⟩ := arrived_cases active row follows.away
    · -- The active flow takes the segment over, with what was held back.
      have owned : (state.arrived active row).owner flows = some flow := by
        simp [CameraMaterialRouteState.owner, owner, isActive flow mem, Option.filter,
          unclosed _ _ (isActive flow mem)]
      rw [round_lit lit, owned, released]
      obtain ⟨-, -, own, -, -, -, -, younger, stays, -⟩ := id follows
      have handed := follows.hand (state.pendingRows ++ [row]) here pending owner last.ge
        (by simp [isActive flow mem]) (by grind) (by grind) (by grind) new
      simpa using handed
    · -- The segment goes on in its flow or waits for one.
      have next : Follows handed dark forced now limit flows (state.arrived active row) := by
        cases follows
        constructor <;> grind
      rw [round_lit lit, released]
      cases owned : (state.arrived active row).ownerGeneration with
      | none =>
        have nobody : (state.arrived active row).owner flows = none := by
          simp [CameraMaterialRouteState.owner, owned, unnumbered]
        rw [nobody]
        simpa using next.hold owned here lit new
      | some generation =>
        obtain ⟨flow, found⟩ := Option.isSome_iff_exists.mp (next.owned generation owned).2.2
        have key : flow.generation = generation := Table.find?_key found
        subst key
        have isOwner : (state.arrived active row).owner flows = some flow := by
          simp [CameraMaterialRouteState.owner, owned, found, Option.filter, unclosed _ _ found]
        rw [isOwner]
        obtain ⟨-, -, own, -, -, -, -, younger, stays, -⟩ := id next
        obtain ⟨nothing, counted, there⟩ := own _ owned
        have handed := next.hand [row] here nothing owned counted there (by grind) (by grind)
          (by grind) new
        simpa using handed

theorem Follows.force (newestFound : ∀ newest ∈ newestOpen, (flows.find? newest.generation).isSome) :
    Follows handed dark (fun generation => forced generation ∨ generation = flow.generation) now limit
      flows (state.force flow newestOpen) := by
  have kept : Follows handed dark (fun generation => forced generation ∨ generation = flow.generation)
      now limit flows state :=
    follows.mono (fun _ old => old) (fun _ => .inl) le_rfl fun _ _ found => found
  cases kept
  unfold CameraMaterialRouteState.force
  split
  · split
    next newest isNewest =>
      simp only [Option.filter_eq_some_iff] at isNewest
      constructor <;> grind
    · constructor <;> grind
  · split <;> constructor <;> grind

end

theorem Follows.closePass (profile : RoutingProfile) (roundIndex : Nat)
    (turns : List CameraMaterialFlow) (pass : FinalizePass)
    (follows : Follows handed dark forced now limit flows (pass.router.routeStates cameraKey))
    (newestFound : ∀ newest ∈ newestOpen, (flows.find? newest.generation).isSome) :
    Follows handed dark (fun generation => forced generation ∨
        (generation, cameraKey) ∈ forcedIn profile roundIndex newestOpen pass turns) now limit flows
      ((turns.foldl (finalizeFlow profile roundIndex newestOpen) pass).router.routeStates
        cameraKey) := by
  induction turns generalizing pass forced with
  | nil => exact follows.mono (fun _ old => old) (fun _ => .inl) le_rfl fun _ _ found => found
  | cons flow turns ih =>
    have turn : Follows handed dark (fun generation => forced generation ∨ (generation, cameraKey) ∈
        (forcedOut profile roundIndex pass.router flow).map (flow.generation, ·)) now limit flows
        ((finalizeFlow profile roundIndex newestOpen pass flow).router.routeStates cameraKey) := by
      rw [finalizeFlow_state]
      split
      · exact (follows.force newestFound).mono (fun _ old => old) (by grind) le_rfl
          fun _ _ found => found
      · exact follows.mono (fun _ old => old) (fun _ => .inl) le_rfl fun _ _ found => found
    refine (ih _ turn).mono (fun _ old => old) ?_ le_rfl fun _ _ found => found
    simp only [forcedIn, List.mem_append]
    exact fun _ => or_assoc.mp

end Follows

end CameraMaterialRouteState

/-! ## Runs -/

/-- A recorder with the frames that came and the closures by force. -/
structure Track where
  recorder : Recorder := {}
  received : List Row := []
  forced : List (Nat × String) := []

namespace Track

variable {profile : StorageProfile} {track : Track}

def step (profile : StorageProfile) (track : Track) (step : RecorderStep) : Track where
  recorder := track.recorder.step profile step
  received :=
    match step with
    | .route results => track.received ++ results.filter Row.framed
    | _ => track.received
  forced :=
    match step with
    | .finalize _ =>
      let router := track.recorder.router
      track.forced ++ forcedIn profile.routing router.continuousRound router.newestOpen { router }
        (router.flows.rows.insertionSort fun first second => first.generation ≤ second.generation)
    | _ => track.forced

/-- The rows that were put into flows, with the capture round and the generation. -/
def entries (track : Track) : List Assignment := Group.entries track.recorder.batches

/-- The rounds lie in one local run of the camera: it shows material in all frames between them. -/
def InOneRun (track : Track) (cameraKey : String) (first last : Nat) : Prop :=
  ∀ row ∈ track.received, row.cameraKey = cameraKey → first ≤ row.round → row.round ≤ last →
    row.materialSignal = true

/-- What the routing promises of the frames of the cameras. -/
structure Regular (profile : StorageProfile) (track : Track) : Prop where
  lit : ∀ entry ∈ track.entries, entry.2.materialSignal = true
  once : ∀ one ∈ track.entries, ∀ other ∈ track.entries, one.2.cameraKey = other.2.cameraKey →
    one.2.round = other.2.round → one.1 = other.1
  ascending : ∀ one ∈ track.entries, ∀ other ∈ track.entries, one.2.cameraKey = other.2.cameraKey →
    one.2.round < other.2.round → one.1.2 ≤ other.1.2
  segments : ∀ one ∈ track.entries, ∀ other ∈ track.entries, one.2.cameraKey = other.2.cameraKey →
    one.2.round < other.2.round → track.InOneRun one.2.cameraKey one.2.round other.2.round →
    one.1.2 ≠ other.1.2 → (one.1.2, one.2.cameraKey) ∈ track.forced
  bounded : ∀ cameraKey ∈ profile.routing.enabledCameras,
    (track.recorder.router.routeStates cameraKey).pendingRows.length ≤ profile.routing.bufferRounds

/-- The camera had a frame without material in the round. -/
def Dark (track : Track) (cameraKey : String) (round : Nat) : Prop :=
  ∃ row ∈ track.received, row.cameraKey = cameraKey ∧ row.round = round ∧ row.materialSignal = false

/-- What is known of a camera of the track. -/
def Knows (profile : StorageProfile) (track : Track) (cameraKey : String) : Prop :=
  (track.recorder.router.routeStates cameraKey).Follows
    (fun entry => entry ∈ track.entries ∧ entry.2.cameraKey = cameraKey) (track.Dark cameraKey)
    (fun generation => (generation, cameraKey) ∈ track.forced) track.recorder.lastRouted
    profile.routing.bufferRounds track.recorder.router.flows

/-- What every step keeps. -/
structure Kept (profile : StorageProfile) (track : Track) : Prop where
  sound : track.recorder.Sound
  enabled : ∀ entry ∈ track.entries, entry.2.cameraKey ∈ profile.routing.enabledCameras
  cameras : ∀ cameraKey ∈ profile.routing.enabledCameras, track.Knows profile cameraKey

theorem Kept.initial : Kept profile {} where
  sound := .initial
  enabled _ mem := by cases mem
  cameras _ _ := .initial (fun _ handed => by cases handed.1) fun _ ⟨_, mem, _⟩ => by cases mem

theorem Kept.regular (kept : track.Kept profile) : track.Regular profile where
  lit entry mem := ((kept.cameras _ (kept.enabled entry mem)).lit entry ⟨mem, rfl⟩).1
  once one inOne other inOther same :=
    ((kept.cameras _ (kept.enabled one inOne)).pairs one ⟨inOne, rfl⟩ other ⟨inOther, same.symm⟩).once
  ascending one inOne other inOther same := ((kept.cameras _ (kept.enabled one inOne)).pairs one
    ⟨inOne, rfl⟩ other ⟨inOther, same.symm⟩).ascending
  segments one inOne other inOther same before run apart := by
    refine ((kept.cameras _ (kept.enabled one inOne)).pairs one ⟨inOne, rfl⟩ other
      ⟨inOther, same.symm⟩).segments before (fun round ⟨row, mem, own, isRound, dark⟩ starts => ?_) apart
    have lit := run row mem own
    grind
  bounded cameraKey enabled := (kept.cameras cameraKey enabled).bounded

section Route

variable {results : List Row}

theorem mem_entries_route (profile : StorageProfile) (own : track.recorder.router.OwnRows)
    (nodup : (results.map Row.cameraKey).Nodup) (entry : Assignment)
    (mem : entry ∈ (track.step profile (.route results)).entries) :
    entry ∈ track.entries ∨ entry.2.cameraKey ∈ profile.routing.enabledCameras ∧
      ∃ shown ∈ results, shown.cameraKey = entry.2.cameraKey ∧ shown.framed = true ∧
        entry ∈ ((track.recorder.router.routeStates entry.2.cameraKey).round
          profile.routing.bufferRounds track.recorder.router.activeFlow track.recorder.router.flows
          shown).2 := by
  obtain ⟨key, row⟩ := entry
  obtain ⟨batch, inBatches, rfl, inItems⟩ := Group.mem_entries.mp mem
  rcases List.mem_append.mp inBatches with old | new
  · exact .inl (Group.mem_entries.mpr ⟨batch, old, rfl, inItems⟩)
  · exact .inr (route_origin own nodup new inItems)

theorem Kept.route (kept : track.Kept profile)
    (captured : track.recorder.Captured (.route results)) :
    (track.step profile (.route results)).Kept profile := by
  have own := kept.sound.ownRows
  have listed := mem_entries_route profile own captured.1
  have only := List.inj_on_of_nodup_map captured.1
  refine ⟨kept.sound.step captured, fun new mem => ?_, fun cameraKey enabled => ?_⟩
  · rcases listed new mem with old | ⟨enabled, -⟩
    · exact kept.enabled new old
    · exact enabled
  have flows : (track.step profile (.route results)).recorder.router.flows =
      track.recorder.router.flows := (swept_route own).flows.flows
  have knows := kept.cameras cameraKey enabled
  unfold Knows at knows ⊢
  rcases idle_or_framed cameraKey with idle | ⟨-, shown, inResults, rfl, framed⟩
  · have unmoved : (track.step profile (.route results)).recorder.router.routeStates cameraKey = _ :=
      congrArg Prod.fst (route_idle own idle)
    have frameless := idle.resolve_left (not_not_intro enabled)
    have dark : (track.step profile (.route results)).Dark cameraKey = track.Dark cameraKey := by
      funext round
      simp only [Dark, step, List.mem_append, List.mem_filter]
      grind
    rw [unmoved, dark, flows]
    exact knows.mono (by grind) (fun _ known => known) captured.2.2.le fun _ _ found => found
  · have state : (track.step profile (.route results)).recorder.router.routeStates shown.cameraKey =
        _ := congrArg Prod.fst (route_camera own captured.1 inResults framed enabled)
    have dark : (track.step profile (.route results)).Dark shown.cameraKey = fun round =>
        track.Dark shown.cameraKey round ∨ round = shown.round ∧ shown.materialSignal = false := by
      funext round
      simp only [Dark, step, List.mem_append, List.mem_filter]
      grind
    rw [state, dark, flows]
    have routed := knows.round kept.sound.router.unnumbered kept.sound.router.present
      (fun _ => activeFlow_found) (Recorder.Captured.new captured shown inResults)
    exact routed.mono (by grind) (fun _ known => known) (captured.2.1 shown inResults).le
      fun _ _ found => found

end Route

theorem Kept.step (kept : track.Kept profile) {step : RecorderStep}
    (captured : track.recorder.Captured step) : (track.step profile step).Kept profile := by
  have sound : (track.step profile step).recorder.Sound := kept.sound.step captured
  cases step with
  | route results => exact kept.route captured
  | startRound => exact ⟨sound, kept.enabled, kept.cameras⟩
  | steelEvent event =>
    have opens : track.recorder.router.Opens (track.recorder.router.steelEvent event) :=
      .steelEvent event
    refine ⟨sound, kept.enabled, fun cameraKey enabled => ?_⟩
    simp only [Knows, Track.step, Recorder.step, opens.routeStates]
    exact (kept.cameras cameraKey enabled).mono (fun _ old => old) (fun _ known => known) le_rfl
      fun generation _ => opens.flows generation
  | finalize pending =>
    refine ⟨sound, kept.enabled, fun cameraKey enabled => ?_⟩
    have newestFound : ∀ newest ∈ track.recorder.router.newestOpen,
        (track.recorder.router.flows.find? newest.generation).isSome := fun newest isNewest =>
      Option.isSome_iff_exists.mpr ⟨newest, Table.mem_rows_iff.mp (newestOpen_mem isNewest).1⟩
    have passed := (kept.cameras cameraKey enabled).closePass profile.routing
      track.recorder.router.continuousRound (track.recorder.router.flows.rows.insertionSort
        fun first second => first.generation ≤ second.generation)
      { router := track.recorder.router } newestFound
    have state : (track.step profile (.finalize pending)).recorder.router.routeStates cameraKey = _ :=
      congrFun finalize_routeStates cameraKey
    unfold Knows
    rw [state]
    exact passed.mono (fun _ old => old) (fun _ known => List.mem_append.mpr known) le_rfl
      fun generation owner found => owner_stays enabled (state ▸ owner) found

theorem Kept.run (kept : track.Kept profile) {steps : List RecorderStep}
    (permits : Recorder.Permits profile (fun _ _ => True) track.recorder steps) :
    (steps.foldl (Track.step profile) track).Kept profile := by
  induction steps generalizing track with
  | nil => exact kept
  | cons first rest ih => exact ih (kept.step permits.1) permits.2.2

/-- Every run of the routing, whatever the cameras show and miss and whenever flows are opened, asked
to close and closed. -/
theorem runs_regular (profile : StorageProfile) (steps : List RecorderStep)
    (permits : Recorder.Permits profile (fun _ _ => True) {} steps) :
    (steps.foldl (Track.step profile) {}).Regular profile :=
  (Kept.initial.run permits).regular

/-- A camera that still shows material two rounds after the close of its flow was requested. -/
def overstayingCamera : StorageProfile where
  routing :=
    { enabledCameras := ["A"]
      distinct := by decide
      cameraBoundaryBufferRounds := 2
      cameraBoundaryCloseTimeoutRounds := 2 }
  cameraId := id
  ids_distinct := by decide
  ids_named := by decide

def overstayingRun : List RecorderStep :=
  let shows (round : Nat) : List RecorderStep :=
    [.route [{ cameraKey := "A", round, frameReceived := true, rawFrame := some "pixels"
               materialSignal := true, maxIntensity := 200 }], .finalize fun _ => 0]
  [.startRound, .steelEvent (.steelIn "70" "session-70" "")] ++ shows 1 ++
    [.startRound, .steelEvent (.steelIn "71" "session-71" "")] ++ shows 2 ++
    [.startRound] ++ shows 3 ++ [.startRound] ++ shows 4 ++ [.startRound] ++ shows 5

/-- The camera goes on from the first flow to the second after the first was closed by force. -/
theorem overstayingRun_regular :
    (overstayingRun.foldl (Track.step overstayingCamera) {}).Regular overstayingCamera ∧
      ((overstayingRun.foldl (Track.step overstayingCamera) {}).entries.map Prod.fst,
        (overstayingRun.foldl (Track.step overstayingCamera) {}).forced) =
      ([(1, 1), (2, 1), (3, 1), (4, 1), (5, 2)], [(1, "A")]) :=
  ⟨runs_regular overstayingCamera overstayingRun (by decide +kernel), by decide +kernel⟩

end Track

end SteelInspection.Capture
