import SteelInspection.Capture.Events
import SteelInspection.Capture.Handing

/-! # One event for a flow and a round

The recorder is the routing together with the storage behind it.  Steel events may come at any time,
any camera may miss any frame, and the storage writes the batches in the order of the routing.

Rows that a camera held back are handed to a flow later than the frames of other cameras, and the
event of a flow and a round is replaced, never extended.  An event is therefore complete as long as
held back rows only go to flows that have no frames yet.
-/

namespace SteelInspection.Capture

open Foundations

def Batch.place (batch : Batch) : String × Nat := (batch.header.1.materialId, batch.key.1)

/-- The routing and the storage; `batches` is everything that was routed so far. -/
structure Recorder where
  router : CameraRouter := {}
  /-- The last capture round that was routed. -/
  lastRouted : Nat := 0
  store : EventStore := {}
  batches : List Batch := []

inductive RecorderStep where
  | startRound
  | steelEvent (event : SteelEvent)
  | route (results : List Row)
  | finalize (pending : String → Nat)

namespace Recorder

def step (profile : StorageProfile) (recorder : Recorder) : RecorderStep → Recorder
  | .startRound =>
    { recorder with
      router := { recorder.router with
        continuousRound := recorder.router.continuousRound + 1 } }
  | .steelEvent event => { recorder with router := recorder.router.steelEvent event }
  | .route results =>
    let (batches, router) := routeCameraMaterialRound profile.routing results recorder.router
    { router
      lastRouted := recorder.router.continuousRound
      store := batches.foldl (persistCachedRound profile) recorder.store
      batches := recorder.batches ++ batches }
  | .finalize pending =>
    { recorder with
      router := finalizeCameraMaterialFlows profile.routing pending recorder.router.continuousRound
        recorder.router }

/-- What the acquisition hands over: a round is routed once, with one row for a camera. -/
def Captured (recorder : Recorder) : RecorderStep → Prop
  | .route results =>
    (results.map Row.cameraKey).Nodup ∧
      (∀ row ∈ results, row.round = recorder.router.continuousRound) ∧
      recorder.lastRouted < recorder.router.continuousRound
  | _ => True

/-- Rows that were held back are handed only to a flow that has no frames yet. -/
def HandsOverFirst (profile : StorageProfile) (recorder : Recorder) : RecorderStep → Prop
  | .route results =>
    ∀ active ∈ recorder.router.activeFlow,
      (∃ cameraKey ∈ profile.routing.enabledCameras,
        (recorder.router.routeStates cameraKey).releases active
          (currentSignal results cameraKey) = true) →
      ∀ batch ∈ recorder.batches, batch.header.1.materialId ≠ active.materialId
  | _ => True

instance (recorder : Recorder) : (step : RecorderStep) → Decidable (recorder.Captured step)
  | .route _ => inferInstanceAs (Decidable (_ ∧ _ ∧ _))
  | .startRound | .steelEvent _ | .finalize _ => inferInstanceAs (Decidable True)

instance (profile : StorageProfile) (recorder : Recorder) :
    (step : RecorderStep) → Decidable (HandsOverFirst profile recorder step)
  | .route _ => inferInstanceAs (Decidable (∀ active ∈ recorder.router.activeFlow, _ → _))
  | .startRound | .steelEvent _ | .finalize _ => inferInstanceAs (Decidable True)

/-- The recorders that runs with allowed steps lead to. -/
inductive Reached (profile : StorageProfile) (allowed : Recorder → RecorderStep → Prop) :
    Recorder → Prop
  | start : Reached profile allowed {}
  | step {recorder : Recorder} (step : RecorderStep) (reached : Reached profile allowed recorder)
      (captured : recorder.Captured step) (may : allowed recorder step) :
      Reached profile allowed (recorder.step profile step)

def Permits (profile : StorageProfile) (allowed : Recorder → RecorderStep → Prop) :
    Recorder → List RecorderStep → Prop
  | _, [] => True
  | recorder, step :: steps =>
    recorder.Captured step ∧ allowed recorder step ∧
      Permits profile allowed (recorder.step profile step) steps

instance decidablePermits (profile : StorageProfile) (allowed : Recorder → RecorderStep → Prop)
    [decide : ∀ recorder, DecidablePred (allowed recorder)] :
    (recorder : Recorder) → (steps : List RecorderStep) →
      Decidable (Permits profile allowed recorder steps)
  | _, [] => inferInstanceAs (Decidable True)
  | recorder, step :: steps =>
    have := decidablePermits profile allowed (recorder.step profile step) steps
    inferInstanceAs (Decidable (_ ∧ allowed recorder step ∧ _))

theorem Reached.run {profile : StorageProfile} {allowed : Recorder → RecorderStep → Prop}
    {recorder : Recorder} (reached : Reached profile allowed recorder) {steps : List RecorderStep}
    (permits : Permits profile allowed recorder steps) :
    Reached profile allowed (steps.foldl (Recorder.step profile) recorder) := by
  induction steps generalizing recorder with
  | nil => exact reached
  | cons first rest ih =>
    exact ih (reached.step first permits.1 permits.2.1) permits.2.2

structure Complete (profile : StorageProfile) (recorder : Recorder) : Prop where
  once : (recorder.batches.map Batch.place).Nodup
  listed : ∀ batch ∈ recorder.batches, ∀ row ∈ batch.items, profile.writes row = true →
    ∃ event, recorder.store.events batch.header.1.materialId batch.key.1 = some event ∧
      event.Lists row

end Recorder

/-! ## Storing the batches of a routing -/

variable {batch : Batch}

section Storing

variable {profile : StorageProfile} {batches : List Batch} {materialId : String}

theorem persistCachedRound_other (storable : Storable profile batch) (store : EventStore)
    {round : Nat} (elsewhere : (materialId, round) ≠ Batch.place batch) :
    (persistCachedRound profile store batch).events materialId round =
      store.events materialId round := by
  rcases persistCachedRound_spec storable store with ⟨same, -⟩ | ⟨event, replaced, -⟩
  · rw [same]
  rw [replaced]
  simp only [EventStore.replace, Function.update_apply]
  by_cases sameFlow : materialId = batch.header.1.materialId
  · have otherRound : round ≠ batch.key.1 := fun sameRound =>
      elsewhere (Prod.ext sameFlow sameRound)
    rw [if_pos sameFlow, Function.update_of_ne otherRound, sameFlow]
  · rw [if_neg sameFlow]

section

variable (storable : ∀ batch ∈ batches, Storable profile batch)
include storable

theorem persist_other (store : EventStore) {round : Nat}
    (elsewhere : (materialId, round) ∉ batches.map Batch.place) :
    (batches.foldl (persistCachedRound profile) store).events materialId round =
      store.events materialId round := by
  refine foldl_invariant_of_mem
    (fun now : EventStore => now.events materialId round = store.events materialId round) ?_ rfl
  intro now batch mem same
  rw [persistCachedRound_other (storable batch mem) now, same]
  exact fun here => elsewhere (here ▸ List.mem_map_of_mem mem)

theorem persist_own (places : (batches.map Batch.place).Nodup) (store : EventStore)
    (inBatches : batch ∈ batches) {row : Row} (mem : row ∈ batch.items)
    (written : profile.writes row = true) :
    ∃ event, (batches.foldl (persistCachedRound profile) store).events
      batch.header.1.materialId batch.key.1 = some event ∧ event.Lists row := by
  induction batches generalizing store with
  | nil => cases inBatches
  | cons first rest ih =>
    have later : ∀ batch ∈ rest, Storable profile batch :=
      fun batch inRest => storable batch (List.mem_cons_of_mem _ inRest)
    rw [List.map_cons, List.nodup_cons] at places
    rw [List.foldl_cons]
    rcases List.mem_cons.mp inBatches with rfl | inRest
    · rw [persist_other later _ places.1]
      rcases persistCachedRound_spec (storable batch inBatches) store with
        ⟨-, nothing⟩ | ⟨event, replaced, listed⟩
      · rw [nothing _ mem] at written
        cases written
      · refine ⟨event, ?_, listed _ mem written⟩
        rw [replaced]
        simp [EventStore.replace]
    · exact ih later places.2 _ inRest

end

theorem storable_route {results : List Row} {router : CameraRouter} {last : Nat}
    (sound : router.Sound)
    (stock : ∀ cameraKey, (router.routeStates cameraKey).Stock cameraKey last)
    (nodup : (results.map Row.cameraKey).Nodup) (new : ∀ row ∈ results, last < row.round)
    (mem : batch ∈ (routeCameraMaterialRound profile.routing results router).1) :
    Storable profile batch := by
  have own : router.OwnRows := fun cameraKey => (stock cameraKey).own
  obtain ⟨first, inItems⟩ := List.exists_mem_of_ne_nil _ (route_filled own batch mem)
  obtain ⟨named, -⟩ := route_row sound own nodup mem inItems
  refine ⟨named.1, named.2, ?_, ?_, (proper_route own batch mem).rows, ?_⟩
  · intro row inRow
    obtain ⟨-, ⟨active, -, -, -, held, inBuffer, rfl⟩ | ⟨shown, -, framed, rfl⟩⟩ :=
      route_row sound own nodup mem inRow
    · exact (stock _).framed held inBuffer
    · exact framed
  · exact fun row inRow => (route_origin own nodup mem inRow).1
  · refine Group.nodup_items Row.cameraKey ?_ mem
    intro cameraKey
    have part : Idle profile.routing results cameraKey ∨ _ := idle_or_framed cameraKey
    have handed : (assignments cameraKey
        (routeCameraMaterialRound profile.routing results router).1).map Prod.fst |>.Nodup := by
      rcases part with idle | ⟨enabled, shown, inResults, rfl, framed⟩
      · have nothing : assignments _ _ = _ := congrArg Prod.snd (route_idle own idle)
        rw [nothing]
        exact Multiset.nodup_zero
      have rows : assignments _ _ = _ :=
        congrArg Prod.snd (route_camera own nodup inResults framed enabled)
      rw [rows]
      simp only [CameraView.after, add_zero, Multiset.map_coe, Multiset.coe_nodup]
      exact .of_map Prod.fst (by
        rw [List.map_map]
        exact (stock shown.cameraKey).handed (new shown inResults))
    simpa [assignments] using handed

end Storing

/-! ## Runs -/

namespace Recorder

variable {profile : StorageProfile} {recorder : Recorder}

/-- What every step keeps, whether events are complete or not. -/
structure Sound (recorder : Recorder) : Prop where
  router : recorder.router.Sound
  stock : ∀ cameraKey, (recorder.router.routeStates cameraKey).Stock cameraKey recorder.lastRouted
  past : ∀ batch ∈ recorder.batches, batch.key.1 ≤ recorder.lastRouted

theorem Sound.ownRows (sound : recorder.Sound) : recorder.router.OwnRows :=
  fun cameraKey => (sound.stock cameraKey).own

theorem Sound.initial : Sound {} where
  router := .initial
  stock _ := .of_empty rfl
  past _ mem := by cases mem

section Route

variable {results : List Row}

theorem Captured.new (captured : recorder.Captured (.route results)) (row : Row)
    (mem : row ∈ results) : recorder.lastRouted < row.round := by
  rw [captured.2.1 row mem]
  exact captured.2.2

theorem route_places (sound : recorder.Sound) :
    ((routeCameraMaterialRound profile.routing results recorder.router).1.map Batch.place).Nodup := by
  have keys :
      ((routeCameraMaterialRound profile.routing results recorder.router).1.map Group.key).Nodup :=
    route_nodup_keys sound.ownRows
  refine keys.of_map.map_on ?_
  intro batch mem other inOther same
  have header := (proper_route sound.ownRows batch mem).header
  have otherHeader := (proper_route sound.ownRows other inOther).header
  have named : batch.header.1.materialId = other.header.1.materialId := congrArg Prod.fst same
  have index := sound.router.indexed _ _ header
  rw [named, sound.router.indexed _ _ otherHeader] at index
  have generation := (Option.some.inj index).symm
  have round : batch.key.1 = other.key.1 := congrArg Prod.snd same
  exact List.inj_on_of_nodup_map keys mem inOther (Prod.ext round generation)

variable (sound : recorder.Sound) (captured : recorder.Captured (.route results))
include sound captured

theorem route_round
    (mem : batch ∈ (routeCameraMaterialRound profile.routing results recorder.router).1) :
    batch.key.1 ≤ recorder.router.continuousRound := by
  obtain ⟨row, inItems⟩ := List.exists_mem_of_ne_nil _ (route_filled sound.ownRows batch mem)
  have round := (proper_route sound.ownRows batch mem).rows row inItems
  obtain ⟨-, ⟨active, -, -, -, held, inBuffer, rfl⟩ | ⟨shown, inResults, -, rfl⟩⟩ :=
    route_row sound.router sound.ownRows captured.1 mem inItems
  · have old := (sound.stock _).rounds held inBuffer
    have now := captured.2.2
    have same : held.round = batch.key.1 := round
    omega
  · have same : shown.round = batch.key.1 := round
    exact (same.symm.trans (captured.2.1 shown inResults)).le

theorem Sound.route : (recorder.step profile (.route results)).Sound where
  router := sound.router.route sound.ownRows captured.1
  stock cameraKey := by
    have later : recorder.lastRouted ≤ recorder.router.continuousRound := captured.2.2.le
    dsimp only [step]
    have state := route_state profile.routing sound.ownRows captured.1 cameraKey
    rcases state with unmoved | ⟨shown, inResults, camera, framed, moved⟩
    · rw [unmoved]
      exact (sound.stock cameraKey).mono later
    · rw [moved, ← captured.2.1 shown inResults]
      exact (sound.stock cameraKey).round camera framed (Captured.new captured shown inResults)
  past batch mem := by
    rcases List.mem_append.mp mem with old | now
    · exact (sound.past batch old).trans captured.2.2.le
    · exact route_round sound captured now

variable (first : HandsOverFirst profile recorder (.route results))
include first

/-- A routing that hands rows over to new flows only stores nothing where something is already. -/
theorem route_elsewhere {old : Batch}
    (mem : batch ∈ (routeCameraMaterialRound profile.routing results recorder.router).1)
    (before : old ∈ recorder.batches) : Batch.place old ≠ Batch.place batch := by
  intro same
  obtain ⟨row, inItems⟩ := List.exists_mem_of_ne_nil _ (route_filled sound.ownRows batch mem)
  have round := (proper_route sound.ownRows batch mem).rows row inItems
  obtain ⟨-, ⟨active, isActive, header, releases, -⟩ | ⟨shown, inResults, -, rfl⟩⟩ :=
    route_row sound.router sound.ownRows captured.1 mem inItems
  · -- Held back rows: the flow has no frames yet.
    have enabled := (route_origin sound.ownRows captured.1 mem inItems).1
    refine first active isActive ⟨row.cameraKey, enabled, releases⟩ old before ?_
    rw [← header]
    exact congrArg Prod.fst same
  · -- A row of this round: everything stored so far is of earlier rounds.
    have now : shown.round = batch.key.1 := round
    have rounds : old.key.1 = batch.key.1 := congrArg Prod.snd same
    have past := sound.past old before
    have new := Captured.new captured shown inResults
    omega

theorem Complete.route (complete : Complete profile recorder) :
    Complete profile (recorder.step profile (.route results)) := by
  have storable : ∀ batch ∈ (routeCameraMaterialRound profile.routing results recorder.router).1,
      Storable profile batch := fun batch mem =>
    storable_route sound.router sound.stock captured.1 (Captured.new captured) mem
  have places : ((routeCameraMaterialRound profile.routing results recorder.router).1.map
    Batch.place).Nodup := route_places sound
  constructor
  · dsimp only [step]
    rw [List.map_append, List.nodup_append]
    refine ⟨complete.once, places, ?_⟩
    intro place inOld other inNew
    obtain ⟨old, before, rfl⟩ := List.mem_map.mp inOld
    obtain ⟨batch, mem, rfl⟩ := List.mem_map.mp inNew
    exact route_elsewhere sound captured first mem before
  · intro batch mem row inItems written
    rcases List.mem_append.mp mem with before | now
    · obtain ⟨event, stored, listed⟩ := complete.listed batch before row inItems written
      refine ⟨event, ?_, listed⟩
      rw [← stored]
      apply persist_other storable
      intro inNew
      obtain ⟨new, inRouted, same⟩ := List.mem_map.mp inNew
      exact route_elsewhere sound captured first inRouted before same.symm
    · exact persist_own storable places recorder.store now inItems written

end Route

theorem Sound.step (sound : recorder.Sound) {step : RecorderStep} (captured : recorder.Captured step) :
    (recorder.step profile step).Sound := by
  cases step with
  | startRound => exact ⟨sound.router.rename _ _ _, sound.stock, sound.past⟩
  | steelEvent event =>
    refine ⟨sound.router.steelEvent event, ?_, sound.past⟩
    have untouched : (recorder.router.steelEvent event).routeStates = recorder.router.routeStates :=
      (CameraRouter.Opens.steelEvent event).routeStates
    dsimp only [Recorder.step]
    rw [untouched]
    exact sound.stock
  | route results => exact sound.route captured
  | finalize pending =>
    refine ⟨sound.router.finalize _ _ _, ?_, sound.past⟩
    exact fun cameraKey => (sound.stock cameraKey).congr (finalize_pendingRows cameraKey)

theorem Complete.step (complete : Complete profile recorder) (sound : recorder.Sound)
    {step : RecorderStep} (captured : recorder.Captured step)
    (first : HandsOverFirst profile recorder step) : Complete profile (recorder.step profile step) := by
  cases step with
  | route results => exact complete.route sound captured first
  | startRound | steelEvent _ | finalize _ => exact ⟨complete.once, complete.listed⟩

/-- In a run that hands held back rows to new flows only, every event lists every stored frame of its
flow and round. -/
theorem complete_of_handsOverFirst (profile : StorageProfile) {recorder : Recorder}
    (reached : Reached profile (HandsOverFirst profile) recorder) : Complete profile recorder := by
  suffices both : recorder.Sound ∧ Complete profile recorder from both.2
  induction reached with
  | start => exact ⟨.initial, List.nodup_nil, nofun⟩
  | step step _ captured may ih =>
    obtain ⟨sound, complete⟩ := ih
    exact ⟨sound.step captured, complete.step sound captured may⟩

/-- A reference camera and two cameras that see a bar before it. -/
def leadingCameras : StorageProfile where
  routing := { enabledCameras := ["A", "B", "R"], distinct := by decide }
  cameraId := id
  ids_distinct := by decide
  ids_named := by decide

/-- Both cameras see the bar in round 1; in round 2 the reference camera sees it and the flow opens.
The argument says whether camera `B` has its frame of round 2. -/
def leadingRun (received : Bool) : List RecorderStep :=
  let row (cameraKey : String) (round : Nat) (lit : Bool) : Row :=
    { cameraKey, round, frameReceived := true, rawFrame := some "pixels", materialSignal := lit
      maxIntensity := 200 }
  [.startRound,
    .route [row "A" 1 true, row "B" 1 true, row "R" 1 false],
    .startRound,
    .steelEvent (.steelIn "70" "session-70" ""),
    .route [row "A" 2 true, { row "B" 2 true with frameReceived := received }, row "R" 2 true],
    .startRound,
    .route [row "A" 3 true, row "B" 3 true, row "R" 3 true]]

theorem leadingRun_complete :
    Complete leadingCameras ((leadingRun true).foldl (step leadingCameras) {}) ∧
      ((leadingRun true).foldl (step leadingCameras) {}).batches.length = 3 := by
  have permits : Permits leadingCameras (HandsOverFirst leadingCameras) {} (leadingRun true) := by
    decide +kernel
  exact ⟨complete_of_handsOverFirst leadingCameras (Reached.start.run permits), by decide +kernel⟩

/-- Camera `B` misses the frame of the round in which the flow opens, and hands its row of round 1 over
one round after camera `A`.  The event of round 1 is written twice; the second one has no frame of
camera `A`. -/
theorem missed_frame_replaces_event :
    Reached leadingCameras (fun _ _ => True) ((leadingRun false).foldl (step leadingCameras) {}) ∧
      ¬Complete leadingCameras ((leadingRun false).foldl (step leadingCameras) {}) ∧
      ((((leadingRun false).foldl (step leadingCameras) {}).store.events "70" 1).map fun event =>
        event.frames.map EventFrame.cameraKey) = some ["B"] := by
  have permits : Permits leadingCameras (fun _ _ => True) {} (leadingRun false) := by decide +kernel
  refine ⟨Reached.start.run permits, ?_, by decide +kernel⟩
  intro complete
  exact absurd complete.once (by decide +kernel)

end Recorder

end SteelInspection.Capture
