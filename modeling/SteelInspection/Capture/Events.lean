import SteelInspection.Capture.Routing

/-! # Round events of a flow

`_persist_cached_round` writes the frames of a batch and then publishes one event file for the
flow and the capture round.  The file is replaced as a whole: what an earlier batch of the same flow
and round had put there is gone.

Every write succeeds in this model.  The measured values, paths and checksums of a frame go into the
event unread; they are one text here.
-/

namespace SteelInspection.Capture

open Foundations

/-- The profile with what the storage needs; identities are stripped and distinct when it is loaded. -/
structure StorageProfile where
  routing : RoutingProfile
  cameraId : String → String
  ids_distinct : (routing.enabledCameras.map cameraId).Nodup
  ids_named : ∀ cameraKey ∈ routing.enabledCameras, cameraId cameraKey ≠ ""
  blackFrameThreshold : Nat := 1

structure CommittedRow where
  cameraId : String
  cameraKey : String
  round : Nat
  sequenceNo : Nat
  materialSignal : Bool
  boundaryPhase : String
  artifacts : String
  deriving DecidableEq, Repr

structure EventFrame where
  cameraId : String
  cameraKey : String
  sequenceNo : Nat
  storageIndex : Nat
  captureRound : Nat
  materialSignal : Bool
  boundaryPhase : String
  artifacts : String
  deriving DecidableEq, Repr

structure FrameCommittedEvent where
  flowId : String
  sessionId : String
  captureRound : Nat
  boundaryPhase : String
  complete : Bool
  expectedCameraCount : Nat
  committedCameraCount : Nat
  missingCameraIds : List String
  frames : List EventFrame
  deriving DecidableEq, Repr

def CommittedRow.eventFrame (row : CommittedRow) (captureRound : Nat) : EventFrame where
  cameraId := row.cameraId
  cameraKey := row.cameraKey
  sequenceNo := row.sequenceNo
  storageIndex := row.sequenceNo - 1
  captureRound := captureRound
  materialSignal := row.materialSignal
  boundaryPhase := row.boundaryPhase
  artifacts := row.artifacts

def commitFrames (captureRound : Nat) :
    List CommittedRow → List String → Except String (List EventFrame)
  | [], _ => .ok []
  | row :: rows, committedCameraIds =>
    if row.cameraId = "" then .error "committed frame requires cameraId"
    else if row.cameraId ∈ committedCameraIds then
      .error s!"duplicate committed camera in round: {row.cameraId}"
    else do
      let frames ← commitFrames captureRound rows (committedCameraIds ++ [row.cameraId])
      return row.eventFrame captureRound :: frames

def publishCommittedRound (flowNo sessionId : String) (rows : List CommittedRow)
    (boundaryPhase : String) (expectedCameraIds : List String) :
    Except String FrameCommittedEvent :=
  match rows with
  | [] => .error "a committed round event requires at least one frame"
  | first :: rest =>
    if rest.any fun row => row.round ≠ first.round then
      .error "committed rows must share one non-negative capture round"
    else do
      let frames ← commitFrames first.round
        (rows.insertionSort fun row other => row.cameraId ≤ other.cameraId) []
      let committedCameraIds := rows.map (·.cameraId)
      let unexpected := committedCameraIds.filter fun cameraId => cameraId ∉ expectedCameraIds
      if unexpected ≠ [] then
        .error ("committed round contains unexpected cameras: " ++
          ", ".intercalate (unexpected.insertionSort (· ≤ ·)))
      else
        let missing := (expectedCameraIds.filter fun cameraId =>
          cameraId ∉ committedCameraIds).insertionSort (· ≤ ·)
        return {
          flowId := flowNo
          sessionId := sessionId
          captureRound := first.round
          boundaryPhase := boundaryPhase
          complete := missing.isEmpty
          expectedCameraCount := expectedCameraIds.length
          committedCameraCount := committedCameraIds.length
          missingCameraIds := missing
          frames := frames }

/-- The event files, by flow and round, and the next frame number by flow and camera. -/
structure EventStore where
  events : String → Nat → Option FrameCommittedEvent := fun _ _ => none
  nextIndex : String → String → Nat := fun _ _ => 0

/-- Frames that are black are not written. -/
def StorageProfile.writes (profile : StorageProfile) (row : Row) : Bool :=
  row.rawFrame.isSome && row.cameraKey ∈ profile.routing.enabledCameras &&
    profile.blackFrameThreshold < row.maxIntensity

def writeFrames (profile : StorageProfile) (materialId boundaryPhase : String) :
    List Row → EventStore → List CommittedRow × EventStore
  | [], store => ([], store)
  | row :: rows, store =>
    if profile.writes row then
      let cameraId := profile.cameraId row.cameraKey
      let index := store.nextIndex materialId cameraId
      let reserved :=
        { store with
          nextIndex := Function.update store.nextIndex materialId
            (Function.update (store.nextIndex materialId) cameraId (index + 1)) }
      let committed :=
        { cameraId, cameraKey := row.cameraKey, round := row.round, sequenceNo := index + 1
          materialSignal := row.materialSignal, boundaryPhase, artifacts := row.rawFrame.getD "" }
      let (rest, store) := writeFrames profile materialId boundaryPhase rows reserved
      (committed :: rest, store)
    else writeFrames profile materialId boundaryPhase rows store

def EventStore.replace (store : EventStore) (materialId : String) (round : Nat)
    (event : FrameCommittedEvent) : EventStore :=
  { store with
    events := Function.update store.events materialId
      (Function.update (store.events materialId) round (some event)) }

def persistCachedRound (profile : StorageProfile) (store : EventStore) (batch : Batch) :
    EventStore :=
  let flow := batch.header.1
  let boundaryPhase := batch.header.2.text
  if batch.items.all (fun row => !row.frameReceived) || flow.materialId = "" || flow.sessionId = ""
  then store
  else
    let (committed, store) := writeFrames profile flow.materialId boundaryPhase batch.items store
    if committed.isEmpty then store
    else
      match publishCommittedRound flow.materialId flow.sessionId committed boundaryPhase
          (profile.routing.enabledCameras.map profile.cameraId) with
      | .ok event => store.replace flow.materialId event.captureRound event
      | .error _ => store

/-! ## What a batch leaves behind -/

def FrameCommittedEvent.Lists (event : FrameCommittedEvent) (row : Row) : Prop :=
  ∃ frame ∈ event.frames, frame.cameraKey = row.cameraKey ∧ frame.captureRound = row.round ∧
    frame.artifacts = row.rawFrame.getD ""

instance (event : FrameCommittedEvent) (row : Row) : Decidable (event.Lists row) :=
  inferInstanceAs (Decidable (∃ _ ∈ _, _))

section Persisting

variable (profile : StorageProfile) (materialId boundaryPhase : String) {rows : List CommittedRow}

theorem writeFrames_events (rows : List Row) (store : EventStore) :
    (writeFrames profile materialId boundaryPhase rows store).2.events = store.events := by
  induction rows generalizing store with
  | nil => rfl
  | cons row rows ih => grind [writeFrames]

theorem writeFrames_committed (rows : List Row) (store : EventStore) :
    (writeFrames profile materialId boundaryPhase rows store).1.map
        (fun row => (row.cameraId, row.cameraKey, row.round, row.artifacts)) =
      (rows.filter profile.writes).map fun row =>
        (profile.cameraId row.cameraKey, row.cameraKey, row.round, row.rawFrame.getD "") := by
  induction rows generalizing store with
  | nil => rfl
  | cons row rows ih =>
    grind [writeFrames]

theorem commitFrames_ok {captureRound : Nat} (seen : List String)
    (named : ∀ row ∈ rows, row.cameraId ≠ "") (fresh : ∀ row ∈ rows, row.cameraId ∉ seen)
    (distinct : (rows.map (·.cameraId)).Nodup) :
    commitFrames captureRound rows seen = .ok (rows.map (·.eventFrame captureRound)) := by
  induction rows generalizing seen with
  | nil => rfl
  | cons row rows ih =>
    simp only [List.map_cons, List.nodup_cons, List.mem_map, not_exists, not_and] at distinct
    have rest := ih (seen ++ [row.cameraId])
      (fun other mem => named other (List.mem_cons_of_mem _ mem))
      (fun other mem inSeen => by
        rcases List.mem_append.mp inSeen with old | own
        · exact fresh other (List.mem_cons_of_mem _ mem) old
        · exact distinct.1 other mem (List.mem_singleton.mp own)) distinct.2
    unfold commitFrames
    rw [if_neg (named row List.mem_cons_self), if_neg (fresh row List.mem_cons_self), rest]
    rfl

/-- The committed rows of a round make an event that lists them all. -/
theorem publishCommittedRound_ok (flowNo sessionId boundaryPhase : String) {expected : List String}
    {round : Nat} (some' : rows ≠ []) (rounds : ∀ row ∈ rows, row.round = round)
    (named : ∀ row ∈ rows, row.cameraId ≠ "") (distinct : (rows.map (·.cameraId)).Nodup)
    (known : ∀ row ∈ rows, row.cameraId ∈ expected) :
    ∃ event, publishCommittedRound flowNo sessionId rows boundaryPhase expected = .ok event ∧
      event.captureRound = round ∧ ∀ row ∈ rows, row.eventFrame round ∈ event.frames := by
  cases rows with
  | nil => exact absurd rfl some'
  | cons first rest =>
    have head : first.round = round := rounds first List.mem_cons_self
    have sameRound : (rest.any fun row => decide (row.round ≠ first.round)) = false := by grind
    have sorted := List.perm_insertionSort
      (fun row other : CommittedRow => row.cameraId ≤ other.cameraId) (first :: rest)
    have frames : commitFrames first.round ((first :: rest).insertionSort fun row other =>
        row.cameraId ≤ other.cameraId) [] =
          .ok (((first :: rest).insertionSort fun row other =>
            row.cameraId ≤ other.cameraId).map (·.eventFrame first.round)) := by
      refine commitFrames_ok [] ?_ ?_ ?_
      · exact fun row mem => named row ((List.mem_insertionSort _).mp mem)
      · exact nofun
      · exact (sorted.map _).nodup_iff.mpr distinct
    have expectedOnly : ((first :: rest).map (·.cameraId)).filter
        (fun cameraId => decide (cameraId ∉ expected)) = [] := by
      rw [List.filter_eq_nil_iff]
      intro cameraId mem
      obtain ⟨row, inRows, rfl⟩ := List.mem_map.mp mem
      simp [known row inRows]
    simp only [publishCommittedRound, sameRound, Bool.false_eq_true, if_false, frames, expectedOnly,
      ne_eq, not_true_eq_false]
    refine ⟨_, rfl, head, ?_⟩
    intro row mem
    rw [← head]
    exact List.mem_map_of_mem ((List.mem_insertionSort _).mpr mem)

structure Storable (profile : StorageProfile) (batch : Batch) : Prop where
  materialId : batch.header.1.materialId ≠ ""
  sessionId : batch.header.1.sessionId ≠ ""
  framed : ∀ row ∈ batch.items, row.framed = true
  enabled : ∀ row ∈ batch.items, row.cameraKey ∈ profile.routing.enabledCameras
  rounds : ∀ row ∈ batch.items, row.round = batch.key.1
  distinct : (batch.items.map Row.cameraKey).Nodup

theorem mem_writeFrames (rows : List Row) (store : EventStore) :
    (∀ committed ∈ (writeFrames profile materialId boundaryPhase rows store).1,
      ∃ row ∈ rows, profile.writes row = true ∧
        committed.cameraId = profile.cameraId row.cameraKey ∧ committed.round = row.round) ∧
    ∀ row ∈ rows, profile.writes row = true →
      ∃ committed ∈ (writeFrames profile materialId boundaryPhase rows store).1,
        committed.cameraKey = row.cameraKey ∧ committed.artifacts = row.rawFrame.getD "" := by
  have same := writeFrames_committed profile materialId boundaryPhase rows store
  refine ⟨?_, ?_⟩
  · grind [List.mem_map_of_mem]
  intro row mem written
  have listed := List.mem_map_of_mem (f := fun row : Row =>
      (profile.cameraId row.cameraKey, row.cameraKey, row.round, row.rawFrame.getD ""))
    (List.mem_filter.mpr ⟨mem, written⟩)
  rw [← same] at listed
  obtain ⟨committed, inCommitted, equal⟩ := List.mem_map.mp listed
  simp only [Prod.mk.injEq] at equal
  exact ⟨committed, inCommitted, equal.2.1, equal.2.2.2⟩

theorem writeFrames_distinct {rows : List Row} (store : EventStore)
    (enabled : ∀ row ∈ rows, row.cameraKey ∈ profile.routing.enabledCameras)
    (distinct : (rows.map Row.cameraKey).Nodup) :
    ((writeFrames profile materialId boundaryPhase rows store).1.map (·.cameraId)).Nodup := by
  have same := congrArg (List.map Prod.fst)
    (writeFrames_committed profile materialId boundaryPhase rows store)
  simp only [List.map_map] at same
  have ids : (writeFrames profile materialId boundaryPhase rows store).1.map (·.cameraId) =
      ((rows.filter profile.writes).map Row.cameraKey).map profile.cameraId := by
    rw [List.map_map]
    exact same
  rw [ids]
  refine (distinct.sublist (List.filter_sublist.map Row.cameraKey)).map_on ?_
  intro first inFirst second inSecond equal
  obtain ⟨row, inRow, rfl⟩ := List.mem_map.mp inFirst
  obtain ⟨other, inOther, rfl⟩ := List.mem_map.mp inSecond
  exact List.inj_on_of_nodup_map profile.ids_distinct (enabled row (List.mem_of_mem_filter inRow))
    (enabled other (List.mem_of_mem_filter inOther)) equal

/-- Persisting a batch replaces the event of its flow and round by one that lists the batch. -/
theorem persistCachedRound_spec {profile : StorageProfile} {batch : Batch}
    (storable : Storable profile batch) (store : EventStore) :
    ((persistCachedRound profile store batch).events = store.events ∧
        ∀ row ∈ batch.items, profile.writes row = false) ∨
      ∃ event, (persistCachedRound profile store batch).events =
          (store.replace batch.header.1.materialId batch.key.1 event).events ∧
        ∀ row ∈ batch.items, profile.writes row = true → event.Lists row := by
  obtain ⟨backward, forward⟩ := mem_writeFrames profile batch.header.1.materialId
    batch.header.2.text batch.items store
  have kept := writeFrames_events profile batch.header.1.materialId batch.header.2.text
    batch.items store
  have distinct := writeFrames_distinct profile batch.header.1.materialId batch.header.2.text store
    storable.enabled storable.distinct
  simp only [persistCachedRound]
  generalize writeFrames profile batch.header.1.materialId batch.header.2.text batch.items store =
    result at backward forward kept distinct ⊢
  cases result
  dsimp only at backward forward kept distinct ⊢
  split
  · -- Nothing to store: a batch with a row has a received frame.
    rename_i refused
    refine .inl ⟨rfl, ?_⟩
    intro row mem
    have received : row.frameReceived = true := by
      have := storable.framed row mem
      simp only [Row.framed, Bool.and_eq_true] at this
      exact this.1
    simp only [Bool.or_eq_true, List.all_eq_true, Bool.not_eq_true', decide_eq_true_eq,
      storable.materialId, storable.sessionId, or_false] at refused
    rw [refused row mem] at received
    cases received
  · split
    · grind
    rename_i something
    obtain ⟨event, published, round, listed⟩ := publishCommittedRound_ok
      batch.header.1.materialId batch.header.1.sessionId batch.header.2.text
      (fun nothing => something (List.isEmpty_iff.mpr nothing))
      (fun frame mem => by
        obtain ⟨row, inRows, -, -, same⟩ := backward frame mem
        exact same.trans (storable.rounds row inRows))
      (fun frame mem => by
        obtain ⟨row, inRows, -, same, -⟩ := backward frame mem
        rw [same]
        exact profile.ids_named _ (storable.enabled row inRows))
      distinct
      (fun frame mem => by
        obtain ⟨row, inRows, -, same, -⟩ := backward frame mem
        rw [same]
        exact List.mem_map_of_mem (storable.enabled row inRows))
    refine .inr ⟨event, ?_, ?_⟩
    · rw [published]
      simp only [EventStore.replace, round, kept]
    · intro row mem writes
      obtain ⟨frame, inCommitted, key, artifacts⟩ := forward row mem writes
      exact ⟨_, listed frame inCommitted, key, (storable.rounds row mem).symm, artifacts⟩

end Persisting

end SteelInspection.Capture
