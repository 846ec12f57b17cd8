import SteelInspection.Production.FlowImages

/-! # A batch of images and the single appends

The loop of `append_steel_flow_images` writes nothing.  `Batch.written` is the store as it would be
if the loop stopped after this round and its rows were written.  `Batch.Tracks` relates the
variables of the loop to that store: it is numbered, and `by_source` has exactly its images that
the inputs can mean.  One round of the loop is then one single append to it, so the batch ends like
the single appends in order, and the insert at the end meets no duplicate.  Only its size can make
it fail: a batch whose lookup or insert binds too many variables is refused.
-/

namespace SteelInspection.Production

open Foundations Foundations.Fallible

/-! ## Rounds of the loop -/

def Batch.written (batch : Batch) (flow : SteelFlow) (store : FlowStore) : FlowStore :=
  store.grown (numberedFlow flow batch.nextImageNo flow.updatedAt) batch.activeModels

/-- An input of the batch may mean this image. -/
def Meant (inputs : List SteelFlowImageInput) (image : SteelFlowImage) : Prop :=
  image.cameraId ∈ inputs.map SteelFlowImageInput.cameraId ∧
    image.cameraSequenceNo ∈ inputs.map SteelFlowImageInput.cameraSequenceNo

/-- The variables of the loop describe the store that would be written. -/
structure Batch.Tracks (flow : SteelFlow) (inputs : List SteelFlowImageInput) (store : FlowStore)
    (batch : Batch) : Prop where
  mine : flow ∈ store.flows
  next : batch.nextImageNo = flow.nextImageNo + batch.activeModels.length
  numbered : Numbered (batch.written flow store)
  known : ∀ image, image ∈ batch.bySource ↔
    image ∈ store.images ++ batch.activeModels ∧ image.flowNo = flow.flowNo ∧ Meant inputs image

variable {flow : SteelFlow} {store : FlowStore}

theorem numberedFlow_self (numbered : Numbered store) (mine : flow ∈ store.flows) :
    numberedFlow flow flow.nextImageNo flow.updatedAt = flow := by
  have count : flow.nextImageNo - 1 = flow.imageCount := by
    have := numbered.next flow mine
    omega
  simp only [numberedFlow, count]

theorem Numbered.saveFlow_self (numbered : Numbered store) (mine : flow ∈ store.flows) :
    store.saveFlow flow = store := by
  have same : store.flows.map (fun row => if row.flowNo = flow.flowNo then flow else row) =
      store.flows := by
    refine (List.map_congr_left fun row mem => ?_).trans (List.map_id _)
    split
    next isFlow =>
      exact (numbered.same_flow mine mem isFlow).symm
    · rfl
  simp only [FlowStore.saveFlow, same]

@[simp] theorem numberedFlow_numberedFlow (flow : SteelFlow) (before next : Nat)
    (earlier now : String) :
    numberedFlow (numberedFlow flow before earlier) next now = numberedFlow flow next now := rfl

section

variable (flow) (next : Nat) (now : String)
include flow next now

@[simp] theorem numberedFlow_flowNo : (numberedFlow flow next now).flowNo = flow.flowNo := rfl

@[simp] theorem numberedFlow_nextImageNo : (numberedFlow flow next now).nextImageNo = next := rfl

/-- Writing more images on top of a batch is writing the batch with them. -/
theorem written_grown (batch : Batch) (store : FlowStore) (more : List SteelFlowImage) :
    (batch.written flow store).grown (numberedFlow flow next now) more =
      store.grown (numberedFlow flow next now) (batch.activeModels ++ more) :=
  FlowStore.grown_grown (by simp) more

end

theorem written_of_nothing {batch : Batch} (numbered : Numbered store) (mine : flow ∈ store.flows)
    (next : batch.nextImageNo = flow.nextImageNo) (nothing : batch.activeModels = []) :
    batch.written flow store = store := by
  rw [Batch.written, next, nothing, numberedFlow_self numbered mine, ← FlowStore.saveFlow_eq_grown,
    numbered.saveFlow_self mine]

namespace Batch.Tracks

variable {store : FlowStore} {flow : SteelFlow} {inputs : List SteelFlowImageInput} {batch : Batch}
  {input : SteelFlowImageInput} {image : SteelFlowImage}

theorem start (numbered : Numbered store) (mine : flow ∈ store.flows)
    (inputs : List SteelFlowImageInput) : Tracks flow inputs store (store.batch flow inputs) := by
  have next : (store.batch flow inputs).nextImageNo = flow.nextImageNo := by
    have := numbered.next flow mine
    show max flow.nextImageNo 1 = flow.nextImageNo
    omega
  refine ⟨mine, next, ?_, fun image => ?_⟩
  · rw [written_of_nothing numbered mine next rfl]
    exact numbered
  · simp [FlowStore.batch, FlowStore.existing, Meant]

section

variable (tracks : Tracks flow inputs store batch)
include tracks

theorem session_iff (mem : image ∈ store.images ++ batch.activeModels) :
    image.flowNo = flow.flowNo ↔ image.sessionId = flow.sessionId := by
  have saved : numberedFlow flow batch.nextImageNo flow.updatedAt ∈
      (batch.written flow store).flows := FlowStore.mem_grown_self tracks.mine rfl
  exact (tracks.numbered.session_iff saved mem :)

variable (among : input ∈ inputs) (session : input.sessionId = flow.sessionId)
include among session

theorem get_eq : batch.get input = (batch.written flow store).imageOf input := by
  cases found : batch.get input with
  | some image =>
    have key : image.cameraId = input.cameraId ∧
        image.cameraSequenceNo = input.cameraSequenceNo := by simpa using List.find?_some found
    obtain ⟨mem, sameFlow, -⟩ := (tracks.known image).mp (List.mem_of_find?_eq_some found)
    have sameSession := ((tracks.session_iff mem).mp sameFlow).trans session.symm
    exact (tracks.numbered.imageOf_iff.mpr ⟨mem, sameSession, key⟩).symm
  | none =>
    cases stored : (batch.written flow store).imageOf input with
    | none => rfl
    | some image =>
      obtain ⟨mem, sameSession, camera, sequence⟩ := tracks.numbered.imageOf_iff.mp stored
      -- the image was stored before or is one of this batch, and the map has both
      have meant : Meant inputs image :=
        ⟨List.mem_map.mpr ⟨input, among, camera.symm⟩, List.mem_map.mpr ⟨input, among, sequence.symm⟩⟩
      have inMap := (tracks.known image).mpr
        ⟨mem, (tracks.session_iff mem).mpr (sameSession.trans session), meant⟩
      have differs := List.find?_eq_none.mp found image inMap
      simp [camera, sequence] at differs

/-- One round does what a single append does to the store that would be written. -/
theorem add (now : String) : Tracks flow inputs store (batch.add flow.flowNo now input) ∧
    ∃ append, (batch.add flow.flowNo now input).appended = batch.appended ++ [append] ∧
      (appendSteelFlowImage now input (batch.written flow store)).1 = .ok append ∧
      (appendSteelFlowImage now input (batch.written flow store)).2.untimed =
        ((batch.add flow.flowNo now input).written flow store).untimed := by
  have found := tracks.get_eq among session
  cases stored : (batch.written flow store).imageOf input with
  | some image =>
    have added : batch.add flow.flowNo now input =
        { batch with appended := batch.appended ++ [⟨image, false⟩] } := by
      simp only [Batch.add, found, stored]
    rw [added, append_known stored]
    exact ⟨{ tracks with }, _, rfl, rfl, rfl⟩
  | none =>
    have added : batch.add flow.flowNo now input =
        { bySource := newImage flow.flowNo batch.nextImageNo now input :: batch.bySource
          nextImageNo := batch.nextImageNo + 1
          activeModels := batch.activeModels ++ [newImage flow.flowNo batch.nextImageNo now input]
          appended :=
            batch.appended ++ [⟨newImage flow.flowNo batch.nextImageNo now input, true⟩] } := by
      simp only [Batch.add, found, stored]
    have flowOf : (batch.written flow store).flowOf input.sessionId = some _ :=
      tracks.numbered.flowOf_iff.mpr ⟨FlowStore.mem_grown_self tracks.mine rfl, session.symm⟩
    have numbered := tracks.numbered.grown_new stored flowOf now flow.updatedAt
    rw [added, append_new tracks.numbered stored flowOf]
    simp only [numberedFlow_numberedFlow, numberedFlow_flowNo, numberedFlow_nextImageNo,
      written_grown] at numbered ⊢
    refine ⟨⟨tracks.mine, ?_, ?_, fun image => ?_⟩, _, rfl, rfl, ?_⟩
    · simp only [List.length_append, List.length_singleton, tracks.next]
      omega
    · exact numbered
    · have meant : Meant inputs (newImage flow.flowNo batch.nextImageNo now input) :=
        ⟨List.mem_map.mpr ⟨input, among, rfl⟩, List.mem_map.mpr ⟨input, among, rfl⟩⟩
      simp only [List.mem_cons, tracks.known, List.mem_append, List.not_mem_nil, or_false]
      constructor
      · rintro (rfl | ⟨old, rest⟩)
        · exact ⟨.inr (.inr rfl), rfl, meant⟩
        · exact ⟨old.imp_right .inl, rest⟩
      · grind
    · simp only [Batch.written, untimed_grown, untimed_numberedFlow]

end

end Batch.Tracks

/-! ## The whole batch -/

section batch

variable {store other : FlowStore} {flow : SteelFlow} {inputs rest : List SteelFlowImageInput}
  {batch : Batch} {limit : BindLimit}

/-- The loop and the single appends run side by side: `other` is the store of the single appends. -/
theorem addAll_follows (clock later : Nat → String) (appended : List SteelFlowImageAppend)
    (among : ∀ input ∈ rest, input ∈ inputs)
    (session : ∀ input ∈ rest, input.sessionId = flow.sessionId)
    (tracks : batch.Tracks flow inputs store)
    (numbered : Numbered other) (sameStore : other.untimed = (batch.written flow store).untimed)
    (sameAnswers : appended.map SteelFlowImageAppend.untimed =
      batch.appended.map SteelFlowImageAppend.untimed) :
    (batch.addAll flow.flowNo clock rest).Tracks flow inputs store ∧
    untimedOutcome (appendEach later rest appended other) =
      untimedOutcome (.ok (batch.addAll flow.flowNo clock rest).appended,
        (batch.addAll flow.flowNo clock rest).written flow store) := by
  induction rest generalizing batch other appended with
  | nil =>
    refine ⟨tracks, ?_⟩
    simp only [appendEach, untimedOutcome, Batch.addAll, Except.map, sameStore, sameAnswers]
  | cons input rest ih =>
    have isInput := among input List.mem_cons_self
    have itsSession := session input List.mem_cons_self
    obtain ⟨tracksNext, append, answered, isAppend, written⟩ :=
      tracks.add isInput itsSession (clock batch.appended.length)
    -- the single append to `other` answers like the one to the store that would be written
    obtain ⟨sameAnswer, sameNext⟩ := append_untimed numbered tracks.numbered sameStore input
      (later appended.length) (clock batch.appended.length)
    have numberedNext := numbered.append (later appended.length) input
    rw [isAppend] at sameAnswer
    rw [written] at sameNext
    simp only [appendEach, Batch.addAll]
    cases outcome : appendSteelFlowImage (later appended.length) input other with
    | mk answer next =>
      rw [outcome] at sameAnswer sameNext numberedNext
      cases answer with
      | error error => cases sameAnswer
      | ok single =>
        have same : single.untimed = append.untimed := Except.ok.inj sameAnswer
        refine ih _ (fun input mem => among input (List.mem_cons_of_mem _ mem))
          (fun input mem => session input (List.mem_cons_of_mem _ mem)) tracksNext
          numberedNext sameNext ?_
        rw [answered, List.map_append, List.map_append, sameAnswers, List.map_singleton, same,
          List.map_singleton]

theorem foldlM_insertImage {images : List SteelFlowImage}
    (numbers : ((store.images ++ images).map SteelFlowImage.number).Nodup)
    (sources : ((store.images ++ images).map SteelFlowImage.source).Nodup) :
    images.foldlM FlowStore.insertImage store =
      .ok { store with images := store.images ++ images } := by
  induction images generalizing store with
  | nil => simp [pure, Except.pure]
  | cons image images ih =>
    have inserted : store.insertImage image = .ok { store with images := store.images ++ [image] } := by
      simp only [List.map_append, List.map_cons] at numbers sources
      refine insert_eq_ok.mpr ⟨fun row mem same => ?_, fun row mem same => ?_, rfl⟩
      · exact (List.nodup_append.mp numbers).2.2 _ (List.mem_map_of_mem mem) _
          List.mem_cons_self same
      · exact (List.nodup_append.mp sources).2.2 _ (List.mem_map_of_mem mem) _
          List.mem_cons_self same
    have rest := @ih { store with images := store.images ++ [image] }
      (by simpa using numbers) (by simpa using sources)
    rw [List.foldlM_cons, bind_eq_ok]
    exact ⟨_, inserted, by simpa using rest⟩

theorem commit_ok (numbered : Numbered store) (tracks : batch.Tracks flow inputs store)
    (fits : imageColumns * batch.activeModels.length ≤ limit.1) (now : String) :
    ∃ next, batch.commit limit flow now store = .ok (batch.appended, next) ∧ Numbered next ∧
      next.untimed = (batch.written flow store).untimed := by
  by_cases nothing : batch.activeModels = []
  · have next : batch.nextImageNo = flow.nextImageNo := by
      rw [tracks.next, nothing, List.length_nil, Nat.add_zero]
    refine ⟨store, by simp [Batch.commit, nothing], numbered, ?_⟩
    rw [written_of_nothing numbered tracks.mine next nothing]
  · have inserted : store.insertImages limit batch.activeModels = .ok _ := bind_eq_ok.mpr
      ⟨(), require_eq_ok.mpr fits,
        foldlM_insertImage tracks.numbered.numbers tracks.numbered.sources⟩
    refine ⟨store.grown (numberedFlow flow batch.nextImageNo now) batch.activeModels, ?_, ?_, ?_⟩
    · rw [Batch.commit, if_neg nothing, bind_eq_ok]
      exact ⟨_, inserted, rfl⟩
    · have saved : Numbered ((batch.written flow store).saveFlow
          (numberedFlow flow batch.nextImageNo now)) :=
        tracks.numbered.saveFlow (FlowStore.mem_grown_self tracks.mine rfl) rfl rfl rfl rfl
      rw [FlowStore.saveFlow_eq_grown, written_grown, List.append_nil] at saved
      exact saved
    · simp only [Batch.written, untimed_grown, untimed_numberedFlow]

end batch

def OfSession (sessionId : String) (inputs : List SteelFlowImageInput) : Prop :=
  ∀ input ∈ inputs, input.sessionId = sessionId

/-- The rows that the single appends of a list add. -/
def newRows (clock : Nat → String) (inputs : List SteelFlowImageInput) (store : FlowStore) : Nat :=
  (appendEach clock inputs [] store).2.images.length - store.images.length

/-- A batch that adds so many rows binds no more variables than a statement may. -/
def Within (limit : BindLimit) (inputs : List SteelFlowImageInput) (rows : Nat) : Prop :=
  lookupVariables inputs ≤ limit.1 ∧ imageColumns * rows ≤ limit.1

section outcome

variable {store : FlowStore} {flow : SteelFlow} {sessionId : String}
  {inputs : List SteelFlowImageInput} (limit : BindLimit)

theorem batchOfSession_of_missing (numbered : Numbered store) (clock later : Nat → String)
    (some : inputs ≠ []) (ofSession : OfSession sessionId inputs)
    (missing : store.flowOf sessionId = none) :
    transaction (batchOfSession limit clock sessionId inputs) store =
        (.error (flowMissing sessionId), store) ∧
      appendEach later inputs [] store = (.error (flowMissing sessionId), store) := by
  refine ⟨by simp only [transaction, batchOfSession, missing], ?_⟩
  cases inputs with
  | nil => exact absurd rfl some
  | cons first rest =>
    have session := ofSession first List.mem_cons_self
    have unknown : store.imageOf first = none := by
      cases stored : store.imageOf first with
      | none => rfl
      | some image =>
        -- a stored image of the session has a flow
        obtain ⟨mem, sameSession, -⟩ := numbered.imageOf_iff.mp stored
        obtain ⟨owner, owning, -, ownerSession⟩ := numbered.owned image mem
        have hasFlow := numbered.flowOf_iff.mpr
          ⟨owning, ownerSession.trans (sameSession.trans session)⟩
        cases missing.symm.trans hasFlow
    rw [← session] at missing
    simp only [appendEach, append_missing unknown missing, session]

/-- With a flow the batch ends like the single appends if it is within the limit, and is refused
otherwise. -/
theorem batchOfSession_of_found (numbered : Numbered store) (clock later : Nat → String)
    (ofSession : OfSession sessionId inputs) (found : store.flowOf sessionId = some flow) :
    (Within limit inputs (newRows later inputs store) ∧
      Numbered (transaction (batchOfSession limit clock sessionId inputs) store).2 ∧
      untimedOutcome (transaction (batchOfSession limit clock sessionId inputs) store) =
        untimedOutcome (appendEach later inputs [] store)) ∨
    (¬ Within limit inputs (newRows later inputs store) ∧
      transaction (batchOfSession limit clock sessionId inputs) store =
        (.error tooManyVariables, store)) := by
  obtain ⟨mine, session⟩ := numbered.flowOf_iff.mp found
  have start := Batch.Tracks.start numbered mine inputs
  have written : (store.batch flow inputs).written flow store = store :=
    written_of_nothing numbered mine start.next rfl
  obtain ⟨tracks, sameOutcome⟩ := addAll_follows clock later [] (fun _ mem => mem)
    (fun input mem => (ofSession input mem).trans session.symm) start numbered
    (by rw [written]) rfl
  have rows : newRows later inputs store =
      ((store.batch flow inputs).addAll flow.flowNo clock inputs).activeModels.length := by
    have length := congrArg (fun outcome => outcome.2.images.length) sameOutcome
    simp only [untimedOutcome, FlowStore.untimed, List.length_map, Batch.written,
      FlowStore.grown_images, List.length_append] at length
    rw [newRows, length, Nat.add_sub_cancel_left]
  rw [rows]
  by_cases within : Within limit inputs
      ((store.batch flow inputs).addAll flow.flowNo clock inputs).activeModels.length
  · obtain ⟨looksUp, inserts⟩ := within
    obtain ⟨next, committed, numberedNext, sameNext⟩ :=
      commit_ok numbered tracks inserts (clock inputs.length)
    have ended : transaction (batchOfSession limit clock sessionId inputs) store =
        (.ok ((store.batch flow inputs).addAll flow.flowNo clock inputs).appended, next) := by
      simp only [transaction, batchOfSession, found, require, looksUp, if_true, bind, Except.bind,
        committed]
    rw [ended, sameOutcome]
    refine .inl ⟨⟨looksUp, inserts⟩, numberedNext, ?_⟩
    simp only [untimedOutcome, sameNext]
  · have ended : batchOfSession limit clock sessionId inputs store = .error tooManyVariables := by
      simp only [batchOfSession, found, require]
      split
      next looksUp =>
        have many : ¬ imageColumns * _ ≤ limit.1 := fun inserts => within ⟨looksUp, inserts⟩
        have some : ((store.batch flow inputs).addAll flow.flowNo clock inputs).activeModels ≠ [] := by
          intro nothing
          simp [nothing] at many
        simp only [bind, Except.bind, Batch.commit, some, if_false, FlowStore.insertImages, require,
          many]
      · rfl
    exact .inr ⟨within, by simp only [transaction, ended]⟩

theorem batch_of_session (some : inputs ≠ []) (ofSession : OfSession sessionId inputs)
    (clock : Nat → String) : appendSteelFlowImages limit clock inputs store =
      transaction (batchOfSession limit clock sessionId inputs) store := by
  cases inputs with
  | nil => exact absurd rfl some
  | cons first rest =>
    have alike : (first :: rest).any (fun input => input.sessionId ≠ first.sessionId) = false := by
      refine List.any_eq_false.mpr fun input mem => ?_
      simp [ofSession input mem, ofSession first List.mem_cons_self]
    simp only [appendSteelFlowImages, alike, Bool.false_eq_true, if_false]
    rw [ofSession first List.mem_cons_self]

/-- A batch of several sessions is refused and changes nothing. -/
theorem batch_refused (clock : Nat → String) (store : FlowStore)
    (mixed : ∀ sessionId, ¬ OfSession sessionId inputs) :
    appendSteelFlowImages limit clock inputs store = (.error batchOfSeveralSessions, store) := by
  cases inputs with
  | nil => exact absurd (fun _ mem => (List.not_mem_nil mem).elim) (mixed "")
  | cons first rest =>
    have differs : (first :: rest).any (fun input => input.sessionId ≠ first.sessionId) = true := by
      by_contra alike
      refine mixed first.sessionId fun input mem => ?_
      have := List.any_eq_false.mp (Bool.eq_false_iff.mpr alike) input mem
      simpa using this
    simp only [appendSteelFlowImages, differs, if_true]

theorem within_nil (clock : Nat → String) (store : FlowStore) :
    Within limit [] (newRows clock [] store) := by
  have room := limit.2
  simp only [imageColumns] at room
  constructor
  · show 1 ≤ limit.1
    omega
  · simp [newRows, appendEach]

/-- What a batch of one session does, within the limit and beyond it. -/
theorem batch_outcome (numbered : Numbered store) (clock later : Nat → String)
    (ofSession : OfSession sessionId inputs) :
    Numbered (appendSteelFlowImages limit clock inputs store).2 ∧
    (Within limit inputs (newRows later inputs store) ∨ store.flowOf sessionId = none →
      untimedOutcome (appendSteelFlowImages limit clock inputs store) =
        untimedOutcome (appendEach later inputs [] store)) ∧
    (¬ Within limit inputs (newRows later inputs store) → store.flowOf sessionId ≠ none →
      appendSteelFlowImages limit clock inputs store = (.error tooManyVariables, store)) := by
  by_cases nothing : inputs = []
  · subst nothing
    exact ⟨numbered, fun _ => rfl, fun beyond => (beyond (within_nil limit later store)).elim⟩
  rw [batch_of_session limit nothing ofSession]
  cases found : store.flowOf sessionId with
  | none =>
    obtain ⟨ended, each⟩ :=
      batchOfSession_of_missing limit numbered clock later nothing ofSession found
    rw [ended, each]
    exact ⟨numbered, fun _ => rfl, fun _ some => (some rfl).elim⟩
  | some flow =>
    rcases batchOfSession_of_found limit numbered clock later ofSession found with
      ⟨within, numberedNext, same⟩ | ⟨beyond, refused⟩
    · exact ⟨numberedNext, fun _ => same, fun beyond => (beyond within).elim⟩
    · rw [refused]
      refine ⟨numbered, ?_, fun _ _ => rfl⟩
      rintro (within | none)
      · exact (beyond within).elim
      · cases none

theorem Numbered.batch (numbered : Numbered store) (limit : BindLimit) (clock : Nat → String)
    (inputs : List SteelFlowImageInput) :
    Numbered (appendSteelFlowImages limit clock inputs store).2 := by
  by_cases alike : ∃ sessionId, OfSession sessionId inputs
  · obtain ⟨sessionId, ofSession⟩ := alike
    exact (batch_outcome limit numbered clock clock ofSession).1
  · rw [batch_refused limit clock store (not_exists.mp alike)]
    exact numbered

end outcome

/-! ## Every sequence of operations -/

inductive FlowOperation where
  | start (now : String) (assigned : Nat) (input : SteelFlowInput)
  | updateStatus (now sessionId status finishedAt rawPayload : String)
  | append (now : String) (input : SteelFlowImageInput)
  | appendAll (clock : Nat → String) (inputs : List SteelFlowImageInput)

def FlowOperation.run (limit : BindLimit) (store : FlowStore) : FlowOperation → FlowStore
  | .start now assigned input => (startSteelFlow now assigned input store).2
  | .updateStatus now sessionId status finishedAt rawPayload =>
    (updateSteelFlowStatus now sessionId status finishedAt rawPayload store).2
  | .append now input => (appendSteelFlowImage now input store).2
  | .appendAll clock inputs => (appendSteelFlowImages limit clock inputs store).2

def afterOperations (limit : BindLimit) (operations : List FlowOperation) (store : FlowStore) :
    FlowStore :=
  operations.foldl (FlowOperation.run limit) store

section

variable (numbered : Numbered store)
include numbered

theorem Numbered.insertFlow {next : FlowStore} (inserted : store.insertFlow flow = .ok next)
    (count : flow.imageCount = 0) (first : flow.nextImageNo = 1) : Numbered next := by
  obtain ⟨newNo, newSession, rfl⟩ := insert_eq_ok.mp inserted
  refine ⟨?_, ?_, fun image mem => ?_, fun row mem => ?_, fun row mem => ?_,
    numbered.numbers, numbered.sources⟩
  · exact Table.nodup_concat numbered.flowNos newNo
  · exact Table.nodup_concat numbered.sessions newSession
  · obtain ⟨owner, owning, same⟩ := numbered.owned image mem
    exact ⟨owner, List.mem_append_left _ owning, same⟩
  · rcases List.mem_append.mp mem with old | new
    · exact numbered.counted row old
    -- an image with the number of the new flow would belong to an older flow of that number
    rw [List.mem_singleton.mp new, count]
    have none : store.images.filter (fun image => image.flowNo = flow.flowNo) = [] := by
      grind [List.filter_eq_nil_iff, numbered.owned]
    simp [none]
  · grind [numbered.next]

theorem Numbered.start (now : String) (assigned : Nat) (input : SteelFlowInput) :
    Numbered (startSteelFlow now assigned input store).2 := by
  unfold startSteelFlow
  cases found : store.flowOf input.sessionId with
  | some flow =>
    apply numbered.saveFlow (numbered.flowOf_iff.mp found).1 <;> simp only [restartedFlow]
  | none =>
    cases inserted : store.insertFlow
        (newFlow now (store.newFlowNo assigned input.minimumFlowNo) input) with
    | error error => simpa [inserted] using numbered
    | ok next =>
      have mine : newFlow now (store.newFlowNo assigned input.minimumFlowNo) input ∈ next.flows := by
        obtain ⟨-, -, rfl⟩ := insert_eq_ok.mp inserted
        exact List.mem_append_right _ (List.mem_singleton.mpr rfl)
      simp only [inserted]
      apply (numbered.insertFlow inserted rfl rfl).saveFlow mine <;> simp only [namedFlow]

theorem Numbered.updateStatus (now sessionId status finishedAt rawPayload : String) :
    Numbered (updateSteelFlowStatus now sessionId status finishedAt rawPayload store).2 := by
  unfold updateSteelFlowStatus
  cases found : store.flowOf sessionId with
  | none => exact numbered
  | some flow => exact numbered.saveFlow (numbered.flowOf_iff.mp found).1 rfl rfl rfl rfl

theorem Numbered.run (limit : BindLimit) (operation : FlowOperation) :
    Numbered (operation.run limit store) := by
  cases operation with
  | start now assigned input => exact numbered.start now assigned input
  | updateStatus now sessionId status finishedAt rawPayload =>
    exact numbered.updateStatus now sessionId status finishedAt rawPayload
  | append now input => exact numbered.append now input
  | appendAll clock inputs => exact numbered.batch limit clock inputs

end

theorem numbered_empty : Numbered .empty where
  flowNos := .nil
  sessions := .nil
  owned _ mem := (List.not_mem_nil mem).elim
  counted _ mem := (List.not_mem_nil mem).elim
  next _ mem := (List.not_mem_nil mem).elim
  numbers := .nil
  sources := .nil

theorem numbered_after (limit : BindLimit) (operations : List FlowOperation)
    (numbered : Numbered store) : Numbered (afterOperations limit operations store) := by
  induction operations generalizing store with
  | nil => exact numbered
  | cons operation operations ih => exact ih (numbered.run limit operation)

/-- After every sequence of operations the numbers of each flow are 1 to n with its counters to
match, and every camera and sequence number has one row.  A batch of one session that binds no more
variables than a statement may then answers and stores what its inputs do one by one, timestamps
aside.  One that binds more is refused without a change if its session has a flow, and so is a batch
of several sessions. -/
theorem flow_images_numbered (limit : BindLimit) (operations : List FlowOperation) :
    Numbered (afterOperations limit operations .empty) ∧
    (∀ sessionId inputs, OfSession sessionId inputs → ∀ clock later : Nat → String,
      (Within limit inputs (newRows later inputs (afterOperations limit operations .empty)) ∨
          (afterOperations limit operations .empty).flowOf sessionId = none →
        untimedOutcome
            (appendSteelFlowImages limit clock inputs (afterOperations limit operations .empty)) =
          untimedOutcome (appendEach later inputs [] (afterOperations limit operations .empty))) ∧
      (¬ Within limit inputs (newRows later inputs (afterOperations limit operations .empty)) →
        (afterOperations limit operations .empty).flowOf sessionId ≠ none →
        appendSteelFlowImages limit clock inputs (afterOperations limit operations .empty) =
          (.error tooManyVariables, afterOperations limit operations .empty))) ∧
    ∀ inputs, (∀ sessionId, ¬ OfSession sessionId inputs) → ∀ clock : Nat → String,
      appendSteelFlowImages limit clock inputs (afterOperations limit operations .empty) =
        (.error batchOfSeveralSessions, afterOperations limit operations .empty) := by
  have numbered := numbered_after limit operations numbered_empty
  exact ⟨numbered, fun _ _ ofSession clock later =>
    (batch_outcome limit numbered clock later ofSession).2,
    fun _ mixed clock => batch_refused limit clock _ mixed⟩

/-! ## A repeated key, and two sessions in one list -/

def sqliteLimit : BindLimit := ⟨32766, by decide⟩

def flowInput (sessionId : String) (minimumFlowNo : Int) : SteelFlowInput :=
  ⟨sessionId, "M-1", minimumFlowNo, "steel-in", "capturing", "D:/inspection", "1000", "\x7b\x7d"⟩

def imageInput (sessionId : String) (sequence : Int) : SteelFlowImageInput :=
  ⟨"INSP-1", sessionId, "M-1", "CAM-1", "192.168.1.11", sequence, "depth", "intensity", "metadata",
    2560, 1000, "41.5", "1001"⟩

def oneFlow : FlowStore :=
  afterOperations sqliteLimit [.start "1000" 0 (flowInput "SESSION-1" 1)] .empty

/-- Two images, the first of them twice. -/
def repeatedKey : List SteelFlowImageInput :=
  [imageInput "SESSION-1" 1, imageInput "SESSION-1" 2, imageInput "SESSION-1" 1]

/-- The batch of two images, the first of them twice, inserts two rows. -/
theorem repeated_key_appended :
    OfSession "SESSION-1" repeatedKey ∧
    Within sqliteLimit repeatedKey (newRows (fun _ => "2000") repeatedKey oneFlow) ∧
    (∃ appended,
      (appendEach (fun _ => "2000") repeatedKey [] oneFlow).1.toOption = some appended ∧
      appended.map (fun append => (append.image.imageNo, append.inserted)) =
        [(1, true), (2, true), (1, false)]) ∧
    untimedOutcome (appendSteelFlowImages sqliteLimit (fun _ => "1002") repeatedKey oneFlow) =
      untimedOutcome (appendEach (fun _ => "2000") repeatedKey [] oneFlow) := by
  have ofSession : OfSession "SESSION-1" repeatedKey := by
    intro input member
    simp only [repeatedKey, List.mem_cons, List.not_mem_nil, or_false] at member
    obtain rfl | rfl | rfl := member <;> rfl
  have within : Within sqliteLimit repeatedKey (newRows (fun _ => "2000") repeatedKey oneFlow) :=
    ⟨by decide +kernel, by decide +kernel⟩
  exact ⟨ofSession, within, Option.map_eq_some_iff.mp (by decide +kernel),
    ((flow_images_numbered sqliteLimit [.start "1000" 0 (flowInput "SESSION-1" 1)]).2.1 _ _ ofSession
      _ _).1 (.inl within)⟩

/-- Two flows, and one list with an image for each: the batch refuses it, one by one both images are
appended. -/
theorem mixed_batch_differs :
    ¬ ∀ (limit : BindLimit) (operations : List FlowOperation) (inputs : List SteelFlowImageInput)
        (clock later : Nat → String),
      untimedOutcome
          (appendSteelFlowImages limit clock inputs (afterOperations limit operations .empty)) =
        untimedOutcome (appendEach later inputs [] (afterOperations limit operations .empty)) := by
  intro same
  have refused := same sqliteLimit
    [.start "1000" 0 (flowInput "SESSION-1" 1), .start "1000" 0 (flowInput "SESSION-2" 1)]
    [imageInput "SESSION-1" 1, imageInput "SESSION-2" 1] (fun _ => "1002") (fun _ => "1002")
  exact absurd (congrArg (fun outcome => outcome.1.toBool) refused) (by decide +kernel)

end SteelInspection.Production
