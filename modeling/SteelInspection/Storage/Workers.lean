import SteelInspection.Storage.Order

/-! # The threads of the storage

What a worker knows of its round from call to call: which of its copies and writes may still be
running, and where the gates are.  From that every call of every thread is made when it may be made,
and the order of the rounds holds in every run.
-/

namespace SteelInspection.Storage

open Foundations Discipline

variable {ready : List Camera → RoundBook → Prop} {submitted : Option (List Camera)} (fuel : Nat)

section Knowledge

variable {id order : Nat} {copying writing waiting : List Camera} {book after : RoundBook}

/-- The worker runs the round, which has not passed the finalize gate. -/
structure Holds (id order : Nat) (book : RoundBook) : Prop where
  mine : (id, order) ∈ book.running
  ahead : book.nextFinalize ≤ order

structure Begun (id order : Nat) (book : RoundBook) : Prop extends Holds id order book where
  noCopies : ∀ camera, stageOf book.copies order camera = none
  noWrites : ∀ camera, stageOf book.writes order camera = none

/-- A round past the prepare gate, with the copies and the writes that may still be running. -/
structure Prepares (id order : Nat) (copying writing : List Camera) (book : RoundBook) : Prop
    extends Holds id order book where
  turn : order ≤ book.nextPrepare
  copies : EndedBut book.copies order copying
  writes : EndedBut book.writes order writing

/-- A round whose turn it is at the finalize gate. -/
structure AtGate (id order : Nat) (book : RoundBook) : Prop where
  mine : (id, order) ∈ book.running
  turn : book.nextFinalize = order

/-- A round past the finalize gate. -/
structure Passed (id order : Nat) (book : RoundBook) : Prop where
  mine : (id, order) ∈ book.running
  passed : order < book.nextFinalize

theorem Holds.runs (holds : Holds id order book) : Runs (.round id) order book := ⟨id, rfl, holds.mine⟩

theorem AtGate.runs (gate : AtGate id order book) : Runs (.round id) order book := ⟨id, rfl, gate.mine⟩

section

variable (relied : BookRely (.round id) book after)
include relied

theorem Holds.rely (holds : Holds id order book) : Holds id order after := by
  obtain ⟨mine, kept⟩ := relied order holds.mine
  exact ⟨mine, kept.finalize_le holds.ahead⟩

theorem Begun.rely (begun : Begun id order book) : Begun id order after := by
  obtain ⟨-, kept⟩ := relied order begun.mine
  exact ⟨begun.toHolds.rely relied, fun camera => (kept.copies camera).1 (begun.noCopies camera),
    fun camera => (kept.writes camera).1 (begun.noWrites camera)⟩

theorem Prepares.rely (prepares : Prepares id order copying writing book) :
    Prepares id order copying writing after := by
  obtain ⟨-, kept⟩ := relied order prepares.mine
  exact ⟨prepares.toHolds.rely relied, Nat.le_trans prepares.turn kept.prepare_mono,
    prepares.copies.progress kept.copies, prepares.writes.progress kept.writes⟩

theorem AtGate.rely (gate : AtGate id order book) : AtGate id order after := by
  obtain ⟨mine, kept⟩ := relied order gate.mine
  have turn := gate.turn
  have least := kept.finalize_le (Nat.le_of_eq turn)
  have most := kept.finalize_mono
  exact ⟨mine, by omega⟩

theorem Passed.rely (past : Passed id order book) : Passed id order after := by
  obtain ⟨mine, kept⟩ := relied order past.mine
  exact ⟨mine, Nat.lt_of_lt_of_le past.passed kept.finalize_mono⟩

end

theorem EndedBut.insert {tasks later : TaskTable} {camera : Camera}
    (ended : EndedBut tasks order waiting)
    (inserted : tasks.insert ⟨order, camera, .queued⟩ = some later) :
    EndedBut later order (waiting ++ [camera]) := by
  intro lens outside stage found
  simp only [List.mem_append, List.mem_singleton, not_or] at outside
  rw [stageOf_insert inserted, if_neg fun same => outside.2 same.2] at found
  exact ended lens outside.1 stage found

theorem EndedBut.seen {tasks : TaskTable} {fewer : List Camera} {camera : Camera}
    (ended : EndedBut tasks order waiting) {succeeded : Bool}
    (seen : stageOf tasks order camera = some (.ended succeeded))
    (others : ∀ lens ∈ waiting, lens ≠ camera → lens ∈ fewer) : EndedBut tasks order fewer := by
  intro lens outside stage found
  by_cases same : lens = camera
  · grind
  · exact ended lens (fun mem => outside (others lens mem same)) stage found

/-- What a worker knows when it has submitted tasks: `ready` of what it has submitted, unless a
submission has failed. -/
def Submitted (id order : Nat) (submitted : Option (List Camera))
    (ready : List Camera → RoundBook → Prop) (book : RoundBook) : Prop :=
  Holds id order book ∧ ∀ cameras, submitted = some cameras → ready cameras book

end Knowledge

section Calls

variable {config : Config} {id order : Nat} {copying writing : List Camera} {shared : Shared}
  (camera : Camera)

/-- The code of a round as a thread among the others, with what it knows of the books at its end. -/
abbrev RoundSafe (config : Config) (id : Nat) {β : Type} (post : β → RoundBook → Prop)
    (program : Code β) (shared : Shared) : Prop :=
  (storageDiscipline config).Safe (.round id) (fun value current => post value current.book) program
    shared

/-- What the others keep is also kept by the calls of a worker that do not move its round on. -/
theorem frame (knows : RoundBook → Prop)
    (stable : ∀ {book after}, BookRely (.round id) book after → knows book → knows after)
    {β : Type} {program : Code β}
    (calls : program.Calls fun request => request.round? = none ∧
      ∀ book, knows book → Good config (.round id) request book)
    (known : knows shared.book) :
    RoundSafe config id (fun _ => knows) program shared := by
  refine Safe.of_calls (fun relied before => stable relied before) ?_ ?_ calls known
  · exact fun allowed _ before => allowed.2 _ before
  intro request env shared reply after allowed _ before _ ran
  have entry : Entry config (.round id) shared.book request after.book := entry_of_semantics ran
  refine stable (fun order mine => entry.keeps ?_ mine) before
  intro theirs moves
  rw [allowed.1] at moves
  cases moves

def RoundBook.next (book : RoundBook) : Phase → Nat
  | .prepare => book.nextPrepare
  | .finalize => book.nextFinalize

theorem waitOrder_safe (phase : Phase) {knows : RoundBook → Prop}
    (stable : ∀ {book after}, BookRely (.round id) book after → knows book → knows after)
    (known : knows shared.book) :
    RoundSafe config id (fun _ book => knows book ∧ book.next phase = order)
      (ask (.waitOrder phase order)) shared := by
  refine Safe.knowing (Call.waitOrder phase order) (stable · known) (fun _ => trivial) ?_
  intro current env reply after before ran
  cases phase <;>
  · simp only [storageRules, semantics] at ran
    split at ran
    next turn =>
      cases ran
      exact ⟨before, turn⟩
    · cases ran

theorem submitCopy_safe (prepares : Prepares id order copying [] shared.book) :
    RoundSafe config id (fun submitted book => Holds id order book ∧
      (submitted = true → Prepares id order (copying ++ [camera]) [] book))
      (ask (.submitCopy order camera)) shared := by
  refine Safe.knowing (Call.submitCopy order camera) prepares.rely ?_ ?_
  · exact fun before => ⟨before.runs, before.ahead, before.turn⟩
  intro current env reply after before ran
  simp only [storageRules, semantics] at ran
  split at ran
  next copies _ inserted =>
    cases ran
    have holds : Holds id order { current with copies }.book := ⟨before.mine, before.ahead⟩
    exact ⟨holds, fun _ => ⟨holds, before.turn, before.copies.insert inserted, before.writes⟩⟩
  · cases ran
    exact ⟨before.toHolds, by simp⟩

theorem submitWrite_safe (prepares : Prepares id order copying writing shared.book)
    (copied : config.processWorkers = true →
      stageOf shared.book.copies order camera = some (.ended true)) :
    RoundSafe config id (fun submitted book => Holds id order book ∧
      (submitted = true → Prepares id order copying (writing ++ [camera]) book))
      (ask (.submitWrite order camera)) shared := by
  refine Safe.ask (Call.submitWrite order camera) (fun current relied _ => ?_) ?_
  · have before := prepares.rely relied
    exact ⟨before.runs, before.ahead, before.turn, fun processes =>
      ((relied order prepares.mine).2.copies camera).2 true (copied processes)⟩
  intro current relied _ _ env reply after ran _
  have before := prepares.rely relied
  simp only [storageRules, semantics] at ran
  split at ran
  next writes _ inserted =>
    cases ran
    have holds : Holds id order { current with writes }.book := ⟨before.mine, before.ahead⟩
    exact ⟨holds, fun _ => ⟨holds, before.turn, before.copies, before.writes.insert inserted⟩⟩
  · cases ran
    exact ⟨before.toHolds, by simp⟩

theorem nextCompleted_safe (prepares : Prepares id order copying writing shared.book) :
    RoundSafe config id (fun outcome book => outcome.1 ∈ copying ∧
      Prepares id order (copying.erase outcome.1) writing book ∧
      stageOf book.copies order outcome.1 = some (.ended outcome.2))
      (ask (.nextCompleted order copying)) shared := by
  refine Safe.knowing (Call.nextCompleted order copying) prepares.rely (fun _ => trivial) ?_
  intro current env reply after before ran
  obtain ⟨outcome, chosen, answered⟩ := Option.map_eq_some_iff.mp ran
  cases answered
  obtain ⟨camera, mem, found⟩ := List.mem_filterMap.mp (List.mem_of_getElem? chosen)
  split at found
  next succeeded seen =>
    cases found
    refine ⟨mem, ⟨before.toHolds, before.turn, ?_, before.writes⟩, seen⟩
    exact before.copies.seen seen fun lens waiting different =>
      (List.mem_erase_of_ne different).mpr waiting
  · cases found

theorem awaitWrite_safe (cameras : List Camera)
    (prepares : Prepares id order [] (camera :: cameras) shared.book) :
    RoundSafe config id (fun _ => Prepares id order [] cameras)
      (ask (.awaitWrite order camera)) shared := by
  refine Safe.knowing (Call.awaitWrite order camera) prepares.rely (fun _ => trivial) ?_
  intro current env reply after before ran
  simp only [storageRules, semantics] at ran
  split at ran
  next succeeded seen =>
    cases ran
    refine ⟨before.toHolds, before.turn, before.copies, before.writes.seen seen ?_⟩
    intro lens waiting different
    exact (List.mem_cons.mp waiting).resolve_left different
  · cases ran

theorem advancePrepare_safe (known : Submitted id order submitted ready shared.book)
    (stable : ∀ {cameras book after}, BookRely (.round id) book after → ready cameras book →
      ready cameras after) :
    RoundSafe config id (fun _ => Submitted id order submitted ready)
      (ask (.advanceOrder .prepare order)) shared :=
  frame (Submitted id order submitted ready)
    (fun relied known =>
      ⟨known.1.rely relied, fun cameras given => stable relied (known.2 cameras given)⟩)
    (.ask (Call.advanceOrder .prepare order) ⟨rfl, fun _ before => before.1.runs⟩) known

theorem releaseFailed_safe (gate : AtGate id order shared.book) :
    RoundSafe config id (fun _ => Passed id order) (ask (.releaseFailed order)) shared := by
  refine Safe.knowing (Call.releaseFailed order) gate.rely (·.runs) ?_
  intro current env reply after before ran
  simp only [storageRules, semantics] at ran
  split at ran
  · cases ran
    exact ⟨before.mine, Nat.lt_succ_self order⟩
  next missed =>
    exact (missed before.turn).elim

theorem advanceFinalize_safe (gate : AtGate id order shared.book)
    (prepares : Prepares id order [] [] shared.book) :
    RoundSafe config id (fun advanced book => advanced = true ∧ Passed id order book)
      (ask (.advanceOrder .finalize order)) shared := by
  refine Safe.knowing (Call.advanceOrder .finalize order)
    (fun relied => And.intro (prepares.rely relied) (gate.rely relied)) ?_ ?_
  · exact fun before =>
      ⟨before.1.runs, endedBut_nil.mp before.1.copies, endedBut_nil.mp before.1.writes⟩
  rintro current env reply after ⟨-, before⟩ ran
  simp only [storageRules, semantics] at ran
  split at ran
  · cases ran
    exact ⟨rfl, before.mine, Nat.lt_succ_self order⟩
  next missed =>
    exact (missed before.turn).elim

end Calls

/-! ## The code of a round -/

section Rounds

variable {config : Config} {id order : Nat} {copying writing : List Camera} {shared : Shared}
  (job : Job) (cameras committed : List Camera)

theorem submitCopies_safe (prepares : Prepares id order copying [] shared.book) :
    RoundSafe config id (fun prepared => Submitted id order prepared (fun copies =>
      Prepares id order copies [])) (submitCopies config order cameras copying) shared := by
  induction cameras generalizing copying shared with
  | nil => exact .pure ⟨prepares.toHolds, fun _ all => Option.some.inj all ▸ prepares⟩
  | cons camera cameras ih =>
    rw [submitCopies]
    split
    · exact .pure ⟨prepares.toHolds, nofun⟩
    refine (frame (Prepares id order copying []) Prepares.rely
      (.ask (Call.reserveIndex camera) ⟨rfl, fun _ _ => trivial⟩) prepares).bind fun reserved _ still => ?_
    split
    · refine (submitCopy_safe camera still).bind fun submitted _ outcome => ?_
      split
      next succeeded =>
        exact ih (outcome.2 succeeded)
      · exact .pure ⟨outcome.1, nofun⟩
    · exact .pure ⟨still.toHolds, nofun⟩

theorem submitWrites_safe (threads : config.processWorkers = false)
    (prepares : Prepares id order [] writing shared.book) :
    RoundSafe config id (fun prepared => Submitted id order prepared (Prepares id order []))
      (submitWrites order cameras writing) shared := by
  induction cameras generalizing writing shared with
  | nil => exact .pure ⟨prepares.toHolds, fun _ all => Option.some.inj all ▸ prepares⟩
  | cons camera cameras ih =>
    have noCopies : config.processWorkers ≠ true := by simp [threads]
    refine (submitWrite_safe camera prepares fun processes => (noCopies processes).elim).bind
      fun submitted _ outcome => ?_
    split
    next succeeded =>
      exact ih (outcome.2 succeeded)
    · exact .pure ⟨outcome.1, nofun⟩

theorem collectCopies_safe (count : Nat) (enough : copying.length = count)
    (prepares : Prepares id order copying writing shared.book) :
    RoundSafe config id (fun collected => Submitted id order collected (Prepares id order []))
      (collectCopies order count copying writing) shared := by
  induction count generalizing copying writing shared with
  | zero =>
    refine .pure ⟨prepares.toHolds, ?_⟩
    rintro writes ⟨⟩
    exact List.eq_nil_of_length_eq_zero enough ▸ prepares
  | succ count ih =>
    refine (nextCompleted_safe prepares).bind fun outcome _ answer => ?_
    obtain ⟨mem, fewer, seen⟩ := answer
    have shorter : (copying.erase outcome.1).length = count := by
      rw [List.length_erase_of_mem mem, enough]
      rfl
    split
    next succeeded =>
      rw [succeeded] at seen
      refine (submitWrite_safe outcome.1 fewer fun _ => seen).bind fun submitted _ answered => ?_
      split
      next accepted =>
        exact ih shorter (answered.2 accepted)
      · exact .pure ⟨answered.1, nofun⟩
    · exact .pure ⟨fewer.toHolds, nofun⟩

theorem awaitWrites_safe (failed : Bool) (prepares : Prepares id order [] writing shared.book) :
    RoundSafe config id (fun _ => Prepares id order [] [])
      (awaitWrites order writing committed failed) shared := by
  induction writing generalizing committed failed shared with
  | nil => exact .pure prepares
  | cons camera cameras ih =>
    refine (awaitWrite_safe camera cameras prepares).bind fun succeeded _ fewer => ?_
    split
    · exact ih _ _ fewer
    · exact ih _ _ fewer

theorem failRound_safe (holds : Holds id order shared.book) :
    RoundSafe config id (fun _ => Passed id order) (failRound order) shared := by
  refine (waitOrder_safe .finalize Holds.rely holds).bind fun _ _ waited => ?_
  have gate : AtGate id order _ := ⟨waited.1.mine, waited.2⟩
  exact (releaseFailed_safe gate).bind fun _ _ passed => .pure passed

/-- The calls that publish a round. -/
def Publishes (order : Nat) : Call → Prop
  | .publish _ => True
  | .enqueueCommit commit => commit.order = order
  | _ => False

theorem publishes_enqueueDatabaseCommit (commit : Commit) (fuel : Nat) :
    (enqueueDatabaseCommit commit fuel).Calls (Publishes commit.order) := by
  induction fuel with
  | zero => exact .diverge
  | succ fuel ih =>
    refine .bind (.ask (Call.enqueueCommit commit) rfl) fun answer => ?_
    cases answer with
    | waiting => exact ih
    | refused | queued => exact .pure

theorem publishes_publishRound :
    (publishRound fuel order job committed).Calls (Publishes order) := by
  unfold publishRound
  split
  · exact .pure
  · refine .bind (.ask (Call.publish order) trivial) fun published => ?_
    split
    · exact .bind (publishes_enqueueDatabaseCommit ⟨order, _, _⟩ fuel) fun _ => .pure
    · exact .pure

theorem finishRound_safe (prepares : Prepares id order [] writing shared.book) :
    RoundSafe config id (fun _ => Passed id order)
      (finishRound config fuel order job writing) shared := by
  refine (awaitWrites_safe [] false prepares).bind fun outcome _ ended => ?_
  split
  · exact failRound_safe ended.toHolds
  refine (waitOrder_safe .finalize Prepares.rely ended).bind fun _ _ waited => ?_
  have gate : AtGate id order _ := ⟨waited.1.mine, waited.2⟩
  -- publishing moves neither the gate nor a task
  refine (frame (fun book => AtGate id order book ∧ Prepares id order [] [] book)
    (fun relied before => ⟨before.1.rely relied, before.2.rely relied⟩)
    ((publishes_publishRound fuel job outcome.1).mono ?_) ⟨gate, waited.1⟩).bind
      fun published _ still => ?_
  · intro request publishes
    cases request with
    | publish _ => exact ⟨rfl, fun _ _ => trivial⟩
    | enqueueCommit commit =>
      refine ⟨rfl, fun book before => ?_⟩
      have same : commit.order = order := publishes
      show Runs (.round id) commit.order book
      rw [same]
      exact before.1.runs
    | _ => exact publishes.elim
  · refine (advanceFinalize_safe still.1 still.2).bind fun advanced _ passed => ?_
    rw [if_pos passed.1]
    exact .pure passed.2

theorem persistCachedRound_safe (begun : Begun id order shared.book) :
    RoundSafe config id (fun _ => Passed id order)
      (persistCachedRound config fuel order job) shared := by
  refine (waitOrder_safe .prepare Begun.rely begun).bind fun _ current waited => ?_
  have prepares : Prepares id order [] [] current.book := by
    refine ⟨waited.1.toHolds, Nat.le_of_eq waited.2.symm, ?_, ?_⟩
    · intro camera _ stage found
      rw [waited.1.noCopies camera] at found
      cases found
    · intro camera _ stage found
      rw [waited.1.noWrites camera] at found
      cases found
  split
  · refine (submitCopies_safe (job.cameras config) prepares).bind fun prepared _ submitted => ?_
    refine (advancePrepare_safe submitted Prepares.rely).bind fun advanced _ still => ?_
    split
    next copies =>
      refine (collectCopies_safe copies.length rfl (still.2 copies rfl)).bind
        fun collected _ outcome => ?_
      cases collected with
      | none => exact failRound_safe outcome.1
      | some writes => exact finishRound_safe fuel job (outcome.2 writes rfl)
    · exact failRound_safe still.1
  next threads =>
    refine (submitWrites_safe (job.cameras config) (by simpa using threads) prepares).bind
      fun prepared _ submitted => ?_
    refine (advancePrepare_safe submitted Prepares.rely).bind fun advanced _ still => ?_
    split
    next writes =>
      exact finishRound_safe fuel job (still.2 writes rfl)
    · exact failRound_safe still.1

/-- A worker takes on a round that has not been started, so nothing has been submitted for it. -/
theorem startRound_safe :
    RoundSafe config id (fun next => Begun id next.1) (ask .startRound) shared := by
  refine Safe.ask Call.startRound (fun _ _ _ => trivial) ?_
  intro current _ ordered _ env reply after ran _
  simp only [storageRules, semantics] at ran
  split at ran
  next worker next job rest thread head =>
    cases thread
    split at ran
    · cases ran
      have fresh : ¬ Started current.book next := ordered.not_started head
      refine ⟨⟨List.mem_cons_self, ?_⟩, fun camera => ?_, fun camera => ?_⟩
      · exact Nat.le_of_not_lt fun passed => fresh (ordered.started next passed)
      · exact Option.eq_none_iff_forall_ne_some.mpr fun stage found =>
          fresh (ordered.copies.2 next camera stage found)
      · exact Option.eq_none_iff_forall_ne_some.mpr fun stage found =>
          fresh (ordered.writes.2 next camera stage found)
    · cases ran
  · cases ran

theorem runRound_safe :
    (storageDiscipline config).Obeys (.round id) (runRound config fuel) shared := by
  refine startRound_safe.bind fun next _ begun => ?_
  refine (frame (Begun id next.1) Begun.rely (.ask Call.activate ⟨rfl, fun _ _ => trivial⟩)
    begun).bind fun _ _ active => ?_
  refine (persistCachedRound_safe fuel next.2 active).bind fun _ _ passed => ?_
  refine (frame (Passed id next.1) Passed.rely (.ask Call.deactivate ⟨rfl, fun _ _ => trivial⟩)
    passed).bind fun _ _ left => ?_
  refine (Safe.ask_any (Call.endRound next.1) ?_).bind fun _ _ _ => .pure trivial
  intro current relied _
  have still := left.rely relied
  exact ⟨⟨id, rfl, still.mine⟩, still.passed⟩

end Rounds

/-! ## The other threads -/

variable {thread : Thread}

section Others

variable {config : Config} {shared : Shared} {program : Code Answer}

theorem admitRound_safe (id : Nat) (job : Job) (force saveGeneration : Bool) (fuel : Nat) :
    (storageDiscipline config).Obeys (.producer id)
      (admitRound job force saveGeneration fuel) shared := by
  induction fuel generalizing shared with
  | zero => exact .diverge
  | succ fuel ih =>
    have admits : (storageDiscipline config).Safe (.producer id)
        (fun admission current => ∀ order, admission = .admitted order →
          (id, order) ∈ current.book.admitted) (ask (.admission job force saveGeneration)) shared := by
      refine Safe.ask (Call.admission job force saveGeneration) (fun _ _ _ => trivial) ?_
      intro current _ _ _ env reply after ran _
      simp only [storageRules, semantics] at ran
      repeat' split at ran
      · cases ran
        simp
      · cases ran
        simp
      · cases ran
        simp
      · cases ran
        rintro order ⟨⟩
        exact List.mem_cons_self
    refine admits.bind fun admission _ admitted => ?_
    cases admission with
    | refused => exact .pure trivial
    | waiting => exact ih
    | admitted order =>
      refine (Safe.ask_any (Call.submitRound order job) ?_).bind fun submitted _ _ => ?_
      · exact fun current relied _ => ⟨id, rfl, relied order (admitted order rfl)⟩
      · split <;> exact .pure trivial

/-- The calls that a thread may make at any time. -/
def Unbound (thread : Thread) : Call → Prop
  | .submitRound _ _ | .endRound _ | .advanceOrder _ _ | .releaseFailed _ | .submitCopy _ _
  | .submitWrite _ _ | .enqueueCommit _ => False
  | .takeCommits | .resumeCommits _ | .finishCommits _ _ => thread = .database
  | _ => True

theorem Unbound.good {request : Call} (unbound : Unbound thread request) (book : RoundBook) :
    Good config thread request book := by
  cases request with
  | submitRound _ _ | endRound _ | advanceOrder _ _ | releaseFailed _ | submitCopy _ _
  | submitWrite _ _ | enqueueCommit _ => exact unbound.elim
  | takeCommits | resumeCommits _ | finishCommits _ _ => exact unbound
  | _ => trivial

theorem safe_of_unbound (calls : program.Calls (Unbound thread)) :
    (storageDiscipline config).Obeys thread program shared :=
  Safe.of_calls (fun _ known => known) (fun unbound _ _ => unbound.good _)
    (fun _ _ known _ _ => known) calls trivial

theorem unbound_commitBatch (taken : Taken) :
    (commitBatch fuel taken).Calls (Unbound .database) := by
  induction fuel generalizing taken with
  | zero => exact .diverge
  | succ fuel ih =>
    cases taken with
    | waiting | stopped => exact .pure
    | coalescing batch =>
      exact .bind (.ask (Call.resumeCommits batch) rfl) fun taken => ih taken
    | counted batch =>
      refine .bind (.ask (Call.commitResults batch) trivial) fun succeeded => ?_
      exact .bind (.ask (Call.finishCommits batch succeeded) rfl) fun _ => .pure

theorem unbound_databaseCommitLoop : (databaseCommitLoop fuel).Calls (Unbound .database) := by
  induction fuel with
  | zero => exact .diverge
  | succ fuel ih =>
    refine .bind (.ask Call.takeCommits rfl) fun taken => ?_
    refine .bind (unbound_commitBatch fuel taken) fun goesOn => ?_
    split
    · exact ih
    · exact .pure

theorem unbound_persistenceIsQuiescent (id : Nat) :
    persistenceIsQuiescent.Calls (Unbound (.check id)) := by
  refine .bind (.ask Call.readPendingRounds trivial) fun pending => ?_
  split
  · refine .bind (.ask Call.readActiveRounds trivial) fun active => ?_
    split
    · refine .bind (.ask Call.readCommitQueue trivial) fun queued => ?_
      split
      · exact .bind (.ask Call.readCommitActiveRounds trivial) fun _ => .pure
      · exact .pure
    · exact .pure
  · exact .pure

theorem handler_safe (handler : Handler config thread program) :
    (storageDiscipline config).Obeys thread program shared := by
  cases handler with
  | enqueue id fuel round materialId sessionId requireSteelSignal force saveGeneration =>
    unfold enqueueStorageRound
    split
    · exact .pure trivial
    · split
      · exact admitRound_safe id _ _ _ fuel
      · exact .pure trivial
  | round id fuel => exact runRound_safe fuel
  | callback id order => exact safe_of_unbound (.bind (.ask (Call.completed order) trivial) fun _ => .pure)
  | copy id =>
    exact safe_of_unbound (.bind (.ask Call.startCopy trivial) fun task =>
      .bind (.ask (Call.endCopy task.1 task.2) trivial) fun _ => .pure)
  | write id =>
    exact safe_of_unbound (.bind (.ask Call.startWrite trivial) fun task =>
      .bind (.ask (Call.endWrite task.1 task.2) trivial) fun _ => .pure)
  | commit fuel => exact safe_of_unbound (unbound_databaseCommitLoop fuel)
  | check id => exact safe_of_unbound (unbound_persistenceIsQuiescent id)
  | stopStorage => exact safe_of_unbound (.bind (.ask Call.stopStorage trivial) fun _ => .pure)
  | stopCommits => exact safe_of_unbound (.bind (.ask Call.stopCommits trivial) fun _ => .pure)

end Others

/-! ## Every run -/

section Runs

variable {config : Config} {machine : Machine Shared Thread Call Call.Reply Answer}

/-- The rounds are in order in every run in which a failing round leaves with nothing of its own
still running. -/
theorem reachable_ordered (reached : (storageRules config).Reachable machine) :
    Ordered machine.shared.book :=
  ((storageDiscipline config).reachable_safe
    (fun _ _ _ handler _ => handler_safe handler) reached).1

theorem reachable_calls_good (reached : (storageRules config).Reachable machine) {request : Call}
    (next : machine.nextCall? thread = some request) :
    Good config thread request machine.shared.book :=
  (storageDiscipline config).reachable_good (fun _ _ _ handler _ => handler_safe handler) reached next

end Runs

end SteelInspection.Storage
