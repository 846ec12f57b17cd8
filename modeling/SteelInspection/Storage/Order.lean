import SteelInspection.Storage.Rounds

/-! # The order of the rounds

What the gates and the pool guarantee in every run in which a failing round leaves with nothing of
its own still running: a round past the finalize gate has ended every copy and every write it has
submitted, and only the worker that runs a round submits anything for it.
-/

namespace SteelInspection.Storage

open Foundations

/-- The part of the state that the order of the rounds and the pixels depend on. -/
structure RoundBook where
  nextOrder : Nat
  admitted : List (Nat × Nat)
  submitted : List (Nat × Job)
  running : List (Nat × Nat)
  done : List Nat
  nextPrepare : Nat
  nextFinalize : Nat
  copies : TaskTable
  writes : TaskTable
  content : Camera → Nat → Option Nat
  reading : Nat → Camera → Option Nat
  frames : List Frame

def Shared.book (shared : Shared) : RoundBook where
  nextOrder := shared.nextOrder
  admitted := shared.admitted
  submitted := shared.submitted
  running := shared.running
  done := shared.done
  nextPrepare := shared.nextPrepareOrder
  nextFinalize := shared.nextFinalizeOrder
  copies := shared.copies
  writes := shared.writes
  content := shared.content
  reading := shared.reading
  frames := shared.frames

/-- The frame that a write leaves on disk. -/
def RoundBook.written (config : Config) (book : RoundBook) (order : Nat) (camera : Camera) : Frame :=
  if config.processWorkers then
    ⟨order, camera, book.reading order camera, book.content camera (config.slot order)⟩
  else ⟨order, camera, some order, some order⟩

/-- Everything a call can do to the book. -/
inductive Entry (config : Config) (thread : Thread) (book : RoundBook) : Call → RoundBook → Prop where
  | same {request} : Entry config thread book request book
  | admission {id job force generation} (caller : thread = .producer id) :
    Entry config thread book (.admission job force generation)
      { book with
        nextOrder := book.nextOrder + 1, admitted := (id, book.nextOrder) :: book.admitted }
  | submit {order job} :
    Entry config thread book (.submitRound order job)
      { book with
        admitted := book.admitted.filter (fun entry => entry.2 ≠ order)
        submitted := book.submitted ++ [(order, job)] }
  | start {id order job rest} (caller : thread = .round id)
    (head : book.submitted = (order, job) :: rest)
    (free : book.running.length < config.roundWorkers) :
    Entry config thread book .startRound
      { book with submitted := rest, running := (id, order) :: book.running }
  | finish {order} :
    Entry config thread book (.endRound order)
      { book with
        running := book.running.filter (fun entry => entry.2 ≠ order)
        done := order :: book.done }
  | prepare {order} (turn : book.nextPrepare = order) :
    Entry config thread book (.advanceOrder .prepare order) { book with nextPrepare := order + 1 }
  | finalize {order request}
    (asked : request = .advanceOrder .finalize order ∨ request = .releaseFailed order)
    (turn : book.nextFinalize = order) :
    Entry config thread book request { book with nextFinalize := order + 1 }
  | copy {order camera copies}
    (inserted : book.copies.insert ⟨order, camera, .queued⟩ = some copies) :
    Entry config thread book (.submitCopy order camera) { book with copies }
  | write {order camera writes}
    (inserted : book.writes.insert ⟨order, camera, .queued⟩ = some writes) :
    Entry config thread book (.submitWrite order camera) { book with writes }
  | startCopy {order camera} (queued : stageOf book.copies order camera = some .queued) :
    Entry config thread book .startCopy
      { book with
        copies := setStage book.copies order camera .running
        content := fun lens slot =>
          if lens = camera ∧ slot = config.slot order then none else book.content lens slot }
  | endCopy {order camera succeeded} (running : stageOf book.copies order camera = some .running) :
    Entry config thread book (.endCopy order camera)
      { book with
        copies := setStage book.copies order camera (.ended succeeded)
        content := fun lens slot =>
          if lens = camera ∧ slot = config.slot order ∧ succeeded then some order
          else book.content lens slot }
  | startWrite {order camera} (queued : stageOf book.writes order camera = some .queued) :
    Entry config thread book .startWrite
      { book with
        writes := setStage book.writes order camera .running
        reading := fun other lens =>
          if other = order ∧ lens = camera then book.content lens (config.slot other)
          else book.reading other lens }
  | endWrite {order camera succeeded frames}
    (running : stageOf book.writes order camera = some .running)
    (adds : frames = book.frames ∨ frames = book.written config order camera :: book.frames) :
    Entry config thread book (.endWrite order camera)
      { book with writes := setStage book.writes order camera (.ended succeeded), frames }

theorem book_collectBatch (config : Config) (env : Env) (shared : Shared) (batch queue : List Commit) :
    (collectBatch config env shared batch queue).2.book = shared.book := by
  simp only [collectBatch]
  split <;> rfl

theorem stageOf_chosen {env : Env} {tasks : TaskTable} {task : Task}
    (chosen : choose env (tasks.select (·.stage = .queued)) = some task) :
    stageOf tasks task.order task.camera = some .queued := by
  have mem := List.mem_of_getElem? chosen
  obtain ⟨found, queued⟩ := Table.mem_select_iff.mp mem
  have present : tasks.find? (task.order, task.camera) = some task := found
  rw [stageOf, present, Option.map_some, of_decide_eq_true queued]

variable {shared : Shared} {next : Stage} {rest : List (Nat × Job)}

theorem entry_of_semantics {config : Config} {thread : Thread} {env : Env} {request : Call}
    {after : Shared} {reply : request.Reply}
    (ran : semantics config thread env request shared = some (reply, after)) :
    Entry config thread shared.book request after.book := by
  cases request with
  | startCopy =>
    obtain ⟨task, chosen, answered⟩ := Option.map_eq_some_iff.mp ran
    cases answered
    exact .startCopy (stageOf_chosen chosen)
  | startWrite =>
    obtain ⟨task, chosen, answered⟩ := Option.map_eq_some_iff.mp ran
    cases answered
    exact .startWrite (stageOf_chosen chosen)
  | nextCompleted order waiting =>
    obtain ⟨outcome, -, answered⟩ := Option.map_eq_some_iff.mp ran
    cases answered
    exact .same
  | takeCommits | resumeCommits =>
    simp only [semantics] at ran
    have same : after.book = shared.book := by
      grind [book_collectBatch]
    exact same ▸ .same
  | endWrite order camera =>
    simp only [semantics] at ran
    split at ran
    next running =>
      cases ran
      refine .endWrite running ?_
      split
      · exact .inl rfl
      · right
        unfold RoundBook.written
        split <;> rfl
    · cases ran
  | waitOrder phase order | advanceOrder phase order =>
    cases phase
    all_goals
      simp only [semantics] at ran
      repeat' split at ran
    all_goals cases ran
    all_goals first | exact .same | exact .prepare ‹_› | exact .finalize (.inl rfl) ‹_›
  | _ =>
    all_goals
      simp only [semantics] at ran
      repeat' split at ran
    all_goals cases ran
    all_goals first
      | exact .same | exact .admission rfl | exact .submit | exact .finish | exact .start rfl ‹_› ‹_›
      | exact .finalize (.inr rfl) ‹_› | exact .copy ‹_› | exact .write ‹_› | exact .endCopy ‹_›

/-! ## The invariant -/

/-- A worker runs the round, or has ended it. -/
def Started (book : RoundBook) (order : Nat) : Prop :=
  order ∈ book.running.map (·.2) ∨ order ∈ book.done

/-- The places a round is at. -/
def RoundBook.places (book : RoundBook) (order : Nat) : Nat :=
  (book.admitted.map (·.2)).count order + (book.submitted.map (·.1)).count order +
    (book.running.map (·.2)).count order + book.done.count order

def Ended (tasks : TaskTable) (order : Nat) : Prop :=
  ∀ camera stage, stageOf tasks order camera = some stage → ∃ succeeded, stage = .ended succeeded

/-- What has been submitted for the round and has not ended is among `waiting`. -/
def EndedBut (tasks : TaskTable) (order : Nat) (waiting : List Camera) : Prop :=
  ∀ camera, camera ∉ waiting → ∀ stage, stageOf tasks order camera = some stage →
    ∃ succeeded, stage = .ended succeeded

/-- The tasks belong to rounds that have been started, and those past the finalize gate have
ended. -/
def RoundBook.Tracks (book : RoundBook) (tasks : TaskTable) : Prop :=
  (∀ order < book.nextFinalize, Ended tasks order) ∧
    ∀ order camera stage, stageOf tasks order camera = some stage → Started book order

structure Ordered (book : RoundBook) : Prop where
  unique : ∀ order, book.places order ≤ 1
  below : ∀ order, 0 < book.places order → order < book.nextOrder
  started : ∀ order < book.nextFinalize, Started book order
  prepared : ∀ order < book.nextPrepare, Started book order
  passed : ∀ order ∈ book.done, order < book.nextFinalize
  copies : book.Tracks book.copies
  writes : book.Tracks book.writes

section Tasks

variable {tasks after : TaskTable} {order other : Nat} {camera lens : Camera} {stage : Stage}

theorem stageOf_setStage :
    stageOf (setStage tasks order camera stage) other lens =
      if other = order ∧ lens = camera then (stageOf tasks other lens).map fun _ => stage
      else stageOf tasks other lens := by
  unfold stageOf setStage
  rw [Table.find?_update]
  simp only [Prod.mk.injEq]
  split
  · cases tasks.find? (other, lens) <;> rfl
  · rfl

section

variable (inserted : tasks.insert ⟨order, camera, stage⟩ = some after)
include inserted

theorem stageOf_insert : stageOf after other lens =
      if other = order ∧ lens = camera then some stage else stageOf tasks other lens := by
  simp only [stageOf, Table.find?_insert inserted, Task.key, Prod.mk.injEq]
  by_cases same : order = other ∧ camera = lens
  · simp [same]
  · have different : ¬(other = order ∧ lens = camera) := fun equal => same ⟨equal.1.symm, equal.2.symm⟩
    simp [same, different]

end

theorem stageOf_before_setStage {found : Stage}
    (after : stageOf (setStage tasks order camera stage) other lens = some found) :
    ∃ earlier, stageOf tasks other lens = some earlier := by
  rw [stageOf_setStage] at after
  split at after
  · obtain ⟨earlier, present, -⟩ := Option.map_eq_some_iff.mp after
    exact ⟨earlier, present⟩
  · exact ⟨found, after⟩

/-- What the tasks of a round go through while others move. -/
def Progress (order : Nat) (before after : TaskTable) : Prop :=
  ∀ camera, (stageOf before order camera = none → stageOf after order camera = none) ∧
    ∀ succeeded, stageOf before order camera = some (.ended succeeded) →
      stageOf after order camera = some (.ended succeeded)

theorem Progress.refl : Progress order tasks tasks := fun _ => ⟨id, fun _ => id⟩

theorem Progress.insert (different : other ≠ order)
    (inserted : tasks.insert ⟨order, camera, stage⟩ = some after) : Progress other tasks after := by
  intro lens
  have same : stageOf after other lens = stageOf tasks other lens := by
    rw [stageOf_insert inserted, if_neg fun equal => different equal.1]
  rw [same]
  exact ⟨id, fun _ => id⟩

/-- A task that has ended does not move. -/
theorem Progress.setStage (before : stageOf tasks order camera = some stage)
    (unfinished : ∀ succeeded, stage ≠ .ended succeeded) :
    Progress other tasks (setStage tasks order camera next) := by
  intro lens
  rw [stageOf_setStage]
  split
  · grind
  · exact ⟨id, fun _ => id⟩

theorem EndedBut.progress {waiting : List Camera} (ended : EndedBut tasks order waiting)
    (progress : Progress order tasks after) : EndedBut after order waiting := by
  intro lens outside stage found
  cases before : stageOf tasks order lens with
  | none =>
    rw [(progress lens).1 before] at found
    cases found
  | some earlier =>
    obtain ⟨succeeded, rfl⟩ := ended lens outside earlier before
    rw [(progress lens).2 succeeded before] at found
    exact ⟨succeeded, (Option.some.inj found).symm⟩

theorem endedBut_nil : EndedBut tasks order [] ↔ Ended tasks order :=
  ⟨fun ended camera => ended camera List.not_mem_nil, fun ended camera _ => ended camera⟩

theorem Ended.progress (ended : Ended tasks order) (progress : Progress order tasks after) :
    Ended after order :=
  endedBut_nil.mp ((endedBut_nil.mpr ended).progress progress)

end Tasks

section Places

variable {book : RoundBook} {id order other : Nat} {entries : List (Nat × Nat)}

theorem count_map_pos (mem : (id, order) ∈ entries) : 0 < (entries.map (·.2)).count order :=
  List.count_pos_iff.mpr (List.mem_map_of_mem mem)

theorem count_filter_ne (entries : List (Nat × Nat)) :
    ((entries.filter fun entry => entry.2 ≠ order).map (·.2)).count other =
      if other = order then 0 else (entries.map (·.2)).count other := by
  induction entries with
  | nil => simp
  | cons entry entries ih => grind

theorem eq_of_count_le_one (once : (entries.map (·.2)).count order ≤ 1)
    (mine : (id, order) ∈ entries) (theirs : (other, order) ∈ entries) : other = id := by
  induction entries with
  | nil => cases mine
  | cons entry entries ih =>
    simp only [List.map_cons, List.count_cons, beq_iff_eq] at once
    rcases List.mem_cons.mp mine with rfl | mineLater <;>
      rcases List.mem_cons.mp theirs with same | theirsLater
    · exact congrArg Prod.fst same
    · grind [count_map_pos]
    · grind [count_map_pos]
    · exact ih (by omega) mineLater theirsLater

section

variable (ordered : Ordered book)
include ordered

/-- A round is with one worker, and before that with one producer. -/
theorem Ordered.place_unique {entries : List (Nat × Nat)}
    (isPlace : entries = book.running ∨ entries = book.admitted) (mine : (id, order) ∈ entries)
    (theirs : (other, order) ∈ entries) : other = id := by
  have places := ordered.unique order
  simp only [RoundBook.places] at places
  refine eq_of_count_le_one ?_ mine theirs
  rcases isPlace with rfl | rfl <;> omega

theorem Ordered.not_done (mine : (id, order) ∈ book.running) : order ∉ book.done := by
  intro ended
  have places := ordered.unique order
  have running := count_map_pos mine
  have count := List.count_pos_iff.mpr ended
  simp only [RoundBook.places] at places
  omega

theorem Ordered.not_started {job : Job} (head : book.submitted = (order, job) :: rest) :
    ¬ Started book order := by
  intro started
  have places := ordered.unique order
  have waits : 0 < (book.submitted.map (·.1)).count order := by simp [head]
  have begun : 0 < (book.running.map (·.2)).count order + book.done.count order := by
    rcases started with running | ended
    · have count := List.count_pos_iff.mpr running
      omega
    · have count := List.count_pos_iff.mpr ended
      omega
  simp only [RoundBook.places] at places
  omega

end

theorem started_of_running (mine : (id, order) ∈ book.running) : Started book order :=
  .inl (List.mem_map_of_mem mine)

end Places

/-! ## Rely and guarantee -/

def Runs (thread : Thread) (order : Nat) (book : RoundBook) : Prop :=
  ∃ id, thread = .round id ∧ (id, order) ∈ book.running

def Good (config : Config) (thread : Thread) : Call → RoundBook → Prop
  | .submitRound order _, book => ∃ id, thread = .producer id ∧ (id, order) ∈ book.admitted
  | .endRound order, book => Runs thread order book ∧ order < book.nextFinalize
  | .advanceOrder .prepare order, book => Runs thread order book
  | .advanceOrder .finalize order, book =>
    Runs thread order book ∧ Ended book.copies order ∧ Ended book.writes order
  | .releaseFailed order, book => Runs thread order book
  | .submitCopy order _, book =>
    Runs thread order book ∧ book.nextFinalize ≤ order ∧ order ≤ book.nextPrepare
  | .submitWrite order camera, book =>
    Runs thread order book ∧ book.nextFinalize ≤ order ∧ order ≤ book.nextPrepare ∧
      (config.processWorkers = true → stageOf book.copies order camera = some (.ended true))
  | .enqueueCommit commit, book => Runs thread commit.order book
  | .takeCommits, _ | .resumeCommits _, _ | .finishCommits _ _, _ => thread = .database
  | _, _ => True

/-- What a worker relies on for its round. -/
structure Kept (order : Nat) (before after : RoundBook) : Prop where
  finalize_le : before.nextFinalize ≤ order → after.nextFinalize ≤ order
  finalize_mono : before.nextFinalize ≤ after.nextFinalize
  prepare_mono : before.nextPrepare ≤ after.nextPrepare
  copies : Progress order before.copies after.copies
  writes : Progress order before.writes after.writes

def BookRely : Thread → RoundBook → RoundBook → Prop
  | .producer id, before, after =>
    ∀ order, (id, order) ∈ before.admitted → (id, order) ∈ after.admitted
  | .round id, before, after => ∀ order, (id, order) ∈ before.running →
    (id, order) ∈ after.running ∧ Kept order before after
  | _, _, _ => True

theorem Kept.refl (order : Nat) (book : RoundBook) : Kept order book book :=
  ⟨id, Nat.le_refl _, Nat.le_refl _, .refl, .refl⟩

variable {order : Nat}

theorem Kept.of_tasks {before after : RoundBook}
    (finalize : after.nextFinalize = before.nextFinalize)
    (prepare : before.nextPrepare ≤ after.nextPrepare)
    (copies : Progress order before.copies after.copies)
    (writes : Progress order before.writes after.writes) : Kept order before after :=
  ⟨fun ahead => finalize ▸ ahead, Nat.le_of_eq finalize.symm, prepare, copies, writes⟩

theorem Kept.trans {first second third : RoundBook} (before : Kept order first second)
    (after : Kept order second third) : Kept order first third where
  finalize_le ahead := after.finalize_le (before.finalize_le ahead)
  finalize_mono := Nat.le_trans before.finalize_mono after.finalize_mono
  prepare_mono := Nat.le_trans before.prepare_mono after.prepare_mono
  copies camera := ⟨fun none => (after.copies camera).1 ((before.copies camera).1 none),
    fun ok ended => (after.copies camera).2 ok ((before.copies camera).2 ok ended)⟩
  writes camera := ⟨fun none => (after.writes camera).1 ((before.writes camera).1 none),
    fun ok ended => (after.writes camera).2 ok ((before.writes camera).2 ok ended)⟩

theorem tasksEnded_iff (ended : tasksEnded shared order = true) :
    Ended shared.book.copies order ∧ Ended shared.book.writes order := by
  simp only [tasksEnded, Bool.and_eq_true, List.all_eq_true] at ended
  have each : ∀ {tasks : TaskTable} {check : Task → Bool}, (∀ task ∈ tasks.rows, check task = true) →
      (∀ task, check task = true → task.order = order →
        ∃ succeeded, task.stage = .ended succeeded) → Ended tasks order := by
    intro tasks check all ends camera stage found
    obtain ⟨task, present, rfl⟩ := Option.map_eq_some_iff.mp found
    have key : task.key = (order, camera) := Table.find?_key present
    have sameOrder : task.order = order := congrArg Prod.fst key
    have mem : task ∈ tasks.rows := Table.mem_rows_iff.mpr (key ▸ present)
    exact ends task (all task mem) sameOrder
  -- a task of the round passes the check only when it has ended
  refine ⟨each ended.1 ?_, each ended.2 ?_⟩
  all_goals
    intro task checked sameOrder
    simp only [sameOrder, ne_eq, not_true, decide_false, Bool.false_or] at checked
    split at checked
    next succeeded ends =>
      exact ⟨succeeded, ends⟩
    · cases checked

section Steps

variable {config : Config} {thread other : Thread} {request : Call} {book after : RoundBook}

variable {order id : Nat} {camera : Camera}

theorem Started.mono (started : Started book order)
    (running : ∀ entry ∈ book.running, entry ∈ after.running ∨ entry.2 ∈ after.done)
    (done : ∀ order ∈ book.done, order ∈ after.done) : Started after order := by
  rcases started with mine | ended
  · obtain ⟨entry, mem, rfl⟩ := List.mem_map.mp mine
    rcases running entry mem with still | moved
    · exact .inl (List.mem_map_of_mem still)
    · exact .inr moved
  · exact .inr (done order ended)

section

variable (ordered : Ordered book)
include ordered

/-- Rounds that only change places are as ordered as before. -/
theorem Ordered.move {admitted running : List (Nat × Nat)} {submitted : List (Nat × Job)}
    {done : List Nat}
    (places : ∀ order,
      RoundBook.places { book with admitted, submitted, running, done } order = book.places order)
    (started : ∀ order, Started book order →
      Started { book with admitted, submitted, running, done } order)
    (passed : ∀ order ∈ done, order < book.nextFinalize) :
    Ordered { book with admitted, submitted, running, done } where
  unique order := places order ▸ ordered.unique order
  below order present := ordered.below order (places order ▸ present)
  started order before := started order (ordered.started order before)
  prepared order before := started order (ordered.prepared order before)
  passed := passed
  copies := ⟨ordered.copies.1, fun order camera stage found =>
    started order (ordered.copies.2 order camera stage found)⟩
  writes := ⟨ordered.writes.1, fun order camera stage found =>
    started order (ordered.writes.2 order camera stage found)⟩

theorem Ordered.admission (id : Nat) :
    Ordered { book with
      nextOrder := book.nextOrder + 1, admitted := (id, book.nextOrder) :: book.admitted } := by
  have fresh : book.places book.nextOrder = 0 := by
    have least := ordered.below book.nextOrder
    omega
  refine { ordered with unique := ?_, below := ?_ }
  · intro order
    have before := ordered.unique order
    by_cases same : book.nextOrder = order
    · grind [RoundBook.places]
    · simpa only [RoundBook.places, List.map_cons, List.count_cons_of_ne same] using before
  · intro order present
    show order < book.nextOrder + 1
    by_cases same : book.nextOrder = order
    · omega
    · have before := ordered.below order
        (by simpa only [RoundBook.places, List.map_cons, List.count_cons_of_ne same] using present)
      omega

theorem Ordered.submit (job : Job) (mine : (id, order) ∈ book.admitted) :
    Ordered { book with
      admitted := book.admitted.filter (fun entry => entry.2 ≠ order)
      submitted := book.submitted ++ [(order, job)] } := by
  have present := count_map_pos mine
  have places : ∀ other, RoundBook.places { book with
      admitted := book.admitted.filter (fun entry => entry.2 ≠ order)
      submitted := book.submitted ++ [(order, job)] } other = book.places other := by
    intro other
    have once := ordered.unique other
    simp only [RoundBook.places, count_filter_ne, List.map_append, List.map_cons, List.map_nil,
      List.count_append] at once ⊢
    by_cases same : other = order
    · subst same
      simp
      omega
    · have different : order ≠ other := fun equal => same equal.symm
      simp [same, different]
  exact ordered.move places (fun _ started => started) ordered.passed

theorem Ordered.start {job : Job} (head : book.submitted = (order, job) :: rest) :
    Ordered { book with submitted := rest, running := (id, order) :: book.running } := by
  have places : ∀ other, RoundBook.places { book with
      submitted := rest, running := (id, order) :: book.running } other = book.places other := by
    intro other
    simp only [RoundBook.places, head, List.map_cons, List.count_cons]
    omega
  refine ordered.move places (fun other started => ?_) ordered.passed
  exact started.mono (fun entry mem => .inl (List.mem_cons_of_mem _ mem)) fun _ ended => ended

theorem Ordered.finish (mine : (id, order) ∈ book.running) (passed : order < book.nextFinalize) :
    Ordered { book with
      running := book.running.filter (fun entry => entry.2 ≠ order)
      done := order :: book.done } := by
  have present := count_map_pos mine
  have places : ∀ other, RoundBook.places { book with
      running := book.running.filter (fun entry => entry.2 ≠ order)
      done := order :: book.done } other = book.places other := by
    intro other
    have once := ordered.unique other
    simp only [RoundBook.places, count_filter_ne, List.count_cons] at once ⊢
    by_cases same : other = order
    · subst same
      simp
      omega
    · have different : order ≠ other := fun equal => same equal.symm
      simp [same, different]
  refine ordered.move places ?_ ?_
  · intro other started
    refine started.mono (fun entry mem => ?_) fun _ ended => List.mem_cons_of_mem _ ended
    by_cases same : entry.2 = order
    · exact .inr (same ▸ List.mem_cons_self)
    · exact .inl (List.mem_filter.mpr ⟨mem, by simpa using same⟩)
  · intro other ended
    rcases List.mem_cons.mp ended with rfl | before
    · exact passed
    · exact ordered.passed other before

end

section

variable {tasks : TaskTable} (tracks : book.Tracks tasks)
include tracks

theorem RoundBook.Tracks.insert {next : TaskTable} (mine : (id, order) ∈ book.running)
    (ahead : book.nextFinalize ≤ order)
    (inserted : tasks.insert ⟨order, camera, .queued⟩ = some next) : book.Tracks next := by
  refine ⟨fun other passed => (tracks.1 other passed).progress (.insert ?_ inserted),
    fun other lens stage found => ?_⟩
  · omega
  · rw [stageOf_insert inserted] at found
    split at found
    next same =>
      exact same.1 ▸ started_of_running mine
    · exact tracks.2 other lens stage found

theorem RoundBook.Tracks.setStage {stage : Stage} (before : stageOf tasks order camera = some stage)
    (unfinished : ∀ succeeded, stage ≠ .ended succeeded) :
    book.Tracks (setStage tasks order camera next) := by
  refine ⟨fun other passed => (tracks.1 other passed).progress (.setStage before unfinished),
    fun other lens stage found => ?_⟩
  obtain ⟨earlier, present⟩ := stageOf_before_setStage found
  exact tracks.2 other lens earlier present

end

theorem ordered_entry (ordered : Ordered shared.book)
    (good : Good config thread request shared.book)
    (calm : releaseUndisturbed request shared = true)
    (entry : Entry config thread shared.book request after) : Ordered after := by
  generalize known : shared.book = book at entry ordered good
  cases entry with
  | same => exact ordered
  | admission => exact ordered.admission _
  | submit =>
    obtain ⟨id, -, mine⟩ := good
    exact ordered.submit _ mine
  | start _ head => exact ordered.start head
  | finish =>
    obtain ⟨⟨id, -, mine⟩, passed⟩ := good
    exact ordered.finish mine passed
  | @prepare order turn =>
    obtain ⟨id, -, mine⟩ := good
    refine { ordered with prepared := fun other passed => ?_ }
    rcases Nat.lt_succ_iff_lt_or_eq.mp passed with earlier | rfl
    · exact ordered.prepared other (turn ▸ earlier)
    · exact started_of_running mine
  | @finalize order _ asked turn =>
    subst known
    obtain ⟨⟨id, -, mine⟩, copies, writes⟩ : Runs thread order shared.book ∧
        Ended shared.book.copies order ∧ Ended shared.book.writes order := by
      rcases asked with rfl | rfl
      · exact good
      · exact ⟨good, tasksEnded_iff calm⟩
    have earlier : ∀ {other}, other < order + 1 → other = order ∨ other < shared.book.nextFinalize := by
      omega
    refine { ordered with started := ?_, passed := ?_, copies := ?_, writes := ?_ }
    · intro other passed
      show Started shared.book other
      exact (earlier passed).elim (· ▸ started_of_running mine) (ordered.started other)
    · exact fun other ended => Nat.lt_succ_of_lt (turn ▸ ordered.passed other ended)
    · exact ⟨fun other passed => (earlier passed).elim (· ▸ copies) (ordered.copies.1 other),
        ordered.copies.2⟩
    · exact ⟨fun other passed => (earlier passed).elim (· ▸ writes) (ordered.writes.1 other),
        ordered.writes.2⟩
  | copy inserted =>
    obtain ⟨⟨id, -, mine⟩, ahead, -⟩ := good
    exact { ordered with copies := ordered.copies.insert mine ahead inserted }
  | write inserted =>
    obtain ⟨⟨id, -, mine⟩, ahead, -⟩ := good
    exact { ordered with writes := ordered.writes.insert mine ahead inserted }
  | startCopy moves | endCopy moves =>
    exact { ordered with copies := ordered.copies.setStage moves nofun }
  | startWrite moves | endWrite moves =>
    exact { ordered with writes := ordered.writes.setStage moves nofun }

/-- A round that another thread moves is another round. -/
theorem Ordered.runs_other (ordered : Ordered book) {theirs : Nat}
    (mine : (id, order) ∈ book.running) (runs : Runs thread theirs book)
    (different : Thread.round id ≠ thread) : theirs ≠ order := by
  rintro rfl
  obtain ⟨actor, rfl, running⟩ := runs
  exact different (congrArg Thread.round (ordered.place_unique (.inl rfl) running mine))

/-- The round a call moves on. -/
def Call.round? : Call → Option Nat
  | .endRound order | .advanceOrder .finalize order | .releaseFailed order | .submitCopy order _
  | .submitWrite order _ => some order
  | _ => none

theorem runs_of_round? (moves : request.round? = some order)
    (good : Good config thread request book) : Runs thread order book := by
  cases request with
  | endRound _ | submitCopy _ _ | submitWrite _ _ =>
    cases moves
    exact good.1
  | releaseFailed _ =>
    cases moves
    exact good
  | advanceOrder phase _ =>
    cases phase with
    | prepare => cases moves
    | finalize =>
      cases moves
      exact good.1
  | _ => cases moves

theorem Entry.keeps (entry : Entry config thread book request after)
    (elsewhere : ∀ theirs, request.round? = some theirs → theirs ≠ order)
    (mine : (id, order) ∈ book.running) : (id, order) ∈ after.running ∧ Kept order book after := by
  cases entry with
  | same => exact ⟨mine, .refl order _⟩
  | admission | submit => exact ⟨mine, .of_tasks rfl (Nat.le_refl _) .refl .refl⟩
  | start => exact ⟨List.mem_cons_of_mem _ mine, .of_tasks rfl (Nat.le_refl _) .refl .refl⟩
  | @finish theirs =>
    have different : order ≠ theirs := (elsewhere theirs rfl).symm
    exact ⟨List.mem_filter.mpr ⟨mine, by simpa using different⟩,
      .of_tasks rfl (Nat.le_refl _) .refl .refl⟩
  | @prepare theirs turn =>
    refine ⟨mine, .of_tasks rfl ?_ .refl .refl⟩
    show book.nextPrepare ≤ theirs + 1
    omega
  | @finalize theirs _ asked turn =>
    have different : theirs ≠ order := by
      rcases asked with rfl | rfl <;> exact elsewhere theirs rfl
    refine ⟨mine, fun ahead => ?_, ?_, Nat.le_refl _, .refl, .refl⟩
    · show theirs + 1 ≤ order
      omega
    · show book.nextFinalize ≤ theirs + 1
      omega
  | copy inserted =>
    have different := (elsewhere _ rfl).symm
    exact ⟨mine, .of_tasks rfl (Nat.le_refl _) (.insert different inserted) .refl⟩
  | write inserted =>
    have different := (elsewhere _ rfl).symm
    exact ⟨mine, .of_tasks rfl (Nat.le_refl _) .refl (.insert different inserted)⟩
  | startCopy moves | endCopy moves =>
    exact ⟨mine, .of_tasks rfl (Nat.le_refl _) (.setStage moves nofun) .refl⟩
  | startWrite moves | endWrite moves =>
    exact ⟨mine, .of_tasks rfl (Nat.le_refl _) .refl (.setStage moves nofun)⟩

theorem bookRely_entry (ordered : Ordered book) (good : Good config thread request book)
    (different : other ≠ thread) (entry : Entry config thread book request after) :
    BookRely other book after := by
  cases other with
  | producer id =>
    intro order mine
    cases entry with
    | admission => exact List.mem_cons_of_mem _ mine
    | @submit theirs _ =>
      obtain ⟨actor, rfl, submitted⟩ := good
      have elsewhere : order ≠ theirs := by
        rintro rfl
        exact different (congrArg Thread.producer (ordered.place_unique (.inr rfl) submitted mine))
      exact List.mem_filter.mpr ⟨mine, by simpa using elsewhere⟩
    | _ => exact mine
  | round worker =>
    intro order mine
    exact entry.keeps (fun theirs moves =>
      ordered.runs_other mine (runs_of_round? moves good) different) mine
  | _ => trivial

end Steps

def storageRules (config : Config) : Rules Shared Thread Env Call Call.Reply Answer where
  semantics := semantics config
  handler := Handler config
  undisturbed _ request shared := releaseUndisturbed request shared = true
  initial shared := shared = {}

def storageDiscipline (config : Config) : Discipline (storageRules config) where
  inv shared := Ordered shared.book
  rely thread shared current := BookRely thread shared.book current.book
  good thread request shared := Good config thread request shared.book
  rely_refl thread shared := by
    cases thread with
    | producer id => exact fun _ mine => mine
    | round id => exact fun order mine => ⟨mine, .refl order _⟩
    | _ => trivial
  rely_trans thread first second third before after := by
    cases thread with
    | producer id => exact fun order mine => after order (before order mine)
    | round id =>
      intro order mine
      obtain ⟨still, kept⟩ := before order mine
      obtain ⟨stillThen, keptThen⟩ := after order still
      exact ⟨stillThen, kept.trans keptThen⟩
    | _ => trivial
  inv_initial {shared} initial := by
    have empty : shared = {} := initial
    subst empty
    exact ⟨fun _ => Nat.zero_le _, fun _ present => (Nat.lt_irrefl 0 present).elim, nofun, nofun,
      nofun, ⟨nofun, nofun⟩, nofun, nofun⟩
  inv_call ordered good calm executed :=
    ordered_entry ordered good calm (entry_of_semantics executed)
  rely_call different ordered good _ executed :=
    bookRely_entry ordered good different (entry_of_semantics executed)

end SteelInspection.Storage
