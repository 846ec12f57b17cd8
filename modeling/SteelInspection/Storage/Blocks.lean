import SteelInspection.Storage.Workers
import Mathlib.Data.List.Perm.Subperm

/-! # The shared memory blocks

A round copies the frame of a camera into the block of that camera and of the slot
`order % round_workers`.  A block is free for a round when nothing that uses it for an earlier round
is left: the rounds between the finalize gate and the one that prepares are all with a worker, so
they are fewer than the slots.
-/

namespace SteelInspection.Storage

open Foundations

/-- A copy of a round finds its block free: what uses the block for an earlier round has ended. -/
def BlocksFree (config : Config) (shared : Shared) : Prop :=
  ∀ camera order stage, stageOf shared.copies order camera = some stage →
    ∀ earlier < order, config.slot earlier = config.slot order →
      ∀ tasks ∈ [shared.copies, shared.writes], ∀ before,
        stageOf tasks earlier camera = some before → ∃ succeeded, before = .ended succeeded

/-- Every frame on disk has the pixels of its round, from its first byte to its last. -/
def FramesOwn (frames : List Frame) : Prop :=
  ∀ frame ∈ frames, frame.first = some frame.order ∧ frame.last = some frame.order

/-! ## The window of rounds -/

/-- The workers are few, and a copy belongs to a round whose predecessors have been prepared. -/
structure Window (config : Config) (book : RoundBook) : Prop where
  workers : book.running.length ≤ config.roundWorkers
  prepared : ∀ order camera stage, stageOf book.copies order camera = some stage →
    order ≤ book.nextPrepare

section Window

variable {config : Config} {thread : Thread} {request : Call} {book after : RoundBook} {order : Nat}
  {camera : Camera}

section

variable (window : Window config book)
include window

theorem Window.moveCopy {next : Stage} {content : Camera → Nat → Option Nat} :
    Window config { book with copies := setStage book.copies order camera next, content } := by
  refine ⟨window.workers, fun other lens stage found => ?_⟩
  obtain ⟨earlier, present⟩ := stageOf_before_setStage found
  exact window.prepared other lens earlier present

theorem window_entry (good : Good config thread request book)
    (entry : Entry config thread book request after) : Window config after := by
  cases entry with
  | start _ head free => exact ⟨free, window.prepared⟩
  | finish => exact ⟨Nat.le_trans (List.length_filter_le _ _) window.workers, window.prepared⟩
  | @prepare turns turn =>
    refine ⟨window.workers, fun order camera stage found => ?_⟩
    have before := window.prepared order camera stage found
    show order ≤ turns + 1
    omega
  | @copy submitted lens copies inserted =>
    refine ⟨window.workers, fun order camera stage found => ?_⟩
    rw [stageOf_insert inserted] at found
    split at found
    next same =>
      exact same.1 ▸ good.2.2
    · exact window.prepared order camera stage found
  | startCopy | endCopy => exact window.moveCopy
  | _ => exact ⟨window.workers, window.prepared⟩

/-- The rounds from the finalize gate to one that copies are all with workers. -/
theorem Window.copy_lt (ordered : Ordered book) {stage : Stage}
    (found : stageOf book.copies order camera = some stage) :
    order < book.nextFinalize + config.roundWorkers := by
  have held : List.range' book.nextFinalize (order + 1 - book.nextFinalize) ⊆
      book.running.map (·.2) := by
    intro between mem
    rw [List.mem_range'_1] at mem
    have started : Started book between := by
      by_cases last : between = order
      · exact last ▸ ordered.copies.2 order camera stage found
      · have prepared := window.prepared order camera stage found
        exact ordered.prepared between (by omega)
    -- a round that has ended is past the gate
    refine started.resolve_right fun ended => ?_
    have passed := ordered.passed between ended
    omega
  have fewer := (List.Nodup.subperm List.nodup_range' held).length_le
  rw [List.length_range', List.length_map] at fewer
  have workers := window.workers
  omega

end

variable {earlier : Nat} (before : earlier < order) (same : config.slot earlier = config.slot order)
include before same

/-- Two rounds in one slot are at least as far apart as there are workers. -/
theorem slot_far : earlier + config.roundWorkers ≤ order := by
  have divides : config.roundWorkers ∣ order - earlier :=
    Nat.dvd_of_mod_eq_zero (Nat.sub_mod_eq_zero_of_mod_eq same.symm)
  have least := Nat.le_of_dvd (by omega) divides
  omega

theorem Window.earlier_passed (window : Window config book) (ordered : Ordered book) {stage : Stage}
    (found : stageOf book.copies order camera = some stage) : earlier < book.nextFinalize := by
  have near := window.copy_lt ordered found
  have far := slot_far before same
  omega

end Window

theorem reachable_window {config : Config} {machine}
    (reached : (storageRules config).Reachable machine) : Window config machine.shared.book := by
  refine reached.invariant (fun shared => Window config shared.book) ?_ ?_
  · rintro shared rfl
    exact ⟨Nat.zero_le _, fun _ _ _ impossible => by cases impossible⟩
  · intro machine earlier window thread env request reply after next _ ran
    exact window_entry window (reachable_calls_good earlier next) (entry_of_semantics ran)

/-! ## The pixels -/

/-- What the blocks and the writers hold, with shared memory. -/
structure Pixels (config : Config) (book : RoundBook) : Prop where
  copied : ∀ order camera, stageOf book.copies order camera = some (.ended true) →
    book.nextFinalize ≤ order → book.content camera (config.slot order) = some order
  source : ∀ order camera stage, stageOf book.writes order camera = some stage →
    stageOf book.copies order camera = some (.ended true)
  reading : ∀ order camera, stageOf book.writes order camera = some .running →
    book.reading order camera = some order

section Pixels

variable {config : Config} {thread : Thread} {request : Call} {book after : RoundBook}
  {order other : Nat} {camera : Camera} {stage : Stage}

variable (ordered : Ordered book)
include ordered

/-- A block with the pixels of a round before the gate is not being copied into. -/
theorem Window.block_kept (window : Window config book)
    (moves : stageOf book.copies order camera = some stage)
    (unfinished : ∀ succeeded, stage ≠ .ended succeeded)
    (ended : stageOf book.copies other camera = some (.ended true))
    (ahead : book.nextFinalize ≤ other) : config.slot other ≠ config.slot order := by
  intro same
  have notEnded : book.nextFinalize ≤ order := by
    refine Nat.le_of_not_lt fun passed => ?_
    obtain ⟨succeeded, finished⟩ := ordered.copies.1 order passed camera stage moves
    exact unfinished succeeded finished
  rcases Nat.lt_trichotomy other order with before | equal | later
  · have passed := window.earlier_passed before same ordered moves
    omega
  · rw [equal, moves] at ended
    exact unfinished true (Option.some.inj ended)
  · have passed := window.earlier_passed later same.symm ordered ended
    omega

/-- A write that has not ended reads from a block that has the pixels of its round. -/
theorem Pixels.block (pixels : Pixels config book)
    (writes : stageOf book.writes order camera = some stage)
    (unfinished : ∀ succeeded, stage ≠ .ended succeeded) :
    book.content camera (config.slot order) = some order := by
  refine pixels.copied order camera (pixels.source order camera stage writes) ?_
  refine Nat.le_of_not_lt fun passed => ?_
  obtain ⟨succeeded, finished⟩ := ordered.writes.1 order passed camera stage writes
  exact unfinished succeeded finished

theorem pixels_entry (processes : config.processWorkers = true) (pixels : Pixels config book)
    (window : Window config book) (good : Good config thread request book)
    (entry : Entry config thread book request after) : Pixels config after := by
  cases entry with
  | @finalize turns _ _ turn =>
    refine ⟨fun order camera ended ahead => pixels.copied order camera ended ?_, pixels.source,
      pixels.reading⟩
    have : turns + 1 ≤ order := ahead
    omega
  | @copy submitted lens copies inserted =>
    refine ⟨fun order camera ended ahead => ?_, fun order camera stage found => ?_, pixels.reading⟩
    · rw [stageOf_insert inserted] at ended
      split at ended
      · cases ended
      · exact pixels.copied order camera ended ahead
    · obtain ⟨task, there, ended⟩ :=
        Option.map_eq_some_iff.mp (pixels.source order camera stage found)
      rw [stageOf, Table.find?_insert_of_found inserted there, Option.map_some, ended]
  | @write submitted lens writes inserted =>
    obtain ⟨-, -, -, copied⟩ := good
    refine ⟨pixels.copied, fun order camera stage found => ?_, fun order camera running => ?_⟩
    · rw [stageOf_insert inserted] at found
      split at found
      · grind
      · exact pixels.source order camera stage found
    · rw [stageOf_insert inserted] at running
      split at running
      · cases running
      · exact pixels.reading order camera running
  | @startCopy moved lens queued =>
    refine ⟨fun order camera ended ahead => ?_, fun order camera stage found => ?_, pixels.reading⟩
    · rw [stageOf_setStage] at ended
      split at ended
      · obtain ⟨-, -, impossible⟩ := Option.map_eq_some_iff.mp ended
        cases impossible
      -- the block that is overwritten is another one
      show (if camera = lens ∧ config.slot order = config.slot moved then none
        else book.content camera (config.slot order)) = some order
      rw [if_neg, pixels.copied order camera ended ahead]
      rintro ⟨rfl, same⟩
      exact window.block_kept ordered queued (by simp) ended ahead same
    · exact (Progress.setStage queued (by simp) camera).2 true (pixels.source order camera stage found)
  | @endCopy moved lens succeeded running =>
    refine ⟨fun order camera ended ahead => ?_, fun order camera stage found => ?_, pixels.reading⟩
    · show (if camera = lens ∧ config.slot order = config.slot moved ∧ succeeded then some moved
        else book.content camera (config.slot order)) = some order
      rw [stageOf_setStage] at ended
      split at ended
      · grind
      · grind [pixels.copied, window.block_kept]
    · exact (Progress.setStage running (by simp) camera).2 true (pixels.source order camera stage found)
  | @startWrite moved lens queued =>
    refine ⟨pixels.copied, fun order camera stage found => ?_, fun order camera running => ?_⟩
    · obtain ⟨earlier, present⟩ := stageOf_before_setStage found
      exact pixels.source order camera earlier present
    show (if order = moved ∧ camera = lens then book.content camera (config.slot order)
      else book.reading order camera) = some order
    rw [stageOf_setStage] at running
    split
    · grind [pixels.block]
    · grind [pixels.reading]
  | @endWrite moved lens succeeded _ running _ =>
    refine ⟨pixels.copied, fun order camera stage found => ?_, fun order camera still => ?_⟩
    · obtain ⟨earlier, present⟩ := stageOf_before_setStage found
      exact pixels.source order camera earlier present
    · grind [stageOf_setStage, pixels.reading]
  | _ => exact { pixels with }

/-- The frame of a write that ends has the pixels of its round at both ends. -/
theorem framesOwn_entry (own : FramesOwn book.frames)
    (pixels : config.processWorkers = true → Pixels config book)
    (entry : Entry config thread book request after) : FramesOwn after.frames := by
  cases entry with
  | @endWrite order camera _ _ running adds =>
    rcases adds with rfl | rfl
    · exact own
    intro frame mem
    rcases List.mem_cons.mp mem with rfl | old
    · unfold RoundBook.written
      split
      next processes =>
        have held := pixels processes
        exact ⟨held.reading order camera running, held.block ordered running nofun⟩
      · exact ⟨rfl, rfl⟩
    · exact own frame old
  | _ => exact own

end Pixels

section Runs

variable {config : Config} {machine : Machine Shared Thread Call Call.Reply Answer}

theorem reachable_pixels (processes : config.processWorkers = true)
    (reached : (storageRules config).Reachable machine) : Pixels config machine.shared.book := by
  refine reached.invariant (fun shared => Pixels config shared.book) ?_ ?_
  · rintro shared rfl
    refine ⟨?_, ?_, ?_⟩
    · exact fun _ _ impossible => by cases impossible
    · exact fun _ _ _ impossible => by cases impossible
    · exact fun _ _ impossible => by cases impossible
  · intro machine earlier pixels thread env request reply after next _ ran
    exact pixels_entry (reachable_ordered earlier) processes pixels (reachable_window earlier)
      (reachable_calls_good earlier next) (entry_of_semantics ran)

theorem reachable_framesOwn (reached : (storageRules config).Reachable machine) :
    FramesOwn machine.shared.frames := by
  refine reached.invariant (fun shared => FramesOwn shared.frames) ?_ ?_
  · rintro shared rfl
    exact nofun
  · intro machine earlier own thread env request reply after next _ ran
    exact framesOwn_entry (reachable_ordered earlier) own
      (fun processes => reachable_pixels processes earlier) (entry_of_semantics ran)

/-- In every run in which a failing round releases the finalize gate when its copies and writes have
ended, a copy finds its block free and every frame has the pixels of its round. -/
theorem blocks_free_and_frames_own (reached : (storageRules config).Reachable machine) :
    BlocksFree config machine.shared ∧ FramesOwn machine.shared.frames := by
  refine ⟨?_, reachable_framesOwn reached⟩
  intro camera order stage found earlier before same tasks listed stageBefore present
  have ordered := reachable_ordered reached
  have passed := (reachable_window reached).earlier_passed before same ordered found
  simp only [List.mem_cons, List.not_mem_nil, or_false] at listed
  rcases listed with rfl | rfl
  · exact ordered.copies.1 earlier passed camera stageBefore present
  · exact ordered.writes.1 earlier passed camera stageBefore present

end Runs

/-! ## A round that fails while it writes -/

/-- The pool starts rounds in the order of their admission. -/
def startsInOrder : Call → Shared → Bool
  | .startRound, shared => shared.submitted.head?.all fun next =>
    shared.running.all (fun entry => entry.2 < next.1) && shared.done.all (· < next.1)
  | _, _ => true

def admissionRules (config : Config) : Rules Shared Thread Env Call Call.Reply Answer :=
  { storageRules config with undisturbed := fun _ request shared => startsInOrder request shared = true }

def oneWorker : Config where
  roundWorkers := 1
  positive := by decide
  processWorkers := true
  copyWorkers := 1

/-- Two cameras that see something. -/
def twoCameras : RoundRows where
  rows := [⟨some "left", true, true, 200, true⟩, ⟨some "right", true, true, 200, true⟩]
  distinct := by decide

def store : Code Answer := enqueueStorageRound 1 twoCameras "63" "session" false false false

/-- Round 0 copies the left frame, which is being written when the copy of the right one fails. -/
def firstRound : Schedule :=
  .spawn (.producer 0) store :: turns (.producer 0) 2 ++
    .spawn (.round 0) (runRound oneWorker 1) :: turns (.round 0) 8 ++
    .spawn (.copier 0) copyFrame :: turns (.copier 0) 2 ++ turns (.round 0) 2 ++
    .spawn (.writer 0) writeFrame :: turns (.writer 0) 1 ++
    .spawn (.copier 1) copyFrame :: turns (.copier 1) 1 ++
    .advance (.copier 1) { fault := true } :: turns (.round 0) 1

/-- The failing round releases the gate, and round 1 copies its left frame. -/
def nextRound : Schedule :=
  turns (.round 0) 4 ++ .spawn (.producer 1) store :: turns (.producer 1) 2 ++
    .spawn (.round 1) (runRound oneWorker 1) :: turns (.round 1) 5 ++
    .spawn (.copier 2) copyFrame :: turns (.copier 2) 2

/-- The write of round 0 ends with the pixels of round 1. -/
theorem torn_frame : ¬ ∀ (config : Config) machine,
      (admissionRules config).Reachable machine →
        BlocksFree config machine.shared ∧ FramesOwn machine.shared.frames := by
  intro claimed
  obtain ⟨machine, reached, frames⟩ : ∃ machine, (admissionRules oneWorker).Reachable machine ∧
      machine.shared.frames = [⟨0, "left", some 0, some 1⟩] :=
    Rules.exists_reachable (fun _ => startsInOrder) {}
      (firstRound ++ nextRound ++ turns (.writer 0) 1) (fun _ _ _ passed => passed) rfl
      (by repeat' constructor) (by decide +kernel)
  have own := (claimed oneWorker machine reached).2
  rw [frames] at own
  exact absurd (own _ List.mem_cons_self).2 (by decide)

/-- When the write ends first, round 1 finds the block free. -/
theorem whole_frame : ∃ machine, (storageRules oneWorker).Reachable machine ∧
      machine.shared.frames = [⟨0, "left", some 0, some 0⟩] ∧
      stageOf machine.shared.copies 1 "left" = some (.ended true) ∧
      BlocksFree oneWorker machine.shared ∧ FramesOwn machine.shared.frames := by
  obtain ⟨machine, reached, facts⟩ : ∃ machine, (storageRules oneWorker).Reachable machine ∧
      (machine.shared.frames, stageOf machine.shared.copies 1 "left") =
        ([⟨0, "left", some 0, some 0⟩], some (.ended true)) :=
    Rules.exists_reachable (fun _ => releaseUndisturbed) {}
      (firstRound ++ turns (.writer 0) 1 ++ nextRound) (fun _ _ _ passed => passed) rfl
      (by repeat' constructor) (by decide +kernel)
  rw [Prod.mk.injEq] at facts
  exact ⟨machine, reached, facts.1, facts.2, blocks_free_and_frames_own reached⟩

end SteelInspection.Storage
