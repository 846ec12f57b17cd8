import SteelInspection.Repair.Boundary

/-! # What the boundary repair leaves alone

The repair writes only below the directories of the numbers it has reserved and to its own files.
Whether everything else stays is decided by the archive it finds: the check that the target
directories are absent comes after the reservation, and its error is answered by the cleanup, which
removes a directory by its number, whoever made it.
-/

namespace SteelInspection.Repair

open Foundations

/-- The repair's own files, the manifest of the source flow, and the shared catalog and hand-off
files. -/
@[simp]
def Setup.ownFiles (setup : Setup) : List Path :=
  [setup.lockPath, setup.reportPath, setup.backupPath, setup.manifestBackupPath,
    setup.sourceManifestPath, setup.catalogPath, setup.catalogLockPath, setup.handoffPath]

@[simp]
def Setup.Own (setup : Setup) (path : Path) : Prop := path ∈ setup.ownFiles

/-- Everything the archive had is there unchanged, apart from the repair's own files, and the
cleanup has removed only what this run had made. -/
structure Untouched (setup : Setup) (world : World) : Prop where
  kept : FileTree.KeepsAll setup.Own setup.archive world.disk
  removed_new : ∀ path ∈ world.removed, setup.archive path = none

/-- When `main` ends, nothing of the archive has been deleted or changed. -/
def Setup.Preserves (setup : Setup) : Prop := Untouched setup setup.finish

/-! ## The condition -/

/-- The run comes to the reservation and takes these numbers. -/
structure Setup.Reserves (setup : Setup) (numbers : List Nat) : Prop where
  events_there : setup.archive.isDirectory setup.sourceEventRoot = true
  as_expected : setup.expectedSegments.any (· != setup.segments.length) = false
  has_segments : setup.segments ≠ []
  applies : setup.apply = true
  unlocked : setup.archive.present setup.lockPath = false
  /-- The lock file can be made, and then the backup, which is not there yet. -/
  writable : ∃ locked saved,
    setup.archive.create setup.lockPath (setup.text setup.lockPath) = some locked ∧
    locked.present setup.backupPath = false ∧
    locked.create setup.backupPath (setup.text setup.backupPath) = some saved
  lock_works : setup.trouble .acquireLock = .works
  not_completed : setup.database.completedRepair setup.sourceFlow = none
  completed_works : setup.trouble .completedRepair = .works
  backup_works : setup.trouble .backupDatabase = .works
  numbers_free : setup.database.freeNumbers setup.sourceFlow setup.segments.length = .ok numbers
  reserve_works : setup.trouble .reserve = .works

/-- Going through the targets in the order of the cleanup, no directory of the archive is removed:
there is none, or the removal raises before it comes to one. -/
def Setup.SparesAll (setup : Setup) : List Path → Prop
  | [] => True
  | path :: paths =>
    match setup.archive path with
    | some (.link _) => True
    | some .directory =>
      match setup.trouble (.removeTree path) with
      | .raises => True
      | .raisesLeaving left =>
        ∀ below, path <+: below → ¬ setup.Own below → setup.archive below ≠ none → left below = true
      | .works | .raisesAfter => False
    | _ => setup.SparesAll paths

/-- The cleanup for these numbers removes no directory of the archive. -/
def Setup.Spares (setup : Setup) (numbers : List Nat) : Prop :=
  setup.trouble (.cleanupDatabase numbers) ≠ .works ∨
    setup.SparesAll (setup.profile.cleanupTargets numbers)

/-! ## Paths -/

variable {setup : Setup} {path : Path} {numbers : List Nat} {world : World} (trouble : Trouble)

theorem own_named (own : setup.Own path) : ∃ text, path.getLast? = some (.named text) := by
  simp only [Setup.Own, Setup.ownFiles, List.mem_cons, List.not_mem_nil, or_false] at own
  rcases own with rfl | rfl | rfl | rfl | rfl | rfl | rfl | rfl <;>
    exact ⟨_, by simp [Setup.lockPath, Setup.reportPath, Setup.backupPath, Setup.manifestBackupPath,
      Setup.sourceManifestPath, Setup.catalogPath, Setup.catalogLockPath, Setup.handoffPath]; rfl⟩

theorem mem_cleanupTargets {profile : Profile} : path ∈ profile.cleanupTargets numbers ↔
      ∃ parent ∈ profile.parents, ∃ number ∈ numbers, path = flowRoot parent number := by
  simp [Profile.cleanupTargets, eq_comm]

theorem cleanupTarget_not_own (target : path ∈ setup.profile.cleanupTargets numbers) :
    ¬ setup.Own path := by
  obtain ⟨parent, -, number, -, rfl⟩ := mem_cleanupTargets.mp target
  intro own
  obtain ⟨text, last⟩ := own_named own
  simp [flowRoot] at last

/-! ## Operations that keep the archive -/

/-- The path is one of the repair's own files or lies below a target. -/
def Setup.Writable (setup : Setup) (numbers : List Nat) (path : Path) : Prop :=
  setup.Own path ∨ ∃ target ∈ setup.profile.cleanupTargets numbers, target <+: path ∧ path ≠ target

/-- The operations of a run that has reserved these numbers. -/
def Setup.Harmless (setup : Setup) (numbers : List Nat) : Call → Prop
  | .write path | .copyFile _ path | .hardlink _ path => setup.Writable numbers path
  | .unlink path => setup.Own path
  | .removeTree path => path ∈ setup.profile.cleanupTargets numbers
  | _ => True

theorem untouched_troubled {β : Type} {after : World} (reply : Except RepairError β)
    (before : Untouched setup world) (then_ : Untouched setup after) :
    Untouched setup (troubled trouble reply world after).2 := by
  cases trouble <;> first | exact before | exact then_

theorem untouched_create (path : Path) (content : String) (untouched : Untouched setup world)
    (new : setup.Own path ∨ setup.archive path = none) :
    Untouched setup (changesDisk trouble world (world.disk.create path content)).2 := by
  cases created : world.disk.create path content with
  | none => exact untouched
  | some disk =>
    exact untouched_troubled trouble _ untouched
      ⟨untouched.kept.create created new, untouched.removed_new⟩

theorem untouched_removeTarget (notOwn : ¬ setup.Own path)
    (free : setup.archive path ≠ some .directory) (untouched : Untouched setup world) :
    Untouched setup (removeTarget trouble path world).2 := by
  unfold removeTarget
  split
  · exact untouched
  next there =>
    -- A directory where the archive has none was made by this run, with everything below it.
    have absent : setup.archive path = none := by
      cases found : setup.archive path with
      | none => rfl
      | some node =>
        have kept := untouched.kept path node notOwn found
        rw [kept] at there
        cases there
        exact absurd found free
    have below : ∀ other, path <+: other → setup.archive other = none := by
      intro other inside
      by_cases same : other = path
      · rw [same, absent]
      · exact setup.wellFormed.nothing_below free inside same
    have removed : Untouched setup
        { world with disk := world.disk.removeTree path, removed := world.removed ++ [path] } := by
      refine ⟨untouched.kept.removeTree fun other inside _ => below other inside, ?_⟩
      intro other mem
      rcases List.mem_append.mp mem with old | new
      · exact untouched.removed_new other old
      · rw [List.mem_singleton.mp new, absent]
    split
    · exact removed
    · exact removed
    · exact untouched
    · refine ⟨untouched.kept.removeLeaving fun other inside _ there => ?_, untouched.removed_new⟩
      exact absurd (below other inside) there
  · exact untouched

/-- With no directory of the archive among the targets, every operation of the run keeps the
archive. -/
theorem untouched_harmless
    (free : ∀ target ∈ setup.profile.cleanupTargets numbers, setup.archive target ≠ some .directory)
    {request : Call} (harmless : setup.Harmless numbers request) (untouched : Untouched setup world) :
    Untouched setup (effects setup request world).2 := by
  have new : ∀ path, setup.Writable numbers path → setup.Own path ∨ setup.archive path = none := by
    rintro path (own | ⟨target, mem, inside, strict⟩)
    · exact .inl own
    · exact .inr (setup.wellFormed.nothing_below (free target mem) inside strict)
  cases request with
  | acquireLock | backupDatabase =>
    simp only [effects]
    split
    · exact untouched
    · exact untouched_create _ _ _ untouched (.inl (by simp))
  | releaseLock =>
    exact untouched_troubled _ _ untouched
      ⟨untouched.kept.delete (.inl (by simp)), untouched.removed_new⟩
  | completedRepair | exists_ _ | isFile _ => exact untouched_troubled _ _ untouched untouched
  | reserve | finalize _ =>
    simp only [effects]
    split
    · exact untouched
    · exact untouched_troubled _ _ untouched ⟨untouched.kept, untouched.removed_new⟩
  | readFile path =>
    simp only [effects]
    split
    · exact untouched_troubled _ _ untouched untouched
    · exact untouched
  | copyFile source target =>
    simp only [effects]
    split
    · exact untouched
    · exact untouched_create _ _ _ untouched (new target harmless)
  | hardlink source target =>
    simp only [effects]
    split
    · exact untouched
    · split
      · exact untouched
      · exact untouched_create _ _ _ untouched (new target harmless)
  | write path => exact untouched_create _ _ _ untouched (new path harmless)
  | unlink path =>
    exact untouched_troubled _ _ untouched
      ⟨untouched.kept.delete (.inl harmless), untouched.removed_new⟩
  | cleanupDatabase numbers =>
    exact untouched_troubled _ _ untouched ⟨untouched.kept, untouched.removed_new⟩
  | removeTree path =>
    exact untouched_removeTarget _ (cleanupTarget_not_own harmless) (free path harmless) untouched

/-! ## The operations of a run -/

section Calls

variable {setup : Setup} {numbers : List Nat}

theorem writable_below {parent : Path} {number : Nat} (isParent : parent ∈ setup.profile.parents)
    (reserved : number ∈ numbers) {rest : Path} (strict : rest ≠ []) :
    setup.Writable numbers (flowRoot parent number ++ rest) :=
  .inr ⟨flowRoot parent number, mem_cleanupTargets.mpr ⟨parent, isParent, number, reserved, rfl⟩,
    List.prefix_append _ _, by simpa using strict⟩

theorem storageRoot_parent : setup.profile.storageRoot ∈ setup.profile.parents := List.mem_cons_self

theorem camera_parent {camera : Camera} (enabled : camera ∈ setup.profile.enabledCameras) :
    camera.storageRoot ∈ setup.profile.parents :=
  List.mem_cons_of_mem _ (List.mem_map_of_mem enabled)

theorem captureRoot_ok {camera : Camera} {number : Nat} {root : Path}
    (found : captureRoot camera number = .ok root) : root = flowRoot camera.storageRoot number := by
  unfold captureRoot at found
  split at found
  · cases found
    rfl
  · cases found

theorem outcome_calls {β : Type} {allowed : Call → Prop} {program : Repairing β}
    (calls : program.run.Calls allowed) : (outcome program).run.Calls allowed :=
  calls.bind fun _ => .pure

theorem anyExists_calls (paths : List Path) : (anyExists paths).run.Calls (setup.Harmless numbers) := by
  induction paths with
  | nil => exact .pure
  | cons path paths ih =>
    refine .attempt (.ask (Call.exists_ path) trivial) fun _ => ?_
    exact .attempt ih fun _ => .pure

theorem ensureTargetRootsAbsent_calls (targets : List Nat) :
    (ensureTargetRootsAbsent setup.profile targets).run.Calls (setup.Harmless numbers) := by
  induction targets with
  | nil => exact .pure
  | cons number targets ih =>
    rw [ensureTargetRootsAbsent]
    split
    · exact .pure
    · refine .attempt (anyExists_calls _) fun found => ?_
      split
      · exact .pure
      · exact ih

variable {target : Nat}

section

variable (reserved : target ∈ numbers)
include reserved

theorem copyCameraConfigs_calls {source : Nat} (cameras : List Camera)
    (enabled : ∀ camera ∈ cameras, camera ∈ setup.profile.enabledCameras) :
    (copyCameraConfigs source target cameras).run.Calls (setup.Harmless numbers) := by
  induction cameras with
  | nil => exact .pure
  | cons camera cameras ih =>
    rw [copyCameraConfigs]
    split
    next sourceRoot targetRoot _ targetFound =>
      have root := captureRoot_ok targetFound
      subst root
      have harmless : setup.Harmless numbers (.copyFile (sourceRoot ++ [.named "camera_config.json"])
          (flowRoot camera.storageRoot target ++ [.named "camera_config.json"])) :=
        writable_below (camera_parent (enabled camera List.mem_cons_self)) reserved (by simp)
      refine .attempt (.ask (Call.copyFile _ _) harmless) fun _ => ?_
      exact ih fun other mem => enabled other (List.mem_cons_of_mem _ mem)
    · exact .pure

theorem prepareFrames_calls (frames : List Frame) (next : String → Nat) (committed : List String) :
    (prepareFrames setup target frames next committed).run.Calls (setup.Harmless numbers) := by
  induction frames generalizing next committed with
  | nil => exact .pure
  | cons frame frames ih =>
    rw [prepareFrames]
    split
    · exact .pure
    rename_i camera found
    split
    · exact .pure
    rename_i root rootFound
    have known := captureRoot_ok rootFound
    subst known
    have below : ∀ kind suffix index, setup.Writable numbers
        (artifactPath (flowRoot camera.storageRoot target) kind suffix index) := fun _ _ _ =>
      writable_below (camera_parent (List.mem_of_find?_eq_some found)) reserved (by simp)
    refine .attempt (.ask (Call.hardlink _ _) (below _ _ _)) fun _ => ?_
    refine .attempt (.ask (Call.hardlink _ _) (below _ _ _)) fun _ => ?_
    refine .attempt (.ask (Call.readFile _) trivial) fun _ => ?_
    refine .attempt (.ask (Call.write _) (below _ _ _)) fun _ => ?_
    exact ih _ _

theorem publishCommittedRound_calls (captureRound : Nat) (committed : List String) :
    (publishCommittedRound setup target captureRound committed).run.Calls (setup.Harmless numbers) := by
  unfold publishCommittedRound
  split
  · exact .pure
  split
  · exact .pure
  · have below : setup.Writable numbers (eventPath setup target captureRound) :=
      writable_below storageRoot_parent reserved (by simp)
    exact .ask (Call.write _) below

theorem prepareEvents_calls (events : List Event) (next : String → Nat) (count : Nat) :
    (prepareEvents setup target events next count).run.Calls (setup.Harmless numbers) := by
  induction events generalizing next count with
  | nil => exact .pure
  | cons event events ih =>
    refine .attempt (prepareFrames_calls reserved _ _ _) fun _ => ?_
    refine .attempt (publishCommittedRound_calls reserved _ _) fun _ => ?_
    exact ih _ _

theorem writeFlowManifest_calls :
    (writeFlowManifest setup target).run.Calls (setup.Harmless numbers) := by
  have below : ∀ rest : Path, rest ≠ [] →
      setup.Writable numbers (flowRoot setup.profile.storageRoot target ++ rest) :=
    fun _ strict => writable_below storageRoot_parent reserved strict
  refine .attempt (.ask (Call.write _) (below _ (by simp))) fun _ => ?_
  split
  · exact .ask (Call.write _) (below _ (by simp))
  · exact .pure

theorem prepareSegment_calls (segment : BoundarySegment) :
    (prepareSegment setup target segment).run.Calls (setup.Harmless numbers) := by
  unfold prepareSegment
  extract_lets selected
  split
  · exact .pure
  refine .attempt (copyCameraConfigs_calls reserved _ fun _ mem => mem) fun _ => ?_
  refine .attempt (prepareEvents_calls reserved _ _ _) fun count => ?_
  split
  · exact .pure
  · exact writeFlowManifest_calls reserved

end

theorem prepareSegments_calls (targets : List (Nat × BoundarySegment))
    (reserved : ∀ pair ∈ targets, pair.1 ∈ numbers) :
    (prepareSegments setup targets).run.Calls (setup.Harmless numbers) := by
  induction targets with
  | nil => exact .pure
  | cons pair targets ih =>
    refine .attempt (prepareSegment_calls (reserved pair List.mem_cons_self) _) fun _ => ?_
    exact ih fun other mem => reserved other (List.mem_cons_of_mem _ mem)

theorem removeTargets_calls (paths : List Path)
    (targets : ∀ path ∈ paths, path ∈ setup.profile.cleanupTargets numbers) :
    (removeTargets paths).run.Calls (setup.Harmless numbers) := by
  induction paths with
  | nil => exact .pure
  | cons path paths ih =>
    refine .attempt
      (.ask (Call.removeTree path) (targets path List.mem_cons_self)) fun _ => ?_
    exact ih fun other mem => targets other (List.mem_cons_of_mem _ mem)

theorem cleanupStaging_calls : (cleanupStaging setup numbers).run.Calls (setup.Harmless numbers) := by
  unfold cleanupStaging
  split
  · exact .pure
  · refine .attempt (.ask (Call.cleanupDatabase numbers) trivial) fun _ => ?_
    exact removeTargets_calls _ fun _ mem => mem

theorem markSourceManifestSuperseded_calls :
    (markSourceManifestSuperseded setup).run.Calls (setup.Harmless numbers) := by
  refine .attempt (.ask (Call.readFile _) trivial) fun _ => ?_
  refine .attempt ?_ fun _ => ?_
  · refine .attempt (.ask (Call.exists_ _) trivial) fun present => ?_
    split
    · exact .pure
    · exact .ask (Call.copyFile _ _) (.inl (by simp))
  · refine .attempt (.ask (Call.write _) (.inl (by simp))) fun _ => ?_
    refine .attempt (.ask (Call.isFile _) trivial) fun isFile => ?_
    split
    · refine .attempt (.ask (Call.write _) (.inl (by simp))) fun _ => ?_
      refine .attempt (outcome_calls ?_) fun updated => ?_
      · split
        · exact .ask (Call.write _) (.inl (by simp))
        · exact .pure
      · have own : setup.Own setup.catalogLockPath := by simp
        refine .attempt (.ask (Call.unlink _) own) fun _ => ?_
        split <;> exact .pure
    · exact .pure

theorem announce_calls (flows : List Nat) :
    (announce setup flows).run.Calls (setup.Harmless numbers) := by
  unfold announce
  split
  · induction flows with
    | nil => exact .pure
    | cons flow flows ih =>
      refine .attempt (.ask (Call.write _) (.inl (by simp))) fun _ => ?_
      exact ih
  · exact .pure

/-- A run that has reserved numbers writes below their directories and to its own files. -/
theorem repairReserved_calls : (repairReserved setup numbers).run.Calls (setup.Harmless numbers) := by
  refine .attempt (outcome_calls ?_) fun result => ?_
  · refine .attempt (ensureTargetRootsAbsent_calls _) fun _ => ?_
    refine .attempt (prepareSegments_calls _ fun pair mem => ?_) fun _ => ?_
    · exact (List.of_mem_zip mem).1
    · exact .ask (Call.finalize numbers) trivial
  · split
    · exact .attempt cleanupStaging_calls fun _ => .pure
    · refine .attempt markSourceManifestSuperseded_calls fun _ => ?_
      refine .attempt (.ask (Call.write _) (.inl (by simp))) fun _ => ?_
      exact announce_calls _

end Calls

end SteelInspection.Repair
