import SteelInspection.Repair.Preservation

/-! # When the cleanup destroys an archive

The run of the repair up to the reservation, and from there the two cases: none of the targets is a
directory of the archive, and then nothing of it is touched; or one is, and then the check raises
and everything depends on how far the cleanup comes.
-/

namespace SteelInspection.Repair

open Foundations

abbrev Does {β : Type} (setup : Setup) (stopped : World → Prop) (post : β → World → Prop)
    (program : Program Call Call.Reply β) (world : World) : Prop :=
  program.Ensures (Program.steady (effects setup)) Program.neverStops stopped post world

variable {setup : Setup}

variable {world after : World} {stopped : World → Prop} {β : Type} {numbers : List Nat}
  {paths : List Path} {path : Path} {post : Except RepairError Unit → World → Prop} (request : Call)

theorem Does.outcome {post : Except RepairError β → World → Prop} {program : Repairing β}
    (does : Does setup stopped post program.run world) :
    Does setup stopped (Returns post fun _ => False) (outcome program).run world :=
  does.bind fun _ _ holds => .pure holds

/-! ## The targets before the cleanup -/

private theorem le_foldl_max {bound value : Nat} {values : List Nat}
    (mem : value ≤ bound ∨ value ∈ values) : value ≤ values.foldl max bound := by
  induction values generalizing bound with
  | nil => simpa using mem
  | cons first rest ih => grind

theorem reserved_above (reserves : setup.Reserves numbers) {number : Nat}
    (reserved : number ∈ numbers) : setup.sourceFlow < number := by
  have found := reserves.numbers_free
  unfold Database.freeNumbers at found
  split at found
  · cases found
  rename_i row source
  split at found
  · cases found
  cases found
  have named : row.flowNo = setup.sourceFlow := by
    simpa using List.find?_some source
  have bound : row.flowNo ≤ setup.database.maximum :=
    le_foldl_max (.inr (List.mem_map_of_mem (List.mem_of_find?_eq_some source)))
  have above := (List.mem_range'_1.mp reserved).1
  omega

/-- A target that the archive does not have is not on the way to the repair's lock or backup. -/
theorem target_not_above (reserves : setup.Reserves numbers) {target : Path}
    (isTarget : target ∈ setup.profile.cleanupTargets numbers)
    (absent : setup.archive target = none) (text : String) :
    ¬ target <+: setup.repairRoot ++ [.named text] := by
  intro inside
  obtain ⟨parent, -, number, reserved, rfl⟩ := mem_cleanupTargets.mp isTarget
  have above := reserved_above reserves reserved
  -- Peel the names off: each of them ends in a name that no flow directory has.
  have lists : setup.repairRoot ++ [.named text] = setup.profile.storageRoot ++ [.named "system"] ++
      [.named "repairs"] ++ [.named "capture-boundaries"] ++ [.flow setup.sourceFlow] ++
      [.named text] := by simp [Setup.repairRoot]
  rw [lists] at inside
  simp only [List.prefix_concat_iff, flowRoot] at inside
  rcases inside with same | same | same | same | same | inStorage
  · cases (List.append_inj' same rfl).2
  · grind [List.append_inj']
  · cases (List.append_inj' same rfl).2
  · cases (List.append_inj' same rfl).2
  · cases (List.append_inj' same rfl).2
  · -- The archive has the source flow, so it has the directories above it.
    have events := FileTree.isDirectory_iff.mp reserves.events_there
    obtain ⟨rest, storage⟩ := inStorage
    have there : setup.archive (flowRoot parent number ++ (rest ++ [.flow setup.sourceFlow,
        .named "events", .named "frame-committed"])) ≠ none := by
      have whole : flowRoot parent number ++ (rest ++ [.flow setup.sourceFlow, .named "events",
          .named "frame-committed"]) = setup.sourceEventRoot := by
        simp [Setup.sourceEventRoot, flowRoot, ← storage]
      rw [whole, events]
      simp
    have directory := setup.wellFormed.directory_above (by simp) there
    rw [absent] at directory
    cases directory

/-- The world in which the numbers have been reserved: the targets are as the archive has them. -/
structure AtReservation (setup : Setup) (numbers : List Nat) (world : World) : Prop where
  untouched : Untouched setup world
  targets_same : ∀ target ∈ setup.profile.cleanupTargets numbers,
    world.disk target = setup.archive target

theorem lock_own : setup.Own setup.lockPath := by simp

theorem untouched_start : Untouched setup setup.start where
  kept := FileTree.KeepsAll.refl
  removed_new := by intro path mem; cases mem

/-- Making the lock and the backup leaves the targets as they are. -/
theorem atReservation (reserves : setup.Reserves numbers) {locked saved : Disk}
    (lockMade : setup.archive.create setup.lockPath (setup.text setup.lockPath) = some locked)
    (backupMade : locked.create setup.backupPath (setup.text setup.backupPath) = some saved)
    (database : Database) : AtReservation setup numbers ⟨saved, database, []⟩ := by
  have kept : FileTree.KeepsAll setup.Own setup.archive saved :=
    (FileTree.KeepsAll.refl.create lockMade (.inl lock_own)).create backupMade
      (.inl (by simp))
  refine ⟨⟨kept, by intro path mem; cases mem⟩, ?_⟩
  intro target isTarget
  cases found : setup.archive target with
  | some node => exact kept target node (cleanupTarget_not_own isTarget) found
  | none =>
    have afterLock := FileTree.create_other lockMade (target_not_above reserves isTarget found _)
    have afterBackup := FileTree.create_other backupMade (target_not_above reserves isTarget found _)
    exact afterBackup.trans (afterLock.trans found)

/-! ## The run up to the reservation -/

/-- Operations of a run without reserved numbers keep the archive. -/
theorem does_untouched {program : Program Call Call.Reply β}
    (calls : program.Calls (setup.Harmless []))
    (stops : ∀ {world}, Untouched setup world → stopped world) (untouched : Untouched setup world) :
    Does setup stopped (fun _ => Untouched setup) program world := by
  refine Program.Walks.of_calls (fun _ known _ => stops known) stops ?_ calls untouched
  intro request env state harmless known
  have noTargets : ∀ target ∈ setup.profile.cleanupTargets [],
      setup.archive target ≠ some .directory := by simp [Profile.cleanupTargets]
  exact untouched_harmless noTargets harmless known

theorem does_exactly (world : World) :
    Does setup stopped (fun reply after =>
        effects setup request world = (reply, after)) (Program.ask request) world :=
  .ask request nofun fun _ _ => rfl

theorem troubled_ok_iff {trouble : Trouble} {reply : Except RepairError β} {value : β}
    {then_ : World} : troubled trouble reply world then_ = (.ok value, after) ↔
      trouble = .works ∧ reply = .ok value ∧ then_ = after := by
  cases trouble <;> simp [troubled]

theorem changesDisk_ok_iff {trouble : Trouble} {disk : Option Disk} :
    changesDisk trouble world disk = (.ok (), after) ↔
      trouble = .works ∧ ∃ changed, disk = some changed ∧ { world with disk := changed } = after := by
  cases disk with
  | none => simp [changesDisk]
  | some changed => simp [changesDisk, troubled_ok_iff]

/-- The lock and the backup are made where there is nothing yet. -/
theorem makesNew_ok_iff {trouble : Trouble} {path : Path} {error : RepairError} {content : String} :
    (if world.disk.present path then (.error error, world)
      else changesDisk trouble world (world.disk.create path content)) = (.ok (), after) ↔
      world.disk.present path = false ∧ trouble = .works ∧
      ∃ made, world.disk.create path content = some made ∧ { world with disk := made } = after := by
  split
  next there =>
    simp [there]
  next absent =>
    simp [changesDisk_ok_iff, absent]

theorem reserve_ok_iff : effects setup .reserve world = (.ok numbers, after) ↔
      world.database.freeNumbers setup.sourceFlow setup.segments.length = .ok numbers ∧
      setup.trouble .reserve = .works ∧
      { world with database := world.database.stage numbers } = after := by
  simp only [effects]
  split
  next error refused =>
    simp [refused]
  · grind [troubled_ok_iff]

theorem untouched_before (harmless : setup.Harmless [] request) {reply : request.Reply}
    (untouched : Untouched setup world) (ran : effects setup request world = (reply, after)) :
    Untouched setup after := by
  have noTargets : ∀ target ∈ setup.profile.cleanupTargets [],
      setup.archive target ≠ some .directory := by simp [Profile.cleanupTargets]
  have kept := untouched_harmless noTargets harmless untouched
  rwa [ran] at kept

section MainRun

variable {Q : World → Prop}
  (early : (∀ numbers, ¬ setup.Reserves numbers) → ∀ world, Untouched setup world → Q world)
  (reserved : ∀ numbers world, setup.Reserves numbers → AtReservation setup numbers world →
    Does setup Q (fun _ => Q) (repairReserved setup numbers).run world)

include early reserved

theorem repairBody_does (events_there : setup.archive.isDirectory setup.sourceEventRoot = true)
    (as_expected : setup.expectedSegments.any (· != setup.segments.length) = false)
    (has_segments : setup.segments ≠ []) (applies : setup.apply = true)
    (unlocked : setup.archive.present setup.lockPath = false)
    (lock_works : setup.trouble .acquireLock = .works) {locked : Disk}
    (lockMade : setup.archive.create setup.lockPath (setup.text setup.lockPath) = some locked) :
    Does setup Q (fun _ => Q) (repairBody setup).run ⟨locked, setup.database, []⟩ := by
  have untouched : Untouched setup ⟨locked, setup.database, []⟩ :=
    ⟨FileTree.KeepsAll.refl.create lockMade (.inl lock_own), by intro path mem; cases mem⟩
  refine (does_exactly Call.completedRepair _).attempt ?_ ?_
  · intro found checked ran
    obtain ⟨completed_works, completed, rfl⟩ := troubled_ok_iff.mp ran
    cases found with
    | some numbers =>
      -- The repair has been completed before: the source manifest is marked again.
      have none : ∀ numbers, ¬ setup.Reserves numbers := by
        intro other reserves
        rw [reserves.not_completed] at completed
        cases completed
      refine (does_untouched markSourceManifestSuperseded_calls (early none _) untouched).attempt ?_ ?_
      · intro _ after kept
        exact (does_untouched (announce_calls numbers) (early none _) kept).mono
          fun _ _ kept => early none _ kept
      · exact fun _ _ kept => early none _ kept
    | none =>
      refine (does_exactly Call.backupDatabase _).attempt ?_ ?_
      · intro _ backedUp executedBackup
        obtain ⟨noBackup, backup_works, saved, backupMade, rfl⟩ := makesNew_ok_iff.mp executedBackup
        have backedUpUntouched := untouched_before .backupDatabase trivial untouched executedBackup
        refine (does_exactly Call.reserve _).attempt ?_ ?_
        · intro numbers after executedReserve
          obtain ⟨numbers_free, reserve_works, rfl⟩ := reserve_ok_iff.mp executedReserve
          have reserves : setup.Reserves numbers :=
            { events_there, as_expected, has_segments, applies, unlocked,
              writable := ⟨locked, saved, lockMade, noBackup, backupMade⟩, lock_works,
              not_completed := by simpa using completed, completed_works, backup_works,
              numbers_free, reserve_works }
          exact reserved numbers _ reserves (atReservation reserves lockMade backupMade _)
        · intro error after executedReserve
          refine early ?_ _ (untouched_before .reserve trivial backedUpUntouched executedReserve)
          intro numbers reserves
          have works : effects setup .reserve ⟨saved, setup.database, []⟩ = (.ok numbers, _) :=
            reserve_ok_iff.mpr ⟨reserves.numbers_free, reserves.reserve_works, rfl⟩
          rw [works] at executedReserve
          cases executedReserve
      · intro error after executedBackup
        refine early ?_ _ (untouched_before .backupDatabase trivial untouched executedBackup)
        intro numbers reserves
        obtain ⟨sameLocked, saved, lockAgain, noBackup, backupMade⟩ := reserves.writable
        have same : sameLocked = locked := Option.some.inj (lockAgain.symm.trans lockMade)
        subst same
        have works : effects setup .backupDatabase ⟨sameLocked, setup.database, []⟩ = (.ok (), _) :=
          makesNew_ok_iff.mpr ⟨noBackup, reserves.backup_works, saved, backupMade, rfl⟩
        rw [works] at executedBackup
        cases executedBackup
  · intro error after ran
    refine early ?_ _ (untouched_before .completedRepair trivial untouched ran)
    intro numbers reserves
    have works : effects setup .completedRepair ⟨locked, setup.database, []⟩ = (.ok _, _) :=
      troubled_ok_iff.mpr ⟨reserves.completed_works, rfl, rfl⟩
    rw [works] at ran
    cases ran

/-- `main` by its parts: a run that does not come to the reservation keeps the archive, and a run
that does goes on from a world with the targets as the archive has them. -/
theorem main_does (release : ∀ world, Q world → Q (effects setup .releaseLock world).2) :
    Does setup Q (fun _ => Q) (main setup).run setup.start := by
  have ends : (∀ numbers, ¬ setup.Reserves numbers) → Q setup.start :=
    fun none => early none _ untouched_start
  unfold main
  split
  next noEvents =>
    exact .pure (ends fun numbers reserves => by simp [reserves.events_there] at noEvents)
  split
  next unexpected =>
    exact .pure (ends fun numbers reserves => by simp [reserves.as_expected] at unexpected)
  split
  next noSegments =>
    exact .pure (ends fun numbers reserves => by simp [reserves.has_segments] at noSegments)
  split
  next dryRun =>
    exact .pure (ends fun numbers reserves => by simp [reserves.applies] at dryRun)
  rename_i eventsThere asExpected hasSegments applies
  refine (does_exactly Call.acquireLock _).attempt ?_ ?_
  · intro _ after ran
    obtain ⟨unlocked, works, locked, lockMade, rfl⟩ := makesNew_ok_iff.mp ran
    have body := repairBody_does early reserved (by simpa using eventsThere) (by simpa using asExpected)
      (by simpa using hasSegments) (by simpa using applies) unlocked works lockMade
    refine body.outcome.attempt (fun result world holds => ?_) fun _ _ => False.elim
    refine (does_exactly Call.releaseLock _).attempt ?_ ?_
    · intro _ last executedRelease
      have released : Q last := by
        have kept := release world holds
        rwa [executedRelease] at kept
      cases result <;> exact .pure released
    · grind
  · intro error after ran
    refine early ?_ _ (untouched_before .acquireLock trivial untouched_start ran)
    intro numbers reserves
    obtain ⟨locked, saved, lockMade, -, -⟩ := reserves.writable
    have works : effects setup .acquireLock setup.start = (.ok (), _) :=
      makesNew_ok_iff.mpr ⟨reserves.unlocked, reserves.lock_works, locked, lockMade, rfl⟩
    rw [works] at ran
    cases ran

end MainRun

/-! ## The check of the targets -/

theorem anyExists_does (paths : List Path) (world : World) :
    Does setup stopped (Returns (fun found after => after = world ∧
        found = paths.any world.disk.present) (· = world)) (anyExists paths).run world := by
  induction paths with
  | nil => exact .pure ⟨rfl, rfl⟩
  | cons path paths ih =>
    refine (does_exactly (Call.exists_ path) world).attempt ?_ ?_
    · intro found after ran
      obtain ⟨-, answer, rfl⟩ := troubled_ok_iff.mp ran
      cases answer
      refine ih.andThen ?_
      rintro _ _ ⟨rfl, rfl⟩
      exact .pure ⟨rfl, List.any_cons.symm⟩
    · intro error after ran
      cases trouble : setup.trouble (.exists_ path) <;>
        simp only [effects, trouble, troubled, Prod.mk.injEq] at ran <;> exact ran.2.symm

/-- Where a target exists, the check raises and changes nothing. -/
theorem ensureTargetRootsAbsent_raises
    (there : ∃ number ∈ numbers, ∃ path ∈ setup.profile.targetRoots number,
      world.disk.present path = true) :
    Does setup stopped (Returns (fun _ _ => False) (· = world))
      (ensureTargetRootsAbsent setup.profile numbers).run world := by
  induction numbers with
  | nil => obtain ⟨number, mem, -⟩ := there; cases mem
  | cons number numbers ih =>
    rw [ensureTargetRootsAbsent]
    split
    · exact .pure rfl
    refine (anyExists_does _ world).andThen ?_
    rintro found _ ⟨rfl, answer⟩
    split
    · exact .pure rfl
    rename_i absent
    apply ih
    obtain ⟨other, mem, path, isRoot, present⟩ := there
    rcases List.mem_cons.mp mem with rfl | later
    · -- The number that was just checked has no directory.
      have found : (setup.profile.targetRoots other).any _ = true :=
        List.any_eq_true.mpr ⟨path, isRoot, present⟩
      rw [answer, found] at absent
      exact absurd rfl absent
    · exact ⟨other, later, path, isRoot, present⟩

/-! ## The cleanup -/

theorem removeTargets_ok (ran : effects setup (.removeTree path) world = (.ok (), after))
    (rest : Does setup stopped post (removeTargets paths).run after) :
    Does setup stopped post (removeTargets (path :: paths)).run world := by
  refine (does_exactly (Call.removeTree path) world).attempt ?_ ?_
  · grind
  · intro error last again
    cases ran.symm.trans again

theorem removeTargets_error {error : RepairError}
    (ran : effects setup (.removeTree path) world = (.error error, after))
    (holds : post (.error error) after) :
    Does setup stopped post (removeTargets (path :: paths)).run world := by
  refine (does_exactly (Call.removeTree path) world).attempt ?_ ?_
  · intro _ last again
    cases ran.symm.trans again
  · grind

/-- What the removal loop has removed does not come back. -/
theorem removeTargets_gone {gone : Path} (paths : List Path) (absent : world.disk gone = none) :
    Does setup stopped (fun _ after => after.disk gone = none) (removeTargets paths).run world := by
  induction paths generalizing world with
  | nil => exact .pure absent
  | cons path paths ih =>
    have stays : (effects setup (.removeTree path) world).2.disk gone = none := by
      simp only [effects]
      unfold removeTarget
      split
      · exact absent
      · split <;> simp [FileTree.removeTree, FileTree.removeLeaving, absent]
      · exact absent
    cases ran : effects setup (.removeTree path) world with
    | mk reply after =>
      rw [ran] at stays
      cases reply with
      | ok _ => exact removeTargets_ok ran (ih stays)
      | error error => exact removeTargets_error ran stays

theorem not_untouched (notOwn : ¬ setup.Own path) (there : setup.archive path ≠ none)
    (gone : world.disk path = none) : ¬ Untouched setup world := by
  intro untouched
  obtain ⟨node, found⟩ := Option.ne_none_iff_exists'.mp there
  have kept := untouched.kept path node notOwn found
  rw [gone] at kept
  cases kept

/-- A directory of the archive that the loop comes to: it stays only when its removal raises and
leaves what the archive has. -/
theorem removeTargets_directory (paths : List Path) (untouched : Untouched setup world)
    (notOwn : ¬ setup.Own path) (there : setup.archive path = some .directory)
    (same : world.disk path = some .directory) :
    Does setup stopped (fun _ after => Untouched setup after ↔ setup.SparesAll (path :: paths))
      (removeTargets (path :: paths)).run world := by
  have lost : ∀ after, after.disk path = none → (Untouched setup after ↔ False) := fun after gone =>
    iff_of_false (not_untouched notOwn (by simp [there]) gone) not_false
  simp only [Setup.SparesAll, there]
  cases trouble : setup.trouble (.removeTree path) with
  | works =>
    refine removeTargets_ok (by simp only [effects, removeTarget, same, trouble]; rfl) ?_
    refine (removeTargets_gone paths ?_).mono fun _ after gone => lost after gone
    simp [FileTree.removeTree]
  | raisesAfter =>
    refine removeTargets_error (by simp only [effects, removeTarget, same, trouble]; rfl) ?_
    exact lost _ (by simp [FileTree.removeTree])
  | raises =>
    refine removeTargets_error (by simp only [effects, removeTarget, same, trouble]; rfl) ?_
    exact iff_of_true untouched trivial
  | raisesLeaving left =>
    refine removeTargets_error (by simp only [effects, removeTarget, same, trouble]; rfl) ?_
    constructor
    · intro kept below inside counts existed
      obtain ⟨node, found⟩ := Option.ne_none_iff_exists'.mp existed
      have still := kept.kept below node counts found
      by_contra lostOne
      simp [FileTree.removeLeaving, inside, lostOne] at still
    · exact fun spared => ⟨untouched.kept.removeLeaving spared, untouched.removed_new⟩

/-- The removal loop keeps the archive exactly when it spares it. -/
theorem removeTargets_does (paths : List Path) (untouched : Untouched setup world)
    (notOwn : ∀ path ∈ paths, ¬ setup.Own path)
    (same : ∀ path ∈ paths, world.disk path = setup.archive path) :
    Does setup stopped (fun _ after => Untouched setup after ↔ setup.SparesAll paths)
      (removeTargets paths).run world := by
  induction paths with
  | nil => exact .pure (iff_of_true untouched trivial)
  | cons path paths ih =>
    have here := same path List.mem_cons_self
    have rest := ih (fun other mem => notOwn other (List.mem_cons_of_mem _ mem))
      (fun other mem => same other (List.mem_cons_of_mem _ mem))
    have pathNotOwn := notOwn path List.mem_cons_self
    cases found : setup.archive path with
    | none =>
      simp only [Setup.SparesAll, found]
      exact removeTargets_ok (by simp only [effects, removeTarget, here, found]) rest
    | some node =>
      cases node with
      | file content =>
        simp only [Setup.SparesAll, found]
        exact removeTargets_ok (by simp only [effects, removeTarget, here, found]) rest
      | link target =>
        refine removeTargets_error (by simp only [effects, removeTarget, here, found]; rfl) ?_
        exact iff_of_true untouched (by simp [Setup.SparesAll, found])
      | directory =>
        exact removeTargets_directory paths untouched pathNotOwn found (here.trans found)

/-- The cleanup keeps the archive exactly when it spares it. -/
theorem cleanupStaging_does (some_ : numbers ≠ []) (reserved : AtReservation setup numbers world) :
    Does setup stopped (fun _ after => Untouched setup after ↔ setup.Spares numbers)
      (cleanupStaging setup numbers).run world := by
  unfold cleanupStaging
  split
  next empty =>
    exact absurd (List.isEmpty_iff.mp empty) some_
  have cleaned : Untouched setup { world with database := world.database.unstage numbers } :=
    ⟨reserved.untouched.kept, reserved.untouched.removed_new⟩
  refine (does_exactly (Call.cleanupDatabase numbers) world).attempt ?_ ?_
  · intro _ after ran
    obtain ⟨works, -, rfl⟩ := troubled_ok_iff.mp ran
    refine (removeTargets_does _ cleaned (fun _ mem => cleanupTarget_not_own mem)
      reserved.targets_same).mono ?_
    intro _ last known
    simpa [Setup.Spares, works] using known
  · intro error after ran
    -- The database step raises, so nothing is removed.
    have troubled_ : setup.trouble (.cleanupDatabase numbers) ≠ .works := by
      intro works
      have ok : effects setup (.cleanupDatabase numbers) world = (.ok (), _) :=
        troubled_ok_iff.mpr ⟨works, rfl, rfl⟩
      cases ok.symm.trans ran
    refine iff_of_true ?_ (.inl troubled_)
    have kept := untouched_troubled (setup.trouble (.cleanupDatabase numbers))
      (.ok () : Except RepairError Unit) reserved.untouched cleaned
    have same : troubled (setup.trouble (.cleanupDatabase numbers)) (.ok ()) world
        { world with database := world.database.unstage numbers } = (.error error, after) := ran
    rwa [same] at kept

/-! ## The two cases -/

/-- With a directory of the archive among the targets the check raises, and the cleanup decides. -/
theorem repairReserved_blocked (reserved : AtReservation setup numbers world)
    (blocked : ∃ target ∈ setup.profile.cleanupTargets numbers,
      setup.archive target = some .directory) :
    Does setup stopped (fun _ after => Untouched setup after ↔ setup.Spares numbers)
      (repairReserved setup numbers).run world := by
  obtain ⟨target, isTarget, directory⟩ := blocked
  obtain ⟨parent, isParent, number, mem, rfl⟩ := mem_cleanupTargets.mp isTarget
  have present : world.disk.present (flowRoot parent number) = true := by
    simp [FileTree.present, reserved.targets_same _ isTarget, directory]
  have fails : Does setup stopped (Returns (fun _ _ => False) (· = world))
      (fillAndFinalize setup numbers).run world :=
    (ensureTargetRootsAbsent_raises ⟨number, mem, _, List.mem_map_of_mem isParent, present⟩).andThen
      fun _ _ => False.elim
  refine fails.outcome.attempt (fun result after failed => ?_) fun _ _ => False.elim
  cases result with
  | ok _ => exact failed.elim
  | error error =>
    cases failed
    exact (cleanupStaging_does (List.ne_nil_of_mem mem) reserved).attempt
      (fun _ _ known => .pure known) fun _ _ known => known

theorem sparesAll_of_free (free : ∀ target ∈ paths, setup.archive target ≠ some .directory) :
    setup.SparesAll paths := by
  induction paths with
  | nil => trivial
  | cons path paths ih => grind [Setup.SparesAll]

theorem finish_of_does {Q : World → Prop}
    (does : Does setup Q (fun _ => Q) (main setup).run setup.start) :
    Q setup.finish := by
  obtain ⟨answers, stops⟩ := does.interpret
  cases answered : ((main setup).run.interpret (effects setup) setup.start).1 with
  | none => exact stops answered
  | some value => exact answers value answered

theorem untouched_releaseLock_iff (world : World) :
    Untouched setup (effects setup .releaseLock world).2 ↔ Untouched setup world := by
  constructor
  · intro after
    have removed : (effects setup .releaseLock world).2.removed = world.removed := by
      simp only [effects]
      cases setup.trouble .releaseLock <;> rfl
    refine ⟨?_, fun path mem => after.removed_new path (removed ▸ mem)⟩
    intro path node counts found
    have kept := after.kept path node counts found
    have different : path ≠ setup.lockPath := fun same => counts (same ▸ lock_own)
    simp only [effects] at kept
    cases trouble : setup.trouble .releaseLock <;>
      simpa [trouble, troubled, FileTree.delete, different] using kept
  · intro before
    exact untouched_before .releaseLock trivial before rfl

/-- The repair keeps the archive exactly when the cleanup for the numbers it reserves, if it comes to
reserve any, spares it: none of their directories is in the archive, or the cleanup raises before it
has removed one. -/
theorem repair_preserves_iff (setup : Setup) :
    setup.Preserves ↔ ∀ numbers, setup.Reserves numbers → setup.Spares numbers := by
  constructor
  · intro preserves numbers reserves
    by_contra lost
    have destroyed : ¬ Untouched setup setup.finish := by
      apply finish_of_does (Q := fun world => ¬ Untouched setup world)
      apply main_does
      · exact fun none => absurd reserves (none numbers)
      · intro other world otherReserves atReservation
        have same : other = numbers :=
          Except.ok.inj (otherReserves.numbers_free.symm.trans reserves.numbers_free)
        subst same
        have blocked : ∃ target ∈ setup.profile.cleanupTargets other,
            setup.archive target = some .directory := by
          by_contra free
          apply lost
          exact .inr (sparesAll_of_free fun target member found => free ⟨target, member, found⟩)
        exact (repairReserved_blocked atReservation blocked).mono fun _ after known => by
          rw [known]
          exact lost
      · intro world touched
        rwa [untouched_releaseLock_iff]
    exact destroyed preserves
  · intro spares
    apply finish_of_does
    apply main_does
    · exact fun _ _ untouched => untouched
    · intro numbers world reserves atReservation
      by_cases blocked : ∃ target ∈ setup.profile.cleanupTargets numbers,
          setup.archive target = some .directory
      · exact (repairReserved_blocked atReservation blocked).mono fun _ after known =>
          known.mpr (spares numbers reserves)
      · refine Program.Walks.of_calls (fun _ known _ => known) (fun known => known) ?_
          repairReserved_calls atReservation.untouched
        exact fun harmless known => untouched_harmless (fun target member found =>
          blocked ⟨target, member, found⟩) harmless known
    · intro world untouched
      rwa [untouched_releaseLock_iff]

/-! ## An archive that is ahead of its database -/

/-- Flow 8 is on disk with its manifest, but the database ends with flow 7, which is repaired. -/
def aheadOfDatabase : Setup where
  profile := ⟨[.named "store"], [⟨"C1", [.named "store", .named "C1"]⟩]⟩
  sourceFlow := 7
  segments := [⟨1, 10, 12⟩]
  events := [⟨10, []⟩, ⟨11, []⟩, ⟨12, []⟩]
  expectedSegments := none
  apply := true
  publishHandoff := false
  stamp := "20260811T080000Z"
  archive := FileTree.ofLists
    [[], [.named "store"], [.named "store", .flow 7], [.named "store", .flow 7, .named "events"],
      [.named "store", .flow 7, .named "events", .named "frame-committed"], [.named "store", .flow 8]]
    [([.named "store", .flow 8, .named "flow.json"], "flow 8")]
  database := ⟨[⟨7, "finished", none⟩], true⟩
  trouble _ := .works
  text _ := ""
  hasCompleteRound _ := true
  catalogListsSource := true
  wellFormed := FileTree.wellFormed_ofLists (by decide)

/-- The repair of flow 7 reserves number 8, finds its directory, raises, and removes it. -/
theorem repair_removes_existing_flow : ¬ aheadOfDatabase.Preserves := by
  intro preserved
  have kept := preserved.kept [.named "store", .flow 8, .named "flow.json"] (.file "flow 8")
    (by unfold Setup.Own; decide +kernel) rfl
  cases kept

end SteelInspection.Repair
