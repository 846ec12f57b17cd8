import SteelInspection.Artifacts.Safety

/-! # A cleanup removes what was planned

The path of an entry is compared with the forbidden names before it is resolved.  When it leads to no
forbidden place, and to the same file from the examination to the removal, what is removed is the
file of the plan; a directory that was replaced by a link in the meantime leads the removal to any
other place below the allowed roots.
-/

namespace SteelInspection.Artifacts

open Foundations

/-- The file lay where the path of the plan leads, in an allowed root and under no forbidden name,
with the length and the hash that were frozen; without a link on the way the place is the path. -/
structure Removal.AsPlanned (reader : Reader) (removal : Removal) (planned : CleanupEntry) : Prop where
  leads : removal.disk.canonicalize (RawPath.ofText planned.path).components = .ok removal.location
  place : removal.disk.tree.resolvesToItself Disk.maxLinks (RawPath.ofText planned.path).components →
    (RawPath.ofText planned.path).components = FileTree.written removal.location
  inside : withinRoots removal.roots removal.location = true
  allowed : isForbiddenMaintenancePath (FileTree.written removal.location) = false
  content : ∃ bytes, removal.node = .file bytes ∧ bytes.length = planned.sizeBytes ∧
    reader.sha256 bytes = planned.sha256

def Removal.OfPlan (reader : Reader) (removal : Removal) (shared : Shared) : Prop :=
  ∃ row planned, shared.cleanups.find? removal.entry.cleanupId = some row ∧
    row.plan.entries[removal.entry.index]? = some planned ∧ removal.AsPlanned reader planned

variable {removal : Removal}

section removal

variable {reader : Reader} {thread : Thread} {env : Env} {shared after : Shared} {call : Call}
  {path : RealPath}

theorem removal_asPlanned {location : RealPath} {entry : EntryReference} {planned : CleanupEntry}
    {node : Node String Bytes} (examined : Examined reader thread path entry planned shared)
    (undisturbed : removalUndisturbed thread (.removeFile path entry) shared = true)
    (located : shared.disk.tree.locate Disk.maxLinks path = .ok location)
    (present : shared.disk.tree location = some node) :
    (Removal.mk entry location node shared.disk (shared.rootsOf thread)).AsPlanned reader
      planned := by
  simp only [removalUndisturbed, Bool.and_eq_true, decide_eq_true_eq, Bool.not_eq_true'] at undisturbed
  obtain ⟨steady, permitted⟩ := undisturbed
  rw [← examined.samePath] at steady
  obtain ⟨bytes, seen, isLength, sum⟩ := examined.unchanged steady
  obtain ⟨leads, isFile⟩ := seen_eq_some.mp seen
  -- the file stands at the path that was resolved
  obtain rfl := (real_of_seen seen).locate isFile located
  refine ⟨leads, fun straight => ?_, examined.inside, permitted, bytes, ?_, isLength, sum⟩
  · obtain ⟨itself, resolved, written⟩ := FileTree.resolvesToItself_iff.mp straight
    cases resolved.symm.trans (canonicalize_eq_ok.mp leads)
    exact written
  · exact Option.some.inj (present.symm.trans isFile)

variable (prepared : Prepared reader thread call shared)
  (effect : Effect thread env shared call after)
include prepared effect

theorem ofPlan_after (undisturbed : removalUndisturbed thread call shared = true)
    (earlier : ∀ removal ∈ shared.removed, removal.OfPlan reader shared) :
    ∀ removal ∈ after.removed, removal.OfPlan reader after := by
  refine removed_after effect (fun removal old => ofEntry_kept effect (earlier removal old)) ?_
  rintro path entry location node rfl located present
  obtain ⟨recordId, plan, planned, ⟨row, found, rfl, -⟩, isPlanned, examined⟩ := prepared
  exact ofEntry_kept effect ⟨row, planned, found, isPlanned,
    removal_asPlanned examined undisturbed located present⟩

def DeletedBy (recordId : String) (shared : Shared) : Prop :=
  ∃ row, shared.cleanups.find? row.id = some row ∧ row.recordId = recordId ∧
    row.status = .completed ∧ row.plan.Follows row.manifest ∧
    ∀ entry ∈ row.manifest.entries, entry.status = .deleted ∨ entry.status = .missing

theorem deletedBy_after {id : String} {record : InspectionRecord}
    (found : shared.records.find? id = some record) (gone : after.records.find? id = none) :
    DeletedBy id after := by
  cases effect with
  | @completes completion =>
    obtain ⟨plan, ⟨row, foundRow, rfl, isRecord⟩, follows, isDone⟩ := prepared
    have isId : completion.recordId = id := by
      by_contra different
      rw [Table.find?_deleteWhere, found] at gone
      have other : record.id ≠ completion.recordId :=
        fun same => different (same ▸ Table.find?_key found)
      simp [Option.filter, other] at gone
    have key : row.id = completion.cleanupId := Table.find?_key foundRow
    refine ⟨row.apply env.millis completion.progress, ?_, isRecord.trans isId, rfl, follows, ?_⟩
    · show (store env.millis completion.cleanupId completion.progress shared.cleanups).find? row.id = _
      rw [key, find?_store, if_pos rfl, foundRow]
      rfl
    · intro entry mem
      simpa [EntryStatus.isDone] using isDone entry mem
  | _ => cases gone.symm.trans found

end removal

section runs

variable {reader : Reader}
  {machine : Machine Shared Thread Call Call.Reply CleanupAnswer}

theorem handler_safe (thread : Thread) (program : Code CleanupAnswer) (shared : Shared)
    (handler : (cleanupRules reader).free.handler thread program) (_ : Sound shared) :
    (cleanupDiscipline reader).Obeys thread program shared := by
  obtain ⟨task, rfl⟩ := handler
  exact task_safe task

theorem reachable_prepared (reached : (cleanupRules reader).free.Reachable machine) {thread : Thread}
    {call : Call} (next : machine.nextCall? thread = some call) :
    Prepared reader thread call machine.shared :=
  (cleanupDiscipline reader).reachable_good handler_safe reached next

theorem reachable_ofPlan (reached : (cleanupRules reader).Reachable machine) :
    ∀ removal ∈ machine.shared.removed, removal.OfPlan reader machine.shared := by
  refine reached.invariant (fun shared => ∀ removal ∈ shared.removed, removal.OfPlan reader shared)
    (fun initial removal mem => ?_) ?_
  · rw [initial.2] at mem
    cases mem
  · intro machine reached earlier thread env call reply after asked undisturbed ran
    exact ofPlan_after (reachable_prepared reached.free asked) (effect_of_call ran) undisturbed earlier

end runs

/-! ## A directory that becomes a link -/

/-- SHA-256 of the one content that is hashed below. -/
def plainReader : Reader where
  sha256 bytes := if bytes = [1, 2, 3] then
    "039058c6f2c0cb492c533b0a4d14ef77cc0f78abccced5287d84a1a2011cfb81" else "-"
  sha256_ne bytes := by split <;> simp
  json _ := none

def capturedDisk : Disk := ⟨[
  (["data"], .directory), (["data", "rounds"], .directory),
  (["data", "rounds", "a.bin"], .file [1, 2, 3])]⟩

/-- The rounds were moved to another directory, with a link in their old place. -/
def movedDisk (directory : String) : Disk := ⟨[
  (["data"], .directory), (["data", directory], .directory),
  (["data", directory, "rounds"], .directory),
  (["data", directory, "rounds", "a.bin"], .file [1, 2, 3]),
  (["data", "rounds"], .link ["data", directory, "rounds"])]⟩

/-- The disk with one more file in the root. -/
def touchedDisk (disk : Disk) : Disk := ⟨disk.nodes ++ [(["data", "b.bin"], .file [4])]⟩

def capturedRecord : InspectionRecord where
  id := "R"
  materialId := "M"
  sessionId := "S"
  summaryPath := ""
  sessionStatus := some "finished"
  captureFiles := [⟨"/data/rounds/a.bin", ""⟩]
  defects := 0

def captured : Shared where
  disk := capturedDisk
  rootsText := "/data"
  cleanups := .empty
  records := ⟨[capturedRecord], List.nodup_singleton _⟩
  resolved _ := none
  rootsOf _ := []
  removed := []

def capturedRequest : CleanupRequest := ⟨"R", "operator", "retention", .ofText "/cache/R", 1⟩

abbrev Schedule := List (Action Thread Env Call Call.Reply CleanupAnswer)

def runs (thread : Thread) (task : CleanupTask) : Schedule :=
  [.spawn thread (task.program plainReader)]

def steps (thread : Thread) (count : Nat) : Schedule := List.replicate count (.advance thread {})

/-- The cleanup is planned, then the rounds are moved. -/
def movedMeanwhile (directory : String) : Schedule :=
  runs 0 (.cleanup capturedRequest) ++ steps 0 14 ++ runs 1 (.change (movedDisk directory)) ++
    steps 1 1

/-- Another file is written after the path of the entry was resolved. -/
def undisturbedCleanup : Schedule :=
  movedMeanwhile "archive" ++ steps 0 3 ++ runs 2 (.change (touchedDisk (movedDisk "archive"))) ++
    steps 2 1 ++ steps 0 7

theorem captured_initial : (cleanupRules plainReader).initial captured :=
  ⟨fun _ mem => absurd mem List.not_mem_nil, rfl⟩

end SteelInspection.Artifacts
