import SteelInspection.Artifacts.Execution

/-! # What executions know and keep

What an execution finds out about a file is true of the disk it looked at.  It counts at the removal
only when the path of the entry still leads to the same place and file; every such fact is stated
under that condition, so that a change from outside cannot make it wrong.  The plan of a cleanup
never changes, and whatever is stored has its entries with the lengths and hashes that were frozen.
-/

namespace SteelInspection.Artifacts

open Foundations

/-! ## What a call does -/

inductive Effect (thread : Thread) (env : Env) (shared : Shared) : Call → Shared → Prop where
  | nothing {call} : Effect thread env shared call shared
  | resolves {path} : Effect thread env shared (.canonicalize path)
      { shared with resolved := fun other =>
          if other = thread then some path.components else shared.resolved other }
  | allows {roots} : Effect thread env shared .allowedRoots
      { shared with rootsOf := fun other => if other = thread then roots else shared.rootsOf other }
  | removes {path location entry node}
      (located : shared.disk.tree.locate Disk.maxLinks path = .ok location)
      (present : shared.disk.tree location = some node) :
      Effect thread env shared (.removeFile path entry)
        { shared.withDisk (shared.disk.delete location) with removed :=
            shared.removed ++ [⟨entry, location, node, shared.disk, shared.rootsOf thread⟩] }
  /-- A directory is removed, or someone else changes the disk. -/
  | replaces {call disk} : Effect thread env shared call (shared.withDisk disk)
  | inserts {input cleanups} (inserted : shared.cleanups.insert (input.row env) = some cleanups) :
      Effect thread env shared (.insertCleanup input) { shared with cleanups }
  | stores {id progress} : Effect thread env shared (.updateCleanup id progress)
        { shared with cleanups := store env.millis id progress shared.cleanups }
  | completes {completion} : Effect thread env shared (.completeCleanup completion)
      { shared with
        records := shared.records.deleteWhere fun row => row.id = completion.recordId
        cleanups := store env.millis completion.cleanupId completion.progress shared.cleanups }

variable {entry : EntryReference}

section calls

variable {thread : Thread} {env : Env} {shared after : Shared}

theorem Env.look_ok {ε β : Type} {error : String → ε} {outcome : Except ε β} {value : β}
    (looked : env.look error outcome = .ok value) : outcome = .ok value := by
  unfold Env.look at looked
  split at looked
  · cases looked
  · exact looked

def Call.looks : Call → Bool
  | .present _ | .isFile _ | .isDir _ | .metadata _ | .read _ | .readDir _
  | .findOpenCleanup _ | .findCleanup _ | .findRecord _ | .countUnresolved _ => true
  | _ => false

theorem look_after {call : Call} {reply : call.Reply} (looks : call.looks = true)
    (ran : semantics thread env call shared = some (reply, after)) : after = shared := by
  cases call with
  | present _ | isFile _ | isDir _ | metadata _ | readDir _ =>
    cases ran
    rfl
  | read _ =>
    simp only [semantics] at ran
    split at ran <;> cases ran <;> rfl
  | findOpenCleanup _ | findCleanup _ | findRecord _ | countUnresolved _ =>
    exact Connection.after_query ran
  | _ => cases looks

theorem effect_of_call {call : Call} {reply : call.Reply}
    (ran : semantics thread env call shared = some (reply, after)) :
    Effect thread env shared call after := by
  cases call with
  | removeFile path entry =>
    simp only [semantics] at ran
    split at ran
    next location node disk looked =>
      cases ran
      have removed := Env.look_ok looked
      unfold Disk.removeFile at removed
      split at removed
      · cases removed
      rename_i located
      split at removed
      · cases removed
      · cases removed
      next present =>
        cases removed
        exact .removes located present
    · cases ran
      exact .nothing
  | completeCleanup completion =>
    simp only [semantics, completeCleanup] at ran
    split at ran
    · rcases Connection.after_write ran with rfl | rfl <;> exact .nothing
    · rcases Connection.after_write ran with rfl | rfl <;> exact .nothing
    · rcases Connection.after_write ran with rfl | rfl
      · exact .nothing
      · exact .completes
  | canonicalize path =>
    cases ran
    exact .resolves
  | allowedRoots =>
    simp only [semantics] at ran
    split at ran <;> cases ran
    · exact .allows
    · exact .nothing
  | removeDir path =>
    simp only [semantics] at ran
    split at ran <;> cases ran
    · exact .replaces
    · exact .nothing
  | change disk =>
    cases ran
    exact .replaces
  | insertCleanup input =>
    simp only [semantics] at ran
    split at ran
    next cleanups inserted =>
      rcases Connection.after_write ran with rfl | rfl
      · exact .nothing
      · exact .inserts inserted
    · rcases Connection.after_write ran with rfl | rfl <;> exact .nothing
  | updateCleanup id progress =>
    simp only [semantics] at ran
    split at ran
    · rcases Connection.after_write ran with rfl | rfl
      · exact .nothing
      · exact .stores
    · rcases Connection.after_write ran with rfl | rfl <;> exact .nothing
  | _ =>
    rw [look_after rfl ran]
    exact .nothing

end calls

/-! ## What an execution knows -/

def Planned (id recordId : String) (plan : CleanupManifest) (shared : Shared) : Prop :=
  ∃ row, shared.cleanups.find? id = some row ∧ row.plan = plan ∧ row.recordId = recordId

/-- The fact holds of what the path leads to, unless that has changed since the thread resolved it. -/
def Since (thread : Thread) (path : List (Component String))
    (fact : Option (RealPath × Option (Node String Bytes)) → Prop) (shared : Shared) : Prop :=
  shared.resolved thread = some path → fact (shared.disk.seen path)

def EntryStatus.isDone (status : EntryStatus) : Bool := status = .deleted || status = .missing

def LeadsTo (real : RealPath) (seen : Option (RealPath × Option (Node String Bytes))) : Prop :=
  ∃ node, seen = some (real, node)

def HasLength (real : RealPath) (length : Nat)
    (seen : Option (RealPath × Option (Node String Bytes))) : Prop :=
  ∃ node, seen = some (real, node) ∧ ∀ bytes, node = some (.file bytes) → bytes.length = length

def Unchanged (reader : Reader) (planned : CleanupEntry) (real : RealPath)
    (seen : Option (RealPath × Option (Node String Bytes))) : Prop :=
  ∃ bytes, seen = some (real, some (.file bytes)) ∧ bytes.length = planned.sizeBytes ∧
    reader.sha256 bytes = planned.sha256

/-- What is known of the file before it is removed. -/
structure Examined (reader : Reader) (thread : Thread) (path : RealPath) (entry : EntryReference)
    (planned : CleanupEntry) (shared : Shared) : Prop where
  samePath : planned.path = entry.path
  hashed : planned.sha256 ≠ ""
  inside : withinRoots (shared.rootsOf thread) path = true
  unchanged : Since thread (RawPath.ofText planned.path).components (Unchanged reader planned path)
    shared

def Prepared (reader : Reader) (thread : Thread) : Call → Shared → Prop
  | .insertCleanup input, _ => input.manifest.Unhashed
  | .updateCleanup id progress, shared =>
    ∃ recordId plan, Planned id recordId plan shared ∧ plan.Follows progress.manifest
  | .completeCleanup completion, shared =>
    ∃ plan, Planned completion.cleanupId completion.recordId plan shared ∧
      plan.Follows completion.manifest ∧
      ∀ entry ∈ completion.manifest.entries, entry.status.isDone = true
  | .removeFile path entry, shared =>
    ∃ recordId plan planned, Planned entry.cleanupId recordId plan shared ∧
      plan.entries[entry.index]? = some planned ∧ Examined reader thread path entry planned shared
  | _, _ => True

/-- The entry the file was removed for was not rejected when the cleanup was planned. -/
def Removal.NotRejected (removal : Removal) (shared : Shared) : Prop :=
  ∃ row planned, shared.cleanups.find? removal.entry.cleanupId = some row ∧
    row.plan.entries[removal.entry.index]? = some planned ∧ planned.status ≠ .rejected

structure Sound (shared : Shared) : Prop where
  frozen : ∀ id row, shared.cleanups.find? id = some row → row.Frozen
  removed : ∀ removal ∈ shared.removed, removal.NotRejected shared

structure CleanupRely (thread : Thread) (shared current : Shared) : Prop where
  rows : ∀ id recordId plan, Planned id recordId plan shared → Planned id recordId plan current
  roots : current.rootsOf thread = shared.rootsOf thread
  disk : ∀ path, current.resolved thread = some path →
    shared.resolved thread = some path ∧ current.disk.seen path = shared.disk.seen path

section steps

variable {reader : Reader} {thread : Thread} {env : Env} {shared after : Shared} {call : Call}

theorem find?_store (now id other : String) (progress : CleanupProgress) (cleanups : Cleanups) :
    (store now id progress cleanups).find? other =
      if other = id then (cleanups.find? other).map (RecordCleanup.apply now progress)
      else cleanups.find? other :=
  Table.find?_update cleanups _ _ id other

variable {id recordId : String} {plan : CleanupManifest} {row : RecordCleanup}
  {progress : CleanupProgress}

section

variable (planned : Planned id recordId plan shared)
include planned

theorem Planned.store {other now : String}
    (stored : after.cleanups = store now other progress shared.cleanups) :
    Planned id recordId plan after := by
  obtain ⟨row, found, isPlan, isRecord⟩ := planned
  unfold Planned
  rw [stored, find?_store]
  split
  · exact ⟨row.apply now progress, by rw [found]; rfl, isPlan, isRecord⟩
  · exact ⟨row, found, isPlan, isRecord⟩

theorem Planned.kept (effect : Effect thread env shared call after) :
    Planned id recordId plan after := by
  cases effect with
  | inserts inserted =>
    obtain ⟨row, found, same⟩ := planned
    exact ⟨row, Table.find?_insert_of_found inserted found, same⟩
  | stores | completes => exact planned.store rfl
  | _ => exact planned

theorem Planned.unique (found : shared.cleanups.find? id = some row) :
    row.plan = plan ∧ row.recordId = recordId := by
  obtain ⟨stored, foundStored, isPlan, isRecord⟩ := planned
  cases found.symm.trans foundStored
  exact ⟨isPlan, isRecord⟩

end

theorem follows_refl (manifest : CleanupManifest) : manifest.Follows manifest :=
  List.forall₂_same.mpr fun _ _ => ⟨rfl, rfl, rfl⟩

theorem frozen_store {other now : String} (sound : Sound shared)
    (planned : Planned other recordId plan shared) (follows : plan.Follows progress.manifest)
    (found : (store now other progress shared.cleanups).find? id = some row) : row.Frozen := by
  rw [find?_store] at found
  split at found
  next isId =>
    subst isId
    obtain ⟨before, foundBefore, rfl⟩ := Option.map_eq_some_iff.mp found
    have isPlan : before.plan = plan := (planned.unique foundBefore).1
    exact ⟨isPlan ▸ follows, (sound.frozen id before foundBefore).unhashed⟩
  · exact sound.frozen id row found

section

variable (effect : Effect thread env shared call after)
include effect

theorem frozen_after (sound : Sound shared) (prepared : Prepared reader thread call shared)
    (found : after.cleanups.find? id = some row) : row.Frozen := by
  cases effect with
  | inserts inserted =>
    rw [Table.find?_insert inserted] at found
    split at found
    · cases found
      exact ⟨follows_refl _, prepared⟩
    · exact sound.frozen id row found
  | stores =>
    obtain ⟨recordId, plan, planned, follows⟩ := prepared
    exact frozen_store sound planned follows found
  | completes =>
    obtain ⟨plan, planned, follows, -⟩ := prepared
    exact frozen_store sound planned follows found
  | _ => exact sound.frozen id row found

/-- What holds of an entry of a plan still holds of it. -/
theorem ofEntry_kept {holds : CleanupEntry → Prop} (ofEntry : ∃ row planned,
      shared.cleanups.find? entry.cleanupId = some row ∧
        row.plan.entries[entry.index]? = some planned ∧ holds planned) :
    ∃ row planned, after.cleanups.find? entry.cleanupId = some row ∧
      row.plan.entries[entry.index]? = some planned ∧ holds planned := by
  obtain ⟨row, planned, found, mem, same⟩ := ofEntry
  have isPlan : Planned entry.cleanupId row.recordId row.plan shared := ⟨row, found, rfl, rfl⟩
  obtain ⟨later, foundLater, samePlan, -⟩ := isPlan.kept effect
  exact ⟨later, planned, foundLater, samePlan ▸ mem, same⟩

/-- What holds of every removal so far and of the one that is made now. -/
theorem removed_after {holds : Removal → Prop} (earlier : ∀ removal ∈ shared.removed, holds removal)
    (now : ∀ {path entry location node}, call = .removeFile path entry →
      shared.disk.tree.locate Disk.maxLinks path = .ok location →
      shared.disk.tree location = some node →
      holds ⟨entry, location, node, shared.disk, shared.rootsOf thread⟩) :
    ∀ removal ∈ after.removed, holds removal := by
  intro removal mem
  cases effect with
  | removes located present =>
    rcases List.mem_append.mp mem with old | new
    · exact earlier removal old
    · rw [List.mem_singleton.mp new]
      exact now rfl located present
  | _ => exact earlier removal mem

theorem sound_after (sound : Sound shared) (prepared : Prepared reader thread call shared) :
    Sound after where
  frozen _ _ found := frozen_after effect sound prepared found
  removed := by
    refine removed_after effect (fun removal old => ofEntry_kept effect (sound.removed removal old)) ?_
    rintro path entry location node rfl - -
    obtain ⟨recordId, plan, planned, ⟨row, found, rfl, isRecord⟩, mem, examined⟩ := prepared
    refine ofEntry_kept effect ⟨row, planned, found, mem, fun rejected => examined.hashed ?_⟩
    -- what was rejected has no hash, and a file always has one
    exact (sound.frozen _ row found).unhashed planned (List.mem_of_getElem? mem) rejected

theorem rely_after {other : Thread} (different : other ≠ thread) :
    CleanupRely other shared after where
  rows _ _ _ planned := planned.kept effect
  roots := by
    cases effect with
    | allows => exact if_neg different
    | _ => rfl
  disk path steady := by
    cases effect with
    | resolves => exact ⟨(if_neg different).symm.trans steady, rfl⟩
    | removes | replaces =>
      obtain ⟨before, same⟩ := Option.filter_eq_some_iff.mp steady
      exact ⟨before, of_decide_eq_true same⟩
    | _ => exact ⟨steady, rfl⟩

end

end steps

def cleanupDiscipline (reader : Reader) : Discipline (cleanupRules reader).free where
  inv := Sound
  rely := CleanupRely
  good := Prepared reader
  rely_refl _ _ := ⟨fun _ _ _ planned => planned, rfl, fun _ steady => ⟨steady, rfl⟩⟩
  rely_trans _ _ _ _ before after := by
    refine ⟨fun _ _ _ planned => after.rows _ _ _ (before.rows _ _ _ planned),
      after.roots.trans before.roots, fun path steady => ?_⟩
    obtain ⟨between, sameNow⟩ := after.disk path steady
    obtain ⟨earlier, sameThen⟩ := before.disk path between
    exact ⟨earlier, sameNow.trans sameThen⟩
  inv_initial initial := by
    obtain ⟨frozen, nothing⟩ := initial
    refine ⟨fun id row found => frozen row ?_, fun removal member => ?_⟩
    · exact Table.mem_rows_iff.mpr (Table.find?_key found ▸ found)
    · rw [nothing] at member
      cases member
  inv_call sound prepared _ executed := sound_after (effect_of_call executed) sound prepared
  rely_call different _ _ _ executed := rely_after (effect_of_call executed) different

end SteelInspection.Artifacts
