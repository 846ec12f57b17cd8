import SteelInspection.Foundations.Alone
import SteelInspection.Locks.Exclusion

/-! # The lock of a process that has ended

Five minutes after its creator has ended, a lock is removed and taken over by the next process that
comes alone, with one exception.  The catalog lock is read a second time before it is removed, and a
file without a readable owner fails that reading: it stays, and every later process times out.
-/

namespace SteelInspection.Locks

open Foundations

/-- A lock whose creator has ended, long enough ago, at any point of its creation: the file is empty or
breaks off, or it carries its owner. -/
structure Abandoned (path : LockPath) (shared : Shared) (file : LockFile) : Prop where
  found : shared.files.find? path = some file
  ended : file.creator ∈ shared.ended
  positive : 0 < file.creator
  text : file.text = none ∨ ∃ token, file.text = some ⟨file.creator, some token⟩
  old : file.modified + unknownOwnerStaleSeconds ≤ shared.clock

def acquireLock (path : LockPath) (pid : Nat) (token : String) (deadline fuel : Nat) : Code Outcome :=
  match path with
  | .material normalized => acquireMaterialLock pid token normalized 2
  | .catalog => acquireCatalogLock pid token deadline fuel

/-- Alone and without errors of the operating system, the process has the lock after nine calls at
most, whatever the monotonic clock shows. -/
def Obtains (path : LockPath) (pid : Nat) (token : String) (deadline fuel : Nat) (shared : Shared) :
    Prop :=
  ∀ readings : Nat → Nat, ∃ after : Shared,
    (acquireLock path pid token deadline fuel).alone semantics (.process pid)
      ((List.range 9).map fun call => { monotonic := readings call }) shared = some (.ok (), after) ∧
    (after.files.find? path).bind (·.text) = some ⟨pid, some token⟩

variable {path : LockPath} {shared : Shared} {file : LockFile} {pid : Nat} {token : String}
  {deadline fuel : Nat}

theorem insert_taken (found : shared.files.find? path = some file) (inode : Nat) :
    shared.files.insert ⟨path, inode, pid, none, shared.clock⟩ = none := by
  rw [← Option.not_isSome_iff_eq_none, Table.insert_isSome_iff, found]
  exact nofun

theorem Abandoned.stale (abandoned : Abandoned path shared file) :
    unknownOwnerStaleSeconds ≤ shared.clock - file.modified :=
  Nat.le_sub_of_add_le' abandoned.old

/-- Once the old file is gone the process creates its own and writes its owner text into it. -/
theorem create_write (shared : Shared) (path : LockPath) (pid inode : Nat) (text : OwnerText) :
    ∃ files, (shared.files.deleteWhere fun file => decide (file.path = path)).insert
        ⟨path, inode, pid, none, shared.clock⟩ = some files ∧
      ((files.updateWhere (fun file => decide (file.path = path) && decide (file.inode = inode))
        fun file => { file with text := some text, modified := shared.clock }).find? path).bind
          (·.text) = some text := by
  have free : (shared.files.deleteWhere fun file => decide (file.path = path)).find? path = none := by
    simpa [creatorOf] using creatorOf_unlink shared path path
  cases created : (shared.files.deleteWhere fun file => decide (file.path = path)).insert
      ⟨path, inode, pid, none, shared.clock⟩ with
  | none => cases created ▸ Table.insert_isSome_iff.mpr free
  | some files => exact ⟨files, rfl, by simp [Table.find?_updateWhere, Table.find?_insert created]⟩

theorem obtains_of_owner (abandoned : Abandoned path shared file) (alive : pid ∉ shared.ended)
    (readable : path = .catalog → file.text.isSome) :
    Obtains path pid token deadline (fuel + 2) shared := by
  intro readings
  obtain ⟨files, created, written⟩ :=
    create_write shared path pid shared.nextInode ⟨pid, some token⟩
  have taken : ∀ inode, shared.files.insert ⟨path, inode, pid, none, shared.clock⟩ = none :=
    insert_taken abandoned.found
  cases path <;> obtain read | ⟨owner, read⟩ := abandoned.text
  case catalog.inl => simp [read] at readable
  -- the calls one by one: the old lock is found and removed, the new one created and written
  all_goals simp [acquireLock, acquireMaterialLock, acquireCatalogLock,
    acquireCatalogLock.recoverCatalogLock, lockAge, isRecoverable, ownerPid, ownerToken, Program.ask,
    Program.alone, List.range_succ, semantics, processCall, alive, taken, abandoned.found, read,
    abandoned.ended, Nat.ne_of_gt abandoned.positive, abandoned.stale, created, written]

section refused

abbrev Ends {β : Type} (pid : Nat) (post : β → Shared → Prop) (program : Code β) (shared : Shared) :
    Prop :=
  program.Leaves semantics (.process pid) post shared

theorem processCall_of_semantics {env : Env} {request : Call} {reply : request.Reply} {after : Shared}
    (ran : semantics (.process pid) env request shared = some (reply, after)) :
    processCall pid env request shared = some (reply, after) := by
  simp only [semantics] at ran
  split at ran
  · cases ran
  · exact ran

def Call.Looks : Call → Prop
  | .read _ | .time | .monotonic | .modified _ => True
  | _ => False

theorem look_ends (request : Call) (looks : request.Looks) :
    Ends pid (fun _ after => after = shared) (ask request) shared := by
  refine .ask request fun env reply after ran => ?_
  have ran := processCall_of_semantics ran
  cases request with
  | time | monotonic =>
    cases ran
    rfl
  | read _ | modified _ =>
    simp only [processCall] at ran
    split at ran <;> cases ran <;> rfl
  | _ => exact looks.elim

theorem lockAge_ends : Ends pid (fun _ after => after = shared) (lockAge path) shared := by
  refine (look_ends .time trivial).bind fun now _ same => ?_
  refine (look_ends (.modified path) trivial).bind fun modified _ still => ?_
  cases modified <;> exact .pure (still.trans same)

variable (found : shared.files.find? .catalog = some file) (unreadable : file.text = none)
include found unreadable

theorem read_ends : Ends pid (fun owner after => owner = none ∧ after = shared)
    (ask (.read .catalog)) shared := by
  refine .ask (Call.read .catalog) fun env reply after ran => ?_
  have ran := processCall_of_semantics ran
  simp only [processCall, found, unreadable, Option.bind_some] at ran
  split at ran <;> cases ran <;> exact ⟨rfl, rfl⟩

theorem recoverCatalogLock_ends (stale : Bool) :
    Ends pid (fun recovered after => recovered = false ∧ after = shared)
      (acquireCatalogLock.recoverCatalogLock stale none) shared := by
  cases stale with
  | false => exact .pure ⟨rfl, rfl⟩
  | true =>
    refine (read_ends found unreadable).bind ?_
    rintro _ _ ⟨rfl, rfl⟩
    exact .pure ⟨rfl, rfl⟩

/-- Whatever the calls meet and the clocks show, the catalog lock without a readable owner stays: the
first look may find it stale, but the second finds no owner. -/
theorem catalog_refused : Ends pid (fun outcome after => outcome ≠ .ok () ∧ after = shared)
    (acquireCatalogLock pid token deadline fuel) shared := by
  induction fuel with
  | zero =>
    rintro script outcome after ⟨⟩
  | succ fuel ih =>
    have creates : Ends pid (fun created after => (∀ descriptor, created ≠ .opened descriptor) ∧
        after = shared) (ask (.create .catalog)) shared := by
      refine .ask (Call.create .catalog) fun env reply after ran => ?_
      have ran := processCall_of_semantics ran
      simp only [processCall, insert_taken found] at ran
      split at ran <;> cases ran <;> simp
    refine creates.bind fun created _ known => ?_
    obtain ⟨unopened, rfl⟩ := known
    cases created with
    | failed error => exact .pure (by simp)
    | opened descriptor => exact absurd rfl (unopened descriptor)
    | «exists» =>
      refine (read_ends found unreadable).bind fun owner _ known => ?_
      obtain ⟨rfl, rfl⟩ := known
      refine lockAge_ends.bind fun ageSeconds _ same => ?_
      subst same
      refine (recoverCatalogLock_ends found unreadable _).bind fun recovered _ known => ?_
      obtain ⟨rfl, rfl⟩ := known
      refine (look_ends .monotonic trivial).bind fun now _ same => ?_
      subst same
      split
      · exact .pure (by simp)
      · exact ih

end refused

/-- The lock of an ended process is taken over, unless it is the catalog lock and has no readable
owner: that one is never taken over, whatever the calls meet. -/
theorem obtains_iff_owner (abandoned : Abandoned path shared file) (alive : pid ∉ shared.ended) :
    (Obtains path pid token deadline (fuel + 2) shared ↔ (path = .catalog → file.text.isSome)) ∧
    (path = .catalog → file.text = none → ∀ script outcome after,
      (acquireLock path pid token deadline fuel).alone semantics (.process pid) script shared =
        some (outcome, after) → outcome ≠ .ok () ∧ after = shared) := by
  refine ⟨⟨?_, obtains_of_owner abandoned alive⟩, ?_⟩
  · rintro obtains rfl
    by_contra unreadable
    obtain ⟨after, ran, -⟩ := obtains fun _ => deadline
    exact (catalog_refused abandoned.found (Option.not_isSome_iff_eq_none.mp unreadable) _ _ _ ran).1
      rfl
  · rintro rfl unreadable
    exact catalog_refused abandoned.found unreadable

theorem written_lock_recovered : Obtains .catalog 1 "token-1" 30000 2 (abandonedLock .catalog) :=
  (obtains_iff_owner ⟨rfl, by decide, by decide, .inr ⟨_, rfl⟩, by decide⟩ (by decide)).1.mpr
    fun _ => rfl

/-- Process 7 has ended before it wrote its owner text. -/
def emptyLock : Shared :=
  { abandonedLock .catalog with files := ⟨[⟨.catalog, 0, 7, none, 0⟩], by simp⟩ }

theorem empty_catalog_lock_stays :
    ¬ ∀ (path : LockPath) (shared : Shared) (file : LockFile) (pid : Nat) (token : String)
      (deadline fuel : Nat), Abandoned path shared file → pid ∉ shared.ended →
        Obtains path pid token deadline (fuel + 2) shared := by
  intro always
  have abandoned : Abandoned .catalog emptyLock ⟨.catalog, 0, 7, none, 0⟩ :=
    ⟨rfl, by decide, by decide, .inl rfl, by decide⟩
  obtain ⟨after, ran, -⟩ := always .catalog emptyLock _ 1 "token-1" 30000 0 abandoned (by decide) id
  exact (catalog_refused abandoned.found rfl _ _ _ ran).1 rfl

end SteelInspection.Locks
