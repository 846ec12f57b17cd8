import SteelInspection.Locks.LockFile

/-! # One process in a section

In every run in which a lock that is removed as stale is not one that a running process has created,
no two running processes are in the section of one lock.  `recovered_twice` is a run in which two
processes find the lock of a process that has ended: the second removes the lock the first has
created since, and both are in the section.
-/

namespace SteelInspection.Locks

open Foundations Discipline

/-! ## What a call does -/

variable {path : LockPath} {pid : Nat} {shared after : Shared} {env : Env} {request : Call}
  {reply : request.Reply}

theorem creatorOf_unlink (shared : Shared) (path other : LockPath) :
    creatorOf { shared with
      files := shared.files.deleteWhere fun file => decide (file.path = path) } other =
      if other = path then none else creatorOf shared other := by
  simp only [creatorOf, Table.find?_deleteWhere]
  cases found : shared.files.find? other with
  | none => simp
  | some file =>
    have key : file.path = other := Table.find?_key found
    by_cases same : other = path <;> simp [Option.filter, key, same]

/-- What a call does to the locks: a process that has ended stays so, only the process itself enters a
section, and a lock keeps its creator until a running process removes it. -/
structure Effect (thread : Thread) (request : Call) (shared after : Shared) : Prop where
  ended : ∀ pid ∈ shared.ended, pid ∈ after.ended
  inside : ∀ {pid path}, (pid, path) ∈ after.inside →
    (pid, path) ∈ shared.inside ∨ thread = .process pid ∧ request = .enter path
  creators : ∀ {path creator}, creatorOf shared path = some creator →
    creatorOf after path = some creator ∨
      ∃ pid removal, thread = .process pid ∧ pid ∉ shared.ended ∧ request = .unlink path removal

theorem Effect.refl (thread : Thread) (request : Call) (shared : Shared) :
    Effect thread request shared shared := ⟨fun _ gone => gone, .inl, .inl⟩

theorem processCall_create {reply : Created}
    (ran : processCall pid env (.create path) shared = some (reply, after)) :
    (creatorOf shared path = none ∧
      (∀ other, creatorOf after other = if other = path then some pid else creatorOf shared other) ∧
      after.inside = shared.inside ∧ after.ended = shared.ended) ∨
    ((∀ descriptor, reply ≠ .opened descriptor) ∧ after = shared) := by
  simp only [processCall] at ran
  split at ran
  · cases ran
    exact .inr ⟨nofun, rfl⟩
  split at ran
  · cases ran
    exact .inr ⟨nofun, rfl⟩
  rename_i files inserted
  cases ran
  have fresh := Table.insert_isSome_iff.mp (Option.isSome_of_eq_some inserted)
  refine .inl ⟨by rw [creatorOf, fresh, Option.map_none], fun other => ?_, rfl, rfl⟩
  simp only [creatorOf, Table.find?_insert inserted]
  by_cases same : other = path
  · simp [same]
  · simp [same, Ne.symm same]

theorem effect_processCall (running : pid ∉ shared.ended)
    (ran : processCall pid env request shared = some (reply, after)) :
    Effect (.process pid) request shared after := by
  cases request with
  | create path =>
    rcases processCall_create ran with ⟨free, creators, inside, ended⟩ | ⟨-, rfl⟩
    · refine ⟨fun _ gone => ended ▸ gone, fun entered => .inl (inside ▸ entered), ?_⟩
      grind
    · exact .refl _ _ _
  | write path descriptor text =>
    cases ran
    refine ⟨fun _ gone => gone, .inl, fun {other creator} created => .inl ?_⟩
    rw [← created]
    simp only [creatorOf, Table.find?_updateWhere]
    cases shared.files.find? other with
    | none => rfl
    | some file => simp only [Option.map_some]; split <;> rfl
  | read path | modified path =>
    simp only [processCall] at ran
    split at ran <;> cases ran <;> exact .refl _ _ _
  | time | monotonic | processIsRunning _ =>
    cases ran
    exact .refl _ _ _
  | unlink path removal =>
    simp only [processCall] at ran
    split at ran
    · cases ran
      exact .refl _ _ _
    split at ran
    · cases ran
      exact .refl _ _ _
    · cases ran
      refine ⟨fun _ gone => gone, .inl, fun {other creator} created => ?_⟩
      rw [creatorOf_unlink]
      by_cases same : other = path
      · exact .inr ⟨pid, removal, rfl, running, same ▸ rfl⟩
      · exact .inl ((if_neg same).trans created)
  | enter path =>
    cases ran
    refine ⟨fun _ gone => gone, fun entered => ?_, .inl⟩
    rcases List.mem_cons.mp entered with new | old
    · cases new
      exact .inr ⟨rfl, rfl⟩
    · exact .inl old
  | leave path =>
    cases ran
    exact ⟨fun _ gone => gone, fun entered => .inl (List.mem_of_mem_filter entered), .inl⟩
  | crash _ | tick _ => cases ran

theorem effect_of_semantics {thread : Thread}
    (ran : semantics thread env request shared = some (reply, after)) :
    Effect thread request shared after := by
  cases thread with
  | process pid =>
    simp only [semantics] at ran
    split at ran
    · cases ran
    next running =>
      exact effect_processCall running ran
  | world =>
    cases request with
    | crash pid =>
      cases ran
      exact ⟨fun _ gone => List.mem_cons_of_mem _ gone, .inl, .inl⟩
    | tick seconds =>
      simp only [semantics] at ran
      split at ran
      · cases ran
        exact ⟨fun _ gone => gone, .inl, .inl⟩
      · cases ran
    | _ => cases ran

/-! ## Rely and guarantee -/

def LockInv (shared : Shared) : Prop :=
  ∀ pid path, (pid, path) ∈ shared.inside → pid ∉ shared.ended → creatorOf shared path = some pid

/-- While a process runs, the others leave its lock files and its sections alone. -/
def LockRely : Thread → Shared → Shared → Prop
  | .world, _, _ => True
  | .process pid, shared, current => pid ∉ current.ended →
    pid ∉ shared.ended ∧
    (∀ path, creatorOf shared path = some pid → creatorOf current path = some pid) ∧
    ∀ path, (pid, path) ∈ current.inside → (pid, path) ∈ shared.inside

/-- A process enters a section under its own lock, and gives up its own lock outside the section. -/
def LockGood : Thread → Call → Shared → Prop
  | .process pid, .enter path, shared => pid ∉ shared.ended → creatorOf shared path = some pid
  | .process pid, .unlink path .release, shared => pid ∉ shared.ended →
    creatorOf shared path = some pid ∧ (pid, path) ∉ shared.inside
  | _, _, _ => True

section Obligations

variable {thread other : Thread} {env : Env} {request : Call} {shared after : Shared}
variable {reply : request.Reply}

theorem recovered_creator {creator : Nat} {path : LockPath}
    (calm : recoveryUndisturbed (.unlink path .stale) shared = true)
    (created : creatorOf shared path = some creator) : creator ∈ shared.ended := by
  simpa [recoveryUndisturbed, created] using calm

/-- The lock file that a process removes is its own, or one of a process that has ended. -/
theorem removed_creator {pid creator : Nat} {path : LockPath} {removal : Removal}
    (running : pid ∉ shared.ended) (good : LockGood (.process pid) (.unlink path removal) shared)
    (calm : recoveryUndisturbed (.unlink path removal) shared = true)
    (created : creatorOf shared path = some creator) :
    creator ∈ shared.ended ∨ creator = pid ∧ (pid, path) ∉ shared.inside := by
  cases removal with
  | stale => exact .inl (recovered_creator calm created)
  | release =>
    right
    obtain ⟨own, outside⟩ := good running
    exact ⟨Option.some.inj (created.symm.trans own), outside⟩

variable (good : LockGood thread request shared) (calm : recoveryUndisturbed request shared = true)
  (ran : semantics thread env request shared = some (reply, after))
include good calm ran

theorem lockInv_call (kept : LockInv shared) : LockInv after := by
  intro pid path entered running
  have effect := effect_of_semantics ran
  have runs : pid ∉ shared.ended := fun gone => running (effect.ended pid gone)
  have before : creatorOf shared path = some pid := by
    rcases effect.inside entered with old | ⟨rfl, rfl⟩
    · exact kept pid path old runs
    · exact good runs
  rcases effect.creators before with still | ⟨actor, removal, rfl, actorRuns, rfl⟩
  · exact still
  rcases removed_creator actorRuns good calm before with gone | ⟨rfl, outside⟩
  · exact (runs gone).elim
  · rcases effect.inside entered with old | ⟨-, impossible⟩
    · exact (outside old).elim
    · cases impossible

theorem lockRely_call (different : other ≠ thread) : LockRely other shared after := by
  cases other with
  | world => trivial
  | process pid =>
    intro running
    have effect := effect_of_semantics ran
    have runs : pid ∉ shared.ended := fun gone => running (effect.ended pid gone)
    refine ⟨runs, fun path own => ?_, fun path entered => ?_⟩
    · rcases effect.creators own with still | ⟨actor, removal, rfl, actorRuns, rfl⟩
      · exact still
      rcases removed_creator actorRuns good calm own with gone | ⟨rfl, -⟩
      · exact (runs gone).elim
      · exact (different rfl).elim
    · exact (effect.inside entered).resolve_right fun enters => different enters.1.symm

end Obligations

def lockDiscipline : Discipline lockRules where
  inv := LockInv
  rely := LockRely
  good := LockGood
  rely_refl thread shared := by
    cases thread with
    | world => trivial
    | process pid => exact fun running => ⟨running, fun _ own => own, fun _ entered => entered⟩
  rely_trans thread first second third before after := by
    cases thread with
    | world => trivial
    | process pid =>
      intro running
      obtain ⟨ranThen, ownThen, insideThen⟩ := after running
      obtain ⟨ranFirst, ownFirst, insideFirst⟩ := before ranThen
      exact ⟨ranFirst, fun path own => ownThen path (ownFirst path own),
        fun path entered => insideFirst path (insideThen path entered)⟩
  inv_initial initial pid path entered _ := by
    rw [initial.1] at entered
    cases entered
  inv_call kept good calm executed := lockInv_call good calm executed kept
  rely_call different _ good calm executed := lockRely_call good calm executed different

/-! ## What a process knows -/

/-- While the process runs: it has created the lock files in `held`, and is in no other section than
those in `entered`. -/
def Knows (pid : Nat) (held entered : List LockPath) (shared : Shared) : Prop :=
  pid ∉ shared.ended → (∀ path ∈ held, creatorOf shared path = some pid) ∧
    ∀ path, (pid, path) ∈ shared.inside → path ∈ entered

section Process

variable {pid : Nat} {held entered : List LockPath} {shared current : Shared}

theorem Knows.rely (known : Knows pid held entered shared)
    (relied : LockRely (.process pid) shared current) : Knows pid held entered current := by
  intro running
  obtain ⟨ran, own, inside⟩ := relied running
  obtain ⟨creators, sections⟩ := known ran
  exact ⟨fun path mem => own path (creators path mem),
    fun path mem => sections path (inside path mem)⟩

variable {path : LockPath} (token : String)

theorem Knows.forget (known : Knows pid (path :: held) entered shared) :
    Knows pid held entered shared := fun running =>
  ⟨fun other mem => (known running).1 other (List.mem_cons_of_mem _ mem), (known running).2⟩

/-- The calls that change neither the creators of the lock files nor the sections, and the removal
of a stale lock. -/
def Looks : Call → Prop
  | .read _ | .time | .monotonic | .modified _ | .processIsRunning _ | .write _ _ _
  | .unlink _ .stale => True
  | _ => False

theorem knows_frame {β : Type} {program : Code β} (calls : program.Calls Looks)
    (known : Knows pid held entered shared) :
    lockDiscipline.Safe (.process pid) (fun _ => Knows pid held entered) program shared := by
  refine Safe.of_calls ?_ ?_ ?_ calls known
  · exact fun relied before => before.rely relied
  · intro request shared looks _ _
    cases request with
    | unlink path removal =>
      cases removal with
      | stale => trivial
      | release => exact looks.elim
    | enter path => exact looks.elim
    | _ => trivial
  · intro request env shared reply after looks _ before calm ran running
    have effect : Effect (.process pid) request shared after := effect_of_semantics ran
    have runs : pid ∉ shared.ended := fun gone => running (effect.ended pid gone)
    obtain ⟨own, sections⟩ := before runs
    refine ⟨fun path mem => ?_, fun path mem => ?_⟩
    · rcases effect.creators (own path mem) with still | ⟨_, removal, -, -, rfl⟩
      · exact still
      cases removal with
      | release => exact looks.elim
      -- the lock that is removed is not one of this process, which runs
      | stale => exact (runs (recovered_creator calm (own path mem))).elim
    · rcases effect.inside mem with old | ⟨-, rfl⟩
      · exact sections path old
      · exact looks.elim

theorem looks_lockAge (path : LockPath) : (lockAge path).Calls Looks := by
  refine .bind (.ask Call.time trivial) fun now => ?_
  refine .bind (.ask (Call.modified path) trivial) fun modified => ?_
  split <;> exact .pure

theorem looks_isRecoverable (ownerPid : Int) (ageSeconds : Nat) :
    (isRecoverable ownerPid ageSeconds).Calls Looks := by
  unfold isRecoverable
  split
  · exact .bind (.ask (Call.processIsRunning ownerPid) trivial) fun _ => .pure
  · exact .pure

theorem looks_recoverCatalogLock (stale : Bool) (owner : Option OwnerText) :
    (acquireCatalogLock.recoverCatalogLock stale owner).Calls Looks := by
  unfold acquireCatalogLock.recoverCatalogLock
  split
  · refine .bind (.ask (Call.read .catalog) trivial) fun current => ?_
    split
    · exact .pure
    · split
      · refine .bind (.ask (Call.unlink .catalog .stale) trivial) fun answer => ?_
        split <;> exact .pure
      · exact .pure
  · exact .pure

/-- What a process knows when it has come to the end of its attempts to get a lock: with the lock, the
file is its own, and it had no lock on this path before. -/
def Acquired (pid : Nat) (path : LockPath) (held : List LockPath) (outcome : Outcome)
    (shared : Shared) : Prop :=
  match outcome with
  | .ok () => path ∉ held ∧ Knows pid (path :: held) held shared
  | .error _ => Knows pid held held shared

theorem create_safe (path : LockPath) (known : Knows pid held held shared) :
    lockDiscipline.Safe (.process pid) (fun created current => Knows pid held held current ∧
      ∀ descriptor, created = .opened descriptor →
        path ∉ held ∧ Knows pid (path :: held) held current) (ask (.create path)) shared := by
  refine Safe.knowing (Call.create path) known.rely (fun _ => trivial) ?_
  intro current env reply after before ran
  simp only [lockRules, semantics] at ran
  split at ran
  · cases ran
  rename_i runs
  obtain ⟨own, sections⟩ := before runs
  rcases processCall_create ran with ⟨free, creators, inside, ended⟩ | ⟨unopened, rfl⟩
  · -- none of the locks of this process is on a path without a lock
    have fresh : path ∉ held := by grind
    have keeps : ∀ other ∈ path :: held, creatorOf after other = some pid := by grind
    have gained : Knows pid (path :: held) held after := fun _ =>
      ⟨keeps, fun other entered => sections other (inside ▸ entered)⟩
    exact ⟨gained.forget, fun _ _ => ⟨fresh, gained⟩⟩
  · exact ⟨before, fun descriptor opened => (unopened descriptor opened).elim⟩

theorem write_safe (path : LockPath) (descriptor : Nat) (text : OwnerText) (fresh : path ∉ held)
    (known : Knows pid (path :: held) held shared) :
    lockDiscipline.Safe (.process pid) (Acquired pid path held)
      (do let _ ← ask (.write path descriptor text); pure (.ok ())) shared :=
  (knows_frame (.ask (Call.write path descriptor text) trivial) known).bind fun _ _ still =>
    .pure ⟨fresh, still⟩

theorem acquireMaterialLock_safe (token normalized : String) (attempts : Nat)
    (known : Knows pid held held shared) :
    lockDiscipline.Safe (.process pid) (Acquired pid (.material normalized) held)
      (acquireMaterialLock pid token normalized attempts) shared := by
  induction attempts generalizing shared with
  | zero => exact .pure known
  | succ left ih =>
    refine (create_safe _ known).bind fun created afterCreate answer => ?_
    obtain ⟨still, opened⟩ := answer
    cases created with
    | failed error => exact .pure still
    | opened descriptor =>
      obtain ⟨fresh, gained⟩ := opened descriptor rfl
      exact write_safe _ _ _ fresh gained
    | «exists» =>
      refine (knows_frame (.ask (Call.read _) trivial) still).bind fun current _ afterRead => ?_
      refine (knows_frame (looks_lockAge _) afterRead).bind fun age _ afterAge => ?_
      refine (knows_frame (looks_isRecoverable _ _) afterAge).bind fun recoverable _ decided => ?_
      split
      · refine (knows_frame (.ask (Call.unlink _ .stale) trivial) decided).bind
          fun answer _ afterUnlink => ?_
        cases answer with
        | removed | missing => exact ih afterUnlink
        | denied error => exact .pure afterUnlink
      · split <;> exact .pure decided

theorem acquireCatalogLock_safe (deadline fuel : Nat) (known : Knows pid held held shared) :
    lockDiscipline.Safe (.process pid) (Acquired pid .catalog held)
      (acquireCatalogLock pid token deadline fuel) shared := by
  induction fuel generalizing shared with
  | zero => exact .diverge
  | succ fuel ih =>
    refine (create_safe _ known).bind fun created afterCreate answer => ?_
    obtain ⟨still, opened⟩ := answer
    cases created with
    | failed error => exact .pure still
    | opened descriptor =>
      obtain ⟨fresh, gained⟩ := opened descriptor rfl
      exact write_safe _ _ _ fresh gained
    | «exists» =>
      refine (knows_frame (.ask (Call.read _) trivial) still).bind fun owner _ afterRead => ?_
      refine (knows_frame (looks_lockAge _) afterRead).bind fun age _ afterAge => ?_
      refine (knows_frame (looks_isRecoverable _ _) afterAge).bind fun stale _ decided => ?_
      refine (knows_frame (looks_recoverCatalogLock _ _) decided).bind
        fun recovered _ afterRecovery => ?_
      split
      · exact ih afterRecovery
      · refine (knows_frame (.ask Call.monotonic trivial) afterRecovery).bind fun now _ last => ?_
        split
        · exact .pure last
        · exact ih last

/-! ### The section and the release -/

theorem enter_safe (known : Knows pid (path :: held) held shared) :
    lockDiscipline.Safe (.process pid) (fun _ => Knows pid (path :: held) (path :: held))
      (ask (.enter path)) shared := by
  refine Safe.knowing (Call.enter path) known.rely ?_ ?_
  · exact fun before running => (before running).1 path List.mem_cons_self
  intro current env reply after before ran running
  simp only [lockRules, semantics] at ran
  split at ran
  · cases ran
  rename_i runs
  cases ran
  obtain ⟨own, sections⟩ := before runs
  refine ⟨own, fun other entered => ?_⟩
  rcases List.mem_cons.mp entered with new | old
  · cases new
    exact List.mem_cons_self
  · exact List.mem_cons_of_mem _ (sections other old)

theorem leave_safe (known : Knows pid (path :: held) (path :: held) shared) :
    lockDiscipline.Safe (.process pid) (fun _ => Knows pid (path :: held) held)
      (ask (.leave path)) shared := by
  refine Safe.knowing (Call.leave path) known.rely (fun _ => trivial) ?_
  intro current env reply after before ran running
  simp only [lockRules, semantics] at ran
  split at ran
  · cases ran
  rename_i runs
  cases ran
  obtain ⟨own, sections⟩ := before runs
  refine ⟨own, fun other entered => ?_⟩
  obtain ⟨old, different⟩ := List.mem_filter.mp entered
  rcases List.mem_cons.mp (sections other old) with rfl | further
  · simp at different
  · exact further

section

variable (fresh : path ∉ held) (known : Knows pid (path :: held) held shared)
include fresh known

theorem release_safe :
    lockDiscipline.Safe (.process pid) (fun _ => Knows pid held held)
      (ask (.unlink path .release)) shared := by
  refine Safe.knowing (Call.unlink path .release) known.rely ?_ ?_
  · intro current before running
    obtain ⟨own, sections⟩ := before running
    exact ⟨own path List.mem_cons_self, fun entered => fresh (sections path entered)⟩
  intro current env reply after before ran running
  have effect : Effect (.process pid) (.unlink path .release) current after :=
    effect_of_semantics ran
  obtain ⟨own, sections⟩ := before fun gone => running (effect.ended pid gone)
  refine ⟨fun other mem => ?_, fun other entered => ?_⟩
  · rcases effect.creators (own other (List.mem_cons_of_mem _ mem)) with still | ⟨_, _, -, -, same⟩
    · exact still
    · cases same
      exact (fresh mem).elim
  · rcases effect.inside entered with old | ⟨-, impossible⟩
    · exact sections other old
    · cases impossible

theorem underLock_safe {body : Code Outcome} (onDenied : String → Outcome → Outcome)
    (inner : ∀ locks current, Knows pid locks locks current →
      lockDiscipline.Safe (.process pid) (fun _ => Knows pid locks locks) body current) :
    lockDiscipline.Safe (.process pid) (fun _ => Knows pid held held)
      (underLock path pid token body onDenied) shared := by
  refine (enter_safe known).bind fun _ _ entered => ?_
  refine (inner _ _ entered).bind fun outcome _ afterBody => ?_
  refine (leave_safe afterBody).bind fun _ _ left => ?_
  refine (knows_frame (.ask (Call.read path) trivial) left).bind fun current _ afterRead => ?_
  split
  · refine (release_safe fresh afterRead).bind fun answer _ released => ?_
    cases answer <;> exact .pure released
  · exact .pure afterRead.forget

end

theorem job_safe {job : Code Outcome} (does : Job pid job) (locks : List LockPath)
    (known : Knows pid locks locks shared) :
    lockDiscipline.Safe (.process pid) (fun _ => Knows pid locks locks) job shared := by
  induction does generalizing locks shared with
  | work outcome => exact .pure known
  | material isDigit token materialId inner ih =>
    unfold exclusiveMaterialJob
    dsimp only
    split
    · exact .pure known
    refine (acquireMaterialLock_safe token _ 2 known).bind fun acquired _ gained => ?_
    cases acquired with
    | error raised => exact .pure gained
    | ok _ =>
      exact underLock_safe token gained.1 gained.2 _ fun locks _ still => ih locks still
  | catalog fuel token timeout inner ih =>
    refine (knows_frame (.ask Call.monotonic trivial) known).bind fun started _ still => ?_
    refine (acquireCatalogLock_safe token _ fuel still).bind fun acquired _ gained => ?_
    cases acquired with
    | error raised => exact .pure gained
    | ok _ =>
      exact underLock_safe token gained.1 gained.2 _ fun locks _ still => ih locks still
  | next before after first second =>
    exact (first locks known).bind fun _ _ still => second locks still

end Process

/-! ## Every run -/

/-- A process that runs nothing is in no section. -/
def AtRest : Thread → Shared → Prop
  | .world, _ => True
  | .process pid, shared => Knows pid [] [] shared

/-- In every run in which a lock that is removed as stale is not one that a running process has
created, no two running processes are in the section of one lock. -/
theorem one_process_inside {machine}
    (reached : lockRules.Reachable machine) (path : LockPath) : Exclusive path machine.shared := by
  obtain ⟨kept, -⟩ := lockDiscipline.reachable_settles (fun thread _ => AtRest thread)
    (fun {thread shared} initial => by
      cases thread with
      | world => trivial
      | process pid =>
        refine fun _ => ⟨nofun, fun other entered => ?_⟩
        rw [initial.1] at entered
        cases entered)
    (fun {thread _ shared current} relied rests => by
      cases thread with
      | world => trivial
      | process pid => exact Knows.rely rests relied)
    (fun thread program _ shared handler _ rests => by
      cases handler with
      | process positive does => exact job_safe does [] rests
      | crash _ | tick _ => exact .of_any (fun _ => trivial) (fun _ _ => trivial) _ shared)
    reached
  intro first second firstInside secondInside firstRuns secondRuns
  have firstCreated := kept first path firstInside firstRuns
  have secondCreated := kept second path secondInside secondRuns
  exact Option.some.inj (firstCreated.symm.trans secondCreated)

/-! ## Two processes that recover one lock -/

/-- A lock of process 7, which has ended. -/
def abandonedLock (path : LockPath) : Shared where
  files := ⟨[⟨path, 0, 7, some ⟨7, some "token-7"⟩, 0⟩], by simp⟩
  nextInode := 1
  ended := [7]
  inside := []
  clock := 1000

def sectionOf (path : LockPath) (pid : Nat) (token : String) : Code Outcome :=
  match path with
  | .material id => exclusiveMaterialJob Text.isAsciiDigit pid token id (pure (.ok ()))
  | .catalog => playbackCatalogWriteLock 3 pid token 30000 (pure (.ok ()))

theorem sectionOf_handler (path : LockPath) (token : String) (positive : 0 < pid) :
    Handler (.process pid) (sectionOf path pid token) := by
  cases path with
  | material id => exact .process positive (.material _ token id (.work _))
  | catalog => exact .process positive (.catalog 3 token 30000 (.work _))

def turns (pid count : Nat) : List (Action Thread Env Call Call.Reply Outcome) :=
  List.replicate count (.advance (.process pid) {})

/-- Processes 1 and 2 look at the lock until they are about to remove it; then each in turn removes
what is there and goes on into the section. -/
def bothRecover (path : LockPath) (looks : Nat) : List (Action Thread Env Call Call.Reply Outcome) :=
  .spawn (.process 1) (sectionOf path 1 "token-1") ::
    .spawn (.process 2) (sectionOf path 2 "token-2") ::
      (turns 1 looks ++ turns 2 looks ++ turns 1 4 ++ turns 2 4)

/-- Process 1 recovers the lock and enters; process 2 comes later. -/
def oneRecovers : List (Action Thread Env Call Call.Reply Outcome) :=
  .spawn (.process 1) (sectionOf (.material "63") 1 "token-1") ::
    .spawn (.process 2) (sectionOf (.material "63") 2 "token-2") :: (turns 1 9 ++ turns 2 5)

theorem initial_abandonedLock (path : LockPath) : lockRules.initial (abandonedLock path) := by
  refine ⟨rfl, fun other creator created => ?_⟩
  simp only [creatorOf, abandonedLock, Table.find?, Option.map_eq_some_iff] at created
  obtain ⟨file, found, rfl⟩ := created
  have mem := List.mem_of_find?_eq_some found
  rw [List.mem_singleton] at mem
  rw [mem]
  exact List.mem_cons_self

theorem not_exclusive_of_run (path : LockPath) (looks : Nat)
    (spawned : Rules.Spawns Handler (bothRecover path looks))
    (both : ((Machine.runChecked semantics (fun _ _ _ => true) (.start (abandonedLock path))
      (bothRecover path looks)).map fun machine => (machine.shared.inside, machine.shared.ended)) =
        some ([(2, path), (1, path)], [7])) :
    ¬ ∀ machine,
      lockRules.free.Reachable machine → Exclusive path machine.shared := by
  intro exclusive
  obtain ⟨machine, reached, facts⟩ : ∃ machine, lockRules.free.Reachable machine ∧
      (machine.shared.inside, machine.shared.ended) = ([(2, path), (1, path)], [7]) :=
    Rules.exists_reachable (fun _ _ _ => true) (abandonedLock path) (bothRecover path looks)
      (fun _ _ _ _ => trivial) (initial_abandonedLock path) spawned both
  rw [Prod.mk.injEq] at facts
  have same := exclusive machine reached 1 2 (by rw [facts.1]; simp) (by rw [facts.1]; simp)
    (by rw [facts.2]; decide) (by rw [facts.2]; decide)
  cases same

/-- Without the side condition two running processes get into the section of either lock. -/
theorem recovered_twice : (¬ ∀ machine,
      lockRules.free.Reachable machine → Exclusive (.material "63") machine.shared) ∧
    ¬ ∀ machine,
      lockRules.free.Reachable machine → Exclusive .catalog machine.shared := by
  have started (path : LockPath) : Handler (.process 1) (sectionOf path 1 "token-1") ∧
      Handler (.process 2) (sectionOf path 2 "token-2") :=
    ⟨sectionOf_handler path _ (by decide), sectionOf_handler path _ (by decide)⟩
  constructor
  · exact not_exclusive_of_run (.material "63") 5 ⟨(started _).1, (started _).2, trivial⟩
      (by decide +kernel)
  · exact not_exclusive_of_run .catalog 7 ⟨(started _).1, (started _).2, trivial⟩ (by decide +kernel)

/-- The process that comes later is turned away. -/
theorem oneRecovers_exclusive :
    ∃ machine, lockRules.Reachable machine ∧
      machine.shared.inside = [(1, .material "63")] ∧
      machine.answer? (.process 2) = some (.error (.materialJobLocked
        "material 63 derived artifacts are owned by process 1")) ∧
      Exclusive (.material "63") machine.shared := by
  obtain ⟨machine, reached, facts⟩ : ∃ machine, lockRules.Reachable machine ∧
      (machine.shared.inside, machine.answer? (.process 2)) =
        ([(1, .material "63")], some (.error (.materialJobLocked
          "material 63 derived artifacts are owned by process 1"))) :=
    Rules.exists_reachable (fun _ => recoveryUndisturbed) (abandonedLock (.material "63")) oneRecovers
      (fun _ _ _ passed => passed) (initial_abandonedLock _)
      ⟨sectionOf_handler _ _ (by decide), sectionOf_handler _ _ (by decide), trivial⟩
      (by decide +kernel)
  rw [Prod.mk.injEq] at facts
  exact ⟨machine, reached, facts.1, facts.2, one_process_inside reached _⟩

end SteelInspection.Locks
