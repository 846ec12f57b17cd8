import SteelInspection.Tasks.Transitions

/-! # The worker and the admin requests keep the discipline

The worker and any number of admin requests, interleaved call by call.  `handler_safe`: in every run
in which no cancel request writes over a row that the worker has claimed since the request read it,
each call is made where `Permitted` allows it.
-/

namespace SteelInspection.Tasks

open Foundations Discipline

inductive Handler : Thread → Code TaskAnswer → Prop where
  | worker (offline : Bool) (fuel : Nat) : Handler .worker (startWorker offline fuel)
  | enqueue (request : Nat) (configured : Option Nat) (body : Option Json) (actor : String) :
    Handler (.admin request) (enqueueResponse (queueCapacity configured) body actor)
  | cancel (request fuel : Nat) (body : Option Json) (actor : String) :
    Handler (.admin request) (cancelResponse fuel body actor)
  | retry (request fuel : Nat) (body : Option Json) (actor : String) :
    Handler (.admin request) (retryResponse fuel body actor)

def queueRules : Rules Shared Thread Env Call Call.Reply TaskAnswer where
  semantics := semantics
  handler := Handler
  undisturbed := CancelUndisturbed
  initial shared := shared.adminLock = none

/-! ## Rely and guarantee -/

/-- The worker's running tasks stay running; while an admin request holds the lock, nobody else
takes it and no ended task changes its status. -/
def Rely : Thread → Shared → Shared → Prop
  | .worker, shared, current =>
    ∀ id, statusOf shared id = some .running → statusOf current id = some .running
  | .admin request, shared, current => shared.adminLock = some (.admin request) →
    current.adminLock = some (.admin request) ∧
      ∀ id status, status.isTerminal = true → statusOf shared id = some status →
        statusOf current id = some status

variable {env : Env} {after shared : Shared} {request fuel : Nat} {β : Type} {program : Code β}
  {task model : ProductionTask} {status : TaskStatus}

theorem adminLock_after (thread : Thread) (request : Call) (notLock : request ≠ .lockAdmin)
    (notUnlock : request ≠ .unlockAdmin) {reply : request.Reply}
    (ran : semantics thread env request shared = some (reply, after)) :
    after.adminLock = shared.adminLock := by
  obtain ⟨_, same⟩ | ⟨_, _, _, _, rfl⟩ | ⟨_, _, rfl⟩ | ⟨lock, _, _⟩ | ⟨unlock, _⟩ :=
    semantics_cases ran
  · exact same
  · rfl
  · rfl
  · exact (notLock lock).elim
  · exact (notUnlock unlock).elim

/-- While another request holds the lock, an admin request leaves the table and the lock alone. -/
theorem unchanged_after_other_admin {holder : Nat} {asked : Call} {reply : asked.Reply}
    (different : holder ≠ request) (locked : shared.adminLock = some (.admin holder))
    (permitted : Permitted (.admin request) asked shared)
    (ran : semantics (.admin request) env asked shared = some (reply, after)) :
    after.tasks = shared.tasks ∧ after.adminLock = shared.adminLock := by
  have notMine : ¬ shared.adminLock = some (.admin request) := by grind
  obtain same | ⟨_, _, rfl, _, _⟩ | ⟨statement, asked, _⟩ | ⟨rfl, free, _⟩ | ⟨rfl, _⟩ :=
    semantics_cases ran
  · exact same
  · exact (notMine permitted).elim
  · exfalso
    rcases asked with rfl | rfl <;> cases statement <;>
      first
      | exact permitted.elim
      | exact notMine permitted
      | exact notMine permitted.1
  · rw [free] at locked
    cases locked
  · exact (notMine permitted).elim

theorem rely_of_permitted {thread other : Thread} {request : Call} {reply : request.Reply}
    (different : other ≠ thread) (permitted : Permitted thread request shared)
    (calm : CancelUndisturbed thread request shared)
    (ran : semantics thread env request shared = some (reply, after)) :
    Rely other shared after := by
  cases thread with
  | worker =>
    cases other with
    | worker => exact (different rfl).elim
    | admin holder =>
      have sameLock : after.adminLock = shared.adminLock :=
        adminLock_after .worker request (fun lock => by rw [lock] at permitted; exact permitted)
          (fun unlock => by rw [unlock] at permitted; exact permitted) ran
      refine fun locked => ⟨sameLock ▸ locked, fun id status terminal found => ?_⟩
      rcases statusOf_after permitted calm ran found with same | ⟨next, _, move⟩
      · exact same
      · cases move <;> cases terminal
  | admin request =>
    cases other with
    | worker =>
      intro id running
      rcases statusOf_after permitted calm ran running with same | ⟨next, _, move⟩
      · exact same
      · cases move with
        | cancel waiting => rcases waiting with impossible | impossible <;> cases impossible
        | retry retryable => cases retryable
    | admin holder =>
      intro locked
      have others : holder ≠ request := fun equal => different (equal ▸ rfl)
      obtain ⟨sameTasks, sameLock⟩ := unchanged_after_other_admin others locked permitted ran
      refine ⟨sameLock ▸ locked, fun id status _ found => ?_⟩
      rw [statusOf, sameTasks]
      exact found

def queueDiscipline : Discipline queueRules where
  inv _ := True
  rely := Rely
  good := Permitted
  rely_refl thread shared := by
    cases thread with
    | worker => exact fun _ running => running
    | admin request => exact fun locked => ⟨locked, fun _ _ _ found => found⟩
  rely_trans thread first second third before after := by
    cases thread with
    | worker => exact fun id running => after id (before id running)
    | admin request =>
      intro locked
      obtain ⟨lockedThen, keptThen⟩ := before locked
      obtain ⟨lockedNow, keptNow⟩ := after lockedThen
      exact ⟨lockedNow, fun id status terminal found =>
        keptNow id status terminal (keptThen id status terminal found)⟩
  inv_initial _ := trivial
  inv_call _ _ _ _ := trivial
  rely_call different _ permitted calm executed :=
    rely_of_permitted different permitted calm executed

/-! ## Calls that keep what a thread knows -/

/-- The worker's calls that leave running tasks running. -/
def WorkerQuiet : Call → Prop
  | .execute (.markBlocked _ _) | .execute (.claim _ _) | .execute (.progress _ _ _) => True
  | .execute _ | .update _ | .insert _ | .lockAdmin | .unlockAdmin | .dispatch _ => False
  | _ => True

/-- The calls an admin request makes while it holds the lock, other than its own cancel or retry. -/
def AdminQuiet : Call → Prop
  | .execute (.markBlocked _ _) | .execute (.requeueBlocked _) | .insert _ => True
  | .execute _ | .update _ | .lockAdmin | .unlockAdmin | .dispatch _ => False
  | _ => True

/-- The tasks the worker is responsible for are running. -/
def AllRunning (ids : List TaskId) (shared : Shared) : Prop :=
  ∀ id ∈ ids, statusOf shared id = some .running

theorem permitted_of_workerQuiet {request : Call} (quiet : WorkerQuiet request) :
    Permitted .worker request shared := by
  cases request with
  | execute statement => cases statement <;> trivial
  | update statement | insert _ | lockAdmin | unlockAdmin | dispatch _ => exact quiet.elim
  | _ => trivial

theorem worker_frame (calls : program.Calls WorkerQuiet) {ids : List TaskId}
    (running : AllRunning ids shared) :
    queueDiscipline.Safe .worker (fun _ => AllRunning ids) program shared := by
  refine Safe.of_calls ?_ ?_ ?_ calls running
  · exact fun relied known id mem => relied id (known id mem)
  · exact fun quiet _ _ => permitted_of_workerQuiet quiet
  intro request env shared reply after quiet _ known calm ran id mem
  rcases statusOf_after (permitted_of_workerQuiet quiet) calm ran (known id mem) with
    same | ⟨next, _, move⟩
  · exact same
  · cases move <;> exact quiet.elim

/-- Code of the worker as a thread among the others. -/
abbrev WorkerSafe (program : Code β) (shared : Shared) : Prop :=
  queueDiscipline.Obeys .worker program shared

theorem worker_any (calls : program.Calls WorkerQuiet) : WorkerSafe program shared :=
  have none : AllRunning [] shared := fun _ mem => nomatch mem
  (worker_frame calls none).mono fun _ _ _ => trivial

theorem permitted_of_adminQuiet {asked : Call} (quiet : AdminQuiet asked)
    (locked : shared.adminLock = some (.admin request)) :
    Permitted (.admin request) asked shared := by
  cases asked with
  | execute statement => cases statement <;> first | exact locked | exact quiet.elim
  | insert _ => exact locked
  | update _ | lockAdmin | unlockAdmin | dispatch _ => exact quiet.elim
  | _ => trivial

def Locked (request : Nat) (shared : Shared) : Prop := shared.adminLock = some (.admin request)

/-- Code of a request that has the admin lock and keeps it. -/
abbrev LockedSafe (request : Nat) (program : Code β) (shared : Shared) : Prop :=
  queueDiscipline.Safe (.admin request) (fun _ => Locked request) program shared

theorem admin_frame (calls : program.Calls AdminQuiet) (locked : Locked request shared) :
    LockedSafe request program shared := by
  refine Safe.of_calls ?_ ?_ ?_ calls locked
  · exact fun relied known => (relied known).1
  · exact fun quiet _ known => permitted_of_adminQuiet quiet known
  intro asked env shared reply after quiet _ known _ ran
  refine (adminLock_after (.admin request) asked ?_ ?_ ran).trans known
  · rintro rfl
    exact quiet
  · rintro rfl
    exact quiet

/-! ## The worker -/

theorem quiet_propagate (fuel : Nat) (id : TaskId) :
    (propagateProductionTaskDependencyFailure fuel id).run.Calls WorkerQuiet :=
  calls_propagateFrontier (fun _ _ => trivial) (fun _ => trivial) (fun _ => trivial) fuel [id] 0

theorem find_running {id : TaskId} (running : AllRunning [id] shared) :
    queueDiscipline.Safe .worker (Returns (fun found current => ∀ task ∈ found,
      AllRunning [task.id] current) fun _ => True) (findProductionTask id).run shared := by
  refine Safe.ask (Call.find id) (fun _ _ _ => trivial) ?_
  rintro current relied _ _ env (_ | found) after ran _
  · trivial
  rintro task rfl
  obtain ⟨found, rfl⟩ := Connection.query_ok ran
  have same : task.id = id := Table.find?_key found.symm
  intro other mem
  rw [List.mem_singleton] at mem
  rw [mem, same]
  exact relied id (running id List.mem_cons_self)

theorem claim_safe {attempts : Int} :
    queueDiscipline.Safe .worker
      (Returns (fun affected current => affected ≠ 0 → AllRunning [model.id] current) fun _ => True)
      (execute (.claim model.id attempts)).run shared := by
  refine Safe.ask (Call.execute (.claim model.id attempts)) (fun _ _ _ => trivial) ?_
  rintro current _ _ _ env (_ | affected) after ran _
  · trivial
  intro changed id mem
  obtain ⟨row, _, _, found⟩ := execute_reply .worker changed ran
  rw [List.mem_singleton] at mem
  rw [mem]
  exact statusOf_of_find found

theorem claimPass_safe (queued : List ProductionTask) (changed : Bool) (shared : Shared) :
    queueDiscipline.Safe .worker (Returns (fun pass current => ∀ task,
      pass = .returned (some task) → AllRunning [task.id] current) fun _ => True)
      (claimPass queued changed).run shared := by
  induction queued generalizing changed shared with
  | nil => exact .pure (fun _ => nofun)
  | cons model queued ih =>
    refine Safe.attempt (worker_any (calls_dependencyState (fun _ => trivial) model))
      (fun state current _ => ?_) (fun _ _ _ => trivial)
    cases state with
    | waiting => exact ih _ _
    | blocked reason =>
      exact Safe.attempt (worker_any (calls_markBlocked (fun _ _ => trivial) _ _))
        (fun _ _ _ => ih _ _) (fun _ _ _ => trivial)
    | ready =>
      refine Safe.andThen claim_safe fun affected afterClaim claimed => ?_
      split
      next one =>
        have running := claimed (by rw [beq_iff_eq] at one; omega)
        refine Safe.andThen (find_running running) fun found afterFind known => .pure fun task equal => ?_
        cases equal
        exact known task rfl
      · exact ih _ _

theorem claimNext_safe (fuel : Nat) (shared : Shared) :
    queueDiscipline.Safe .worker (Returns (fun claimed current => ∀ task ∈ claimed,
      AllRunning [task.id] current) fun _ => True) (claimNextProductionTask fuel).run shared := by
  induction fuel generalizing shared with
  | zero => exact .diverge
  | succ fuel ih =>
    refine Safe.attempt (worker_any (.ask Call.selectQueued trivial)) (fun queued current _ => ?_)
      (fun _ _ _ => trivial)
    split
    · exact .pure (fun _ => nofun)
    refine (claimPass_safe queued false current).andThen fun pass afterPass known => ?_
    split
    · exact .pure fun task claimed => known task (congrArg _ claimed)
    · exact .pure (fun _ => nofun)
    · exact ih _

theorem finish_safe {id : TaskId} {percent : Int} {result error : String}
    (running : AllRunning [id] shared) (ends : status.isOutcome = true) :
    WorkerSafe (finishProductionTask fuel id status percent result error).run shared := by
  refine Safe.attempt (worker_frame (.ask (Call.find id) trivial) running)
    (fun found current stillRunning => ?_) (fun _ _ _ => trivial)
  cases found with
  | none => exact .pure trivial
  | some model =>
    refine .attempt (.ask_any (Call.update _) fun later relied _ =>
        ⟨relied id (stillRunning id List.mem_cons_self), ends⟩)
      (fun updated _ _ => ?_) (fun _ _ _ => trivial)
    split
    · exact Safe.attempt (worker_any (quiet_propagate fuel id))
        (fun _ _ _ => .pure trivial) (fun _ _ _ => trivial)
    · exact .pure trivial

theorem terminalOutcome_isOutcome (response : HttpResponse) (draining cancelled : Bool) :
    (terminalOutcome response draining cancelled).1.isOutcome = true := by
  unfold terminalOutcome providerTerminalOutcome
  split
  · rfl
  · split <;> rfl

theorem quiet_checkpoint (task : ProductionTask) (phase : String) (percent : Int) :
    (persistTaskCheckpoint task phase percent).Calls WorkerQuiet :=
  .bind (calls_updateProgress (fun _ => trivial) (fun _ _ _ => trivial) _ _ _) fun _ => .pure

theorem quiet_cancelRequestedNow (id : TaskId) : (cancelRequestedNow id).Calls WorkerQuiet :=
  .bind (.ask (Call.find id) trivial) fun _ => .pure

section

variable (running : AllRunning [task.id] shared)
include running

theorem finishCancelled_safe : WorkerSafe (finishCancelledBeforeDispatch fuel task) shared :=
  (finish_safe running rfl).bind fun _ _ _ => .pure trivial

theorem dispatch_call_safe :
    queueDiscipline.Safe .worker (fun _ => AllRunning [task.id]) (ask (.dispatch task)) shared := by
  refine Safe.ask (Call.dispatch task) ?_ ?_
  · exact fun later relied _ => relied task.id (running task.id List.mem_cons_self)
  · rintro later relied _ _ env reply after ran _ id mem
    cases ran
    exact relied id (running id mem)

theorem dispatch_safe :
    queueDiscipline.Safe .worker (fun _ => AllRunning [task.id]) (dispatchUnderCommandLock task)
      shared := by
  refine (worker_frame (.ask Call.lockCommand trivial) running).bind fun locked current stillRunning => ?_
  split
  · refine (worker_frame (quiet_cancelRequestedNow task.id) stillRunning).bind
      fun cancelled afterFlag knownFlag => ?_
    split
    · exact (worker_frame (.ask Call.unlockCommand trivial) knownFlag).bind fun _ _ known => .pure known
    · refine (worker_frame (quiet_checkpoint _ _ _) knownFlag).bind fun _ afterCheckpoint known => ?_
      exact (dispatch_call_safe known).bind fun response afterDispatch stillKnown =>
        (worker_frame (.ask Call.unlockCommand trivial) stillKnown).bind fun _ _ last => .pure last
  · exact .pure stillRunning

end

section

variable (running : AllRunning [task.id] shared) {response : HttpResponse}
include running

theorem recordOutcome_safe {requested : Bool} {outcome : TaskStatus × Int × String}
    (ends : outcome.1.isOutcome = true) :
    WorkerSafe (recordOutcome fuel task response requested outcome) shared := by
  unfold recordOutcome
  split
  · refine (worker_frame (calls_appendAuditLog (fun _ => trivial) _ _ _ _ _) running).bind
      fun _ _ known => ?_
    exact (finish_safe known ends).bind fun _ _ _ => .pure trivial
  · exact (finish_safe running ends).bind fun _ _ _ => .pure trivial

theorem finalize_safe : WorkerSafe (finalizeTask fuel task response) shared := by
  refine (worker_frame (quiet_checkpoint _ _ _) running).bind fun _ afterCheckpoint known => ?_
  refine (worker_frame (quiet_cancelRequestedNow task.id) known).bind
    fun requested afterFlag knownFlag => ?_
  refine (worker_frame (.ask Call.runtimeIsDraining trivial) knownFlag).bind
    fun draining afterDrain knownDrain => ?_
  exact recordOutcome_safe knownDrain (terminalOutcome_isOutcome response draining requested)

theorem runClaimedTask_safe : WorkerSafe (runClaimedTask fuel task) shared := by
  refine (worker_frame (quiet_checkpoint _ _ _) running).bind fun _ afterCheckpoint known => ?_
  refine (worker_frame (quiet_cancelRequestedNow task.id) known).bind
    fun cancelled afterFlag knownFlag => ?_
  split
  · exact finishCancelled_safe knownFlag
  · refine (dispatch_safe knownFlag).bind fun response afterDispatch knownDispatch => ?_
    cases response with
    | none => exact finishCancelled_safe knownDispatch
    | some response => exact finalize_safe knownDispatch

end

theorem workerLoop_safe (fuel : Nat) (shared : Shared) : WorkerSafe (workerLoop fuel) shared := by
  induction fuel generalizing shared with
  | zero => exact .diverge
  | succ fuel ih =>
    refine (claimNext_safe fuel shared).bind fun claimed current known => ?_
    split
    · exact (runClaimedTask_safe (known _ rfl)).bind fun _ _ _ => ih _
    · exact ih _
    · exact ih _

theorem recover_call_safe {ids : List TaskId} (running : AllRunning (model.id :: ids) shared)
    (fresh : model.id ∉ ids) :
    queueDiscipline.Safe .worker (fun _ => AllRunning ids)
      (update (.recover model.id model.cancelRequested)).run shared := by
  have permitted : ∀ {current}, Rely .worker shared current →
      Permitted .worker (.update (.recover model.id model.cancelRequested)) current :=
    fun relied => relied model.id (running model.id List.mem_cons_self)
  refine Safe.ask (Call.update (.recover model.id model.cancelRequested)) ?_ ?_
  · exact fun _ relied _ => permitted relied
  intro current relied _ calm env reply after ran _ id mem
  have stillRunning := relied id (running id (List.mem_cons_of_mem _ mem))
  rcases statusOf_after (permitted relied) calm ran stillRunning with same | ⟨next, _, move⟩
  · exact same
  · cases move
    exact (fresh mem).elim

theorem recoverTasks_safe (fuel : Nat) (tasks : List ProductionTask) (recovered : Nat)
    (unique : (tasks.map (·.id)).Nodup) (shared : Shared)
    (running : AllRunning (tasks.map (·.id)) shared) :
    WorkerSafe (recoverTasks fuel tasks recovered).run shared := by
  induction tasks generalizing recovered shared with
  | nil => exact .pure trivial
  | cons model tasks ih =>
    rw [List.map_cons, List.nodup_cons] at unique
    refine Safe.attempt (recover_call_safe running unique.1)
      (fun _ _ known => ?_) (fun _ _ _ => trivial)
    refine Safe.attempt (worker_frame (quiet_propagate fuel model.id) known)
      (fun _ _ stillKnown => ?_) (fun _ _ _ => trivial)
    exact ih _ unique.2 _ stillKnown

theorem selectRunning_safe :
    queueDiscipline.Safe .worker (Returns (fun tasks current =>
      (tasks.map (·.id)).Nodup ∧ AllRunning (tasks.map (·.id)) current) fun _ => True)
      (ask .selectRunning) shared := by
  refine Safe.ask Call.selectRunning (fun _ _ _ => trivial) ?_
  rintro current _ _ _ env (_ | tasks) after ran _
  · trivial
  obtain ⟨rfl, rfl⟩ := Connection.query_ok ran
  refine ⟨after.tasks.unique.sublist (List.filter_sublist.map _), fun id mem => ?_⟩
  obtain ⟨row, selected, rfl⟩ := List.mem_map.mp mem
  obtain ⟨found, status⟩ := Table.mem_select_iff.mp selected
  rw [statusOf_of_find found, of_decide_eq_true status]

theorem startWorker_safe (offline : Bool) (fuel : Nat) (shared : Shared) :
    WorkerSafe (startWorker offline fuel) shared := by
  refine Safe.bind (Safe.attempt selectRunning_safe
    (fun tasks current known => recoverTasks_safe fuel tasks 0 known.1 current known.2)
    fun _ _ _ => trivial) fun _ _ _ => ?_
  split
  · exact .diverge
  · exact workerLoop_safe fuel _

/-! ## The admin requests -/

section Admin

variable {request : Nat} {shared : Shared}

theorem adminGuard_safe {body : Code TaskAnswer} (safe : ∀ current, Locked request current →
      LockedSafe request body current) :
    queueDiscipline.Obeys (.admin request) (withAdminGuard body) shared := by
  have locks : queueDiscipline.Safe (.admin request)
      (fun locked current => locked = true → Locked request current) (ask .lockAdmin) shared := by
    refine Safe.ask Call.lockAdmin ?_ ?_
    · exact fun _ _ _ => trivial
    rintro current _ _ _ env reply after ran _ rfl
    simp only [queueRules, semantics] at ran
    split at ran
    · cases ran
    · cases ran
      rfl
    · cases ran
  refine locks.bind fun locked current known => ?_
  split
  next taken =>
    refine (safe current (known taken)).bind fun answer afterBody held => ?_
    exact .bind (.ask_any Call.unlockAdmin fun _ relied _ => (relied held).1)
      fun _ _ _ => .pure trivial
  · exact .pure trivial

variable {id : TaskId} {fuel : Nat}

section

variable (locked : Locked request shared)
include locked

theorem find_locked :
    queueDiscipline.Safe (.admin request) (Returns (fun found current => Locked request current ∧
      ∀ model ∈ found, model.id = id ∧ statusOf current id = some model.status) (Locked request))
      (findProductionTask id).run shared := by
  refine Safe.ask (Call.find id) (fun _ _ _ => trivial) ?_
  intro current relied _ _ env reply after ran _
  have still : Locked request after :=
    (adminLock_after (.admin request) (.find id) nofun nofun ran).trans (relied locked).1
  cases reply with
  | error _ => exact still
  | ok found =>
    refine ⟨still, ?_⟩
    rintro model rfl
    obtain ⟨found, rfl⟩ := Connection.query_ok ran
    exact ⟨Table.find?_key found.symm, statusOf_of_find found.symm⟩

theorem update_locked {statement : Statement}
    (permitted : ∀ current, Rely (.admin request) shared current →
      Permitted (.admin request) (.update statement) current) :
    LockedSafe request (update statement).run shared := by
  refine Safe.ask (Call.update statement) ?_ ?_
  · exact fun current relied _ => permitted current relied
  · intro current relied _ _ env reply after ran _
    exact (adminLock_after (.admin request) (.update _) nofun nofun ran).trans (relied locked).1

theorem requestCancel_safe :
    LockedSafe request (requestCancelProductionTask fuel id).run shared := by
  refine Safe.attempt (admin_frame (.ask (Call.find id) trivial) locked)
    (fun found current held => ?_) (fun _ _ held => held)
  cases found with
  | none => exact .pure held
  | some model =>
    dsimp only
    split
    · exact .pure held
    refine Safe.attempt (update_locked held fun _ relied => (relied held).1)
      (fun updated afterUpdate heldAfter => ?_) (fun _ _ heldAfter => heldAfter)
    split
    · exact Safe.attempt (admin_frame (calls_propagateFrontier (fun _ _ => trivial)
        (fun _ => trivial) (fun _ => trivial) fuel [id] 0) heldAfter) (fun _ _ last => .pure last)
        (fun _ _ last => last)
    · exact .pure heldAfter

theorem requeue_safe (status : statusOf shared model.id = some model.status)
    (retryable : model.status.isRetryable = true) :
    LockedSafe request (requeueProductionTask fuel model).run shared := by
  have terminal : model.status.isTerminal = true := by
    revert retryable
    cases model.status <;> decide
  refine Safe.attempt (update_locked locked fun current relied => ?_)
    (fun updated afterUpdate held => ?_) (fun _ _ held => held)
  · obtain ⟨held, kept⟩ := relied locked
    exact ⟨held, model.status, kept _ _ terminal status, retryable⟩
  · exact Safe.attempt (admin_frame (calls_requeueFrontier (fun _ => trivial)
      [model.id] 0 (fun _ => trivial) fuel) held) (fun _ _ last => .pure last)
      fun _ _ last => last

/-- Reading the dependency changes nothing, and the task that is to be retried keeps its status. -/
theorem dependencyState_locked {task : ProductionTask} (terminal : status.isTerminal = true)
    (known : statusOf shared id = some status) :
    queueDiscipline.Safe (.admin request)
      (fun _ current => Locked request current ∧ statusOf current id = some status)
      (productionTaskDependencyState task).run shared := by
  have calls : (productionTaskDependencyState task).run.Calls (fun call => ∃ id, call = .find id) :=
    calls_dependencyState (fun id => ⟨id, rfl⟩) task
  refine Safe.of_calls ?_ ?_ ?_ calls ⟨locked, known⟩
  · rintro before current relied ⟨held, status⟩
    obtain ⟨heldNow, kept⟩ := relied held
    exact ⟨heldNow, kept _ _ terminal status⟩
  · rintro _ current ⟨id, rfl⟩ _ _
    trivial
  · rintro _ env before reply after ⟨id, rfl⟩ _ facts _ ran
    rw [Connection.after_query ran]
    exact facts

theorem retry_safe : LockedSafe request (retryProductionTask fuel id).run shared := by
  refine Safe.attempt (find_locked locked) (fun found current known => ?_)
    (fun _ _ held => held)
  obtain ⟨held, rowKnown⟩ := known
  cases found with
  | none => exact .pure held
  | some model =>
    obtain ⟨rfl, status⟩ := rowKnown model rfl
    dsimp only
    split
    · exact .pure held
    rename_i retryable
    have retryable : model.status.isRetryable = true := by simpa using retryable
    split
    next blocked =>
      refine Safe.attempt (dependencyState_locked held (by rw [blocked]; rfl) status)
        (fun state afterState facts => ?_) (fun _ _ facts => facts.1)
      cases state with
      | ready => exact requeue_safe facts.1 facts.2 retryable
      | waiting | blocked reason => exact .pure facts.1
    · exact requeue_safe held status retryable

theorem cancelGuarded_safe {actor : String} : LockedSafe request (cancelGuarded fuel id actor)
      shared := by
  refine (admin_frame (.ask (Call.find id) trivial) locked).bind fun found current held => ?_
  split
  · exact .pure held
  · exact .pure held
  split
  · exact .pure held
  refine (requestCancel_safe held).bind fun outcome afterCancel heldAfter => ?_
  split
  · exact .pure heldAfter
  · exact .pure heldAfter
  · refine (admin_frame (calls_appendAuditLog (fun _ => trivial) _ _ _ _ _) heldAfter).bind
      fun _ _ last => ?_
    split <;> exact .pure last

theorem retryGuarded_safe {actor : String} : LockedSafe request (retryGuarded fuel id actor)
      shared := by
  refine (admin_frame (.ask (Call.find id) trivial) locked).bind fun found current held => ?_
  split
  · exact .pure held
  · exact .pure held
  split
  · exact .pure held
  refine (retry_safe held).bind fun outcome afterRetry heldAfter => ?_
  split
  · exact .pure heldAfter
  · exact .pure heldAfter
  · split
    · exact .pure heldAfter
    · exact (admin_frame (calls_appendAuditLog (fun _ => trivial) _ _ _ _ _) heldAfter).bind
        fun _ _ last => .pure last

end

end Admin

/-! ## Enqueue makes no other changes than its insert -/

theorem adminQuiet_enqueueAdmitted (capacity : Nat) (request : EnqueueRequest) (actor : String) :
    (enqueueAdmitted capacity request actor).Calls AdminQuiet := by
  refine (calls_enqueueAdmitted capacity request actor).mono fun asked calls => ?_
  cases asked with
  | execute _ | update _ | lockAdmin | unlockAdmin | dispatch _ => exact calls.elim
  | _ => trivial

/-! ## Every run -/

theorem handler_safe {thread program shared} (handler : Handler thread program) :
    queueDiscipline.Obeys thread program shared := by
  cases handler with
  | worker offline fuel => exact startWorker_safe offline fuel shared
  | enqueue request configured body actor =>
    unfold enqueueResponse
    split
    · exact .pure trivial
    · exact adminGuard_safe fun _ locked => admin_frame (adminQuiet_enqueueAdmitted _ _ _) locked
  | cancel request fuel body actor =>
    unfold cancelResponse
    split
    · exact .pure trivial
    · exact adminGuard_safe fun _ locked => cancelGuarded_safe locked
  | retry request fuel body actor =>
    unfold retryResponse
    split
    · exact .pure trivial
    · exact adminGuard_safe fun _ locked => retryGuarded_safe locked

theorem reachable_permitted {machine thread request} (reached : queueRules.Reachable machine)
    (next : machine.nextCall? thread = some request) : Permitted thread request machine.shared :=
  queueDiscipline.reachable_good (fun _ _ _ handler _ => handler_safe handler) reached next

end SteelInspection.Tasks
