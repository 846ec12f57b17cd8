import Mathlib.Data.List.Sort
import Mathlib.Data.List.TakeWhile
import SteelInspection.Tasks.Operations

/-! # In which states the operations make their calls

An operation runs alone, so what it has read still holds when it writes.  `Issued` lists the writes
of an operation with what is known of the queue at that moment, and `operation_issues` walks the
programs once.  Every invariant of the queue is then a matter of single calls.

The enqueue walk also keeps track of the clock, which is a note on the side: `Dated` says when the
name of a new task was made.
-/

namespace SteelInspection.Tasks

open Foundations

/-! ## What is known at a write -/

/-- The dependency of the task is there, belongs to the same bar, and has come far enough. -/
def DependencyMet (tasks : TaskTable) (task : ProductionTask) : Prop :=
  ∃ dependency, tasks.find? task.dependsOnTaskId = some dependency ∧
    dependency.chainId = task.chainId ∧ dependency.sessionId = task.sessionId ∧
    dependency.materialId = task.materialId ∧
    match task.dependencyPolicy with
    | .requireSuccess => dependency.status = .succeeded
    | .alwaysRun => dependency.status.isTerminal = true

/-- A text that the claim takes for no dependency. -/
def Blank (text : String) : Prop := (Text.trim text).isEmpty = true

/-- A text that starts with a visible character is not blank. -/
theorem not_blank_of_visible {text : String} {first : Char} {rest : List Char}
    (characters : text.toList = first :: rest) (visible : Text.isWhitespace first = false) :
    ¬Blank text := by
  intro blank
  have nothing : ((first :: rest).reverse.dropWhile Text.isWhitespace).reverse = [] := by
    simpa [Blank, Text.trim, characters, visible] using blank
  rw [List.reverse_eq_nil_iff, List.dropWhile_eq_nil_iff] at nothing
  have dark := nothing first (by simp)
  rw [visible] at dark
  cases dark

/-- What the claim has found out about a task it may hand out. -/
def Ready (tasks : TaskTable) (task : ProductionTask) : Prop :=
  Blank task.dependsOnTaskId ∨ task.dependsOnTaskId ≠ task.id ∧ DependencyMet tasks task

def openTasks (tasks : TaskTable) : Nat :=
  tasks.affected fun row => row.status = .queued || row.status = .running

/-- The row that a new task of the chain waits for. -/
def latestInChain (tasks : TaskTable) (chainId : String) : Option ProductionTask :=
  if (Text.trim chainId).isEmpty then none else latest (tasks.select (·.chainId = chainId))

/-- The name of a new task. -/
def taskName (now sequence : Nat) : TaskId :=
  "TASK-" ++ toString now ++ "-" ++ Text.padDecimal 20 sequence

/-- The task is of the kind that was asked for, and has its key. -/
structure Described (request : EnqueueRequest) (input : ProductionTaskInput) : Prop where
  kind : input.kind = request.kind
  policy : input.dependencyPolicy = request.dependencyPolicy
  key : input.idempotencyKey =
    if request.compoundKey.isEmpty then request.kind.text ++ ":" ++ input.id else request.compoundKey

/-- The dependency is the one the client names, or else the last task of the chain. -/
structure Chosen (request : EnqueueRequest) (input : ProductionTaskInput) (tasks : TaskTable) :
    Prop where
  explicit : request.requestedDependencyId ≠ "" →
    input.dependsOnTaskId = request.requestedDependencyId
  follows : request.requestedDependencyId = "" → request.kind ≠ .triggerEvent →
    input.dependsOnTaskId = ((latestInChain tasks input.chainId).map (·.id)).getD ""

/-- What enqueue knows about the task it stores. -/
structure Admitted (capacity : Nat) (request : EnqueueRequest) (input : ProductionTaskInput)
    (tasks : TaskTable) : Prop extends Described request input, Chosen request input tasks where
  room : openTasks tasks < capacity
  named : ∃ now sequence, input.id = taskName now sequence
  depends : input.dependsOnTaskId = "" ∨
    ∃ dependency, tasks.find? input.dependsOnTaskId = some dependency ∧
      dependency.chainId = input.chainId ∧ dependency.sessionId = input.sessionId ∧
      dependency.materialId = input.materialId

/-- The statements of an operation that started with the queue `start`. -/
inductive Written (operation : Operation) (start : Shared) : Statement → Shared → Prop where
  | claim {row shared} (found : shared.tasks.find? row.id = some row)
    (ready : Ready shared.tasks row) :
    Written operation start (.claim row.id (row.attempts + 1)) shared
  | markBlocked {id reason shared} : Written operation start (.markBlocked id reason) shared
  | requeueBlocked {id shared} : Written operation start (.requeueBlocked id) shared
  | progress {id phase percent shared} : Written operation start (.progress id phase percent) shared
  | finish {fuel id status percent result error shared}
    (asked : operation = .finish fuel id status percent result error)
    (same : shared.tasks = start.tasks) :
    Written operation start (.finish id status percent result error) shared
  | cancel {row shared} (found : shared.tasks.find? row.id = some row)
    (live : row.status.isTerminal = false) :
    Written operation start (.cancel row.id (decide (row.status = .queued))) shared
  | retry {fuel body actor row shared}
    (asked : operation = .retry fuel body actor) (named : taskIdFromBody body = .ok row.id)
    (same : shared.tasks = start.tasks) (found : shared.tasks.find? row.id = some row)
    (retryable : row.status.isRetryable = true) :
    Written operation start (.retry row.id (min (max row.maxAttempts (row.attempts + 1)) 10)) shared
  | recover {id cancelled shared} (running : statusOf shared id = some .running) :
    Written operation start (.recover id cancelled) shared

/-- The calls of an operation that started with the queue `start`. -/
inductive Issued (operation : Operation) (start : Shared) : Call → Shared → Prop where
  | quiet {request shared} (leaves : LeavesTasks request) : Issued operation start request shared
  | insert {configured body actor request input shared}
    (asked : operation = .enqueue configured body actor)
    (checked : checkEnqueueRequest body = .ok request) (same : shared.tasks = start.tasks)
    (admitted : Admitted (queueCapacity configured) request input shared.tasks) :
    Issued operation start (.insert input) shared
  | execute {statement shared} (written : Written operation start statement shared) :
    Issued operation start (.execute statement) shared
  | update {statement shared} (written : Written operation start statement shared) :
    Issued operation start (.update statement) shared

variable {statement : Statement}

theorem Issued.written {operation : Operation} {start shared : Shared} {request : Call}
    (issued : Issued operation start request shared)
    (asked : request = .execute statement ∨ request = .update statement) :
    Written operation start statement shared := by
  cases issued with
  | quiet leaves => rcases asked with rfl | rfl <;> exact leaves.elim
  | insert => rcases asked with impossible | impossible <;> cases impossible
  | execute written | update written => grind

/-! ## Replies -/

theorem effects_find (env : Env) (id : TaskId) (shared : Shared) :
    (effects env (.find id) shared).2.tasks = shared.tasks ∧
      ∀ value, (effects env (.find id) shared).1 = .ok value → value = shared.tasks.find? id := by
  refine ⟨tasks_effects trivial, fun value answered => ?_⟩
  have ran := semantics_effects env (.find id) shared
  rw [answered] at ran
  exact (Connection.query_ok ran).1

section Walk

variable {operation : Operation} {start shared : Shared} {check : Check Shared Env Call}
  {tasks : TaskTable}

/-- The program makes its calls as listed, and ends as stated. -/
abbrev Walks (operation : Operation) (start : Shared) (check : Check Shared Env Call) {β : Type}
    (program : Code β) (post : β → Shared → Prop) (shared : Shared) : Prop :=
  program.Issues effects check (Issued operation start) post shared

abbrev Issuing (operation : Operation) (start : Shared) (check : Check Shared Env Call) {β : Type}
    (program : Code β) (shared : Shared) : Prop :=
  Walks operation start check program (fun _ _ => True) shared

section

variable (same : shared.tasks = tasks)
include same

theorem issues_quiet {β : Type} {program : Code β} (calls : program.Calls LeavesTasks) :
    Walks operation start check program (fun _ after => after.tasks = tasks)
      shared := by
  refine .of_calls ?_ (fun _ => trivial) ?_ calls same
  · exact fun leaves _ => .quiet leaves
  · exact fun leaves known => (tasks_effects leaves).trans known

theorem issues_find (id : TaskId) :
    Walks operation start check (findProductionTask id).run
      (fun outcome after => after.tasks = tasks ∧
        ∀ value, outcome = .ok value → value = tasks.find? id) shared := by
  refine .ask (Call.find id) (.quiet trivial) fun env _ => ?_
  have read := effects_find env id shared
  rw [same] at read
  exact read

end

theorem issues_audit (actor action target detail level : String) :
    Issuing operation start check (appendAuditLog actor action target detail level) shared :=
  (issues_quiet rfl (calls_appendAuditLog (fun _ => trivial) _ _ _ _ _)).mono
    fun _ _ _ => trivial

def Blocks : Call → Prop
  | .execute (.markBlocked _ _) => True
  | request => LeavesTasks request

theorem Blocks.cases {request : Call} (blocks : Blocks request) :
    LeavesTasks request ∨ ∃ id reason, request = .execute (.markBlocked id reason) := by
  cases request with
  | execute statement =>
    cases statement with
    | markBlocked id reason => exact .inr ⟨id, reason, rfl⟩
    | _ => exact blocks.elim
  | insert _ | update _ => exact blocks.elim
  | _ => exact .inl trivial

variable {task other model : ProductionTask} {models : List ProductionTask}

structure StillRunning (models : List ProductionTask) (shared : Shared) : Prop where
  distinct : (models.map ProductionTask.id).Nodup
  running : ∀ model ∈ models, statusOf shared model.id = some .running

theorem statusOf_congr {first second : Shared} (same : first.tasks = second.tasks) (id : TaskId) :
    statusOf first id = statusOf second id := by rw [statusOf, statusOf, same]

/-- Blocking concerns queued rows only. -/
theorem StillRunning.propagate (running : StillRunning models shared) (fuel : Nat)
    (frontier : List TaskId) (blocked : Nat) :
    Walks operation start check (propagateFrontier fuel frontier blocked).run
      (fun _ after => StillRunning models after) shared := by
  have calls : (propagateFrontier fuel frontier blocked).run.Calls Blocks :=
    calls_propagateFrontier (fun _ _ => trivial) (fun _ => trivial) (fun _ => trivial) fuel frontier
      blocked
  refine .of_calls ?_ (fun _ => trivial) ?_ calls running
  · intro request state blocks _
    obtain leaves | ⟨id, reason, rfl⟩ := blocks.cases
    · exact .quiet leaves
    · exact .execute .markBlocked
  · intro request env state blocks known
    refine ⟨known.distinct, fun model mem => ?_⟩
    have still := known.running model mem
    obtain leaves | ⟨id, reason, rfl⟩ := blocks.cases
    · exact (statusOf_congr (tasks_effects leaves) _).trans still
    rcases effects_statement env state (.inl rfl) with same | same
    · rw [statusOf, same]
      exact still
    obtain ⟨row, found, status⟩ := Option.map_eq_some_iff.mp still
    rcases Statement.find?_execute (.markBlocked id reason) env.timestamp found with
      kept | ⟨-, waiting, -⟩
    · rw [statusOf, same, kept]
      exact congrArg some status
    · simp [Statement.guard, status] at waiting

theorem issues_propagate (fuel : Nat) (frontier : List TaskId) (blocked : Nat) :
    Issuing operation start check (propagateFrontier fuel frontier blocked).run shared :=
  have none : StillRunning [] shared := ⟨List.nodup_nil, by simp⟩
  (none.propagate fuel frontier blocked).mono fun _ _ _ => trivial

/-! ## The claim -/

theorem issues_dependencyState (task : ProductionTask) (same : shared.tasks = tasks) :
    Walks operation start check (productionTaskDependencyState task).run
      (fun outcome after => after.tasks = tasks ∧ (outcome = .ok .ready → Ready tasks task))
      shared := by
  unfold productionTaskDependencyState
  split
  next blank =>
    exact .pure ⟨same, fun _ => .inl blank⟩
  split
  · exact .pure ⟨same, by simp⟩
  rename_i different
  refine (issues_find same task.dependsOnTaskId).attempt ?_ ?_
  · rintro value after ⟨kept, found⟩
    have answer := found value rfl
    cases value with
    | none => exact .pure ⟨kept, by simp⟩
    | some dependency =>
      refine .pure ⟨kept, fun ready => .inr ⟨different, ?_⟩⟩
      have ready := Except.ok.inj ready
      unfold dependencyStateOf at ready
      split at ready
      · cases ready
      rename_i same
      simp only [not_or, not_not] at same
      refine ⟨dependency, answer.symm, same.1, same.2.1, same.2.2, ?_⟩
      split at ready <;> grind
  · rintro error after ⟨kept, -⟩
    exact ⟨kept, by simp⟩

theorem DependencyMet.congr (met : DependencyMet tasks task) (same : other.identity = task.identity) :
    DependencyMet tasks other := by
  simp only [ProductionTask.identity, TaskIdentity.mk.injEq] at same
  obtain ⟨-, depends, policy, chain, session, material⟩ := same
  simp only [DependencyMet, depends, policy, chain, session, material]
  exact met

theorem Ready.congr (ready : Ready tasks task) (same : other.identity = task.identity) :
    Ready tasks other := by
  have id : other.id = task.id := congrArg TaskIdentity.id same
  have depends : other.dependsOnTaskId = task.dependsOnTaskId :=
    congrArg TaskIdentity.dependsOnTaskId same
  rcases ready with blank | ⟨different, met⟩
  · exact .inl (depends ▸ blank)
  · exact .inr ⟨by rw [depends, id]; exact different, met.congr same⟩

theorem Ready.claim {env : Env} {row : ProductionTask} {attempts : Int}
    (ready : Ready shared.tasks row) :
    Ready (effects env (.execute (.claim row.id attempts)) shared).2.tasks row := by
  rcases ready with blank | ⟨different, dependency, found, rest⟩
  · exact .inl blank
  refine .inr ⟨different, dependency, ?_, rest⟩
  rcases effects_statement env shared (.inl rfl) with same | same
  · rw [same]
    exact found
  · rw [same]
    exact (Statement.find?_execute_other different).trans found

/-- The rows the claim has read are still in the table, with their identity and their attempts. -/
structure Listed (models : List ProductionTask) (tasks : TaskTable) : Prop where
  distinct : (models.map ProductionTask.id).Nodup
  present : ∀ model ∈ models, ∃ row, tasks.find? model.id = some row ∧
    row.attempts = model.attempts ∧ row.identity = model.identity

theorem Listed.tail (listed : Listed (model :: models) tasks) : Listed models tasks :=
  ⟨(List.nodup_cons.mp listed.distinct).2,
    fun other mem => listed.present other (List.mem_cons_of_mem _ mem)⟩

/-- A statement that writes no attempts, or is about another task, leaves the rows listed. -/
theorem Listed.execute (listed : Listed models tasks) (statement : Statement) (now : String)
    (spares : ∀ model ∈ models, ∀ row, model.id = statement.target →
      (statement.change now row).attempts = row.attempts) :
    Listed models (statement.execute now tasks) where
  distinct := listed.distinct
  present model mem := by
    obtain ⟨row, found, attempts, identity⟩ := listed.present model mem
    rcases statement.find?_execute now found with same | ⟨target, -, changed⟩
    · exact ⟨row, same, attempts, identity⟩
    · exact ⟨_, changed, (spares model mem row target).trans attempts,
        (statement.identity_change now row).trans identity⟩

/-- What a claim hands to the worker is a stored task, and it is ready. -/
def HandsOutReady (outcome : Option ProductionTask) (tasks : TaskTable) : Prop :=
  ∀ task, outcome = some task → tasks.find? task.id = some task ∧ Ready tasks task

theorem HandsOutReady.nothing : HandsOutReady none tasks := fun _ => nofun

/-- The row of a claimed task as it is read back. -/
theorem issues_readBack (ready : Ready shared.tasks model)
    (present : ∃ row, shared.tasks.find? model.id = some row ∧ row.identity = model.identity) :
    Walks operation start check (findProductionTask model.id).run
      (fun outcome after => ∀ task, outcome = .ok task → HandsOutReady task after.tasks) shared := by
  refine (issues_find rfl model.id).mono ?_
  rintro outcome after ⟨same, found⟩ value answered task rfl
  obtain ⟨row, stored, identity⟩ := present
  have equal : some task = some row := (found _ answered).trans stored
  cases equal
  rw [same]
  exact ⟨Table.find?_key stored ▸ stored, ready.congr identity⟩

theorem issues_claimPass (changed : Bool) (listed : Listed models shared.tasks) :
    Walks operation start check (claimPass models changed).run
      (fun outcome after => ∀ task, outcome = .ok (.returned task) → HandsOutReady task after.tasks)
      shared := by
  induction models generalizing shared changed with
  | nil => exact .pure fun _ => nofun
  | cons model models ih =>
    refine (issues_dependencyState model rfl).attempt ?_ ?_
    · rintro state after ⟨same, ready⟩
      rw [← same] at listed ready
      cases state with
      | waiting => exact ih changed listed.tail
      | blocked reason =>
        have wrote : Walks operation start check (execute (.markBlocked model.id reason)).run
            (fun _ last => Listed (model :: models) last.tasks) after := by
          refine .ask (Call.execute _) (.execute .markBlocked) fun env _ => ?_
          rcases effects_statement env after (.inl rfl) with kept | kept
          · rwa [kept]
          · rw [kept]
            exact listed.execute _ _ fun _ _ _ _ => rfl
        have marked : Walks operation start check (markProductionTaskBlocked model.id reason).run
            (fun _ last => Listed (model :: models) last.tasks) after :=
          wrote.attempt (fun _ _ kept => .pure kept) fun _ _ kept => kept
        refine marked.attempt ?_ ?_
        · exact fun blocked last kept => ih _ kept.tail
        · exact fun _ _ _ _ => nofun
      | ready =>
        obtain ⟨row, found, attempts, identity⟩ := listed.present model List.mem_cons_self
        have sameId : row.id = model.id := Table.find?_key found
        have rowReady : Ready after.tasks row := (ready rfl).congr identity
        have issued : Issued operation start (.execute (.claim model.id (model.attempts + 1))) after := by
          rw [← sameId, ← attempts]
          exact .execute (.claim (sameId ▸ found) rowReady)
        -- the rows that are left are other tasks; the claimed one is still ready
        have claimed : Walks operation start check (execute (.claim model.id (model.attempts + 1))).run
            (fun _ last => Listed models last.tasks ∧
              Ready last.tasks model ∧ ∃ row, last.tasks.find? model.id = some row ∧
                row.identity = model.identity) after := by
          refine .ask (Call.execute _) issued fun env _ => ?_
          refine ⟨?_, (ready rfl).claim, ?_⟩
          · rcases effects_statement env after (.inl rfl) with kept | kept
            · rw [kept]
              exact listed.tail
            rw [kept]
            refine listed.tail.execute _ _ fun other mem _ target => ?_
            have same : other.id = model.id := target
            have fresh : model.id ∉ models.map ProductionTask.id :=
              (List.nodup_cons.mp listed.distinct).1
            exact absurd (same ▸ List.mem_map_of_mem mem) fresh
          · have stored : TaskTable.identity?
                (effects env (.execute (.claim model.id (model.attempts + 1))) after).2.tasks model.id =
                  TaskTable.identity? after.tasks model.id :=
              identity?_effects (fun _ impossible => by cases impossible) model.id
            rw [TaskTable.identity?, TaskTable.identity?, found] at stored
            obtain ⟨last, present, equal⟩ := Option.map_eq_some_iff.mp stored
            exact ⟨last, present, equal.trans identity⟩
        refine claimed.attempt ?_ ?_
        · rintro affected last ⟨others, stillReady, present⟩
          split
          · refine (issues_readBack stillReady present).attempt ?_ ?_
            · intro task final handed
              refine .pure fun other returned => ?_
              cases returned
              exact handed task rfl
            · exact fun _ _ _ _ => nofun
          · exact ih true others
        · exact fun _ _ _ _ => nofun
    · exact fun _ _ _ _ => nofun

theorem selectQueued_listed (env : Env) (shared : Shared) :
    ∀ queued, (effects env .selectQueued shared).1 = .ok queued →
      Listed queued (effects env .selectQueued shared).2.tasks := by
  intro queued answered
  have ran := semantics_effects env .selectQueued shared
  rw [answered] at ran
  obtain ⟨rows, same⟩ := Connection.query_ok ran
  have sorted : queued.Perm (shared.tasks.select fun row =>
      row.status = .queued && !row.cancelRequested) := rows ▸ List.perm_insertionSort _ _
  refine ⟨?_, fun model mem => ?_⟩
  · exact (sorted.map ProductionTask.id).nodup_iff.mpr (shared.tasks.nodup_select _)
  · have stored := (Table.mem_select_iff.mp (sorted.mem_iff.mp mem)).1
    exact ⟨model, by rw [same]; exact stored, rfl, rfl⟩

/-- The claim makes its calls as listed, and what it hands out is ready. -/
theorem issues_claimNext (fuel : Nat) :
    Walks operation start check (claimNextProductionTask fuel).run
      (fun outcome after => HandsOutReady (okFlatten outcome) after.tasks) shared := by
  induction fuel generalizing shared with
  | zero => exact .diverge
  | succ fuel ih =>
    have selected : Walks operation start check
        (ExceptT.mk (ask .selectQueued) : Db (List ProductionTask)).run
        (fun outcome after => ∀ queued, outcome = .ok queued → Listed queued after.tasks) shared :=
      .ask Call.selectQueued (.quiet trivial) fun env _ => selectQueued_listed env shared
    refine selected.attempt ?_ ?_
    · intro queued after listed
      split
      · exact .pure .nothing
      refine (issues_claimPass false (listed queued rfl)).attempt ?_ ?_
      · intro pass last handed
        cases pass with
        | returned task => exact .pure (handed task rfl)
        | finished again =>
          cases again with
          | false => exact .pure .nothing
          | true => exact ih
      · exact fun error last _ => .nothing
    · exact fun error after _ => .nothing

/-! ## Progress, finish, cancel and retry -/

theorem issues_progress (id : TaskId) (phase : String) (percent : Int) :
    Issuing operation start check (updateProductionTaskProgress id phase percent).run shared := by
  have writes : Issuing operation start check (execute (.progress id phase percent)).run shared :=
    .ask (Call.execute _) (.execute .progress) fun _ _ => trivial
  refine writes.attempt ?_ fun _ _ _ => trivial
  intro affected after _
  split
  · exact .pure trivial
  · exact (issues_find rfl id).mono fun _ _ _ => trivial

theorem issues_update (issued : Issued operation start (.update statement) shared) :
    Issuing operation start check (update statement).run shared :=
  .ask (Call.update statement) issued fun _ _ => trivial

theorem issues_finish {fuel : Nat} {id : TaskId} {status : TaskStatus} {percent : Int}
    {result error : String} : Issuing (.finish fuel id status percent result error) start check
      (finishProductionTask fuel id status percent result error).run start := by
  refine (issues_find rfl id).attempt ?_ fun _ _ _ => trivial
  rintro found after ⟨same, -⟩
  cases found with
  | none => exact .pure trivial
  | some row =>
    refine (issues_update (.update (.finish rfl same))).attempt ?_ fun _ _ _ => trivial
    intro updated last _
    split
    · exact (issues_propagate _ _ _).attempt
        (fun _ _ _ => .pure trivial) fun _ _ _ => trivial
    · exact .pure trivial

theorem issues_requestCancel (fuel : Nat) (id : TaskId) :
    Issuing operation start check (requestCancelProductionTask fuel id).run shared := by
  refine (issues_find rfl id).attempt ?_ fun _ _ _ => trivial
  rintro found after ⟨same, answer⟩
  cases found with
  | none => exact .pure trivial
  | some row =>
    have stored : after.tasks.find? id = some row := by rw [same, ← answer _ rfl]
    dsimp only
    split
    · exact .pure trivial
    rename_i live
    have issued : Issued operation start (.update (.cancel id (decide (row.status = .queued)))) after := by
      rw [← Table.find?_key stored]
      exact .update (.cancel (Table.find?_key stored ▸ stored) (by simpa using live))
    refine (issues_update issued).attempt ?_ fun _ _ _ => trivial
    intro updated last _
    split
    · exact (issues_propagate _ _ _).attempt
        (fun _ _ _ => .pure trivial) fun _ _ _ => trivial
    · exact .pure trivial

theorem issues_adminGuard {body : Code TaskAnswer}
    (issues : ∀ after : Shared, after.tasks = shared.tasks →
      Issuing operation start check body after) :
    Issuing operation start check (withAdminGuard body) shared := by
  refine (issues_quiet rfl (.ask Call.lockAdmin trivial)).bind fun locked after same => ?_
  split
  · refine (issues after same).bind fun answer last _ => ?_
    exact (issues_quiet rfl (.ask Call.unlockAdmin trivial)).bind fun _ _ _ => .pure trivial
  · exact .pure trivial

theorem issues_cancelGuarded (fuel : Nat) (id : TaskId) (actor : String) :
    Issuing operation start check (cancelGuarded fuel id actor) shared := by
  refine (issues_find rfl id).bind fun found after _ => ?_
  split
  · exact .pure trivial
  · exact .pure trivial
  split
  · exact .pure trivial
  refine (issues_requestCancel fuel id).bind fun outcome last _ => ?_
  split
  · exact .pure trivial
  · exact .pure trivial
  · refine (issues_audit _ _ _ _ _).bind fun _ _ _ => ?_
    split <;> exact .pure trivial

theorem issues_cancel (fuel : Nat) (body : Option Json) (actor : String) :
    Issuing operation start check (cancelResponse fuel body actor) shared := by
  unfold cancelResponse
  split
  · exact .pure trivial
  · exact issues_adminGuard fun _ _ => issues_cancelGuarded fuel _ actor

/-- The calls that bring the tasks behind a retried one back. -/
def Requeues : Call → Prop
  | .selectBlockedDependents _ | .execute (.requeueBlocked _) => True
  | _ => False

theorem issues_requeue (fuel : Nat) (frontier : List TaskId) (requeued : Nat) :
    Issuing operation start check (requeueFrontier fuel frontier requeued).run shared := by
  have calls : (requeueFrontier fuel frontier requeued).run.Calls Requeues :=
    calls_requeueFrontier (fun _ => trivial) frontier requeued (fun _ => trivial) fuel
  refine .of_calls ?_ (fun _ => trivial) (fun _ _ => trivial) calls trivial
  intro request state requeues _
  cases request with
  | selectBlockedDependents _ => exact .quiet trivial
  | execute statement =>
    cases statement with
    | requeueBlocked id => exact .execute .requeueBlocked
    | _ => exact requeues.elim
  | _ => exact requeues.elim

section Retry

variable {fuel : Nat} {body : Option Json} {actor : String} {id : TaskId}

section

variable (named : taskIdFromBody body = .ok id) (same : shared.tasks = start.tasks)
include named same

theorem issues_retryTask :
    Issuing (.retry fuel body actor) start check (retryProductionTask fuel id).run shared := by
  refine (issues_find same id).attempt ?_ fun _ _ _ => trivial
  rintro found after ⟨kept, answer⟩
  cases found with
  | none => exact .pure trivial
  | some row =>
    have stored : start.tasks.find? id = some row := (answer _ rfl).symm
    have sameId : row.id = id := Table.find?_key stored
    have requeues : ∀ last : Shared, last.tasks = start.tasks → row.status.isRetryable = true →
        Issuing (.retry fuel body actor) start check (requeueProductionTask fuel row).run last := by
      intro last still retryable
      have found : last.tasks.find? row.id = some row := by rw [still, sameId, stored]
      refine (issues_update (.update (.retry rfl (sameId ▸ named) still found retryable))).attempt ?_
        fun _ _ _ => trivial
      intro updated after _
      exact (issues_requeue fuel [row.id] 0).attempt (fun _ _ _ => .pure trivial) fun _ _ _ => trivial
    dsimp only
    split
    · exact .pure trivial
    rename_i retryable
    have retryable : row.status.isRetryable = true := by simpa using retryable
    split
    · refine (issues_dependencyState row kept).attempt ?_ fun _ _ _ => trivial
      rintro state last ⟨still, -⟩
      cases state with
      | ready => exact requeues last still retryable
      | waiting | blocked reason => exact .pure trivial
    · exact requeues after kept retryable

theorem issues_retryGuarded :
    Issuing (.retry fuel body actor) start check (retryGuarded fuel id actor) shared := by
  refine (issues_find same id).bind fun found after read => ?_
  split
  · exact .pure trivial
  · exact .pure trivial
  split
  · exact .pure trivial
  refine (issues_retryTask named read.1).bind fun outcome last _ => ?_
  split
  · exact .pure trivial
  · exact .pure trivial
  · split
    · exact .pure trivial
    · exact (issues_audit _ _ _ _ _).bind fun _ _ _ => .pure trivial

end

theorem issues_retry (fuel : Nat) (body : Option Json) (actor : String) :
    Issuing (.retry fuel body actor) start check (retryResponse fuel body actor) start := by
  unfold retryResponse
  split
  · exact .pure trivial
  next named =>
    exact issues_adminGuard fun _ same => issues_retryGuarded named same

end Retry

/-! ## Recovery -/

theorem issues_recoverTasks (fuel recovered : Nat) (running : StillRunning models shared) :
    Issuing operation start check (recoverTasks fuel models recovered).run shared := by
  induction models generalizing shared recovered with
  | nil => exact .pure trivial
  | cons model models ih =>
    have fresh : model.id ∉ models.map ProductionTask.id := (List.nodup_cons.mp running.distinct).1
    have recovers : Walks operation start check (update (.recover model.id model.cancelRequested)).run
        (fun _ after => StillRunning models after) shared := by
      refine .ask (Call.update _) (.update (.recover (running.running model List.mem_cons_self)))
        fun env _ => ?_
      refine ⟨(List.nodup_cons.mp running.distinct).2, fun other mem => ?_⟩
      have still := running.running other (List.mem_cons_of_mem _ mem)
      have different : other.id ≠ model.id := fun same => fresh (same ▸ List.mem_map_of_mem mem)
      rcases effects_statement env shared (.inr rfl) with same | same
      · rw [statusOf, same]
        exact still
      · rw [statusOf, same, Statement.find?_execute_other different]
        exact still
    refine recovers.attempt ?_ fun _ _ _ => trivial
    intro _ after others
    refine (others.propagate fuel [model.id] 0).attempt ?_ fun _ _ _ => trivial
    exact fun _ last still => ih _ still

theorem issues_recover (fuel : Nat) :
    Issuing operation start check (recoverIncompleteProductionTasks fuel).run shared := by
  have selected : Walks operation start check
      (ExceptT.mk (ask .selectRunning) : Db (List ProductionTask)).run
      (fun outcome after => ∀ models, outcome = .ok models → StillRunning models after) shared := by
    refine .ask Call.selectRunning (.quiet trivial) fun env _ models answered => ?_
    have ran := semantics_effects env .selectRunning shared
    rw [answered] at ran
    obtain ⟨rows, same⟩ := Connection.query_ok ran
    refine ⟨rows ▸ shared.tasks.nodup_select _, fun model mem => ?_⟩
    rw [rows] at mem
    obtain ⟨found, status⟩ := Table.mem_select_iff.mp mem
    rw [same, statusOf_of_find found]
    exact congrArg some (by simpa using status)
  refine selected.attempt ?_ fun _ _ _ => trivial
  exact fun models after running => issues_recoverTasks fuel 0 (running models rfl)

end Walk

end SteelInspection.Tasks
