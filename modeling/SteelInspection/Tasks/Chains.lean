import Mathlib.Data.List.Induction
import Mathlib.Logic.Relation
import SteelInspection.Tasks.CreationOrder
import SteelInspection.Tasks.Dependencies

/-! # Chains

A task depends on a task that was stored before it, so dependencies cannot form a circle.  That the
tasks of a chain run one after the other needs more: each task must wait for the one in front of it.
Enqueue arranges this by default, but not for a trigger event, which waits for nothing; the next task
of the chain then waits for the event alone.  What other chains do does not matter to a chain.
-/

namespace SteelInspection.Tasks

open Foundations

/-! ## Lists that grow at the end -/

/-- Every element fits the elements in front of it. -/
def Grown {α : Type} (fits : List α → α → Prop) (list : List α) : Prop :=
  ∀ front element back, list = front ++ element :: back → fits front element

variable {α : Type} {fits : List α → α → Prop} {row : ProductionTask} {tasks : TaskTable}
  {request : Call} {env : Env} {operation : Operation} {shared : Shared} {start state : Timed}
  {input : ProductionTaskInput}

theorem Grown.nil : Grown fits [] :=
  fun front _ _ equal => by cases front <;> cases equal

theorem Grown.concat {list : List α} {element : α} (grown : Grown fits list)
    (fit : fits list element) : Grown fits (list ++ [element]) := by
  intro front other back equal
  rcases List.eq_nil_or_concat back with rfl | ⟨others, last, rfl⟩
  · grind [List.append_inj']
  · rw [List.concat_eq_append, ← List.cons_append, ← List.append_assoc] at equal
    exact grown front other others (List.append_inj' equal rfl).1

theorem Grown.front {list : List α} {element : α} (grown : Grown fits (list ++ [element])) :
    Grown fits list ∧ fits list element := by
  refine ⟨fun front other back equal => ?_, grown list element [] rfl⟩
  apply grown front other (back ++ [element])
  rw [equal, List.append_assoc, List.cons_append]

/-! ## Dependencies point backwards -/

/-- The task depends on none, or on one in front of it that belongs to the same bar. -/
def DependsOnEarlier (front : List TaskIdentity) (task : TaskIdentity) : Prop :=
  task.dependsOnTaskId = "" ∨ ∃ dependency ∈ front, dependency.id = task.dependsOnTaskId ∧
    dependency.chainId = task.chainId ∧ dependency.sessionId = task.sessionId ∧
    dependency.materialId = task.materialId

def TaskTable.identities (tasks : TaskTable) : List TaskIdentity := tasks.rows.map (·.identity)

/-- The identities change only by what enqueue adds. -/
theorem grown_kept {start : Shared} {fits : List TaskIdentity → TaskIdentity → Prop}
    (grown : Grown fits (TaskTable.identities shared.tasks))
    (issued : Issued operation start request shared)
    (fit : ∀ {configured enqueued input}, request = .insert input →
      Admitted (queueCapacity configured) enqueued input shared.tasks →
      fits (TaskTable.identities shared.tasks) (input.row env.timestamp).identity) :
    Grown fits (TaskTable.identities (effects env request shared).2.tasks) := by
  obtain same | ⟨input, tasks, rfl, inserted, same⟩ | ⟨statement, -, same⟩ :=
    tasks_cases env request shared
  · rw [same]
    exact grown
  · cases issued with
    | quiet leaves => exact leaves.elim
    | insert _ _ _ admitted =>
      rw [same, TaskTable.identities, Table.rows_insert inserted, List.map_append]
      exact grown.concat (fit rfl admitted)
  · simpa [same, TaskTable.identities, statement.rows_execute, Function.comp_def,
      statement.identity_apply] using grown

theorem dependsOnEarlier_admitted {capacity : Nat} {request : EnqueueRequest} {now : String}
    (admitted : Admitted capacity request input tasks) :
    DependsOnEarlier (TaskTable.identities tasks) (input.row now).identity := by
  rcases admitted.depends with none | ⟨dependency, found, rest⟩
  · exact .inl none
  · have sameId : dependency.id = input.dependsOnTaskId := Table.find?_key found
    refine .inr ⟨dependency.identity, ?_, sameId, rest⟩
    exact List.mem_map_of_mem (Table.mem_rows_iff.mpr (sameId ▸ found))

def DependsOn (tasks : TaskTable) (task dependency : TaskId) : Prop :=
  ∃ row ∈ tasks.rows, row.id = task ∧ row.dependsOnTaskId = dependency ∧ dependency ≠ ""

section

variable (grown : Grown DependsOnEarlier (TaskTable.identities tasks))
include grown

theorem earlier_of_grown {front back : List ProductionTask} {row : ProductionTask}
    (rows : tasks.rows = front ++ row :: back) (depends : row.dependsOnTaskId ≠ "") :
    ∃ dependency ∈ front, dependency.id = row.dependsOnTaskId ∧
      dependency.chainId = row.chainId ∧ dependency.sessionId = row.sessionId ∧
      dependency.materialId = row.materialId := by
  have fits := grown (front.map (·.identity)) row.identity (back.map (·.identity))
    (by rw [TaskTable.identities, rows, List.map_append, List.map_cons])
  rcases fits with none | ⟨earlier, member, rest⟩
  · exact absurd none depends
  · obtain ⟨dependency, present, rfl⟩ := List.mem_map.mp member
    exact ⟨dependency, present, rest⟩

theorem idxOf_dependency {task dependency : TaskId} (depends : DependsOn tasks task dependency) :
    (tasks.rows.map (·.id)).idxOf dependency < (tasks.rows.map (·.id)).idxOf task := by
  obtain ⟨row, mem, rfl, rfl, named⟩ := depends
  obtain ⟨front, back, rows⟩ := List.append_of_mem mem
  have unique := tasks.unique
  obtain ⟨other, inFront, sameId, -⟩ := earlier_of_grown grown rows named
  rw [rows, List.map_append, List.map_cons] at unique ⊢
  have fresh : row.id ∉ front.map (·.id) := by
    intro taken
    exact (List.nodup_append.mp unique).2.2 _ taken _ List.mem_cons_self rfl
  have listed : row.dependsOnTaskId ∈ front.map (·.id) :=
    List.mem_map.mpr ⟨other, inFront, sameId⟩
  rw [List.idxOf_append_of_mem listed, List.idxOf_append_of_notMem fresh, List.idxOf_cons_self]
  exact Nat.lt_of_lt_of_le (List.idxOf_lt_length_of_mem listed) (Nat.le_add_right _ _)

theorem acyclic_of_grown (task : TaskId) : ¬Relation.TransGen (DependsOn tasks) task task := by
  have descends : ∀ {first last}, Relation.TransGen (DependsOn tasks) first last →
      (tasks.rows.map (·.id)).idxOf last < (tasks.rows.map (·.id)).idxOf first := by
    intro first last path
    induction path with
    | single depends => exact idxOf_dependency grown depends
    | tail _ depends ih =>
      exact Nat.lt_trans (idxOf_dependency grown depends) ih
  exact fun circle => Nat.lt_irrefl _ (descends circle)

end

def Backwards (shared : Shared) : Prop :=
  Grown DependsOnEarlier (TaskTable.identities shared.tasks)

theorem backwards_reachable (reached : taskService.Reachable emptyQueue shared) :
    Backwards shared := by
  have starts : Backwards emptyQueue := .nil
  exact Service.reachable_kept starts (fun operation start => operation_issues operation _ start)
    (fun _ _ issued _ backwards => by
      exact grown_kept backwards issued fun _ admitted => dependsOnEarlier_admitted admitted) reached

/-! ## Each task waits for the one in front of it -/

/-- A task that is stored in this chain takes its turn: it asks for success, and the task it waits for
is the latest of the chain; if it waits for nothing it is no event, or the first of the chain. -/
def inTurn (chain : String) (request : Call) (state : Timed) : Bool :=
  match request with
  | .insert input => input.chainId ≠ chain || input.dependencyPolicy = .requireSuccess &&
    if input.dependsOnTaskId.isEmpty then
      input.kind ≠ .triggerEvent || (latestInChain state.1.tasks chain).isNone
    else (latestInChain state.1.tasks chain).map (·.id) = some input.dependsOnTaskId
  | _ => true

/-- A finish is the worker's, for the task it runs. -/
def finishesRunning : Operation → Timed → Bool
  | .finish _ id status _ _ _, state => status.isOutcome && statusOf state.1 id = some .running
  | _, _ => true

/-- A task of a chain waits for the task of its chain that stands last in front of it. -/
def WaitsForLast (front : List TaskIdentity) (task : TaskIdentity) : Prop :=
  ¬Blank task.chainId → task.dependsOnTaskId =
    (((front.filter (·.chainId = task.chainId)).getLast?).map (·.id)).getD ""

theorem latestInChain_eq {chainId : String} (named : ¬Blank chainId)
    (ordered : tasks.rows.Pairwise Precedes) : (latestInChain tasks chainId).map (·.id) =
      (((TaskTable.identities tasks).filter (·.chainId = chainId)).getLast?).map (·.id) := by
  have last : latest (tasks.select (·.chainId = chainId)) =
      (tasks.select (·.chainId = chainId)).getLast? :=
    latest_eq_getLast? (ordered.sublist List.filter_sublist)
  have same : (TaskTable.identities tasks).filter (·.chainId = chainId) =
      (tasks.select (·.chainId = chainId)).map (·.identity) := by
    rw [TaskTable.identities, List.filter_map]
    rfl
  rw [latestInChain, if_neg (show ¬(Text.trim chainId).isEmpty = true from named), last, same,
    List.getLast?_map, Option.map_map]
  rfl

theorem waitsForLast_admitted {capacity : Nat} {request : EnqueueRequest} {now chain : String}
    (ordered : state.1.tasks.rows.Pairwise Precedes)
    (admitted : Admitted capacity request input state.1.tasks)
    (turn : inTurn chain (.insert input) state = true) (ofChain : input.chainId = chain) :
    WaitsForLast (TaskTable.identities state.1.tasks) (input.row now).identity := by
  intro named
  show input.dependsOnTaskId = _
  rw [show (input.row now).identity.chainId = input.chainId from rfl] at named ⊢
  rw [← latestInChain_eq named ordered]
  subst ofChain
  simp only [inTurn, ne_eq, not_true_eq_false, decide_false, Bool.false_or, Bool.and_eq_true] at turn
  by_cases waits : input.dependsOnTaskId = ""
  · -- nothing was named, since it would be what the task waits for
    have unnamed : request.requestedDependencyId = "" := by
      by_contra given
      exact given ((admitted.explicit given).symm.trans waits)
    by_cases kind : request.kind = .triggerEvent
    · have first : latestInChain state.1.tasks input.chainId = none := by
        simpa [waits, admitted.kind, kind] using turn.2
      rw [first, waits]
      rfl
    · exact admitted.follows unnamed kind
  · have last : (latestInChain state.1.tasks input.chainId).map (·.id) =
        some input.dependsOnTaskId := by simpa [waits] using turn.2
    rw [last, Option.getD_some]

/-- What holds in a run in which the tasks of this chain take their turn. -/
structure Chained (chain : String) (state : Timed) : Prop where
  inOrder : InOrder state
  named : WellNamed state.1
  linked : Grown (fun front task => task.chainId = chain → WaitsForLast front task)
    (TaskTable.identities state.1.tasks)
  policy : ∀ id row, state.1.tasks.find? id = some row → row.chainId = chain →
    row.dependencyPolicy = .requireSuccess
  started : ∀ id row, state.1.tasks.find? id = some row → 0 ≤ row.attempts ∧
    (row.status = .running ∨ row.status = .succeeded → 0 < row.attempts)
  waited : ∀ id row, state.1.tasks.find? id = some row → row.chainId = chain → 0 < row.attempts →
    row.dependsOnTaskId ≠ "" → statusOf state.1 row.dependsOnTaskId = some .succeeded

section

variable (admitted : finishesRunning operation start = true) {statement : Statement} {chain : String}
include admitted

omit admitted in
theorem running_of_finish {fuel : Nat} {id : TaskId} {status : TaskStatus} {percent : Int}
    {result error : String}
    (admitted : finishesRunning (.finish fuel id status percent result error) start = true)
    (same : shared.tasks = start.1.tasks) (found : shared.tasks.find? id = some row) :
    row.status = .running := by
  simp only [finishesRunning, Bool.and_eq_true, decide_eq_true_eq] at admitted
  rw [← statusOf_congr same, statusOf_of_find found] at admitted
  exact Option.some.inj admitted.2

section

variable (written : Written operation start.1 statement shared)
  (found : shared.tasks.find? statement.target = some row) (holds : statement.guard row = true)
include written found holds

theorem Written.not_succeeded : row.status ≠ .succeeded := by
  intro succeeded
  cases written with
  | claim | markBlocked | requeueBlocked | progress => simp [Statement.guard, succeeded] at holds
  | @finish fuel id status percent result error _ finishes same =>
    subst finishes
    cases succeeded.symm.trans (running_of_finish admitted same found)
  | cancel stored live =>
    cases stored.symm.trans found
    rw [succeeded] at live
    cases live
  | retry asked named same stored retryable =>
    cases stored.symm.trans found
    rw [succeeded] at retryable
    cases retryable
  | recover running =>
    have running : some row.status = some .running := (statusOf_of_find found).symm.trans running
    rw [succeeded] at running
    cases running

/-- What a statement does to the attempts and the status of a row. -/
theorem Written.attempts (now : String) : ((statement.change now row).attempts = row.attempts ∧
      ((statement.change now row).status = .running ∨ (statement.change now row).status = .succeeded →
        row.status = .running ∨ row.status = .succeeded)) ∨
    ((statement.change now row).attempts = row.attempts + 1 ∧ Ready shared.tasks row) := by
  cases written with
  | claim stored ready =>
    cases stored.symm.trans found
    exact .inr ⟨rfl, ready⟩
  | markBlocked | requeueBlocked | retry =>
    exact .inl ⟨rfl, fun ends => by rcases ends with impossible | impossible <;> cases impossible⟩
  | progress => exact .inl ⟨rfl, fun ends => ends⟩
  | @finish fuel id status percent result error _ finishes same =>
    subst finishes
    exact .inl ⟨rfl, fun _ => .inl (running_of_finish admitted same found)⟩
  | @cancel stored _ _ live =>
    by_cases queued : stored.status = .queued
    · refine .inl ?_
      simp only [Statement.change, queued, decide_true, if_true]
      exact ⟨trivial, fun ends => by rcases ends with impossible | impossible <;> cases impossible⟩
    · refine .inl ?_
      simp only [Statement.change, queued, decide_false, Bool.false_eq_true, if_false]
      exact ⟨trivial, fun ends => ends⟩
  | @recover id cancelled _ running =>
    refine .inl ⟨rfl, fun ends => ?_⟩
    cases cancelled <;> rcases ends with impossible | impossible <;> cases impossible

end

theorem succeeded_kept {id : TaskId} (issued : Issued operation start.1 request shared)
    (succeeded : statusOf shared id = some .succeeded) :
    statusOf (effects env request shared).2 id = some .succeeded := by
  obtain ⟨row, found, status⟩ := Option.map_eq_some_iff.mp succeeded
  obtain same | ⟨input, tasks, -, inserted, same⟩ | ⟨statement, asked, same⟩ :=
    tasks_cases env request shared
  · rw [statusOf_congr same]
    exact succeeded
  · rw [statusOf, same, Table.find?_insert_of_found inserted found]
    exact congrArg some status
  rw [statusOf, same]
  rcases statement.find?_execute env.timestamp found with kept | ⟨rfl, holds, -⟩
  · rw [kept]
    exact congrArg some status
  · exact absurd status ((issued.written asked).not_succeeded admitted found holds)

theorem Chained.kept (chained : Chained chain state) (begun : Chained chain start)
    (issued : TimedIssued steadyClock operation start request state)
    (passed : steadyClock request (some env) state = true)
    (turn : inTurn chain request state = true) : Chained chain (timed env request state).2 where
  inOrder := chained.inOrder.kept begun.inOrder issued passed
  named := chained.named.kept issued.1
  linked := by
    refine grown_kept chained.linked issued.1 ?_
    rintro configured enqueued input rfl accepted ofChain
    exact waitsForLast_admitted chained.inOrder.ordered accepted turn ofChain
  policy id row found ofChain := by
    obtain stored | ⟨input, rfl, -, rfl⟩ | ⟨statement, old, -, rfl, stored, -, rfl⟩ := row_effects found
    · exact chained.policy id row stored ofChain
    · have ofChain : input.chainId = chain := ofChain
      simp only [inTurn, ofChain, ne_eq, not_true_eq_false, decide_false, Bool.false_or,
        Bool.and_eq_true, decide_eq_true_eq] at turn
      exact turn.1
    · have same := statement.identity_change env.timestamp old
      exact (congrArg TaskIdentity.dependencyPolicy same).trans
        (chained.policy _ old stored ((congrArg TaskIdentity.chainId same).symm.trans ofChain))
  started id row found := by
    obtain stored | ⟨input, -, -, rfl⟩ | ⟨statement, old, asked, rfl, stored, holds, rfl⟩ :=
      row_effects found
    · exact chained.started id row stored
    · refine ⟨Int.le_refl 0, fun ends => ?_⟩
      rcases ends with impossible | impossible <;> cases impossible
    obtain ⟨counted, ended⟩ := chained.started _ old stored
    rcases (issued.1.written asked).attempts admitted stored holds env.timestamp with
      ⟨same, ends⟩ | ⟨more, -⟩
    · rw [same]
      exact ⟨counted, fun now => ended (ends now)⟩
    · exact ⟨by omega, fun _ => by omega⟩
  waited id row found ofChain started depends := by
    have kept : ∀ {other : TaskId}, statusOf state.1 other = some .succeeded →
        statusOf (timed env request state).2.1 other = some .succeeded :=
      fun succeeded => succeeded_kept admitted issued.1 succeeded
    obtain stored | ⟨input, -, -, rfl⟩ | ⟨statement, old, asked, rfl, stored, holds, rfl⟩ :=
      row_effects found
    · exact kept (chained.waited id row stored ofChain started depends)
    · exact absurd started (Int.lt_irrefl 0)
    have identity := statement.identity_change env.timestamp old
    have ofChain : old.chainId = chain :=
      (congrArg TaskIdentity.chainId identity).symm.trans ofChain
    have same : (statement.change env.timestamp old).dependsOnTaskId = old.dependsOnTaskId :=
      congrArg TaskIdentity.dependsOnTaskId identity
    rw [same] at depends ⊢
    rcases (issued.1.written asked).attempts admitted stored holds env.timestamp with
      ⟨counted, -⟩ | ⟨-, blank | ⟨-, dependency, present, -, -, -, status⟩⟩
    · exact kept (chained.waited _ old stored ofChain (counted ▸ started) depends)
    · -- a blank dependency is an empty one
      have listed : TaskTable.identity? state.1.tasks statement.target = some old.identity := by
        rw [TaskTable.identity?, stored]
        rfl
      exact absurd ((chained.named _ _ listed).2 blank) depends
    · rw [chained.policy _ old stored ofChain] at status
      exact kept ((statusOf_of_find present).trans (congrArg some status))

end

/-- The queue in which the tasks of this chain take their turn. -/
def serialService (chain : String) :
    Service Timed Operation Env Call Call.Reply (Option ProductionTask) where
  effects := timed
  program := Operation.program
  admissible := finishesRunning
  check request env state := steadyClock request env state && inTurn chain request state

theorem chained_reachable {chain : String} {began : Nat} (millis : IsMillis began)
    (reached : (serialService chain).Reachable (emptyQueue, began) state) : Chained chain state := by
  have starts : Chained chain (emptyQueue, began) :=
    { inOrder := ⟨millis, fun _ mem => (List.not_mem_nil mem).elim, .nil⟩
      named := nofun
      linked := .nil
      policy := fun _ _ => nofun
      started := fun _ _ => nofun
      waited := fun _ _ => nofun }
  refine Service.reachable_kept starts (fun operation start => operation_issues_timed operation
    (serialService chain).check start) ?_ reached
  intro operation start request env state admitted begun issued passed chained
  obtain ⟨steady, turn⟩ := Bool.and_eq_true_iff.mp passed
  exact Chained.kept admitted chained begun (issued.steady fun request env state passed =>
    (steadyClock_some (Bool.and_eq_true_iff.mp passed).1).1) steady turn

/-! ## The tasks of a chain run one after the other -/

/-- Of two tasks of one chain, the one that was stored later has not been claimed before the other one
has succeeded. -/
def Serial (earlier later : ProductionTask) : Prop :=
  earlier.chainId = later.chainId → ¬Blank later.chainId → 0 < later.attempts →
    earlier.status = .succeeded

/-- Each task of the chain waits for the last one, which has waited for the others. -/
theorem serial_of_linked {chain : String} {rows : List ProductionTask}
    (linked : Grown (fun front task => task.chainId = chain → WaitsForLast front task)
      (rows.map (·.identity)))
    (started : ∀ row ∈ rows, row.status = .succeeded → 0 < row.attempts)
    (waited : ∀ row ∈ rows, ∀ dependency ∈ rows, row.chainId = chain →
      row.dependsOnTaskId = dependency.id → 0 < row.attempts → dependency.status = .succeeded) :
    rows.Pairwise fun earlier later => later.chainId = chain → Serial earlier later := by
  induction rows using List.reverseRecOn with
  | nil => exact .nil
  | append_singleton rows row ih =>
    rw [List.map_append] at linked
    obtain ⟨front, fits⟩ := linked.front
    have inFront : ∀ {other}, other ∈ rows → other ∈ rows ++ [row] :=
      fun mem => List.mem_append_left _ mem
    have others := ih front (fun other mem => started other (inFront mem))
      fun other mem dependency present => waited other (inFront mem) dependency (inFront present)
    rw [List.pairwise_append]
    refine ⟨others, List.pairwise_singleton _ _, ?_⟩
    intro earlier mem last only
    rw [List.mem_singleton.mp only]
    intro ofThis sameChain named claimed
    -- the tasks of the chain in front of this one, with the last of them split off
    have inChain : earlier ∈ rows.filter (·.chainId = row.chainId) :=
      List.mem_filter.mpr ⟨mem, decide_eq_true sameChain⟩
    obtain ⟨before, previous, parts⟩ : ∃ before previous,
        rows.filter (·.chainId = row.chainId) = before ++ [previous] := by
      rcases List.eq_nil_or_concat (rows.filter (·.chainId = row.chainId)) with none | ⟨_, _, some⟩
      · rw [none] at inChain
        cases inChain
      · exact ⟨_, _, some.trans List.concat_eq_append⟩
    have ofChain : previous ∈ rows ∧ previous.chainId = row.chainId := by
      have mem : previous ∈ rows.filter (·.chainId = row.chainId) := by
        rw [parts]
        exact List.mem_append_right _ (List.mem_singleton_self _)
      simpa using mem
    have depends : row.dependsOnTaskId = previous.id := by
      have waits : row.dependsOnTaskId = _ := fits ofThis named
      rw [List.filter_map] at waits
      have last : (rows.filter (·.chainId = row.chainId)).getLast? = some previous := by
        rw [parts, List.getLast?_concat]
      rw [waits, List.getLast?_map]
      show ((Option.map _ ((rows.filter (·.chainId = row.chainId)).getLast?)).map _).getD "" = _
      rw [last]
      rfl
    have succeeded := waited row (List.mem_append_right _ (List.mem_singleton_self _)) previous
      (inFront ofChain.1) ofThis depends claimed
    rw [parts] at inChain
    rcases List.mem_append.mp inChain with ahead | same
    · -- the previous task has been claimed, so this one has succeeded before it
      have ordered := others.sublist
        (List.filter_sublist : (rows.filter (·.chainId = row.chainId)).Sublist rows)
      rw [parts, List.pairwise_append] at ordered
      apply ordered.2.2 earlier ahead previous (List.mem_singleton_self _)
      · rw [ofChain.2, ofThis]
      · rw [sameChain, ofChain.2]
      · rw [ofChain.2]
        exact named
      · exact started previous (inFront ofChain.1) succeeded
    · rw [List.mem_singleton.mp same]
      exact succeeded

theorem Chained.serial {chain : String} (chained : Chained chain state) :
    state.1.tasks.rows.Pairwise fun earlier later => later.chainId = chain → Serial earlier later := by
  apply serial_of_linked chained.linked
  · intro row mem succeeded
    exact (chained.started row.id row (Table.mem_rows_iff.mp mem)).2 (.inr succeeded)
  intro row mem dependency present ofChain depends claimed
  have stored := Table.mem_rows_iff.mp present
  have visible : ¬Blank dependency.id := by
    refine (chained.named dependency.id dependency.identity ?_).1
    rw [TaskTable.identity?, stored]
    rfl
  have succeeded := chained.waited row.id row (Table.mem_rows_iff.mp mem) ofChain claimed (by
    rintro empty
    rw [← depends, empty] at visible
    exact visible rfl)
  rw [depends, statusOf_of_find stored] at succeeded
  exact Option.some.inj succeeded

/-- In every run a task depends on a task of the same chain, session and material that was stored
before it, and no task depends on itself through others.  In every run with a steady clock in which
the tasks of a chain take their turn, no task of it is claimed before the tasks in front of it in the
chain have succeeded. -/
theorem chains_serial {shared : Shared} {chain : String} {began : Nat} {state : Timed}
    (reached : taskService.Reachable emptyQueue shared) (millis : IsMillis began)
    (turned : (serialService chain).Reachable (emptyQueue, began) state) :
    (∀ front row back, shared.tasks.rows = front ++ row :: back → row.dependsOnTaskId ≠ "" →
      ∃ dependency ∈ front, dependency.id = row.dependsOnTaskId ∧
        dependency.chainId = row.chainId ∧ dependency.sessionId = row.sessionId ∧
        dependency.materialId = row.materialId) ∧
    (∀ task, ¬Relation.TransGen (DependsOn shared.tasks) task task) ∧
    state.1.tasks.rows.Pairwise fun earlier later =>
      later.chainId = chain → Serial earlier later := by
  have backwards := backwards_reachable reached
  exact ⟨fun _ _ _ rows depends => earlier_of_grown backwards rows depends,
    acyclic_of_grown backwards, (chained_reachable millis turned).serial⟩

/-- An enqueue of the given kind for the session. -/
def enqueueKind (kind session : String) : Operation :=
  .enqueue none (some (.obj [("kind", .str kind),
    ("payload", .obj [("materialId", .str session), ("sessionId", .str session)])])) "operator"

/-- The task with the given number, finished by the worker. -/
def finishNumber (sequence : Nat) (status : TaskStatus) : Operation :=
  .finish 4 (taskName 1700000000000 sequence) status 100 "" ""

def steadyScript : List Env := List.replicate 32 { now := 1700000000000 }

/-- An event and two captures of one session, one after the other, while another chain has an event
after a capture. -/
theorem captures_serial : ∃ state,
    (serialService "S-7").Reachable (emptyQueue, 1700000000000) state ∧
      state.1.tasks.rows.map (fun row => (row.kind, row.chainId, row.attempts)) =
        [(.triggerEvent, "S-7", 1), (.captureOnce, "S-7", 1), (.captureOnce, "S-8", 0),
          (.triggerEvent, "S-8", 0), (.captureOnce, "S-7", 0)] ∧
      state.1.tasks.rows.Pairwise fun earlier later =>
        later.chainId = "S-7" → Serial earlier later := by
  have turned : (serialService "S-7").Reachable (emptyQueue, 1700000000000)
      ((serialService "S-7").run ([enqueueKind "trigger-event" "S-7", enqueueKind "capture" "S-7",
        enqueueKind "capture" "S-8", enqueueKind "trigger-event" "S-8", enqueueKind "capture" "S-7",
        .claim 4, finishNumber 0 .succeeded, .claim 4].map (·, steadyScript))
        (emptyQueue, 1700000000000)) :=
    Service.reachable_run _ .start (by decide +kernel)
  exact ⟨_, turned, by decide +kernel, (chains_serial .start ⟨by decide, by decide⟩ turned).2.2⟩

/-- Enqueues that name no dependency and ask for success. -/
def namesNothing : Operation → Timed → Bool
  | .enqueue _ body _, _ =>
    match checkEnqueueRequest body with
    | .ok request => request.requestedDependencyId.isEmpty && request.dependencyPolicy = .requireSuccess
    | .error _ => true
  | operation, state => finishesRunning operation state

def plainService : Service Timed Operation Env Call Call.Reply (Option ProductionTask) where
  effects := timed
  program := Operation.program
  admissible := namesNothing
  check := steadyClock

/-- A capture, an event and another capture: the second capture waits for the event alone, and is
claimed although the first one has failed. -/
theorem event_breaks_chain :
    ¬∀ began state, IsMillis began → plainService.Reachable (emptyQueue, began) state →
      state.1.tasks.rows.Pairwise Serial := by
  intro serial
  obtain ⟨state, reached, rows⟩ : ∃ state,
      plainService.Reachable (emptyQueue, 1700000000000) state ∧
        state.1.tasks.rows.map (fun row => (row.kind, row.chainId, row.attempts, row.status)) =
          [(.captureOnce, "S-7", 1, .failed), (.triggerEvent, "S-7", 1, .succeeded),
            (.captureOnce, "S-7", 1, .running)] := by
    refine ⟨plainService.run ([enqueueKind "capture" "S-7", enqueueKind "trigger-event" "S-7",
      enqueueKind "capture" "S-7", .claim 4, finishNumber 0 .failed, .claim 4, finishNumber 1 .succeeded,
      .claim 4].map (·, steadyScript)) (emptyQueue, 1700000000000),
      Service.reachable_run plainService .start ?_, ?_⟩ <;> decide +kernel
  have pairs := serial 1700000000000 _ ⟨by decide, by decide⟩ reached
  obtain ⟨first, rest, split, firstColumns, others⟩ := List.map_eq_cons_iff.mp rows
  obtain ⟨event, last, splitRest, -, lastRows⟩ := List.map_eq_cons_iff.mp others
  obtain ⟨second, only, secondColumns⟩ := List.map_eq_singleton_iff.mp lastRows
  simp only [Prod.mk.injEq] at firstColumns secondColumns
  rw [split, splitRest, only] at pairs
  have failed := (List.pairwise_cons.mp pairs).1 second (by simp)
    (firstColumns.2.1.trans secondColumns.2.1.symm)
    (by rw [secondColumns.2.1]; exact not_blank_of_visible rfl rfl)
    (by rw [secondColumns.2.2.1]; decide)
  rw [firstColumns.2.2.2] at failed
  cases failed

end SteelInspection.Tasks
