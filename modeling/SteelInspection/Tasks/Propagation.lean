import SteelInspection.Foundations.Worklist
import SteelInspection.Tasks.Operations

/-! # Failures along dependencies

The failure of a task is passed on to the tasks that wait for it, and theirs to those that wait for
them.  The loop over the frontier has no other note of what was visited than the status that it
rewrites itself.
-/

namespace SteelInspection.Tasks

open Foundations Relation

/-! ## Running alone on a database that answers -/

def Env.answers (env : Env) : Bool :=
  match env.connection with
  | .works => true
  | _ => false

def answering : Check Shared Env Call := fun _ env _ => env.any Env.answers

theorem works_of_answers {env : Env} (answers : env.answers = true) : env.connection = .works := by
  unfold Env.answers at answers
  split at answers
  · assumption
  · cases answers

/-- The code comes to its end and is answered with a value as described. -/
abbrev Yields {β : Type} (post : β → TaskTable → Prop) (program : Db β) (shared : Shared) : Prop :=
  program.run.Ensures effects answering (fun _ => False)
    (fun outcome after => ∃ value, outcome = .ok value ∧ post value after.tasks) shared

section Rules

variable {β γ : Type} {post : β → TaskTable → Prop} {last : γ → TaskTable → Prop} {shared : Shared}

theorem Yields.pure {value : β} (holds : post value shared.tasks) :
    Yields post (Pure.pure value : Db β) shared :=
  Program.Walks.pure ⟨value, rfl, holds⟩

theorem Yields.bind {program : Db β} {next : β → Db γ} (yields : Yields post program shared)
    (continues : ∀ value after, post value after.tasks → Yields last (next value) after) :
    Yields last (program >>= next) shared := by
  refine Program.Walks.attempt yields ?_ ?_
  · rintro value after ⟨_, same, holds⟩
    cases same
    exact continues value after holds
  · rintro error after ⟨_, impossible, -⟩
    cases impossible

theorem find_yields (id : TaskId) (shared : Shared) :
    Yields (fun found tasks => found = shared.tasks.find? id ∧ tasks = shared.tasks)
      (findProductionTask id) shared := by
  refine .ask (Call.find id) (by simp [answering]) fun env answers => ?_
  refine ⟨shared.tasks.find? id, ?_, rfl, ?_⟩ <;>
    simp [effects, semantics, works_of_answers answers, Connection.query, Shared.unlocked]

theorem execute_yields (statement : Statement) (shared : Shared) :
    Yields (fun affected tasks => affected = shared.tasks.affected statement.condition ∧
      ∃ now, tasks = statement.execute now shared.tasks) (execute statement) shared := by
  refine .ask (Call.execute statement) (by simp [answering]) fun env answers => ?_
  refine ⟨shared.tasks.affected statement.condition, ?_, rfl, env.timestamp, ?_⟩ <;>
    simp [effects, semantics, works_of_answers answers, Connection.write, Shared.unlocked]

/-- The answer to an operation that runs alone, and the tasks after it; `clock` is read at every
call. -/
def runAlone (clock : Nat → Nat) (program : Db β) (shared : Shared) :
    Option (Except DbErr β) × TaskTable :=
  let ran := program.run.interpret (Program.supplied effects fun count => { now := clock count })
    (shared, 0)
  (ran.1, ran.2.1.tasks)

theorem Yields.runAlone {program : Db β} (yields : Yields post program shared) (clock : Nat → Nat) :
    ∃ value tasks, runAlone clock program shared = (some (.ok value), tasks) ∧ post value tasks := by
  have answers : ∀ count request state,
      answering request (some { now := clock count }) state = true := fun _ _ _ => rfl
  obtain ⟨outcome, after, ran, value, rfl, holds⟩ := Program.Ensures.supplied answers yields 0
  exact ⟨value, after.1.tasks, by simp [Tasks.runAlone, ran], holds⟩

end Rules

/-! ## The rows that a traversal rewrites -/

/-- Statements of this kind have been executed on these tasks, and on no others. -/
structure Rewritten (allowed : Statement → Prop) (done : List TaskId) (before after : TaskTable) :
    Prop where
  kept : ∀ id ∉ done, after.find? id = before.find? id
  changed : ∀ id ∈ done, ∃ row statement now, before.find? id = some row ∧ allowed statement ∧
    statement.target = id ∧ statement.guard row = true ∧
    after.find? id = some (statement.change now row)

variable {tasks : TaskTable}

section Traversal

variable {allowed : Statement → Prop} {done : List TaskId} {before : TaskTable} {shared : Shared}
  {row : ProductionTask}

theorem Rewritten.refl : Rewritten allowed [] before before :=
  ⟨fun _ _ => rfl, nofun⟩

section

variable {statement : Statement} (rewritten : Rewritten allowed done before tasks)
  (fresh : statement.target ∉ done) (found : before.find? statement.target = some row)
  (guarded : statement.guard row = true)
include rewritten fresh found guarded

theorem Rewritten.execute (allows : allowed statement) (now : String) :
    Rewritten allowed (statement.target :: done) before (statement.execute now tasks) := by
  have present : tasks.find? statement.target = some row := (rewritten.kept _ fresh).trans found
  refine ⟨fun id away => ?_, fun id mem => ?_⟩
  · rw [List.mem_cons, not_or] at away
    exact (Statement.find?_execute_other away.1).trans (rewritten.kept id away.2)
  by_cases same : id = statement.target
  · subst same
    refine ⟨row, statement, now, found, allows, rfl, guarded, ?_⟩
    simp [Statement.find?_execute_target, present, guarded]
  · obtain ⟨old, other, then_, rest⟩ := rewritten.changed id (List.mem_of_ne_of_mem same mem)
    exact ⟨old, other, then_, by rwa [Statement.find?_execute_other same]⟩

theorem Rewritten.affected : tasks.affected statement.condition = 1 := by
  refine Table.affected_of_key (fun other holds => ?_)
    ((rewritten.kept _ fresh).trans found) ?_
  · simp only [Statement.condition, Bool.and_eq_true, decide_eq_true_eq] at holds
    exact holds.1
  · simp [Statement.condition, Table.find?_key found, guarded]

end

/-- An edge to a task whose row meets the condition of the query. -/
def EdgeOf (selected : TaskId → ProductionTask → Bool) (tasks : TaskTable) (parent id : TaskId) :
    Prop :=
  ∃ row, tasks.find? id = some row ∧ selected parent row = true

/-- The loop over the dependents of a task rewrites each of them, and puts it on the frontier. -/
structure Rewrites (allowed : Statement → Prop) (selected : TaskId → ProductionTask → Bool)
    (statement : TaskId → Statement)
    (loop : List ProductionTask → List TaskId → Nat → Db (List TaskId × Nat)) : Prop where
  target : ∀ id, (statement id).target = id
  allows : ∀ id, allowed (statement id)
  guards : ∀ {parent row}, selected parent row = true → (statement row.id).guard row = true
  leaves : ∀ {statement row} now parent, allowed statement →
    selected parent (statement.change now row) = false
  stops : ∀ frontier count, loop [] frontier count = pure (frontier, count)
  turns : ∀ {dependent dependents frontier count shared post},
    (∀ after : Shared, (∃ now, after.tasks = (statement dependent.id).execute now shared.tasks) →
      Yields post (loop dependents (dependent.id :: frontier) (count + 1)) after) →
    shared.tasks.affected (statement dependent.id).condition = 1 →
    Yields post (loop (dependent :: dependents) frontier count) shared

variable {selected : TaskId → ProductionTask → Bool} {statement : TaskId → Statement}
  {loop : List ProductionTask → List TaskId → Nat → Db (List TaskId × Nat)}

/-- What the query finds while the traversal is on its way: rows that are as they were, and all that
are not yet rewritten. -/
theorem Rewrites.select (rewrites : Rewrites allowed selected statement loop)
    (rewritten : Rewritten allowed done before tasks) (parent : TaskId) :
    (∀ row ∈ tasks.select (selected parent), row.id ∉ done ∧ before.find? row.id = some row ∧
      selected parent row = true) ∧ ∀ id, EdgeOf selected before parent id →
      id ∈ done ∨ id ∈ (tasks.select (selected parent)).map ProductionTask.id := by
  refine ⟨fun row mem => ?_, fun id ⟨row, found, holds⟩ => ?_⟩
  · obtain ⟨found, holds⟩ := Table.mem_select_iff.mp mem
    have fresh : row.id ∉ done := by
      intro again
      obtain ⟨old, statement, now, -, allows, -, -, changed⟩ := rewritten.changed row.id again
      rw [Option.some.inj (found.symm.trans changed), rewrites.leaves now parent allows] at holds
      cases holds
    exact ⟨fresh, rewritten.kept _ fresh ▸ found, holds⟩
  · by_cases old : id ∈ done
    · exact .inl old
    · have key := Table.find?_key found
      subst key
      exact .inr (List.mem_map_of_mem
        (Table.mem_select_iff.mpr ⟨(rewritten.kept _ old).trans found, holds⟩))

theorem Rewrites.dependents (rewrites : Rewrites allowed selected statement loop)
    {dependents : List ProductionTask} (distinct : (dependents.map ProductionTask.id).Nodup)
    (waits : ∀ row ∈ dependents, row.id ∉ done ∧ before.find? row.id = some row ∧
      (statement row.id).guard row = true)
    (rewritten : Rewritten allowed done before shared.tasks) (frontier : List TaskId) (count : Nat) :
    Yields (fun outcome tasks =>
        outcome = ((dependents.map ProductionTask.id).reverse ++ frontier, count + dependents.length) ∧
        Rewritten allowed ((dependents.map ProductionTask.id).reverse ++ done) before tasks)
      (loop dependents frontier count) shared := by
  induction dependents generalizing done frontier count shared with
  | nil =>
    rw [rewrites.stops]
    exact .pure ⟨rfl, rewritten⟩
  | cons dependent dependents ih =>
    obtain ⟨fresh, found, guarded⟩ := waits dependent List.mem_cons_self
    rw [List.map_cons, List.nodup_cons] at distinct
    have aim := rewrites.target dependent.id
    rw [← aim] at fresh found
    refine rewrites.turns (fun after executed => ?_) (rewritten.affected fresh found guarded)
    obtain ⟨now, same⟩ := executed
    have next := rewritten.execute fresh found guarded (rewrites.allows dependent.id) now
    rw [aim, ← same] at next
    have later : ∀ row ∈ dependents, row.id ∉ dependent.id :: done ∧
        before.find? row.id = some row ∧ (statement row.id).guard row = true := by
      intro row mem
      obtain ⟨away, rest⟩ := waits row (List.mem_cons_of_mem _ mem)
      refine ⟨fun again => ?_, rest⟩
      rcases List.mem_cons.mp again with same | old
      · exact distinct.1 (same ▸ List.mem_map_of_mem mem)
      · exact away old
    simpa [Nat.add_assoc, Nat.add_comm 1] using
      ih distinct.2 later next (dependent.id :: frontier) (count + 1)

/-- The rest of the loop does what is asked of it, once the tasks that `edge` leads to have been
rewritten and put on the frontier. -/
def GoesOn (allowed : Statement → Prop) (before : TaskTable) (done frontier : List TaskId)
    (edge : TaskId → Prop) (count : Nat) (rest : List TaskId → Nat → Db Nat)
    (post : Nat → TaskTable → Prop) : Prop :=
  ∀ (after : Shared) (fresh : List TaskId), fresh.Nodup → (∀ id ∈ fresh, edge id ∧ id ∉ done) →
    (∀ id, edge id → id ∈ done ∨ id ∈ fresh) → Rewritten allowed (fresh ++ done) before after.tasks →
    Yields post (rest (fresh ++ frontier) (count + fresh.length)) after

variable {parent : TaskId} {frontier : List TaskId} {count : Nat} {post : Nat → TaskTable → Prop}

/-- The loop over the frontier goes on with what the query found. -/
theorem Rewrites.visit (rewrites : Rewrites allowed selected statement loop)
    {rows : List ProductionTask} {rest : List TaskId → Nat → Db Nat}
    (rewritten : Rewritten allowed done before shared.tasks)
    (isRows : rows = shared.tasks.select (selected parent))
    (goesOn : GoesOn allowed before done frontier (EdgeOf selected before parent) count rest post) :
    Yields post (loop rows frontier count >>= fun outcome => rest outcome.1 outcome.2) shared := by
  subst isRows
  obtain ⟨fresh, complete⟩ := rewrites.select rewritten parent
  have distinct := Table.nodup_select shared.tasks (selected parent)
  have loops := rewrites.dependents distinct
    (fun row mem => (fresh row mem).imp_right fun found => ⟨found.1, rewrites.guards found.2⟩)
    rewritten frontier count
  refine loops.bind fun outcome after finished => ?_
  obtain ⟨rfl, executed⟩ := finished
  have goes := goesOn after _ (List.nodup_reverse.mpr distinct) ?_ ?_ executed
  · simpa using goes
  · intro id mem
    obtain ⟨row, chosen, rfl⟩ := List.mem_map.mp (List.mem_reverse.mp mem)
    obtain ⟨away, found, holds⟩ := fresh row chosen
    exact ⟨⟨row, found, holds⟩, away⟩
  · exact fun id leads => (complete id leads).imp_right List.mem_reverse.mpr

/-- The loop over the frontier ends, and has rewritten just what can be reached. -/
theorem frontier_yields {edge : TaskId → TaskId → Prop} {start : TaskId} {all : List TaskId}
    (bounded : ∀ parent id, edge parent id → id ∈ all)
    (loop : Nat → List TaskId → Nat → Db Nat)
    (stops : ∀ fuel count, loop (fuel + 1) [] count = pure count)
    (visits : ∀ {fuel parent frontier done count shared post},
      Rewritten allowed done before shared.tasks →
      GoesOn allowed before done frontier (edge parent) count (loop fuel) post →
      Yields post (loop (fuel + 1) (parent :: frontier) count) shared)
    {fuel : Nat} (traversed : Traversed edge start done frontier)
    (rewritten : Rewritten allowed done before shared.tasks)
    (enough : all.length + frontier.length < fuel + done.length) :
    Yields (fun total tasks => ∃ marked, Traversed edge start marked [] ∧ total = marked.length ∧
      Rewritten allowed marked before tasks) (loop fuel frontier done.length) shared := by
  induction fuel generalizing frontier done shared with
  | zero =>
    have within : done.length ≤ all.length := by
      refine (List.subperm_of_subset traversed.nodup fun id mem => ?_).length_le
      obtain ⟨parent, -, leads⟩ := TransGen.tail'_iff.mp (traversed.reached id mem)
      exact bounded parent id leads
    omega
  | succ fuel ih =>
    cases frontier with
    | nil =>
      rw [stops]
      exact .pure ⟨done, traversed, rfl, rewritten⟩
    | cons parent frontier =>
      refine visits rewritten fun after fresh distinct new complete next => ?_
      have goesOn := ih (traversed.visit distinct new complete) next (by
        simp only [List.length_append, List.length_cons] at enough ⊢
        omega)
      rwa [List.length_append, Nat.add_comm] at goesOn

end Traversal

/-! ## Passing a failure on -/

section Frontiers

variable {before : TaskTable} {fuel count : Nat} {parent : TaskId} {frontier done : List TaskId}
  {shared : Shared} {post : Nat → TaskTable → Prop}

/-- The task waits for the success of its parent. -/
def waitsFor (parent : TaskId) (row : ProductionTask) : Bool :=
  row.dependsOnTaskId = parent && row.dependencyPolicy = .requireSuccess && row.status = .queued

def Blocking (statement : Statement) : Prop := ∃ id reason, statement = .markBlocked id reason

theorem selectDependents_yields (parent : TaskId) (shared : Shared) :
    Yields (fun rows tasks => rows = shared.tasks.select (waitsFor parent) ∧ tasks = shared.tasks)
      (ExceptT.mk (ask (.selectDependents parent))) shared := by
  refine .ask (Call.selectDependents parent) (by simp [answering]) fun env answers => ?_
  refine ⟨shared.tasks.select (waitsFor parent), ?_, rfl, ?_⟩
  · simp only [effects, semantics, works_of_answers answers, Connection.query, Shared.unlocked]
    rfl
  · simp [effects, semantics, works_of_answers answers, Connection.query, Shared.unlocked]

theorem blockDependents_rewrites (reason : String) :
    Rewrites Blocking waitsFor (.markBlocked · reason) (blockDependents reason) where
  target _ := rfl
  allows id := ⟨id, reason, rfl⟩
  guards {parent row} waits := by
    simp only [waitsFor, Bool.and_eq_true, decide_eq_true_eq] at waits
    simp [Statement.guard, waits]
  leaves {statement row} now parent blocking := by
    obtain ⟨id, reason, rfl⟩ := blocking
    simp [waitsFor, Statement.change]
  stops _ _ := rfl
  turns {dependent _ _ _ shared _} goesOn one := by
    have marks : Yields (fun marked tasks => marked = true ∧
        ∃ now, tasks = (Statement.markBlocked dependent.id reason).execute now shared.tasks)
        (markProductionTaskBlocked dependent.id reason) shared :=
      (execute_yields _ shared).bind fun affected after executed =>
        .pure ⟨by simp [executed.1, one], executed.2⟩
    refine marks.bind fun marked after executed => ?_
    rw [executed.1]
    exact goesOn after executed.2

theorem propagateFrontier_visits (rewritten : Rewritten Blocking done before shared.tasks)
    (goesOn : GoesOn Blocking before done frontier (EdgeOf waitsFor before parent) count
      (propagateFrontier fuel) post) :
    Yields post (propagateFrontier (fuel + 1) (parent :: frontier) count) shared := by
  refine (selectDependents_yields parent shared).bind fun dependents chosen select => ?_
  refine (find_yields parent chosen).bind fun parentTask found find => ?_
  have same := find.2.trans select.2
  rw [← same] at rewritten select
  exact (blockDependents_rewrites _).visit rewritten select.1 goesOn

theorem edgeOf_mem {selected : TaskId → ProductionTask → Bool} (parent id : TaskId)
    (leads : EdgeOf selected tasks parent id) : id ∈ tasks.rows.map ProductionTask.id := by
  obtain ⟨row, found, -⟩ := leads
  have key := Table.find?_key found
  subst key
  exact List.mem_map_of_mem (Table.mem_rows_iff.mpr found)

/-- For any rows, with cycles or without: just the tasks that wait for the given one, directly or
through others that wait as well, are blocked and counted. -/
theorem propagation_exact (shared : Shared) (parent : TaskId) :
    ∃ enough, ∀ fuel > enough, ∀ clock, ∃ (blocked : List TaskId) (tasks : TaskTable),
      runAlone clock (propagateProductionTaskDependencyFailure fuel parent) shared =
        (some (.ok blocked.length), tasks) ∧
      blocked.Nodup ∧ (∀ id, id ∈ blocked ↔ TransGen (EdgeOf waitsFor shared.tasks) parent id) ∧
      (∀ id ∈ blocked, ∃ row reason now, shared.tasks.find? id = some row ∧
        tasks.find? id = some ((Statement.markBlocked id reason).change now row)) ∧
      ∀ id ∉ blocked, tasks.find? id = shared.tasks.find? id := by
  refine ⟨shared.tasks.rows.length + 1, fun fuel enough clock => ?_⟩
  obtain ⟨total, tasks, ran, blocked, traversed, rfl, rewritten⟩ :=
    (frontier_yields edgeOf_mem propagateFrontier (fun _ _ => rfl) propagateFrontier_visits
      .start_only .refl (by simpa using enough)).runAlone clock
  refine ⟨blocked, tasks, ran, traversed.nodup, fun id => traversed.mem_done_iff, ?_,
    rewritten.kept⟩
  intro id mem
  obtain ⟨row, statement, now, found, ⟨target, reason, rfl⟩, rfl, -, changed⟩ :=
    rewritten.changed id mem
  exact ⟨row, reason, now, found, changed⟩

end Frontiers

end SteelInspection.Tasks
