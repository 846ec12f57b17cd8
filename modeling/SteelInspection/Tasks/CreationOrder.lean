import SteelInspection.Foundations.Decimal
import SteelInspection.Tasks.Admission

/-! # The order in which tasks were created

The queue orders tasks by the text of their creation time and then by their name.  With a clock that
does not go back and shows thirteen digits this is the order in which they were stored: two tasks of
the same millisecond have names that carry the times and numbers in order.
-/

namespace SteelInspection.Tasks

open Foundations

/-! ## Texts -/

/-- Milliseconds since 1970 of the years 2001 to 2286. -/
def IsMillis (now : Nat) : Prop := 1000000000000 ≤ now ∧ now < 10000000000000

theorem IsMillis.toList {now : Nat} (millis : IsMillis now) :
    (toString now).toList = Text.digits 13 now := by
  have lower : 10 ^ 12 ≤ now := millis.1
  exact Text.toList_toString lower millis.2

theorem toList_taskName {now sequence : Nat} (millis : IsMillis now)
    (bound : sequence < 100000000000000000000) : (taskName now sequence).toList =
      "TASK-".toList ++ (Text.digits 13 now ++ ("-".toList ++ Text.digits 20 sequence)) := by
  rw [taskName, String.toList_append, String.toList_append, String.toList_append, millis.toList,
    Text.toList_padDecimal bound (by decide)]
  simp only [List.append_assoc]

/-! ## Rows -/

/-- The order of `ORDER BY created_at, id`. -/
def Precedes (first second : ProductionTask) : Prop :=
  first.createdAt < second.createdAt ∨ (first.createdAt = second.createdAt ∧ first.id < second.id)

theorem latest_eq_getLast? {rows : List ProductionTask} (ordered : rows.Pairwise Precedes) :
    latest rows = rows.getLast? := by
  induction rows with
  | nil => rfl
  | cons row rows ih =>
    obtain ⟨first, others⟩ := List.pairwise_cons.mp ordered
    have later := ih others
    cases rows with
    | nil => rfl
    | cons second rows =>
      rw [List.getLast?_cons_cons, ← later]
      unfold latest
      rw [List.insertionSort_cons]
      have sorts := List.perm_insertionSort (fun first second : ProductionTask =>
        second.createdAt < first.createdAt ∨
          (first.createdAt = second.createdAt ∧ second.id ≤ first.id)) (second :: rows)
      obtain ⟨head, tail, sorted⟩ := List.exists_cons_of_length_pos
        (Nat.lt_of_lt_of_eq (Nat.succ_pos _) sorts.length_eq.symm)
      have mem : head ∈ second :: rows := by
        rw [← sorts.mem_iff, sorted]
        exact List.mem_cons_self
      -- an earlier row goes behind the head
      rw [sorted, List.orderedInsert_cons, if_neg]
      · rfl
      rintro (behind | ⟨same, below⟩)
      · rcases first head mem with before | ⟨equal, -⟩
        · exact String.lt_asymm before behind
        · exact String.lt_irrefl _ (equal ▸ behind)
      · rcases first head mem with before | ⟨-, smaller⟩
        · exact String.lt_irrefl _ (same ▸ before)
        · exact String.not_lt.mpr below smaller

/-! ## Runs with a steady clock -/

/-- The clock does not go back and shows thirteen digits, and the numbers of the names are those of
a 64-bit counter that has not come round. -/
def steadyClock : Check Timed Env Call := fun _ env state =>
  env.all fun env =>
    state.2 ≤ env.now && env.now < 10000000000000 && state.1.sequence < 18446744073709551616

variable {state start : Timed} {input : ProductionTaskInput} {env : Env}

theorem steadyClock_some {request : Call} (passed : steadyClock request (some env) state = true) :
    state.2 ≤ env.now ∧ env.now < 10000000000000 ∧ state.1.sequence < 18446744073709551616 := by
  simpa [steadyClock, and_assoc] using passed

theorem steadyClock_forward : Forward steadyClock :=
  fun _ _ _ passed => (steadyClock_some passed).1

theorem TimedIssued.steady {check : Check Timed Env Call} {operation : Operation} {request : Call}
    (issued : TimedIssued check operation start request state) (forward : Forward check) :
    TimedIssued steadyClock operation start request state := by
  refine ⟨issued.1, fun input isInsert => ?_⟩
  obtain ⟨now, sequence, name, lower, upper, read, since⟩ := issued.2 input isInsert
  exact ⟨now, sequence, name, lower, upper, read, fun _ => since forward⟩

/-- When a row was named and when it was stored. -/
def Stamped (state : Timed) (row : ProductionTask) : Prop :=
  ∃ now sequence created, row.id = taskName now sequence ∧ row.createdAt = toString created ∧
    now ≤ created ∧ created ≤ state.2 ∧ sequence < state.1.sequence ∧ IsMillis now ∧
    IsMillis created ∧ sequence < 100000000000000000000

theorem Stamped.later {after : Timed} {row next : ProductionTask} (stamped : Stamped state row)
    (sequence : state.1.sequence ≤ after.1.sequence) (clock : state.2 ≤ after.2)
    (id : next.id = row.id) (createdAt : next.createdAt = row.createdAt) : Stamped after next := by
  obtain ⟨now, number, created, name, text, named, past, numbered, rest⟩ := stamped
  exact ⟨now, number, created, id.trans name, createdAt.trans text, named,
    Nat.le_trans past clock, Nat.lt_of_lt_of_le numbered sequence, rest⟩

/-- The rows stand in the order in which they were created. -/
structure InOrder (state : Timed) : Prop where
  clock : IsMillis state.2
  stamped : ∀ row ∈ state.1.tasks.rows, Stamped state row
  ordered : state.1.tasks.rows.Pairwise Precedes

theorem Statement.id_apply (statement : Statement) (now : String) (row : ProductionTask) :
    (statement.apply now row).id = row.id := congrArg TaskIdentity.id (statement.identity_apply now row)

theorem ordered_execute {statement : Statement} {now : String} {tasks : TaskTable}
    (ordered : tasks.rows.Pairwise Precedes) :
    (statement.execute now tasks).rows.Pairwise Precedes := by
  rw [statement.rows_execute, List.pairwise_map]
  refine ordered.imp fun {first second} precedes => ?_
  simp only [Precedes, statement.createdAt_apply, statement.id_apply]
  exact precedes

/-- A task that is stored now comes after every task that was there when its name was made. -/
theorem precedes_new {row : ProductionTask} {created : Nat} (stamped : Stamped start row)
    (begun : IsMillis start.2) (dated : Dated steadyClock start input.id state)
    (past : state.2 ≤ created) (millis : IsMillis created)
    (numbers : state.1.sequence < 18446744073709551616) :
    Precedes row (input.row (toString created)) := by
  obtain ⟨named, number, stored, name, text, before, earlier, numbered, rowMillis, storedMillis,
    small⟩ := stamped
  obtain ⟨now, sequence, newName, lower, upper, read, forward⟩ := dated
  have since := forward steadyClock_forward
  by_cases older : stored < created
  · refine .inl ?_
    show row.createdAt < toString created
    rw [text, String.lt_iff, storedMillis.toList, millis.toList]
    exact Text.digits_lt older millis.2
  -- the same millisecond: the names carry the order
  have same : stored = created := by omega
  have nowMillis : IsMillis now := ⟨Nat.le_trans begun.1 since, by have := millis.2; omega⟩
  refine .inr ⟨by rw [text, same]; rfl, ?_⟩
  show row.id < input.id
  have bound : sequence < 100000000000000000000 := by omega
  rw [name, newName, String.lt_iff, toList_taskName rowMillis small, toList_taskName nowMillis bound]
  apply List.append_left_lt
  rcases (by omega : named < now ∨ named = now ∧ number < sequence) with earlier | ⟨rfl, smaller⟩
  · exact Text.append_lt_append _ _ (by simp) (Text.digits_lt earlier nowMillis.2)
  · exact List.append_left_lt (List.append_left_lt (Text.digits_lt smaller bound))

theorem InOrder.insert {tasks : TaskTable} (inOrder : InOrder state) (begun : InOrder start)
    (same : state.1.tasks = start.1.tasks) (dated : Dated steadyClock start input.id state)
    (passed : steadyClock (.insert input) (some env) state = true)
    (inserted : state.1.tasks.insert (input.row env.timestamp) = some tasks)
    (effect : (effects env (.insert input) state.1).2.tasks = tasks) :
    InOrder (timed env (.insert input) state).2 := by
  obtain ⟨past, digits, numbers⟩ := steadyClock_some passed
  have millis : IsMillis env.now := ⟨Nat.le_trans inOrder.clock.1 past, digits⟩
  have clock : max state.2 env.now = env.now := Nat.max_eq_right past
  have rows : (timed env (.insert input) state).2.1.tasks.rows =
      state.1.tasks.rows ++ [input.row env.timestamp] := by
    show (effects env (.insert input) state.1).2.tasks.rows = _
    rw [effect, Table.rows_insert inserted]
  have new : Stamped (timed env (.insert input) state).2 (input.row env.timestamp) := by
    obtain ⟨now, sequence, name, lower, upper, read, forward⟩ := dated
    have since := forward steadyClock_forward
    have small := sequence_effects env (.insert input) state.1
    have begunMillis := begun.clock.1
    refine ⟨now, sequence, env.now, name, rfl, Nat.le_trans read past, Nat.le_max_right _ _,
      Nat.lt_of_lt_of_le upper small, ⟨by omega, by omega⟩, millis, by omega⟩
  refine ⟨?_, ?_, ?_⟩
  · show IsMillis (max state.2 env.now)
    rw [clock]
    exact millis
  · rw [rows]
    intro row mem
    rcases List.mem_append.mp mem with old | last
    · exact (inOrder.stamped row old).later (sequence_effects _ _ _) (Nat.le_max_left _ _) rfl rfl
    · rw [List.mem_singleton.mp last]
      exact new
  · rw [rows, List.pairwise_append]
    refine ⟨inOrder.ordered, List.pairwise_singleton _ _, ?_⟩
    intro row old other last
    rw [List.mem_singleton.mp last]
    rw [same] at old
    exact precedes_new (begun.stamped row old) begun.clock dated past millis numbers

theorem InOrder.kept {operation : Operation} {request : Call} (inOrder : InOrder state)
    (begun : InOrder start) (issued : TimedIssued steadyClock operation start request state)
    (passed : steadyClock request (some env) state = true) :
    InOrder (timed env request state).2 := by
  obtain ⟨past, digits, -⟩ := steadyClock_some passed
  have clock : IsMillis (max state.2 env.now) := by
    have lower := inOrder.clock.1
    exact ⟨by omega, by omega⟩
  obtain same | ⟨input, tasks, rfl, inserted, effect⟩ | ⟨statement, -, same⟩ :=
    tasks_cases env request state.1
  · have rows : (timed env request state).2.1.tasks = state.1.tasks := same
    refine ⟨clock, ?_, by rw [rows]; exact inOrder.ordered⟩
    rw [rows]
    exact fun row mem => (inOrder.stamped row mem).later (sequence_effects _ _ _)
      (Nat.le_max_left _ _) rfl rfl
  · cases issued.1 with
    | quiet leaves => exact leaves.elim
    | insert _ _ unchanged _ =>
      exact inOrder.insert begun unchanged (issued.2 input rfl) passed inserted effect
  · have rows : (timed env request state).2.1.tasks = statement.execute env.timestamp state.1.tasks :=
      same
    refine ⟨clock, ?_, by rw [rows]; exact ordered_execute inOrder.ordered⟩
    rw [rows, statement.rows_execute]
    intro row mem
    obtain ⟨old, stored, rfl⟩ := List.mem_map.mp mem
    exact (inOrder.stamped old stored).later (sequence_effects _ _ _) (Nat.le_max_left _ _)
      (statement.id_apply _ old) (statement.createdAt_apply _ old)

end SteelInspection.Tasks
