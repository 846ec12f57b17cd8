import SteelInspection.Tasks.Admission

/-! # Dependencies are met when a task is handed out

`claim_next_production_task` looks at the dependency itself, right before it claims, so what counts
is that the row it hands out is the row it looked at: none of the statements changes the identity of
a task, and enqueue stores no dependency that the claim would take for none.
-/

namespace SteelInspection.Tasks

open Foundations

/-! ## Names -/

/-- Tasks have names, and a dependency that is blank is no dependency. -/
def WellNamed (shared : Shared) : Prop :=
  ∀ id identity, TaskTable.identity? shared.tasks id = some identity →
    ¬Blank id ∧ (Blank identity.dependsOnTaskId → identity.dependsOnTaskId = "")

theorem not_blank_taskName (now sequence : Nat) : ¬Blank (taskName now sequence) := by
  have characters : (taskName now sequence).toList =
      'T' :: (['A', 'S', 'K', '-'] ++ (toString now ++ "-" ++ Text.padDecimal 20 sequence).toList) := by
    simp [taskName]
  exact not_blank_of_visible characters rfl

theorem WellNamed.insert {capacity : Nat} {request : EnqueueRequest} {input : ProductionTaskInput}
    {shared after : Shared} {tasks : TaskTable} {now : String} (named : WellNamed shared)
    (admitted : Admitted capacity request input shared.tasks)
    (inserted : shared.tasks.insert (input.row now) = some tasks) (same : after.tasks = tasks) :
    WellNamed after := by
  intro id identity found
  rw [same, TaskTable.identity?, Table.find?_insert inserted] at found
  split at found
  next new =>
    cases found
    obtain ⟨time, sequence, name⟩ := admitted.named
    have visible : ¬Blank input.id := name ▸ not_blank_taskName time sequence
    refine ⟨new ▸ visible, fun blank => ?_⟩
    obtain none | ⟨dependency, stored, -⟩ := admitted.depends
    · exact none
    -- the dependency is a task, and tasks have names
    have listed : TaskTable.identity? shared.tasks input.dependsOnTaskId = some dependency.identity := by
      rw [TaskTable.identity?, stored]
      rfl
    exact absurd blank (named _ _ listed).1
  · exact named id identity found

theorem WellNamed.kept {operation : Operation} {start shared : Shared} {request : Call} {env : Env}
    (named : WellNamed shared) (issued : Issued operation start request shared) :
    WellNamed (effects env request shared).2 := by
  by_cases inserts : ∃ input, request = .insert input
  · obtain ⟨input, rfl⟩ := inserts
    obtain same | ⟨other, tasks, asked, inserted, same⟩ | ⟨_, impossible | impossible, -⟩ :=
      tasks_cases env (.insert input) shared
    · intro id identity found
      rw [same] at found
      exact named id identity found
    · cases asked
      cases issued with
      | quiet leaves => exact leaves.elim
      | insert _ _ _ admitted => exact named.insert admitted inserted same
    · cases impossible
    · cases impossible
  · intro id identity found
    rw [identity?_effects fun input asked => inserts ⟨input, asked⟩] at found
    exact named id identity found

/-! ## Every run -/

/-- In every run from an empty queue, a task that the claim hands to the worker and that depends on
another one has that dependency met at that moment. -/
theorem claimed_dependency_met {shared : Shared} (reached : taskService.Reachable emptyQueue shared)
    (fuel : Nat) (script : List Env) {task : ProductionTask}
    (claimed : (taskService.session (.claim fuel) script shared).1 = some (some task))
    (depends : task.dependsOnTaskId ≠ "") :
    DependencyMet (taskService.session (.claim fuel) script shared).2.tasks task := by
  have starts : WellNamed emptyQueue := nofun
  obtain ⟨named, ready⟩ := Service.reachable_answer starts
    (Service.ensured_of_issues (fun operation start => operation_issues operation _ start)
      fun _ _ issued _ named => named.kept issued) reached
    ⟨rfl, Program.passes_of_always (fun _ _ _ => rfl) _ script shared⟩ claimed
  obtain ⟨stored, blank | ⟨-, met⟩⟩ := ready task rfl
  · -- a blank dependency is an empty one
    have listed : TaskTable.identity? (taskService.session (.claim fuel) script shared).2.tasks task.id =
        some task.identity := by
      rw [TaskTable.identity?, stored]
      rfl
    exact absurd ((named _ _ listed).2 blank) depends
  · exact met

/-- Two captures of one session: the second waits for the first. -/
def twoCaptures : List (Operation × List Env) :=
  let calls : List Env := List.replicate 32 { now := 100 }
  [(.enqueue none captureBody "operator", calls), (.enqueue none captureBody "operator", calls),
    (.claim 4, calls), (.finish 4 "TASK-100-00000000000000000000" .succeeded 100 "" "", calls)]

theorem twoCaptures_dependency_met : ∃ task, (taskService.session (.claim 4) (List.replicate 32 {})
        (taskService.run twoCaptures emptyQueue)).1 = some (some task) ∧
      task.dependsOnTaskId = "TASK-100-00000000000000000000" ∧
      DependencyMet (taskService.session (.claim 4) (List.replicate 32 {})
        (taskService.run twoCaptures emptyQueue)).2.tasks task := by
  have reached : taskService.Reachable emptyQueue (taskService.run twoCaptures emptyQueue) :=
    Service.reachable_run taskService .start (by decide +kernel)
  have handed : ((taskService.session (.claim 4) (List.replicate 32 {})
      (taskService.run twoCaptures emptyQueue)).1.map fun outcome =>
        outcome.map (·.dependsOnTaskId)) = some (some "TASK-100-00000000000000000000") := by
    decide +kernel
  obtain ⟨outcome, answered, some'⟩ := Option.map_eq_some_iff.mp handed
  obtain ⟨task, rfl, depends⟩ := Option.map_eq_some_iff.mp some'
  refine ⟨task, answered, depends, ?_⟩
  apply claimed_dependency_met reached 4 _ answered
  rw [depends]
  decide

end SteelInspection.Tasks
