import SteelInspection.Modes.Watching

/-! # The mode a service is started in

A tick that finds a new mode stops the services, records the mode, and then starts what is to run.
When one of the stops fails it gives up before it has adopted the mode, and still starts services in
the old one.
-/

namespace SteelInspection.Modes

open Foundations

/-- A process is started only when the supervisor has found a mode since it last asked whether a
transition holds, and since then none of its steps to that mode has failed and no file was replaced
beside it. -/
def startsFresh (request : Call) (shared : Shared) : Bool :=
  match request with
  | .spawnProcess _ _ => shared.fresh && shared.memory.found.isSome
  | _ => true

def startingRules (config : Config) : Rules Shared Thread Env Call Call.Reply Unit :=
  (modeRules config).assuming fun _ request shared => startsFresh request shared = true

theorem spawned_of_execute {thread : Thread} {env : Env} {request : Call} {shared after : Shared}
    {reply : request.Reply} (ran : execute thread env request shared = some (reply, after)) :
    after.spawned = shared.spawned ∨
      ∃ run service mode, thread = .supervisor run ∧ request = .spawnProcess service mode ∧
        after.spawned = ⟨service, mode, shared.profile.mode⟩ :: shared.spawned := by
  cases request with
  | spawnProcess service mode =>
    cases thread with
    | supervisor run =>
      simp only [execute] at ran
      repeat' split at ran
      all_goals cases ran
      · exact .inl rfl
      · exact .inr ⟨run, service, mode, rfl, rfl, rfl⟩
    | _ => cases ran
  | _ =>
    left
    simp only [execute] at ran
    repeat' split at ran
    all_goals cases ran <;> rfl

section Runs

variable {config : Config} {machine : Machine Shared Thread Call Call.Reply Unit}

/-- In every run in which services are started only by a supervisor whose look at the files is still
good, each is given the mode of the active profile. -/
theorem started_in_active_mode (reached : (startingRules config).Reachable machine) :
    ∀ spawn ∈ machine.shared.spawned, spawn.passed = some spawn.active := by
  refine reached.invariant (fun shared => ∀ spawn ∈ shared.spawned, spawn.passed = some spawn.active)
    ?_ ?_
  · intro shared initial spawn member
    rw [initial.spawned] at member
    cases member
  intro machine reached before thread env request reply after next calm executed
  obtain ⟨alive, executed⟩ := execute_of_semantics executed
  obtain same | ⟨run, service, mode, rfl, rfl, recorded⟩ := spawned_of_execute executed
  · rwa [same]
  have now : machine.shared.supervisorRun = run := by simpa [Shared.alive] using alive
  have fresh := Bool.and_eq_true_iff.mp calm.2
  have active : mode = some machine.shared.profile.mode :=
    (reachable_watchGood reached.free next).2 now fresh.1 fresh.2
  rw [recorded]
  intro spawn member
  rcases List.mem_cons.mp member with rfl | earlier
  · exact active
  · exact before spawn earlier

end Runs

/-! ## A stop that fails -/

def twoServices : Config where
  sha256 := Profile.settings
  configHash := Profile.settings
  services := [⟨"capture", [], true⟩, ⟨"algorithm", [], true⟩]

def decides (choice : Bool) : Action Thread Env Call Call.Reply Unit :=
  .advance (.supervisor 0) { choice }

/-- The supervisor adopts the mode offline; a save changes it to online, and its release passes; then
the supervisor finds the capture service running and the other one not, and stops the first. -/
def modeChanged (stopFails : Bool) : Schedule :=
  .spawn (.supervisor 0) (loadSupervisor twoServices) :: turns (.supervisor 0) 6 ++
    .spawn (.supervisor 0) (reconcile twoServices) :: turns (.supervisor 0) 6 ++
      [decides false, decides false] ++ turns (.supervisor 0) 5 ++
      [decides false, decides true, decides false] ++
    .spawn .boot (bootService twoServices none) :: turns .boot 3 ++
    .spawn (.save ⟨1, 0⟩) (saveRequest twoServices ⟨1, 0⟩ "operator" (some ⟨.online, "online"⟩)) ::
      turns (.save ⟨1, 0⟩) 23 ++
    .spawn .world (ask (.pass 5000)) :: turns .world 1 ++
    .spawn (.supervisor 0) (reconcile twoServices) :: turns (.supervisor 0) 8 ++
      [decides true, .advance (.supervisor 0) { fault := stopFails }, decides false]

/-- The capture service could not be stopped; the other one is started in the old mode. -/
theorem started_in_old_mode :
    ¬ ∀ (config : Config) machine,
      (modeRules config).Reachable machine →
        ∀ spawn ∈ machine.shared.spawned, spawn.passed = some spawn.active := by
  intro claimed
  obtain ⟨machine, reached, spawned⟩ : ∃ machine, (modeRules twoServices).Reachable machine ∧
      machine.shared.spawned = [⟨"algorithm", some .offline, .online⟩] :=
    Rules.exists_reachable (fun _ _ _ => true) freshShared
      (modeChanged true ++ (turns (.supervisor 0) 1 ++ decides false :: turns (.supervisor 0) 5))
      (fun _ _ _ _ => trivial) freshShared_initial
      (by repeat' constructor) (by decide +kernel)
  have same := claimed twoServices machine reached ⟨"algorithm", some .offline, .online⟩
    (by rw [spawned]; exact List.mem_cons_self)
  cases same

/-- Both stops succeed, the marker is promoted, and the capture service is started in the new mode. -/
theorem started_in_new_mode : ∃ machine, (startingRules twoServices).Reachable machine ∧
      machine.shared.spawned = [⟨"capture", some .online, .online⟩] ∧
      ∀ spawn ∈ machine.shared.spawned, spawn.passed = some spawn.active := by
  obtain ⟨machine, reached, spawned⟩ : ∃ machine, (startingRules twoServices).Reachable machine ∧
      machine.shared.spawned = [⟨"capture", some .online, .online⟩] :=
    Rules.exists_reachable (fun _ => startsFresh) freshShared
      (modeChanged false ++ turns (.supervisor 0) 12) (fun _ _ _ passed => ⟨trivial, passed⟩)
      freshShared_initial (by repeat' constructor)
      (by decide +kernel)
  exact ⟨machine, reached, spawned, started_in_active_mode reached⟩

end SteelInspection.Modes
