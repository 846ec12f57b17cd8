import SteelInspection.Alarms.Operations

/-! # Acknowledgements are kept

The status of an alarm only moves forward, whatever runs beside what: every update names the status
it starts from.  A recovery, however, writes back the acknowledgement it has read earlier, and its
update also takes a row that was acknowledged since.  What the operator has stored is kept in the
runs in which no alarm is acknowledged between the reading and the update of a recovery;
`recovery_overwrites_acknowledgement` is a run in which one is.
-/

namespace SteelInspection.Alarms

open Foundations Discipline

/-- Who has acknowledged the alarm, when and with which note. -/
def ProductionAlarm.acknowledgement (row : ProductionAlarm) : String × String × String :=
  (row.acknowledgedBy, row.acknowledgedAt, row.acknowledgeNote)

/-- Everything about the acknowledgement is given. -/
def ProductionAlarm.Signed (row : ProductionAlarm) : Prop :=
  row.acknowledgedBy ≠ "" ∧ row.acknowledgedAt ≠ "" ∧ row.acknowledgeNote ≠ ""

def ProductionAlarm.Forward (row later : ProductionAlarm) : Prop :=
  row.status.rank ≤ later.status.rank

/-- The status has not gone back, and an acknowledgement is still there. -/
structure ProductionAlarm.KeptBy (row later : ProductionAlarm) : Prop where
  forward : row.Forward later
  acknowledgement : row.status ≠ .active → later.acknowledgement = row.acknowledgement

namespace ProductionAlarm

theorem Forward.not_active {row later : ProductionAlarm} (forward : row.Forward later)
    (notActive : row.status ≠ .active) : later.status ≠ .active := by
  intro active
  unfold Forward at forward
  cases status : row.status <;> simp_all [AlarmStatus.rank]

theorem KeptBy.refl (row : ProductionAlarm) : row.KeptBy row := ⟨Nat.le_refl _, fun _ => rfl⟩

theorem KeptBy.trans {row next last : ProductionAlarm} (first : row.KeptBy next)
    (second : next.KeptBy last) : row.KeptBy last := by
  refine ⟨Nat.le_trans first.forward second.forward, fun notActive => ?_⟩
  rw [second.acknowledgement (first.forward.not_active notActive), first.acknowledgement notActive]

end ProductionAlarm

/-- The alarm is stored, in this version or one that keeps it. -/
def Stored (row : ProductionAlarm) (shared : Shared) : Prop :=
  ∃ later, shared.alarms.find? row.id = some later ∧ row.KeptBy later

/-! ## The rules -/

inductive AlarmOutcome where
  | answered (answer : AlarmAnswer)
  | reconciled (result : Except DbErr ManagedAlarmReconcile)
  | ensured (result : Except DbErr (ProductionAlarm × Bool))

def actionRequest (action : AlarmAction) (body : Option Json) (actor : String) :
    Code AlarmOutcome := do
  let answer ← alarmActionResponse action body actor
  pure (.answered answer)

def monitorPass (source alarmType : String) (active : Option ProductionAlarmInput)
    (actor : String) : Code AlarmOutcome := do
  let result ← (reconcileManagedAlarm source alarmType active actor).run
  pure (.reconciled result)

def alarmOfDefect (input : ProductionAlarmInput) : Code AlarmOutcome := do
  let result ← (ensureProductionAlarm input).run
  pure (.ensured result)

/-- An alarm that a recovery has read as active is not acknowledged when its update runs. -/
def notAcknowledgedSince : Call → Shared → Bool
  | .execute (.recover existing _), shared =>
    decide (existing.status ≠ .active) ||
      (shared.alarms.find? existing.id).all fun row => decide (row.status ≠ .acknowledged)
  | _, _ => true

def AllSigned (shared : Shared) : Prop :=
  ∀ id row, shared.alarms.find? id = some row → row.status = .acknowledged → row.Signed

/-- Operators act under their user id. -/
def alarmRules : Rules Shared Thread Env Call Call.Reply AlarmOutcome where
  semantics := semantics
  handler _ program :=
    (∃ action body actor, actor ≠ "" ∧ program = actionRequest action body actor) ∨
    (∃ source alarmType active actor, program = monitorPass source alarmType active actor) ∨
    ∃ input, program = alarmOfDefect input
  undisturbed _ request shared := notAcknowledgedSince request shared = true
  initial := AllSigned

/-! ## What a call does to a row -/

variable {request : Call} {reply : request.Reply} {shared after : Shared} {env : Env}
  {row : ProductionAlarm}

section

variable (thread : Thread) (ran : semantics thread env request shared = some (reply, after))
include thread ran

/-- Everything a call can do to the table. -/
theorem alarms_after : after.alarms = shared.alarms ∨ (∃ input, request = .insert input ∧
      shared.alarms.insert (input.row env.timestamp) = some after.alarms) ∨
    ∃ statement, request = .execute statement ∧
      after.alarms = statement.execute env.timestamp shared.alarms := by
  cases request with
  | find id | newestOpen source alarmType =>
    exact .inl (by rw [Connection.after_query ran])
  | insert input =>
    simp only [semantics] at ran
    split at ran
    · grind [Connection.after_write]
    · rcases Connection.after_write ran with rfl | rfl <;> exact .inl rfl
  | execute statement =>
    rcases Connection.after_write ran with rfl | rfl
    · exact .inl rfl
    · exact .inr (.inr ⟨statement, rfl, rfl⟩)
  | appendAuditLog entry =>
    rcases Connection.after_write ran with rfl | rfl <;> exact .inl rfl

/-- A row stays related to its later versions when every update keeps it so. -/
theorem persists_after (related : ProductionAlarm → ProductionAlarm → Prop)
    (refl : ∀ row, related row row) {id : String} (found : shared.alarms.find? id = some row)
    (updates : ∀ statement, request = .execute statement → statement.condition row = true →
      related row (statement.change env.timestamp row)) :
    ∃ later, after.alarms.find? id = some later ∧ related row later := by
  obtain same | ⟨input, -, inserted⟩ | ⟨statement, isExecute, written⟩ := alarms_after thread ran
  · exact ⟨row, by rw [same, found], refl row⟩
  · exact ⟨row, Table.find?_insert_of_found inserted found, refl row⟩
  rw [written, Statement.find?_execute, found, Option.map_some]
  refine ⟨_, rfl, ?_⟩
  split
  next holds =>
    exact updates statement isExecute holds
  · exact refl row

end

theorem update_forward (statement : Statement) (now : String)
    (holds : statement.condition row = true) : row.Forward (statement.change now row) := by
  unfold ProductionAlarm.Forward
  cases statement with
  | transition action id actor note =>
    have isBefore : row.status = action.before :=
      of_decide_eq_true (Bool.and_eq_true_iff.mp holds).2
    rw [isBefore]
    cases action <;> simp [Statement.change, AlarmAction.before, AlarmStatus.rank]
  | refresh id input => exact Nat.le_refl _
  | recover existing actor =>
    -- a recovery ends the life of the alarm, so any status before it is all right
    cases row.status <;> simp [Statement.change, AlarmStatus.rank]

/-- What a recovery has read: an acknowledgement is signed, and it is stored. -/
def Recoverable (existing : ProductionAlarm) (shared : Shared) : Prop :=
  existing.status.isOpen = true ∧ (existing.status = .acknowledged → existing.Signed) ∧
    Stored existing shared

/-- When an update may run. -/
def Permitted : Call → Shared → Prop
  | .execute (.transition _ _ actor note), _ => actor ≠ "" ∧ note ≠ ""
  | .execute (.recover existing _), shared => Recoverable existing shared
  | _, _ => True

theorem update_kept {statement : Statement} (now : String)
    (permitted : Permitted (.execute statement) shared)
    (calm : notAcknowledgedSince (.execute statement) shared = true)
    (found : shared.alarms.find? row.id = some row) (holds : statement.condition row = true) :
    row.KeptBy (statement.change now row) := by
  refine ⟨update_forward statement now holds, fun notActive => ?_⟩
  cases statement with
  | transition action id actor note =>
    cases action with
    | acknowledge =>
      have active : row.status = .active := of_decide_eq_true (Bool.and_eq_true_iff.mp holds).2
      exact absurd active notActive
    | resolve => rfl
  | refresh id input => rfl
  | recover existing actor =>
    obtain ⟨sameId, isOpen⟩ : row.id = existing.id ∧ row.status.isOpen = true := by
      simpa [Statement.condition] using holds
    have acknowledged : row.status = .acknowledged := by
      cases status : row.status with
      | active => exact absurd status notActive
      | acknowledged => rfl
      | resolved => simp [status, AlarmStatus.isOpen] at isOpen
    -- so the alarm was not active either when it was read, and the columns are those that were read
    have wasAcknowledged : existing.status = .acknowledged := by
      have read : existing.status ≠ .active := by
        simpa [notAcknowledgedSince, ← sameId, found, acknowledged] using calm
      cases status : existing.status with
      | active => exact absurd status read
      | acknowledged => rfl
      | resolved => simp [Permitted, Recoverable, status, AlarmStatus.isOpen] at permitted
    obtain ⟨-, signed, later, foundLater, kept⟩ := permitted
    obtain ⟨byGiven, atGiven, noteGiven⟩ := signed wasAcknowledged
    have isRow : later = row := by
      rw [← sameId, found] at foundLater
      exact (Option.some.inj foundLater).symm
    have stored := kept.acknowledgement (by simp [wasAcknowledged])
    rw [isRow] at stored
    rw [stored]
    simp [Statement.change, ProductionAlarm.acknowledgement, orIfEmpty, byGiven, atGiven, noteGiven]

/-! ## Rely and guarantee -/

def Rely (shared current : Shared) : Prop := ∀ row, Stored row shared → Stored row current

theorem rely_call (thread : Thread) (permitted : Permitted request shared)
    (calm : notAcknowledgedSince request shared = true)
    (ran : semantics thread env request shared = some (reply, after)) : Rely shared after := by
  rintro row ⟨later, found, kept⟩
  have updates : ∀ statement, request = .execute statement → statement.condition later = true →
      later.KeptBy (statement.change env.timestamp later) := by
    rintro statement rfl holds
    exact update_kept env.timestamp permitted calm (Table.find?_key found ▸ found) holds
  obtain ⟨next, foundNext, keptNext⟩ := persists_after thread ran _ .refl found updates
  exact ⟨next, foundNext, kept.trans keptNext⟩

theorem allSigned_call (thread : Thread) (signed : AllSigned shared)
    (permitted : Permitted request shared)
    (ran : semantics thread env request shared = some (reply, after)) : AllSigned after := by
  intro id row found acknowledged
  obtain same | ⟨input, rfl, inserted⟩ | ⟨statement, rfl, written⟩ := alarms_after thread ran
  · exact signed id row (same ▸ found) acknowledged
  · rw [Table.find?_insert inserted] at found
    split at found
    · cases found
      cases acknowledged
    · exact signed id row found acknowledged
  · rw [written, Statement.find?_execute] at found
    obtain ⟨old, foundOld, isRow⟩ := Option.map_eq_some_iff.mp found
    split at isRow
    · subst isRow
      cases statement with
      | transition action id actor note =>
        cases action with
        | acknowledge => exact ⟨permitted.1, Nat.repr_ne_empty, permitted.2⟩
        | resolve => cases acknowledged
      | refresh id input => exact signed _ old foundOld acknowledged
      | recover existing actor => cases acknowledged
    · exact signed id row (isRow ▸ foundOld) acknowledged

def alarmDiscipline : Discipline alarmRules where
  inv := AllSigned
  rely _ := Rely
  good _ := Permitted
  rely_refl _ _ := fun _ stored => stored
  rely_trans _ _ _ _ before after := fun row stored => after row (before row stored)
  inv_initial signed := signed
  inv_call {thread _ _ _ _ _} signed permitted _ executed :=
    allSigned_call thread signed permitted executed
  rely_call {thread _ _ _ _ _ _} _ _ permitted calm executed :=
    rely_call thread permitted calm executed

section Safe

variable {thread : Thread} {shared : Shared} {action : AlarmAction} {body : Option Json}

def Harmless (request : Call) : Prop := ∀ shared, Permitted request shared

theorem safe_of_harmless {β : Type} {program : Code β} (calls : program.Calls Harmless) :
    alarmDiscipline.Obeys thread program shared :=
  Safe.of_calls (fun _ _ => trivial) (fun harmless _ _ => harmless _)
    (fun _ _ _ _ _ => trivial) calls trivial

theorem findAlarm_calls (id : String) : (findAlarm id).run.Calls Harmless :=
  .ask _ fun _ => trivial

theorem transitionAlarm_calls {id actor note : String} (known : actor ≠ "") (explained : note ≠ "") :
    (transitionAlarm action id actor note).run.Calls Harmless := by
  refine .attempt (findAlarm_calls id) fun found => ?_
  cases found with
  | none => exact .pure
  | some existing =>
    dsimp only
    split
    · exact .pure
    split
    · exact .pure
    refine .attempt (.ask _ fun _ => ⟨known, explained⟩) fun rowsAffected => ?_
    refine .attempt (findAlarm_calls id) fun current => ?_
    cases current with
    | none => exact .pure
    | some current =>
      dsimp only
      split
      · exact .pure
      · split <;> exact .pure

theorem alarmActionResponse_calls {actor : String} (known : actor ≠ "") :
    (alarmActionResponse action body actor).Calls Harmless := by
  unfold alarmActionResponse
  split
  · exact .pure
  rename_i alarmId note checked
  have explained : note ≠ "" := by
    unfold checkActionRequest at checked
    split at checked
    · grind
    · cases checked
  have performs : (action.perform alarmId actor note).run.Calls Harmless := by
    cases action <;> exact transitionAlarm_calls known explained
  refine performs.bind fun outcome => ?_
  split
  · exact .pure
  · exact .bind (.ask _ fun _ => trivial) fun _ => .pure
  · exact .pure
  · exact .pure
  · exact .pure

theorem ensureProductionAlarm_calls (input : ProductionAlarmInput) :
    (ensureProductionAlarm input).run.Calls Harmless := by
  refine .attempt (findAlarm_calls input.id) fun found => ?_
  cases found with
  | some existing => exact .pure
  | none => exact .attempt (.ask _ fun _ => trivial) fun _ => .pure

theorem refreshAlarm_calls (existing : ProductionAlarm) (input : ProductionAlarmInput) :
    (refreshAlarm existing input).run.Calls Harmless := by
  unfold refreshAlarm
  split
  · refine .attempt (.ask _ fun _ => trivial) fun _ => ?_
    refine .attempt (findAlarm_calls existing.id) fun current => ?_
    cases current <;> exact .pure
  · exact .pure

theorem findNewestOpen_read (source alarmType : String) :
    alarmDiscipline.Safe thread (Returns (fun found current => ∀ existing ∈ found,
      Recoverable existing current) fun _ => True) (findNewestOpen source alarmType).run shared := by
  refine Safe.ask (Call.newestOpen source alarmType) (fun _ _ _ => trivial) ?_
  rintro current _ signed _ env (_ | found) after ran _
  · trivial
  rintro existing rfl
  obtain ⟨read, rfl⟩ := Connection.query_ok ran
  obtain ⟨found, isOpen⟩ := newestOpen_mem read.symm
  exact ⟨isOpen, signed _ existing found, existing, found, .refl existing⟩

theorem recoverAlarm_safe {existing : ProductionAlarm} (actor : String)
    (recoverable : Recoverable existing shared) :
    alarmDiscipline.Obeys thread (recoverAlarm existing actor).run shared := by
  obtain ⟨isOpen, signed, stored⟩ := recoverable
  refine .attempt (.ask_any (Call.execute (.recover existing actor)) fun _ relied _ =>
    ⟨isOpen, signed, relied _ stored⟩) (fun _ _ _ => safe_of_harmless ?_) fun _ _ _ => trivial
  refine .attempt (findAlarm_calls existing.id) fun current => ?_
  cases current <;> exact .pure

theorem reconcileManagedAlarm_safe (source alarmType : String)
    (active : Option ProductionAlarmInput) (actor : String) : alarmDiscipline.Obeys thread
      (reconcileManagedAlarm source alarmType active actor).run shared := by
  refine (findNewestOpen_read source alarmType).attempt (fun found current read => ?_)
    fun _ _ _ => trivial
  cases found with
  | none =>
    cases active with
    | none => exact .pure trivial
    | some input =>
      refine safe_of_harmless (.attempt (ensureProductionAlarm_calls input) fun _ => .pure)
  | some existing => grind [recoverAlarm_safe, safe_of_harmless, refreshAlarm_calls]

end Safe

theorem handler_safe {thread program shared} (handler : alarmRules.handler thread program) :
    alarmDiscipline.Obeys thread program shared := by
  obtain ⟨action, body, actor, known, rfl⟩ | ⟨source, alarmType, active, actor, rfl⟩ |
    ⟨input, rfl⟩ := handler
  · exact safe_of_harmless ((alarmActionResponse_calls known).bind fun _ => .pure)
  · exact (reconcileManagedAlarm_safe source alarmType active actor).bind fun _ _ _ => .pure trivial
  · exact safe_of_harmless ((ensureProductionAlarm_calls input).bind fun _ => .pure)

/-! ## Every run -/

section runs

variable {machine last : Machine Shared Thread Call Call.Reply AlarmOutcome}
  {actions : List (Action Thread Env Call Call.Reply AlarmOutcome)} {id : String}
  {row : ProductionAlarm}

theorem status_forward (path : alarmRules.free.Path machine actions last)
    (found : machine.shared.alarms.find? id = some row) :
    ∃ later, last.shared.alarms.find? id = some later ∧ row.Forward later := by
  refine path.keeps (fun shared =>
    ∃ later, shared.alarms.find? id = some later ∧ row.Forward later) ⟨row, found, Nat.le_refl _⟩ ?_
  rintro thread env request shared reply after ⟨later, foundLater, forward⟩ _ ran
  obtain ⟨next, foundNext, further⟩ := persists_after thread
    ran ProductionAlarm.Forward (fun _ => Nat.le_refl _)
    foundLater (fun statement _ holds => update_forward statement env.timestamp holds)
  exact ⟨next, foundNext, Nat.le_trans forward further⟩

theorem row_kept (reached : alarmRules.Reachable machine)
    (path : alarmRules.Path machine actions last)
    (found : machine.shared.alarms.find? id = some row) :
    ∃ later, last.shared.alarms.find? id = some later ∧ row.KeptBy later := by
  obtain rfl : row.id = id := Table.find?_key found
  refine path.invariant reached (Stored row) ⟨row, found, .refl row⟩ ?_
  intro machine reached stored thread env request reply after asked calm ran
  have permitted := alarmDiscipline.reachable_good
    (fun _ _ _ handler _ => handler_safe handler) reached asked
  exact rely_call thread permitted calm ran row stored

/-- In every run the status of an alarm only moves forward.  In the runs in which no alarm is
acknowledged between the reading and the update of a recovery, an acknowledgement that is stored
also stays as it is. -/
theorem acknowledgement_kept (path : alarmRules.free.Path machine actions last)
    (found : machine.shared.alarms.find? id = some row) :
    ∃ later, last.shared.alarms.find? id = some later ∧ row.Forward later ∧
      (alarmRules.Reachable machine → alarmRules.Path machine actions last → row.KeptBy later) := by
  obtain ⟨later, foundLater, forward⟩ := status_forward path found
  refine ⟨later, foundLater, forward, fun reached calmPath => ?_⟩
  obtain ⟨kept, foundKept, keptBy⟩ := row_kept reached calmPath found
  cases foundLater.symm.trans foundKept
  exact keptBy

end runs

/-! ## A monitor and an operator -/

def storageAlarm : ProductionAlarmInput :=
  ⟨"ALARM-1", "system-health", "storage-capacity-warning", "warning", "", "", "", "",
    "30 GiB remaining", "\x7b\x7d"⟩

def acknowledgeRequest : Code AlarmOutcome :=
  actionRequest .acknowledge
    (some (.obj [("alarmId", .str "ALARM-1"), ("note", .str "cleanup scheduled")])) "operator-a"

def recoveryPass : Code AlarmOutcome :=
  monitorPass "system-health" "storage-capacity-warning" none "system-health-monitor"

abbrev Schedule := List (Action Thread Env Call Call.Reply AlarmOutcome)

def steps (thread : Thread) (count now : Nat) : Schedule :=
  List.replicate count (.advance thread { now })

def noAlarms : Shared := ⟨Table.empty, []⟩

/-- A monitor raises the alarm; another pass and an operator come to it. -/
def raised : Schedule :=
  .spawn 0 (monitorPass "system-health" "storage-capacity-warning" (some storageAlarm)
    "system-health-monitor") :: .spawn 1 recoveryPass :: .spawn 2 acknowledgeRequest :: steps 0 3 1000

/-- The pass reads the active alarm, then the operator acknowledges it. -/
def acknowledgedMeanwhile : Schedule := raised ++ (steps 1 1 2000 ++ steps 2 4 3000)

/-- The operator acknowledges the alarm, then the pass reads it. -/
def acknowledgedBefore : Schedule := raised ++ (steps 2 4 3000 ++ steps 1 1 4000)

theorem raised_spawns : Rules.Spawns alarmRules.handler raised :=
  ⟨.inr (.inl ⟨_, _, _, _, rfl⟩), .inr (.inl ⟨_, _, _, _, rfl⟩), .inl ⟨_, _, _, by decide, rfl⟩, trivial⟩

theorem noAlarms_signed : AllSigned noAlarms := by
  intro id row found
  cases found

/-- The update of the recovery puts its own name over the acknowledgement of the operator. -/
theorem recovery_overwrites_acknowledgement :
    ¬ ∀ (machine last : Machine Shared Thread Call Call.Reply AlarmOutcome) (actions : Schedule)
        (id : String) (row : ProductionAlarm), alarmRules.free.Reachable machine →
      alarmRules.free.Path machine actions last → machine.shared.alarms.find? id = some row →
      ∃ later, last.shared.alarms.find? id = some later ∧ row.KeptBy later := by
  intro keeps
  obtain ⟨machine, reached, facts⟩ : ∃ machine, alarmRules.free.Reachable machine ∧
      ((machine.shared.alarms.find? "ALARM-1").map fun row => (row.status, row.acknowledgement),
        ((Machine.runChecked semantics (fun _ _ _ => true) machine (steps 1 1 4000)).bind fun last =>
          (last.shared.alarms.find? "ALARM-1").map ProductionAlarm.acknowledgement)) =
        (some (.acknowledged, "operator-a", "3000", "cleanup scheduled"),
          some ("system-health-monitor", "4000", recoveryAcknowledgeNote)) :=
    Rules.exists_reachable (fun _ _ _ => true) noAlarms acknowledgedMeanwhile (fun _ _ _ _ => trivial)
      noAlarms_signed raised_spawns (by decide +kernel)
  obtain ⟨stored, overwritten⟩ := Prod.mk.inj facts
  obtain ⟨row, found, isRow⟩ := Option.map_eq_some_iff.mp stored
  obtain ⟨last, ranOn, foundLast⟩ := Option.bind_eq_some_iff.mp overwritten
  obtain ⟨later, isLater, isSystem⟩ := Option.map_eq_some_iff.mp foundLast
  obtain ⟨acknowledged, byOperator⟩ := Prod.mk.inj isRow
  have path : alarmRules.free.Path machine (steps 1 1 4000) last :=
    Rules.path_runChecked alarmRules.free (fun _ _ _ _ => trivial) ranOn trivial
  obtain ⟨kept, isKept, keptBy⟩ := keeps machine last _ "ALARM-1" row reached path found
  cases isLater.symm.trans isKept
  have same := keptBy.acknowledgement (by simp [acknowledged])
  rw [isSystem, byOperator] at same
  exact absurd same (by decide)

/-- A recovery that has read the acknowledgement closes the alarm with it. -/
theorem recovery_keeps_acknowledgement :
    ∃ (machine last : Machine Shared Thread Call Call.Reply AlarmOutcome) (row later : ProductionAlarm),
      alarmRules.Reachable machine ∧ alarmRules.Path machine (steps 1 1 4000) last ∧
      machine.shared.alarms.find? "ALARM-1" = some row ∧ row.status = .acknowledged ∧
      last.shared.alarms.find? "ALARM-1" = some later ∧ row.KeptBy later := by
  obtain ⟨machine, reached, facts⟩ : ∃ machine, alarmRules.Reachable machine ∧
      ((machine.shared.alarms.find? "ALARM-1").map ProductionAlarm.status,
        (Machine.runChecked semantics (fun _ request shared => notAcknowledgedSince request shared)
          machine (steps 1 1 4000)).isSome) = (some .acknowledged, true) :=
    Rules.exists_reachable (fun _ => notAcknowledgedSince) noAlarms acknowledgedBefore
      (fun _ _ _ passed => passed) noAlarms_signed raised_spawns (by decide +kernel)
  obtain ⟨stored, goesOn⟩ := Prod.mk.inj facts
  obtain ⟨row, found, acknowledged⟩ := Option.map_eq_some_iff.mp stored
  obtain ⟨last, ranOn⟩ := Option.isSome_iff_exists.mp goesOn
  have path : alarmRules.Path machine (steps 1 1 4000) last :=
    Rules.path_runChecked alarmRules (fun _ _ _ passed => passed) ranOn trivial
  have freePath : alarmRules.free.Path machine (steps 1 1 4000) last :=
    Rules.path_runChecked alarmRules.free (fun _ _ _ _ => trivial) ranOn trivial
  obtain ⟨later, foundLater, -, kept⟩ := acknowledgement_kept freePath found
  exact ⟨machine, last, row, later, reached, path, found, acknowledged, foundLater, kept reached path⟩

end SteelInspection.Alarms
