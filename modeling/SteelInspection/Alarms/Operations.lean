import Mathlib.Data.List.Sort
import SteelInspection.Foundations.Interleaving
import SteelInspection.Foundations.Table
import SteelInspection.Service.Database
import SteelInspection.Service.Http

/-! # Production alarms

The rows of `production_alarm` and the code that writes them: an operator acknowledges and resolves
an alarm, and the monitors reconcile the alarms they manage, which creates, refreshes or closes
one.  Every function is a sequence of database statements without a transaction around them.
-/

namespace SteelInspection.Alarms

open Foundations

inductive AlarmStatus where
  | active | acknowledged | resolved
  deriving DecidableEq, Repr

namespace AlarmStatus

/-- The statuses `["active", "acknowledged"]` of the statements. -/
def isOpen : AlarmStatus → Bool
  | .active | .acknowledged => true
  | .resolved => false

/-- The place of a status in the life of an alarm. -/
def rank : AlarmStatus → Nat
  | .active => 0
  | .acknowledged => 1
  | .resolved => 2

end AlarmStatus

structure ProductionAlarm where
  id : String
  source : String
  alarmType : String
  severity : String
  materialId : String
  sessionId : String
  inspectionId : String
  cameraId : String
  message : String
  details : String
  status : AlarmStatus
  createdAt : String
  acknowledgedAt : String
  resolvedAt : String
  acknowledgedBy : String
  acknowledgeNote : String
  resolvedBy : String
  resolveNote : String
  deriving DecidableEq, Repr

structure ProductionAlarmInput where
  id : String
  source : String
  alarmType : String
  severity : String
  materialId : String
  sessionId : String
  inspectionId : String
  cameraId : String
  message : String
  details : String
  deriving DecidableEq, Repr

def ProductionAlarmInput.row (input : ProductionAlarmInput) (now : String) : ProductionAlarm where
  id := input.id
  source := input.source
  alarmType := input.alarmType
  severity := input.severity
  materialId := input.materialId
  sessionId := input.sessionId
  inspectionId := input.inspectionId
  cameraId := input.cameraId
  message := input.message
  details := input.details
  status := .active
  createdAt := now
  acknowledgedAt := ""
  resolvedAt := ""
  acknowledgedBy := ""
  acknowledgeNote := ""
  resolvedBy := ""
  resolveNote := ""

abbrev AlarmTable := Table ProductionAlarm ProductionAlarm.id

/-- Newest first, the greater id first among alarms of one time. -/
def ProductionAlarm.newer (first second : ProductionAlarm) : Bool :=
  second.createdAt < first.createdAt ||
    (second.createdAt = first.createdAt && (second.id < first.id || second.id = first.id))

/-- The open alarm of this source and type that was created last. -/
def newestOpen (alarms : AlarmTable) (source alarmType : String) : Option ProductionAlarm :=
  ((alarms.select fun row =>
    row.source = source && row.alarmType = alarmType && row.status.isOpen).insertionSort
      fun first second => first.newer second = true).head?

theorem newestOpen_mem {alarms : AlarmTable} {source alarmType : String} {row : ProductionAlarm}
    (found : newestOpen alarms source alarmType = some row) :
    alarms.find? row.id = some row ∧ row.status.isOpen = true := by
  have mem := List.mem_insertionSort _ |>.mp (List.mem_of_head? found)
  obtain ⟨inTable, fits⟩ := List.mem_filter.mp mem
  exact ⟨Table.mem_rows_iff.mp inTable, (Bool.and_eq_true_iff.mp fits).2⟩

/-! ## Updates -/

inductive AlarmAction where
  | acknowledge | resolve
  deriving DecidableEq, Repr

namespace AlarmAction

def before : AlarmAction → AlarmStatus
  | .acknowledge => .active
  | .resolve => .acknowledged

def after : AlarmAction → AlarmStatus
  | .acknowledge => .acknowledged
  | .resolve => .resolved

end AlarmAction

/-- The updates of the table.  A recovery carries the row that was read: its acknowledgement is
written back where it has one. -/
inductive Statement where
  | transition (action : AlarmAction) (id actor note : String)
  | refresh (id : String) (input : ProductionAlarmInput)
  | recover (existing : ProductionAlarm) (actor : String)

/-- `if value.is_empty() { fallback } else { value }`. -/
def orIfEmpty (value fallback : String) : String := if value = "" then fallback else value

def recoveryAcknowledgeNote : String := "系统检测到运行条件已恢复，自动确认并关闭告警。"

def recoveryResolveNote : String := "系统健康监视器确认运行条件已恢复。"

namespace Statement

def condition : Statement → ProductionAlarm → Bool
  | .transition action id _ _, row => row.id = id && row.status = action.before
  | .refresh id _, row => row.id = id && row.status.isOpen
  | .recover existing _, row => row.id = existing.id && row.status.isOpen

def change (now : String) : Statement → ProductionAlarm → ProductionAlarm
  | .transition .acknowledge _ actor note, row =>
    { row with
      status := .acknowledged, acknowledgedAt := now, acknowledgedBy := actor
      acknowledgeNote := note }
  | .transition .resolve _ actor note, row =>
    { row with status := .resolved, resolvedAt := now, resolvedBy := actor, resolveNote := note }
  | .refresh _ input, row =>
    { row with
      severity := input.severity, materialId := input.materialId, sessionId := input.sessionId
      inspectionId := input.inspectionId, cameraId := input.cameraId, message := input.message
      details := input.details }
  | .recover existing actor, row =>
    { row with
      status := .resolved
      acknowledgedAt := orIfEmpty existing.acknowledgedAt now
      acknowledgedBy := orIfEmpty existing.acknowledgedBy actor
      acknowledgeNote := orIfEmpty existing.acknowledgeNote recoveryAcknowledgeNote
      resolvedAt := now, resolvedBy := actor, resolveNote := recoveryResolveNote }

theorem change_id (now : String) (statement : Statement) (row : ProductionAlarm) :
    (statement.change now row).id = row.id := by
  cases statement with
  | transition action id actor note => cases action <;> rfl
  | refresh id input | recover existing actor => rfl

def execute (statement : Statement) (now : String) (alarms : AlarmTable) : AlarmTable :=
  alarms.updateWhere statement.condition (statement.change now) (change_id now statement)

theorem find?_execute (statement : Statement) (now : String) (alarms : AlarmTable) (id : String) :
    (statement.execute now alarms).find? id = (alarms.find? id).map fun row =>
      if statement.condition row then statement.change now row else row :=
  Table.find?_updateWhere _ _ _ _ _

end Statement

/-! ## Calls -/

inductive Call where
  | find (id : String)
  | newestOpen (source alarmType : String)
  | insert (input : ProductionAlarmInput)
  | execute (statement : Statement)
  | appendAuditLog (entry : AuditEntry)

abbrev Call.Reply : Call → Type
  | .find _ | .newestOpen _ _ => Except DbErr (Option ProductionAlarm)
  | .insert _ => Except DbErr ProductionAlarm
  | .execute _ => Except DbErr Nat
  | .appendAuditLog _ => Except DbErr Unit

structure Env where
  now : Nat := 0
  connection : Connection := .works

def Env.timestamp (env : Env) : String := toString env.now

/-- The threads are the requests of operators and the monitors. -/
abbrev Thread := Nat

structure Shared where
  alarms : AlarmTable
  auditLog : List AuditEntry

def semantics : Semantics Shared Thread Env Call Call.Reply
  | _, env, request, shared =>
    match request with
    | .find id => some (env.connection.query (shared.alarms.find? id) shared)
    | .newestOpen source alarmType =>
      some (env.connection.query (newestOpen shared.alarms source alarmType) shared)
    | .insert input =>
      match shared.alarms.insert (input.row env.timestamp) with
      | some alarms =>
        some (env.connection.write (.ok (input.row env.timestamp)) shared { shared with alarms })
      | none =>
        some (env.connection.write (.error ⟨"UNIQUE constraint failed: production_alarm.id"⟩)
          shared shared)
    | .execute statement =>
      some (env.connection.write (.ok (shared.alarms.affected statement.condition)) shared
        { shared with alarms := statement.execute env.timestamp shared.alarms })
    | .appendAuditLog entry =>
      some (env.connection.write (.ok ()) shared { shared with auditLog := shared.auditLog ++ [entry] })

abbrev Code := Program Call Call.Reply

abbrev Db := Attempt Call Call.Reply DbErr

abbrev ask (request : Call) : Code request.Reply := Program.ask request

def findAlarm (id : String) : Db (Option ProductionAlarm) := ExceptT.mk (ask (.find id))

def findNewestOpen (source alarmType : String) : Db (Option ProductionAlarm) :=
  ExceptT.mk (ask (.newestOpen source alarmType))

def execute (statement : Statement) : Db Nat := ExceptT.mk (ask (.execute statement))

/-! ## Operators -/

inductive ProductionAlarmTransition where
  | changed (alarm : ProductionAlarm)
  | unchanged (alarm : ProductionAlarm)
  | conflict (alarm : ProductionAlarm)
  | notFound

def AlarmAction.disappeared : AlarmAction → DbErr
  | .acknowledge => ⟨"alarm disappeared during acknowledge"⟩
  | .resolve => ⟨"alarm disappeared during resolve"⟩

/-- What `acknowledge_production_alarm` and `resolve_production_alarm` have in common. -/
def transitionAlarm (action : AlarmAction) (id actor note : String) :
    Db ProductionAlarmTransition := do
  match ← findAlarm id with
  | none => pure .notFound
  | some existing =>
    if existing.status = action.after then pure (.unchanged existing)
    else if existing.status ≠ action.before then pure (.conflict existing)
    else
      let rowsAffected ← execute (.transition action id actor note)
      match ← findAlarm id with
      | none => throw action.disappeared
      | some current =>
        if rowsAffected = 1 then pure (.changed current)
        else if current.status = action.after then pure (.unchanged current)
        else pure (.conflict current)

def acknowledgeProductionAlarm (id actor note : String) : Db ProductionAlarmTransition :=
  transitionAlarm .acknowledge id actor note

def resolveProductionAlarm (id actor note : String) : Db ProductionAlarmTransition :=
  transitionAlarm .resolve id actor note

/-- The answer of the handler: the HTTP status, the error, whether the request has changed the alarm,
and the alarm it reports. -/
structure AlarmAnswer where
  code : Nat
  error : Option String := none
  changed : Option Bool := none
  alarm : Option ProductionAlarm := none

/-- The id and the note of an action request, or the error that refuses it; the body is `none` when
it is no JSON. -/
def checkActionRequest (body : Option Json) : Except String (String × String) :=
  match body with
  | some (.obj fields) =>
    let alarmId := valueString (.obj fields) ["alarmId", "alarm_id", "id"]
    let note := valueString (.obj fields) ["note"]
    if Text.trim alarmId = "" then .error "alarm_id_required"
    else if note = "" then .error "alarm_note_required"
    else if note.length > 1000 then .error "alarm_note_too_long"
    else .ok (alarmId, note)
  | _ => .error "invalid_alarm_action_json"

def AlarmAction.perform (action : AlarmAction) (id actor note : String) :
    Db ProductionAlarmTransition :=
  match action with
  | .acknowledge => acknowledgeProductionAlarm id actor note
  | .resolve => resolveProductionAlarm id actor note

def AlarmAction.auditEntry (action : AlarmAction) (actor alarmId note : String) : AuditEntry :=
  match action with
  | .acknowledge =>
    ⟨actor, "alarm.acknowledge", alarmId, "actor=" ++ actor ++ " note=" ++ note, "warning"⟩
  | .resolve => ⟨actor, "alarm.resolve", alarmId, "actor=" ++ actor ++ " note=" ++ note, "info"⟩

def AlarmAction.conflictError (action : AlarmAction) (alarm : ProductionAlarm) : String :=
  match action with
  | .acknowledge => "alarm_not_active"
  | .resolve =>
    if alarm.status = .active then "alarm_acknowledgement_required" else "alarm_not_acknowledged"

def alarmActionResponse (action : AlarmAction) (body : Option Json) (actor : String) :
    Code AlarmAnswer :=
  match checkActionRequest body with
  | .error error => pure { code := 400, error := some error }
  | .ok (alarmId, note) => do
    match ← (action.perform alarmId actor note).run with
    | .error error => pure { code := 500, error := some error.message }
    | .ok (.changed alarm) =>
      let _ ← ask (.appendAuditLog (action.auditEntry actor alarm.id note))
      pure { code := 200, changed := some true, alarm := some alarm }
    | .ok (.unchanged alarm) => pure { code := 200, changed := some false, alarm := some alarm }
    | .ok (.conflict alarm) =>
      pure { code := 409, error := some (action.conflictError alarm), alarm := some alarm }
    | .ok .notFound => pure { code := 404, error := some "alarm_not_found" }

/-! ## Monitors -/

def ensureProductionAlarm (input : ProductionAlarmInput) : Db (ProductionAlarm × Bool) := do
  match ← findAlarm input.id with
  | some existing => pure (existing, false)
  | none =>
    let model ← (ExceptT.mk (ask (.insert input)) : Db ProductionAlarm)
    pure (model, true)

inductive ManagedAlarmReconcile where
  | created (alarm : ProductionAlarm)
  | updated (alarm : ProductionAlarm)
  | resolved (alarm : ProductionAlarm)
  | unchanged
  | absent

def ProductionAlarmInput.changes (input : ProductionAlarmInput) (existing : ProductionAlarm) : Bool :=
  decide (existing.severity ≠ input.severity) || decide (existing.materialId ≠ input.materialId) ||
    decide (existing.sessionId ≠ input.sessionId) ||
    decide (existing.inspectionId ≠ input.inspectionId) ||
    decide (existing.cameraId ≠ input.cameraId) || decide (existing.message ≠ input.message) ||
    decide (existing.details ≠ input.details)

def refreshAlarm (existing : ProductionAlarm) (input : ProductionAlarmInput) :
    Db ManagedAlarmReconcile := do
  if input.changes existing then
    let _ ← execute (.refresh existing.id input)
    match ← findAlarm existing.id with
    | none => throw ⟨"managed alarm disappeared during refresh"⟩
    | some current => pure (.updated current)
  else pure .unchanged

def recoverAlarm (existing : ProductionAlarm) (actor : String) : Db ManagedAlarmReconcile := do
  let _ ← execute (.recover existing actor)
  match ← findAlarm existing.id with
  | none => throw ⟨"managed alarm disappeared during recovery"⟩
  | some current => pure (.resolved current)

def reconcileManagedAlarm (source alarmType : String) (active : Option ProductionAlarmInput)
    (actor : String) : Db ManagedAlarmReconcile := do
  match ← findNewestOpen source alarmType, active with
  | none, none => pure .absent
  | none, some input =>
    let (alarm, created) ← ensureProductionAlarm input
    pure (if created then .created alarm else .unchanged)
  | some existing, some input => refreshAlarm existing input
  | some existing, none => recoverAlarm existing actor

end SteelInspection.Alarms
