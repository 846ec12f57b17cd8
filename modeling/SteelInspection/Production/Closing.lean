import SteelInspection.Production.Sessions

/-! # Closing a production session

The session an event is for is found through the open session that was written last.  A session that
a steel-in has set active can therefore be closed as long as it stays that session and keeps a status
from which it may be left; an accepted steel-info is enough to end this.
-/

namespace SteelInspection.Production

open Foundations Foundations.Fallible ProductionStore

/-! ## What an accepted event does -/

def Recorded (sessions next : Sessions) (row : MaterialSession) : Prop :=
  ∀ id, next.find? id = if id = row.id then some row else sessions.find? id

variable {sessions next : Sessions} {target : ProductionEventTarget} {sessionId : String}
  {answer : EventAccepted} {row : MaterialSession} {input : MaterialSessionInput}

theorem upserted_recorded {now : String}
    (upserted : upsertMaterialSession now input sessions = (.ok row, next)) :
    Recorded sessions next row ∧ row.id = input.id ∧ row.status = input.status ∧
      row.updatedAt = now := by
  unfold upsertMaterialSession at upserted
  split at upserted
  next stored found =>
    cases upserted
    have isStored : stored.id = input.id := Table.find?_key found
    refine ⟨fun id => ?_, isStored, rfl, rfl⟩
    rw [Table.find?_update, updatedSession_id]
    split
    · grind
    · rfl
  · split at upserted
    next inserted =>
      cases upserted
      refine ⟨fun id => ?_, rfl, rfl, rfl⟩
      rw [Table.find?_insert inserted]
      simp only [eq_comm]
    · cases upserted

section Handler

variable {request : EventRequest} {store next : ProductionStore}

variable {α : Type} {operation : Operation}
  {action : ProductionStore → Except DbErr α × ProductionStore} {admitted : Admitted}
  {registered : Registered} {payload : Json} {flow : Option SteelFlow} {fields : EventFields}

section

variable {value : α} (ended : Ends (database request operation action) store value next)
include ended

/-- A call that is answered has done what its statements do. -/
theorem ends_database : action store = (.ok value, next) := by
  obtain ⟨isValue, isNext⟩ := Prod.mk.inj (show (_, _) = _ from ended)
  cases written : (request.connection operation).write (action store).1 store (action store).2 with
  | mk reply after =>
    rw [written] at isValue isNext
    cases reply with
    | error error => cases isValue
    | ok result =>
      cases isValue
      obtain ⟨outcome, isAfter⟩ := Connection.write_ok (congrArg some written)
      exact Prod.ext outcome (isAfter.symm.trans isNext)

theorem ends_database_sessions (frame : (action store).2.sessions = store.sessions) :
    next.sessions = store.sessions := by
  rw [← frame, ends_database ended]

end

theorem ends_upsertSession {now : String}
    (ended : Ends (database request operation (onSessions (upsertMaterialSession now input))) store
      row next) :
    Recorded store.sessions next.sessions row ∧ row.id = input.id ∧ row.status = input.status ∧
      row.updatedAt = now := by
  have called := ends_database ended
  obtain ⟨isRow, rfl⟩ := Prod.mk.inj (show (_, _) = _ from called)
  exact upserted_recorded (Prod.ext isRow rfl)

theorem ends_admitTasks {admitted : Unit} (ended : Ends (admitTasks request) store admitted next) :
    next = store := by
  unfold admitTasks at ended
  split at ended
  · exact (ends_pure.mp ended).2.symm
  · simp only [ends_bind, ends_decided] at ended
    obtain ⟨openTasks, between, counted, -, rfl⟩ := ended
    exact (Prod.mk.inj (ends_database counted)).2.symm

theorem ends_admitEvent (ended : Ends (admitEvent request) store admitted next) :
    next = store ∧ request.body = .ok admitted.payload ∧
      eventTarget request admitted.payload (latestOpenMaterialSession store.sessions) =
        .ok admitted.target := by
  unfold admitEvent at ended
  simp only [ends_bind, ends_decided, ends_pure, mapError_eq_ok] at ended
  obtain ⟨payload, _, ⟨isPayload, rfl⟩, _, between, counted, latestOpen, _, looked, target, _,
    ⟨resolved, rfl⟩, rfl, rfl⟩ := ended
  obtain rfl := ends_admitTasks counted
  cases ends_database looked
  exact ⟨rfl, isPayload, resolved⟩

theorem ends_eventFlow (ended : Ends (eventFlow request payload sessionId fields) store flow next) :
    next.sessions = store.sessions := by
  unfold eventFlow at ended
  cases event : request.event <;> simp only [event] at ended
  · rw [(ends_pure.mp ended).2]
  · obtain ⟨started, between, called, returned⟩ := ends_bind.mp ended
    rw [← (ends_pure.mp returned).2]
    exact ends_database_sessions called rfl
  · exact ends_database_sessions ended rfl
  · rw [(ends_pure.mp ended).2]

theorem ends_registerEvent (ended : Ends (registerEvent request admitted) store registered next) :
    Recorded store.sessions next.sessions registered.session ∧
      registered.session.id = admitted.target.sessionId := by
  unfold registerEvent at ended
  simp only [ends_bind, ends_decided, ends_pure] at ended
  obtain ⟨_, _, ⟨-, rfl⟩, _, _, ⟨-, rfl⟩, flow, first, flowed, session, second, upserted,
    existing, third, looked, inspection, _, inspected, rfl, rfl⟩ := ended
  obtain ⟨recorded, isTarget, -, -⟩ := ends_upsertSession upserted
  rw [ends_eventFlow flowed] at recorded
  rw [ends_database_sessions inspected rfl, ends_database_sessions looked rfl]
  exact ⟨recorded, isTarget⟩

theorem ends_finalFlow (ended : Ends (finalFlow request registered) store flow next) :
    next.sessions = store.sessions := by
  unfold finalFlow at ended
  split at ended
  · rw [(ends_pure.mp ended).2]
  · exact ends_database_sessions ended rfl

theorem ends_concludeEvent (ended : Ends (concludeEvent request registered) store answer next) :
    answer.sessionId = registered.session.id ∧
      ∃ row : MaterialSession, Recorded store.sessions next.sessions row ∧
        row.id = registered.session.id ∧ row.status = request.finalStatus ∧
        row.updatedAt = request.clock .finalizeMaterialSession := by
  unfold concludeEvent at ended
  simp only [ends_bind, ends_decided, ends_pure] at ended
  obtain ⟨row, first, upserted, inspection, second, inspected, flow, third, flowed, _, _, ⟨-, rfl⟩,
    rfl, rfl⟩ := ended
  obtain ⟨recorded, same, isStatus, isTime⟩ := ends_upsertSession upserted
  refine ⟨rfl, row, ?_, same, isStatus, isTime⟩
  rw [ends_finalFlow flowed, ends_database_sessions inspected rfl]
  exact recorded

/-- An accepted event writes the session it is for, and no other. -/
theorem accepted_event (ended : Ends (writeProductionEvent request) store answer next) :
    ∃ payload target row, request.body = .ok payload ∧
      eventTarget request payload (latestOpenMaterialSession store.sessions) = .ok target ∧
      answer.sessionId = target.sessionId ∧ row.id = target.sessionId ∧
      row.status = request.finalStatus ∧ row.updatedAt = request.clock .finalizeMaterialSession ∧
      Recorded store.sessions next.sessions row := by
  unfold writeProductionEvent at ended
  simp only [ends_bind] at ended
  obtain ⟨admitted, _, admission, registered, between, registration, conclusion⟩ := ended
  obtain ⟨rfl, isPayload, resolved⟩ := ends_admitEvent admission
  obtain ⟨first, isTarget⟩ := ends_registerEvent registration
  obtain ⟨answered, row, second, same, isStatus, isTime⟩ := ends_concludeEvent conclusion
  refine ⟨admitted.payload, admitted.target, row, isPayload, resolved, answered.trans isTarget,
    same.trans isTarget, isStatus, isTime, fun id => ?_⟩
  rw [second id, first id, same]
  split <;> rfl

/-! ## Refusals -/

/-- Nothing but the look at the open session refuses an event on account of a session. -/
def NotAboutSession (refusal : EventRefusal) : Prop := refusal.aboutSession = false

theorem database_refuses : Throws NotAboutSession (database request operation action) store := by
  intro refusal after failed
  obtain ⟨isRefusal, -⟩ := Prod.mk.inj (show (_, _) = _ from failed)
  generalize ((request.connection operation).write (action store).1 store
    (action store).2).1 = reply at isRefusal
  cases reply with
  | ok value => cases isRefusal
  | error error =>
    cases isRefusal
    rfl

theorem require_refuses {condition : Prop} [Decidable condition] {refusal : EventRefusal}
    (fine : NotAboutSession refusal) :
    Throws NotAboutSession (decided (require condition refusal)) store := by
  apply Throws.decided
  intro error failed
  unfold require at failed
  split at failed
  · cases failed
  · cases failed
    exact fine

theorem admitTasks_refuses : Throws NotAboutSession (admitTasks request) store := by
  unfold admitTasks
  split
  · exact .pure ()
  · exact database_refuses.bind fun _ _ _ => require_refuses rfl

theorem eventFlow_refuses :
    Throws NotAboutSession (eventFlow request payload sessionId fields) store := by
  unfold eventFlow
  split
  · exact database_refuses.bind fun _ _ _ => .pure _
  · exact database_refuses
  · exact .pure _
  · exact .pure _

theorem registerEvent_refuses : Throws NotAboutSession (registerEvent request admitted) store := by
  apply Throws.bind
  · exact require_refuses rfl
  intro _ _ _
  apply Throws.bind
  · exact require_refuses rfl
  intro _ _ _
  apply Throws.bind eventFlow_refuses
  intro _ _ _
  apply Throws.bind database_refuses
  intro _ _ _
  apply Throws.bind database_refuses
  intro _ _ _
  exact database_refuses.bind fun _ _ _ => .pure _

theorem concludeEvent_refuses :
    Throws NotAboutSession (concludeEvent request registered) store := by
  apply Throws.bind database_refuses
  intro _ _ _
  apply Throws.bind database_refuses
  intro _ _ _
  apply Throws.bind
  · unfold finalFlow
    split
    · exact .pure _
    · exact database_refuses
  intro _ _ _
  apply Throws.bind
  · apply Throws.decided
    intro refusal failed
    cases appended : request.triggerEvent with
    | ok id => rw [appended] at failed; cases failed
    | error error => rw [appended] at failed; cases failed; rfl
  intro _ _ _
  exact .pure _

theorem event_refuses (isPayload : request.body = .ok payload)
    (resolved : eventTarget request payload (latestOpenMaterialSession store.sessions) = .ok target) :
    Throws NotAboutSession (writeProductionEvent request) store := by
  refine Throws.bind ?_ fun _ _ _ => registerEvent_refuses.bind fun _ _ _ => concludeEvent_refuses
  apply Throws.bind
  · apply Throws.decided
    rw [isPayload]
    intro error failed
    cases failed
  intro read _ reading
  obtain ⟨isRead, rfl⟩ := ends_decided.mp reading
  rw [isPayload] at isRead
  cases isRead
  apply Throws.bind admitTasks_refuses
  intro _ _ counted
  obtain rfl := ends_admitTasks counted
  apply Throws.bind database_refuses
  intro latestOpen _ looked
  -- the session that is looked at is the one in the table
  cases ends_database looked
  rw [resolved]
  exact Throws.bind (.decided nofun) fun _ _ _ => .pure _

end Handler

/-! ## The session an event is for -/

/-- The payload names the material of the session, or none. -/
def NamesMaterial (payload : Json) (session : MaterialSession) : Prop :=
  materialIdFromPayload payload "" = "" ∨ materialIdFromPayload payload "" = session.materialId

/-- The payload names this session, or no session and no other material. -/
def Names (payload : Json) (session : MaterialSession) : Prop :=
  if requestedSessionId payload = "" then NamesMaterial payload session
  else requestedSessionId payload = session.id

theorem mismatches_eq_false {payload : Json} {session : MaterialSession} :
    mismatches payload session.target = false ↔ NamesMaterial payload session ∧
        (requestedSessionId payload = "" ∨ requestedSessionId payload = session.id) := by
  simp only [mismatches, Bool.or_eq_false_iff, Bool.and_eq_false_iff, decide_eq_false_iff_not,
    not_ne_iff]
  exact Iff.rfl

theorem names_of_fits {payload : Json} {session : MaterialSession}
    (fits : mismatches payload session.target = false) : Names payload session := by
  obtain ⟨material, requested⟩ := mismatches_eq_false.mp fits
  unfold Names
  split
  · exact material
  next named =>
    exact requested.resolve_left named

theorem targetMaterialId_named {payload : Json} {session : MaterialSession}
    (named : NamesMaterial payload session) :
    targetMaterialId payload (some session.target) = session.materialId := by
  unfold targetMaterialId
  split
  · rfl
  next requested =>
    exact named.resolve_left requested

theorem targetSessionId_named {payload : Json} {session : MaterialSession} {event : ProductionEvent}
    {generatedAt : Nat} (named : Names payload session) :
    targetSessionId payload event (some session.target) generatedAt = session.id := by
  unfold Names at named
  unfold targetSessionId
  split
  · grind [targetMaterialId_named, MaterialSession.target]
  next requested =>
    rwa [if_neg requested] at named

variable {request : EventRequest} {payload : Json} {session : MaterialSession}

/-- What it takes to find the target of an event while a session is open. -/
theorem eventTarget_eq_ok : eventTarget request payload (some session) = .ok target ↔
      (request.event = .steelOut → session.status.exitReady = true) ∧
      (request.event = .steelIn ∨ request.event = .steelOut →
        mismatches payload session.target = false) ∧
      target = ⟨targetMaterialId payload (some session.target),
        targetSessionId payload request.event (some session.target) request.generatedAt⟩ := by
  unfold eventTarget admitExit
  simp only [bind_eq_ok, require_eq_ok, mapError_eq_ok, resolveProductionEventTarget, Option.map_some]
  constructor
  · rintro ⟨_, exit, _, -, _, fits, isTarget⟩
    cases isTarget
    exact ⟨exit, fits, rfl⟩
  · rintro ⟨exit, fits, rfl⟩
    exact ⟨(), exit, (), by simp, (), fits, rfl⟩

/-! ## The open session that was written last -/

/-- The session may be left and was written after every other one. -/
def Foremost (sessions : Sessions) (session : MaterialSession) : Prop :=
  sessions.find? session.id = some session ∧ session.status.exitReady = true ∧
    ∀ other ∈ sessions.rows, other.id ≠ session.id → other.updatedAt < session.updatedAt

theorem Foremost.latest (foremost : Foremost sessions session) :
    latestOpenMaterialSession sessions = some session := by
  obtain ⟨found, ready, later⟩ := foremost
  have isOpen : session.status ≠ .finished := by
    intro finished
    rw [finished] at ready
    cases ready
  apply greatest_eq_some
  · exact Table.mem_select_iff.mpr ⟨found, by simpa using isOpen⟩
  · grind [Table.mem_select_iff, Table.mem_rows_iff, MaterialSession.older]

theorem Recorded.foremost (recorded : Recorded sessions next row)
    (ready : row.status.exitReady = true)
    (later : ∀ other ∈ sessions.rows, other.updatedAt < row.updatedAt) : Foremost next row := by
  refine ⟨by rw [recorded, if_pos rfl], ready, fun other mem different => ?_⟩
  have present := Table.mem_rows_iff.mp mem
  rw [recorded, if_neg different] at present
  exact later other (Table.mem_rows_iff.mpr present)

/-! ## Runs -/

/-- The tables, and the sessions that a steel-in has set active and that are not finished. -/
structure Plant where
  store : ProductionStore
  entered : List String

/-- The entered sessions after an accepted event for this session. -/
def EventRequest.entered (request : EventRequest) (sessionId : String) (entered : List String) :
    List String :=
  match request.event, request.confirmed with
  | .steelIn, true => sessionId :: entered
  | .steelOut, true => entered.filter (· ≠ sessionId)
  | _, _ => entered

/-- The plants that accepted events lead to when each of them meets the condition. -/
inductive Reached (condition : Plant → EventRequest → Prop) : Plant → Prop
  | start (store : ProductionStore) : Reached condition ⟨store, []⟩
  | event {plant : Plant} {request : EventRequest} {answer : EventAccepted} {next : ProductionStore}
      (before : Reached condition plant) (meets : condition plant request)
      (ended : Ends (writeProductionEvent request) plant.store answer next) :
      Reached condition ⟨next, request.entered answer.sessionId plant.entered⟩

/-- A steel-out that names the session and its material is for this session and is not refused on
account of a session. -/
def Closable (store : ProductionStore) (session : MaterialSession) : Prop :=
  ∀ request payload, request.event = .steelOut → request.body = .ok payload →
    requestedSessionId payload = session.id →
    materialIdFromPayload payload "" = session.materialId →
    resolveProductionEventTarget payload request.event
        ((latestOpenMaterialSession store.sessions).map MaterialSession.target)
        request.generatedAt = .ok session.target ∧
      Throws NotAboutSession (writeProductionEvent request) store

theorem Foremost.closable {store : ProductionStore} (foremost : Foremost store.sessions session) :
    Closable store session := by
  intro request payload _ isPayload isSession isMaterial
  have resolved : eventTarget request payload (latestOpenMaterialSession store.sessions) =
      .ok session.target := by
    -- both ids are those of the session
    have fits : mismatches payload session.target = false :=
      mismatches_eq_false.mpr ⟨.inr isMaterial, .inr isSession⟩
    rw [foremost.latest, eventTarget_eq_ok, targetMaterialId_named (.inr isMaterial),
      targetSessionId_named (names_of_fits fits)]
    exact ⟨fun _ => foremost.2.1, fun _ => fits, rfl⟩
  refine ⟨?_, event_refuses isPayload resolved⟩
  unfold eventTarget at resolved
  simp only [bind_eq_ok, mapError_eq_ok] at resolved
  obtain ⟨_, -, isTarget⟩ := resolved
  exact isTarget

/-- The event leaves the entered session the one that is found and may be left: it is no steel-info,
a steel-in or a trigger event is confirmed by the provider, and a trigger event names no other
session or material. -/
def Keeps (plant : Plant) (request : EventRequest) : Prop :=
  match request.event with
  | .steelInfo => False
  | .steelIn => request.confirmed = true
  | .steelOut => True
  | .triggerEvent => request.confirmed = true ∧ ∀ payload session, request.body = .ok payload →
      latestOpenMaterialSession plant.store.sessions = some session → Names payload session

/-- While a session is entered every event keeps it, and the clock has gone on since the last write. -/
structure Undisturbed (plant : Plant) (request : EventRequest) : Prop where
  keeps : plant.entered ≠ [] → Keeps plant request
  later : ∀ session ∈ plant.store.sessions.rows,
    session.updatedAt < request.clock .finalizeMaterialSession

/-- Every entered session is foremost. -/
def Plant.Orderly (plant : Plant) : Prop :=
  ∀ id ∈ plant.entered, ∃ session, session.id = id ∧ Foremost plant.store.sessions session

variable {plant : Plant} {entered : List String}

theorem target_of_keeps (keeps : Keeps plant request) (isPayload : request.body = .ok payload)
    (latest : latestOpenMaterialSession plant.store.sessions = some session)
    (resolved : eventTarget request payload (some session) = .ok target) :
    target.sessionId = session.id := by
  obtain ⟨-, fits, rfl⟩ := eventTarget_eq_ok.mp resolved
  apply targetSessionId_named
  unfold Keeps at keeps
  cases event : request.event with
  | steelInfo => rw [event] at keeps; exact keeps.elim
  | steelIn => exact names_of_fits (fits (.inl event))
  | steelOut => exact names_of_fits (fits (.inr event))
  | triggerEvent => rw [event] at keeps; exact keeps.2 payload session isPayload latest

/-- A session is entered after an event because the event is a confirmed steel-in for it or because
it was entered before. -/
theorem mem_entered {id : String} (mem : id ∈ request.entered sessionId entered) :
    (id = sessionId ∧ request.finalStatus = .active) ∨ id ∈ entered := by
  unfold EventRequest.finalStatus
  unfold EventRequest.entered at mem
  split at mem
  next event confirmed =>
    rw [event, confirmed]
    exact (List.mem_cons.mp mem).imp_left fun same => ⟨same, rfl⟩
  · exact .inr (List.mem_of_mem_filter mem)
  · exact .inr mem

/-- A session that stays entered after an event for it may still be left. -/
theorem exitReady_of_keeps (keeps : Keeps plant request)
    (mem : sessionId ∈ request.entered sessionId entered) :
    request.finalStatus.exitReady = true := by
  unfold Keeps at keeps
  unfold EventRequest.finalStatus
  unfold EventRequest.entered at mem
  cases event : request.event <;> rw [event] at keeps mem
  · exact keeps.elim
  · rw [keeps]
    rfl
  · -- a confirmed steel-out ends the session
    cases confirmed : request.confirmed with
    | true =>
      rw [confirmed] at mem
      simp at mem
    | false => rfl
  · rw [keeps.1]
    rfl

theorem Plant.Orderly.event {request : EventRequest} {next : ProductionStore}
    (orderly : plant.Orderly) (undisturbed : Undisturbed plant request)
    (ended : Ends (writeProductionEvent request) plant.store answer next) :
    Plant.Orderly ⟨next, request.entered answer.sessionId plant.entered⟩ := by
  obtain ⟨payload, target, row, isPayload, resolved, answered, isRow, isStatus, isTime, recorded⟩ :=
    accepted_event ended
  intro id mem
  -- the session is the one of the event, and the event leaves it exit ready
  have kept : id = answer.sessionId ∧ request.finalStatus.exitReady = true := by
    cases mem_entered mem with
    | inl started =>
      rw [started.2]
      exact ⟨started.1, rfl⟩
    | inr before =>
      obtain ⟨session, rfl, foremost⟩ := orderly id before
      have keeps := undisturbed.keeps (List.ne_nil_of_mem before)
      rw [foremost.latest] at resolved
      have same : session.id = answer.sessionId := by
        rw [answered, target_of_keeps keeps isPayload foremost.latest resolved]
      rw [same] at mem
      exact ⟨same, exitReady_of_keeps keeps mem⟩
  refine ⟨row, by rw [isRow, kept.1, answered], recorded.foremost ?_ ?_⟩
  · rw [isStatus]
    exact kept.2
  · rw [isTime]
    exact undisturbed.later

theorem Reached.orderly (reached : Reached Undisturbed plant) : plant.Orderly := by
  induction reached with
  | start store => exact fun id mem => absurd mem List.not_mem_nil
  | event _ undisturbed ended orderly => exact orderly.event undisturbed ended

/-! ## Runs on given requests -/

def plainRequest (event : ProductionEvent) (time : Nat) (materialId sessionId : String) :
    EventRequest where
  event := event
  body := .ok (.obj [("materialId", .str materialId), ("sessionId", .str sessionId)])
  workerScope := false
  openTasks := 0
  generatedAt := 0
  now := toString time
  clock := fun _ => toString time
  connection := fun _ => .works
  storageOk := true
  storageReason := .null
  minimumUnusedStorageFlowNo := fun _ => 0
  assignedFlowNo := time
  simulation := false
  provider := some (.obj [("code", .int 0)])
  runtimeSourceMode := "online"
  triggerEventId := time
  finalSummary := .null

/-- The plant after these events, if all of them pass the check and are accepted. -/
def accept (check : Plant → EventRequest → Bool) : List EventRequest → Plant → Option Plant
  | [], plant => some plant
  | request :: requests, plant =>
    match check plant request, (writeProductionEvent request).run.run plant.store with
    | true, (.ok answer, next) =>
      accept check requests ⟨next, request.entered answer.sessionId plant.entered⟩
    | _, _ => none

theorem Reached.accept {condition : Plant → EventRequest → Prop}
    {check : Plant → EventRequest → Bool} {requests : List EventRequest} {last : Plant}
    (before : Reached condition plant)
    (meets : ∀ {plant request}, check plant request = true → condition plant request)
    (ran : accept check requests plant = some last) : Reached condition last := by
  induction requests generalizing plant with
  | nil =>
    cases ran
    exact before
  | cons request requests ih =>
    unfold Production.accept at ran
    split at ran
    next answer next checked ended =>
      exact ih (before.event (meets checked) ended) ran
    · cases ran

/-- A way to see that an event is undisturbed. -/
def seenUndisturbed (plant : Plant) (request : EventRequest) : Bool :=
  (plant.entered.isEmpty || request.event ≠ .steelInfo && request.confirmed &&
    match request.body, latestOpenMaterialSession plant.store.sessions with
    | .ok payload, some session => !mismatches payload session.target
    | _, _ => true) &&
  plant.store.sessions.rows.all (·.updatedAt < request.clock .finalizeMaterialSession)

theorem Undisturbed.of_seen (seen : seenUndisturbed plant request = true) :
    Undisturbed plant request := by
  obtain ⟨kept, later⟩ := Bool.and_eq_true_iff.mp seen
  refine ⟨fun entered => ?_, by simpa using later⟩
  simp only [Bool.or_eq_true, List.isEmpty_iff, entered, false_or, Bool.and_eq_true] at kept
  obtain ⟨⟨notInfo, confirmed⟩, named⟩ := kept
  unfold Keeps
  cases event : request.event with
  | steelInfo => simp [event] at notInfo
  | steelIn => exact confirmed
  | steelOut => trivial
  | triggerEvent =>
    refine ⟨confirmed, fun payload session isPayload latest => names_of_fits ?_⟩
    simpa [isPayload, latest] using named

def idlePlant : Plant := ⟨⟨.empty, .empty, .empty⟩, []⟩

/-- The steel-out is refused on account of a session. -/
def refusesExit (store : ProductionStore) (request : EventRequest) : Bool :=
  match (writeProductionEvent request).run.run store with
  | (.error refusal, _) => refusal.aboutSession
  | (.ok _, _) => false

/-! ## Result -/

/-- In a run of undisturbed events every entered session can be closed. -/
theorem entered_session_closable {plant : Plant} (reached : Reached Undisturbed plant) :
    ∀ id ∈ plant.entered, ∃ session, plant.store.sessions.find? id = some session ∧
      Closable plant.store session := by
  intro id member
  obtain ⟨session, rfl, foremost⟩ := reached.orderly id member
  exact ⟨session, foremost.1, foremost.closable⟩

/-- After a session that is finished `S1` is entered, and a trigger event comes: it can be closed. -/
theorem steelIn_closable : ∃ plant, Reached Undisturbed plant ∧ plant.entered = ["S1"] ∧
    plant.store.sessions.rows.map (fun session => (session.id, session.status)) =
      [("S0", .finished), ("S1", .active)] ∧
    ∀ id ∈ plant.entered, ∃ session, plant.store.sessions.find? id = some session ∧
      Closable plant.store session := by
  obtain ⟨plant, ran, seen⟩ := Option.map_eq_some_iff.mp
    (show (accept seenUndisturbed [plainRequest .steelIn 1 "M0" "S0",
        plainRequest .steelOut 2 "M0" "S0", plainRequest .steelIn 3 "M1" "S1",
        plainRequest .triggerEvent 4 "M1" "S1"] idlePlant).map (fun plant => (plant.entered,
          plant.store.sessions.rows.map fun session => (session.id, session.status))) =
      some (["S1"], [("S0", .finished), ("S1", .active)]) by decide +kernel)
  obtain ⟨entered, rows⟩ := Prod.mk.inj seen
  have reached : Reached Undisturbed plant := Reached.accept (.start _) .of_seen ran
  exact ⟨plant, reached, entered, rows, entered_session_closable reached⟩

/-- After a steel-in of `S1` and a steel-info of another material the steel-out of `S1` is refused. -/
theorem steelInfo_blocks_exit : ¬ ∀ plant, Reached (fun _ _ => True) plant →
    ∀ id ∈ plant.entered, ∃ session, plant.store.sessions.find? id = some session ∧
      Closable plant.store session := by
  intro always
  obtain ⟨plant, ran, seen⟩ := Option.map_eq_some_iff.mp
    (show (accept (fun _ _ => true) [plainRequest .steelIn 1 "M1" "S1",
        plainRequest .steelInfo 2 "M2" "S2"] idlePlant).map (fun plant => (plant.entered,
          (plant.store.sessions.find? "S1").map MaterialSession.target,
          refusesExit plant.store (plainRequest .steelOut 3 "M1" "S1"))) =
      some (["S1"], some ⟨"M1", "S1"⟩, true) by decide +kernel)
  simp only [Prod.mk.injEq] at seen
  obtain ⟨entered, isTarget, refused⟩ := seen
  have reached : Reached (fun _ _ => True) plant :=
    Reached.accept (.start _) (fun _ => trivial) ran
  obtain ⟨session, found, closable⟩ := always plant reached "S1" (by simp [entered])
  rw [found] at isTarget
  obtain ⟨isMaterial, isSession⟩ :=
    ProductionEventTarget.mk.inj (Option.some.inj isTarget)
  obtain ⟨-, refuses⟩ := closable (plainRequest .steelOut 3 "M1" "S1") _ rfl rfl
    (isSession.symm ▸ by decide +kernel) (isMaterial.symm ▸ by decide +kernel)
  unfold refusesExit at refused
  split at refused
  next failed =>
    cases (refuses failed).symm.trans refused
  · cases refused

end SteelInspection.Production
