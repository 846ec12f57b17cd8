import SteelInspection.Calibration.Restarts

/-! # An operation reaches the devices at most once

Rely and guarantee for the service with restarts.  What a request knows under the lock is worth
something only as long as its run lasts: every such fact is stated for the case that the run has not
ended, and a thread of an ended run makes no more calls.  Facts about the rows outlive restarts.
-/

namespace SteelInspection.Calibration

open Foundations Discipline

variable {setSafety : Json → Option String} {tasks : ServiceThread → ServiceTask}

def Asks (setSafety : Json → Option String) (tasks : ServiceThread → ServiceTask)
    (thread : ServiceThread) (request : OperationRequest) : Prop :=
  ∃ path body actor, tasks thread = .request path body actor ∧
    checkOperationRequest setSafety path body = .ok request

variable {request : OperationRequest} {thread : ServiceThread} {service current : Service}
  {call : ServiceCall} {env : Env} {reply : call.Reply} {answer : OperationAnswer}

theorem Asks.unique {other : OperationRequest} (asks : Asks setSafety tasks thread request)
    (alsoAsks : Asks setSafety tasks thread other) : other = request := by
  obtain ⟨path, body, actor, isTask, checked⟩ := asks
  obtain ⟨_, _, _, isOther, checkedOther⟩ := alsoAsks
  cases isTask.symm.trans isOther
  exact Except.ok.inj (checkedOther.symm.trans checked)

def Matched (request : OperationRequest) (service : Service) : Prop :=
  ∃ row, service.shared.ledger.find? request.operationId = some row ∧ request.matches row = true

structure DispatchedOnce (service : Service) : Prop where
  nodup : service.dispatched.Nodup
  recorded : ∀ id ∈ service.dispatched, ∃ row, service.shared.ledger.find? id = some row

/-- The thread has come to its run, and has the lock as long as the run lasts. -/
structure Holding (thread : ServiceThread) (service : Service) : Prop where
  arrived : thread.run ≤ service.run
  held : service.run = thread.run → service.shared.operationLock = some thread.number

structure Inserted (thread : ServiceThread) (request : OperationRequest) (service : Service) :
    Prop where
  holding : Holding thread service
  matched : Matched request service
  fresh : service.run = thread.run → request.operationId ∉ service.dispatched

/-! ## Rely and guarantee -/

def Prepared (setSafety : Json → Option String) (tasks : ServiceThread → ServiceTask)
    (thread : ServiceThread) : ServiceCall → Service → Prop
  | .ledger (.insert input), _ =>
    ∃ request, Asks setSafety tasks thread request ∧ input.id = request.operationId
  | .ledger (.execute statement), service =>
    statement.Ends ∧ ∃ request, Asks setSafety tasks thread request ∧ Matched request service
  | .ledger (.dispatch request), service =>
    Asks setSafety tasks thread request ∧ Inserted thread request service
  | .ledger .unlock, service => Holding thread service
  | .recover _, _ => tasks thread = .startup
  | _, _ => True

theorem Prepared.ends {request : ServiceCall}
    (prepared : Prepared setSafety tasks thread request service) : request.Ends := by
  cases request with
  | ledger call =>
    cases call with
    | execute statement => exact prepared.1
    | _ => trivial
  | _ => trivial

/-- What the others leave alone: the number of the run only grows, the rows keep what was asked, and
nobody dispatches while this thread has the lock. -/
structure ServiceRely (thread : ServiceThread) (service current : Service) : Prop where
  run : service.run ≤ current.run
  rows : ∀ request, Matched request service → Matched request current
  lock : current.run = thread.run → service.run = thread.run →
    service.shared.operationLock = some thread.number →
      current.shared.operationLock = some thread.number ∧ current.dispatched = service.dispatched

theorem Matched.after {after : Service} (matched : Matched request service) (ends : call.Ends)
    (executed : serviceSemantics thread env call service = some (reply, after)) :
    Matched request after := by
  obtain ⟨row, found, same⟩ := matched
  obtain ⟨later, foundLater, moves⟩ := row_moves ends executed found
  refine ⟨later, foundLater, ?_⟩
  simp only [OperationRequest.matches, CalibrationOperation.requestJson, moves.kind, moves.requestHash,
    moves.request] at same ⊢
  exact same

section

variable {after : Service}
  (executed : serviceSemantics thread env call service = some (reply, after))
  {other : ServiceThread}
include executed

theorem run_after : after.run = service.run ∨ call = .restart ∧ after.run = service.run + 1 := by
  cases call with
  | ledger request =>
    obtain ⟨-, shared, -, rfl⟩ := ledger_executed executed
    exact .inl rfl
  | listDispatching => exact .inl (by rw [listDispatching_executed executed])
  | recover existing => obtain rfl | rfl := recover_executed executed <;> exact .inl rfl
  | restart =>
    cases executed
    exact .inr ⟨rfl, rfl⟩

variable (different : other ≠ thread) (prepared : Prepared setSafety tasks thread call service)
include different prepared

theorem lock_after (lasts : after.run = other.run) (started : service.run = other.run)
    (locked : service.shared.operationLock = some other.number) :
    after.shared.operationLock = some other.number ∧ after.dispatched = service.dispatched := by
  cases call with
  | ledger request =>
    obtain ⟨alive, shared, ran, rfl⟩ := ledger_executed executed
    have notMine : service.shared.operationLock ≠ some thread.number := by
      intro mine
      exact different (by cases other; cases thread; simp_all)
    cases request with
    | unlock => exact absurd (prepared.held alive.symm) notMine
    | dispatch operation => exact absurd (prepared.2.holding.held alive.symm) notMine
    | tryLock fence =>
      simp only [semantics, locked] at ran
      cases ran
      exact ⟨locked, List.append_nil _⟩
    | _ => exact ⟨(operationLock_after _ _ rfl ran).trans locked, List.append_nil _⟩
  | listDispatching =>
    rw [listDispatching_executed executed]
    exact ⟨locked, rfl⟩
  | recover existing => obtain rfl | rfl := recover_executed executed <;> exact ⟨locked, rfl⟩
  | restart =>
    cases executed
    dsimp only at lasts
    omega

theorem serviceRely_call : ServiceRely other service after where
  run := by
    rcases run_after executed with same | ⟨-, next⟩ <;> omega
  rows _ matched := matched.after prepared.ends executed
  lock lasts started locked := lock_after executed different prepared lasts started locked

end

theorem ServiceRely.trans {first second third : Service} (before : ServiceRely thread first second)
    (after : ServiceRely thread second third) : ServiceRely thread first third where
  run := Nat.le_trans before.run after.run
  rows request matched := after.rows request (before.rows request matched)
  lock lasts started locked := by
    have between : second.run = thread.run := by
      have := before.run
      have := after.run
      omega
    obtain ⟨lockedThen, sameThen⟩ := before.lock between started locked
    obtain ⟨lockedNow, sameNow⟩ := after.lock lasts between lockedThen
    exact ⟨lockedNow, sameNow.trans sameThen⟩

theorem dispatchedOnce_call {after : Service} (once : DispatchedOnce service)
    (prepared : Prepared setSafety tasks thread call service)
    (executed : serviceSemantics thread env call service = some (reply, after)) :
    DispatchedOnce after := by
  have stays : ∀ id, (∃ row, service.shared.ledger.find? id = some row) →
      ∃ row, after.shared.ledger.find? id = some row := by
    rintro id ⟨row, found⟩
    obtain ⟨later, foundLater, -⟩ := row_moves prepared.ends executed found
    exact ⟨later, foundLater⟩
  have unchanged : after.dispatched = service.dispatched → DispatchedOnce after := by
    intro same
    exact ⟨same ▸ once.nodup, fun id member => stays id (once.recorded id (same ▸ member))⟩
  cases call with
  | ledger request =>
    obtain ⟨alive, shared, ran, rfl⟩ := ledger_executed executed
    cases request with
    | dispatch operation =>
      obtain ⟨-, inserted⟩ := prepared
      refine ⟨List.nodup_append_comm.mp (List.nodup_cons.mpr ⟨inserted.fresh alive.symm, once.nodup⟩),
        fun id member => ?_⟩
      rcases List.mem_append.mp member with before | now
      · exact stays id (once.recorded id before)
      · obtain ⟨row, found, -⟩ := inserted.matched
        rw [List.mem_singleton.mp now]
        exact stays _ ⟨row, found⟩
    | _ => exact unchanged (List.append_nil _)
  | listDispatching => exact unchanged (by rw [listDispatching_executed executed])
  | recover existing => obtain rfl | rfl := recover_executed executed <;> exact unchanged rfl
  | restart =>
    cases executed
    exact unchanged rfl

def serviceDiscipline (setSafety : Json → Option String) (tasks : ServiceThread → ServiceTask) :
    Discipline (serviceRules setSafety tasks) where
  inv := DispatchedOnce
  rely := ServiceRely
  good := Prepared setSafety tasks
  rely_refl _ _ := ⟨Nat.le_refl _, fun _ matched => matched, fun _ _ locked => ⟨locked, rfl⟩⟩
  rely_trans _ _ _ _ before after := before.trans after
  inv_initial initial := by
    obtain ⟨-, nothing⟩ := initial
    exact ⟨nothing ▸ .nil, fun id member => by rw [nothing] at member; cases member⟩
  inv_call once prepared _ executed := dispatchedOnce_call once prepared executed
  rely_call different _ prepared _ executed := serviceRely_call executed different prepared

/-! ## Requests -/

section

variable (relied : ServiceRely thread service current)
include relied

theorem Holding.rely (holding : Holding thread service) : Holding thread current := by
  refine ⟨Nat.le_trans holding.arrived relied.run, fun lasts => ?_⟩
  have started : service.run = thread.run := by
    have := holding.arrived
    have := relied.run
    omega
  exact (relied.lock lasts started (holding.held started)).1

theorem Inserted.rely (inserted : Inserted thread request service) :
    Inserted thread request current := by
  refine ⟨inserted.holding.rely relied, relied.rows request inserted.matched, fun lasts => ?_⟩
  have started : service.run = thread.run := by
    have := inserted.holding.arrived
    have := relied.run
    omega
  rw [(relied.lock lasts started (inserted.holding.held started)).2]
  exact inserted.fresh started

def Replied (request : OperationRequest) (answer : OperationAnswer) (service : Service) : Prop :=
  answer.error.isSome = true ∨ Matched request service

theorem Replied.rely (replied : Replied request answer service) : Replied request answer current :=
  replied.imp_right (relied.rows request)

end

theorem existingResponse_replied {existing : CalibrationOperation}
    (found : service.shared.ledger.find? request.operationId = some existing) :
    Replied request (existingResponse request existing) service := by
  unfold existingResponse
  split
  next same =>
    exact .inr ⟨existing, found, same⟩
  · exact .inl rfl

section requests

variable {thread : ServiceThread} {service : Service} {request : OperationRequest}

theorem find_knows (knows : Service → Prop) (id : OperationId)
    (stable : ∀ {service current}, ServiceRely thread service current → knows service → knows current)
    (known : knows service) :
    (serviceDiscipline setSafety tasks).Safe thread (Returns (fun found current =>
      knows current ∧ current.shared.ledger.find? id = found) knows)
      (serve (findCalibrationOperation id).run) service := by
  refine Safe.knowing (ServiceCall.ledger (.find id)) (stable · known) (fun _ => trivial) ?_
  intro current environment reply after before executed
  obtain ⟨-, shared, ran, rfl⟩ := quiet_executed executed rfl
  rw [Connection.after_query ran]
  cases reply with
  | ok found => exact ⟨before, (Connection.query_ok ran).1.symm⟩
  | error _ => exact before

theorem ending_knows {β : Type} {program : Code β} (asks : Asks setSafety tasks thread request)
    (calls : program.Calls EndingCall) (holding : Holding thread service)
    (matched : Matched request service) : (serviceDiscipline setSafety tasks).Safe thread
      (fun _ current => Holding thread current ∧ Matched request current) (serve program) service := by
  refine Safe.of_calls ?_ ?_ ?_ (calls.lift ServiceCall.ledger fun _ reply => reply)
    ⟨holding, matched⟩
  · exact fun relied known => ⟨known.1.rely relied, relied.rows request known.2⟩
  · rintro _ current ⟨call, rfl, ending⟩ - ⟨-, matched⟩
    cases call <;> first | exact ⟨ending, request, asks, matched⟩ | exact ending.elim | trivial
  rintro _ environment current reply after ⟨call, rfl, ending⟩ - ⟨holding, matched⟩ - executed
  have ends : (ServiceCall.ledger call).Ends := by
    cases call <;> first | exact ending | trivial
  refine ⟨?_, matched.after ends executed⟩
  obtain ⟨-, shared, ran, rfl⟩ := ledger_executed executed
  refine ⟨holding.arrived, fun lasts => ?_⟩
  exact (operationLock_after _ _ ending.locks ran).trans (holding.held lasts)

theorem insertFailed_replied (holding : Holding thread service) :
    (serviceDiscipline setSafety tasks).Safe thread
      (fun answer current => Holding thread current ∧ Replied request answer current)
      (serve (insertFailed request)) service := by
  refine (find_knows (Holding thread) request.operationId (fun relied known => known.rely relied)
    holding).lift_bind fun outcome current known => ?_
  split
  · exact .pure ⟨known.1, existingResponse_replied known.2⟩
  · exact .pure ⟨known.1, .inl rfl⟩
  · exact .pure ⟨known, .inl rfl⟩

section

variable (asks : Asks setSafety tasks thread request)
include asks

theorem insert_inserted (actor : String) (holding : Holding thread service) :
    (serviceDiscipline setSafety tasks).Safe thread
      (Returns (fun _ => Inserted thread request) (Holding thread))
      (serve (insertCalibrationOperation (request.input actor)).run) service := by
  refine Safe.ask (ServiceCall.ledger (.insert (request.input actor)))
    (fun _ _ _ => ⟨request, asks, rfl⟩) ?_
  intro current relied once _ environment reply after executed _
  obtain ⟨arrived, held⟩ := holding.rely relied
  obtain ⟨-, shared, ran, rfl⟩ := quiet_executed executed rfl
  have stillHolding : Holding thread { current with shared } :=
    ⟨arrived, fun lasts => (operationLock_after _ _ rfl ran).trans (held lasts)⟩
  cases reply with
  | error _ => exact stillHolding
  | ok row =>
    simp only [semantics] at ran
    split at ran
    next ledger inserted =>
      obtain ⟨-, rfl⟩ := Connection.write_ok ran
      refine ⟨stillHolding, ⟨(request.input actor).row environment.timestamp, ?_, ?_⟩,
        fun _ member => ?_⟩
      · rw [Table.find?_insert inserted]
        exact if_pos rfl
      · simp [OperationRequest.matches, OperationRequest.input, CalibrationOperationInput.row,
          CalibrationOperation.requestJson]
      · -- its row would have been in the ledger, and the insert would have failed
        obtain ⟨row, found⟩ := once.recorded _ member
        have absent := Table.insert_isSome_iff.mp (Option.isSome_of_eq_some inserted)
        cases absent.symm.trans found
    · cases (Connection.write_ok ran).1

theorem dispatch_knows (inserted : Inserted thread request service) :
    (serviceDiscipline setSafety tasks).Safe thread
      (fun _ current => Holding thread current ∧ Matched request current)
      (serve (ask (.dispatch request))) service := by
  refine Safe.knowing (ServiceCall.ledger (.dispatch request)) inserted.rely (⟨asks, ·⟩) ?_
  rintro current environment reply after ⟨holding, matched, -⟩ executed
  obtain ⟨-, shared, ran, rfl⟩ := ledger_executed executed
  cases ran
  exact ⟨⟨holding.arrived, holding.held⟩, matched⟩

theorem mutateLocked_replied (expected : OperationId) (actor : String)
    (holding : Holding thread service) :
    (serviceDiscipline setSafety tasks).Safe thread
      (fun answer current => Holding thread current ∧ Replied request answer current)
      (serve (mutateLocked request expected actor)) service := by
  refine (find_knows (Holding thread) request.operationId (fun relied known => known.rely relied)
    holding).lift_bind fun found afterFind known => ?_
  split
  · exact .pure ⟨known, .inl rfl⟩
  · exact .pure ⟨known.1, existingResponse_replied known.2⟩
  refine (insert_inserted asks actor known.1).lift_bind fun outcome afterInsert inserted => ?_
  split
  · exact insertFailed_replied inserted
  refine (dispatch_knows asks inserted).lift_bind fun response afterDispatch known => ?_
  -- from here on the row answers for every reply
  split
  · refine (ending_knows asks (ending_recordTimeout request) known.1 known.2).mono ?_
    exact fun _ _ known => ⟨known.1, .inr known.2⟩
  · refine (ending_knows asks (ending_recordResponse request expected actor _) known.1
      known.2).mono ?_
    exact fun _ _ known => ⟨known.1, .inr known.2⟩

end

theorem lockTaken_replied :
    (serviceDiscipline setSafety tasks).Safe thread (Replied request) (serve (lockTaken request))
      service := by
  refine (find_knows (fun _ => True) request.operationId (fun _ known => known) trivial).lift_bind
    fun found afterFind known => ?_
  split
  · exact .pure (existingResponse_replied known.2)
  · exact .pure (.inl rfl)
  · exact .pure (.inl rfl)

theorem tryLock_holding (fence : List CalibrationOperation) :
    (serviceDiscipline setSafety tasks).Safe thread
      (fun taken current => taken = true → Holding thread current)
      (serve (ask (.tryLock fence))) service := by
  refine Safe.ask (ServiceCall.ledger (.tryLock fence)) (fun _ _ _ => trivial) ?_
  rintro current relied _ _ environment reply after executed _ rfl
  obtain ⟨alive, shared, ran, rfl⟩ := quiet_executed executed rfl
  simp only [semantics] at ran
  split at ran
  · cases ran
    exact ⟨Nat.le_of_eq alive, fun _ => rfl⟩
  · cases ran

theorem unlock_replied (holding : Holding thread service) (replied : Replied request answer service) :
    (serviceDiscipline setSafety tasks).Safe thread (fun _ => Replied request answer)
      (serve (ask .unlock)) service := by
  refine Safe.knowing (ServiceCall.ledger .unlock)
    (fun relied => And.intro (holding.rely relied) (replied.rely relied)) And.left ?_
  intro current environment reply after before executed
  have ends : (ServiceCall.ledger .unlock).Ends := trivial
  exact before.2.imp_right fun matched => matched.after ends executed

theorem mutateUnderLock_replied (asks : Asks setSafety tasks thread request)
    (fence : List CalibrationOperation) (expected : OperationId) (actor : String) :
    (serviceDiscipline setSafety tasks).Safe thread (Replied request)
      (serve (mutateUnderLock request fence expected actor)) service := by
  refine (tryLock_holding fence).lift_bind fun taken current holding => ?_
  split
  next held =>
    refine (mutateLocked_replied asks expected actor (holding held)).lift_bind
      fun answer afterAnswer known => ?_
    exact (unlock_replied known.1 known.2).lift_bind fun _ _ replied => .pure replied
  · exact lockTaken_replied

theorem checkFence_refuses {fence : List CalibrationOperation}
    (refused : checkFence request fence = .error answer) : answer.error.isSome = true := by
  unfold checkFence at refused
  split at refused
  · cases refused
  split at refused
  · cases refused
    rfl
  · split at refused
    · grind
    · cases refused
      rfl

theorem mutate_replied (asks : Asks setSafety tasks thread request) (actor : String) :
    (serviceDiscipline setSafety tasks).Safe thread (Replied request) (serve (mutate request actor))
      service := by
  refine (find_knows (fun _ => True) request.operationId (fun _ known => known) trivial).lift_bind
    fun found afterFind known => ?_
  split
  · exact .pure (.inl rfl)
  · exact .pure (existingResponse_replied known.2)
  refine .lift_bind (.ask_any (ServiceCall.ledger .listUnresolved) fun _ _ _ => trivial)
    fun outcome afterList _ => ?_
  split
  · exact .pure (.inl rfl)
  · split
    next refused =>
      exact .pure (.inl (checkFence_refuses refused))
    · exact mutateUnderLock_replied asks _ _ actor

end requests

/-! ## Every run -/

def Settled (setSafety : Json → Option String) (tasks : ServiceThread → ServiceTask)
    (thread : ServiceThread) (outcome : ServiceOutcome) (service : Service) : Prop :=
  ∀ answer request, outcome = .answered answer → Asks setSafety tasks thread request →
    Replied request answer service

theorem recoverAll_calls (interrupted : List CalibrationOperation) (recovered : Nat) :
    (recoverAll interrupted recovered).run.Calls fun call => ∃ existing, call = .recover existing := by
  induction interrupted generalizing recovered with
  | nil => exact .pure
  | cons existing interrupted ih =>
    exact .attempt (.ask _ ⟨existing, rfl⟩) fun _ => ih _

theorem mutationResponse_replied {path : String} {body : Option Json} {actor : String}
    (isTask : tasks thread = .request path body actor) :
    (serviceDiscipline setSafety tasks).Safe thread
      (fun answer current => ∀ request, Asks setSafety tasks thread request →
        Replied request answer current)
      (serve (mutationResponse setSafety path body actor)) service := by
  unfold mutationResponse
  cases checked : checkOperationRequest setSafety path body with
  | error error =>
    refine .pure fun request asks => ?_
    obtain ⟨_, _, _, isOther, checkedOther⟩ := asks
    cases isTask.symm.trans isOther
    cases checked.symm.trans checkedOther
  | ok request =>
    have asks : Asks setSafety tasks thread request := ⟨path, body, actor, isTask, checked⟩
    refine (mutate_replied asks actor).mono fun answer current replied other alsoAsks => ?_
    rw [asks.unique alsoAsks]
    exact replied

theorem recovery_safe (isTask : tasks thread = .startup) :
    (serviceDiscipline setSafety tasks).Obeys thread
      recoverDispatchingCalibrationOperations.run service := by
  have calls : recoverDispatchingCalibrationOperations.run.Calls
      fun call => call = .listDispatching ∨ ∃ existing, call = .recover existing :=
    .attempt (.ask _ (.inl rfl)) fun interrupted =>
      (recoverAll_calls interrupted 0).mono fun _ isRecover => .inr isRecover
  refine Safe.of_calls (fun _ known => known) ?_ (fun _ _ known _ _ => known) calls trivial
  rintro call current (rfl | ⟨existing, rfl⟩) _ _
  · trivial
  · exact isTask

theorem serviceHandler_settled {program : ServiceCode ServiceOutcome}
    (handler : (serviceRules setSafety tasks).handler thread program) :
    (serviceDiscipline setSafety tasks).Safe thread (Settled setSafety tasks thread) program
      service := by
  cases handler
  cases isTask : tasks thread with
  | request path body actor =>
    refine (mutationResponse_replied isTask).bind fun answer current replied => .pure ?_
    intro sameAnswer request isAnswer asks
    cases isAnswer
    exact replied request asks
  | startup =>
    refine (recovery_safe isTask).bind fun rows current _ => .pure ?_
    intro answer request isAnswer
    cases isAnswer
  | restart =>
    refine .bind (.ask_any ServiceCall.restart fun _ _ _ => trivial) fun _ current _ => .pure ?_
    intro answer request isAnswer
    cases isAnswer

theorem serviceHandler_safe (thread : ServiceThread) (program : ServiceCode ServiceOutcome)
    (service : Service) (handler : (serviceRules setSafety tasks).handler thread program)
    (_ : DispatchedOnce service) :
    (serviceDiscipline setSafety tasks).Obeys thread program service :=
  (serviceHandler_settled handler).mono fun _ _ _ => trivial

section runs

variable {machine : Machine Service ServiceThread ServiceCall ServiceCall.Reply ServiceOutcome}

section

variable (reached : (serviceRules setSafety tasks).Reachable machine)
include reached

variable {thread : ServiceThread} {call : ServiceCall}

theorem reachable_prepared (next : machine.nextCall? thread = some call) :
    Prepared setSafety tasks thread call machine.shared :=
  (serviceDiscipline setSafety tasks).reachable_good serviceHandler_safe reached next

theorem reachable_settled {outcome : ServiceOutcome}
    (answered : machine.answer? thread = some outcome) :
    Settled setSafety tasks thread outcome machine.shared := by
  refine (serviceDiscipline setSafety tasks).reachable_answer (Settled setSafety tasks) ?_ ?_ reached
    answered
  · intro thread outcome service current relied settled answer request isAnswer asks
    exact (settled answer request isAnswer asks).rely relied
  · exact fun _ _ _ handler _ => serviceHandler_settled handler

/-- A request that does not match the row of its operation changes nothing. -/
theorem mismatch_changes_nothing {request : OperationRequest} {row : CalibrationOperation}
    (asks : Asks setSafety tasks thread request)
    (found : machine.shared.shared.ledger.find? request.operationId = some row)
    (differs : request.matches row = false) {env : Env} {reply : call.Reply} {after : Service}
    (next : machine.nextCall? thread = some call)
    (executed : serviceSemantics thread env call machine.shared = some (reply, after)) :
    after.shared.ledger = machine.shared.shared.ledger ∧
      after.dispatched = machine.shared.dispatched := by
  have notMatched : ∀ other, Asks setSafety tasks thread other → ¬ Matched other machine.shared := by
    rintro other alsoAsks ⟨stored, foundStored, same⟩
    rw [asks.unique alsoAsks] at foundStored same
    cases found.symm.trans foundStored
    cases differs.symm.trans same
  have prepared := reachable_prepared reached next
  cases call with
  | ledger call =>
    have quiet : call.dispatches = [] := by
      cases call with
      | dispatch other => exact absurd prepared.2.matched (notMatched other prepared.1)
      | _ => rfl
    obtain ⟨-, shared, ran, rfl⟩ := quiet_executed executed quiet
    refine ⟨?_, rfl⟩
    obtain same | ⟨input, rfl, inserted⟩ | ⟨statement, rfl, -⟩ := ledger_after ran
    · exact same
    · -- the id is taken, so the insert would have failed
      obtain ⟨other, alsoAsks, isId⟩ := prepared
      have absent : machine.shared.shared.ledger.find? input.id = none :=
        Table.insert_isSome_iff.mp (Option.isSome_of_eq_some inserted)
      rw [isId, asks.unique alsoAsks] at absent
      cases absent.symm.trans found
    · obtain ⟨-, other, alsoAsks, matched⟩ := prepared
      exact absurd matched (notMatched other alsoAsks)
  | listDispatching =>
    rw [listDispatching_executed executed]
    exact ⟨rfl, rfl⟩
  | recover existing =>
    obtain ⟨_, _, _, isRequest, -⟩ := asks
    cases isRequest.symm.trans prepared
  | restart =>
    cases executed
    exact ⟨rfl, rfl⟩

end

/-- In every run, whatever the requests, the replies of the provider and of the database, and the
restarts: no operation was handed to the provider twice; a row keeps what was asked for it and its
status moves along the edges, each time with a greater version; and a request that does not match the
row of its operation changes neither ledger nor devices, and its answer is an error. -/
theorem operation_dispatched_once (reached : (serviceRules setSafety tasks).Reachable machine) :
    machine.shared.dispatched.Nodup ∧
    (∀ action next, (serviceRules setSafety tasks).Allowed machine action →
      machine.step serviceSemantics action = some next →
      ∀ id row, machine.shared.shared.ledger.find? id = some row →
        ∃ later, next.shared.shared.ledger.find? id = some later ∧ row.MovesTo later) ∧
    ∀ thread request row, Asks setSafety tasks thread request →
      machine.shared.shared.ledger.find? request.operationId = some row →
      request.matches row = false →
        (∀ env next, machine.step serviceSemantics (.advance thread env) = some next →
          next.shared.shared.ledger = machine.shared.shared.ledger ∧
          next.shared.dispatched = machine.shared.dispatched) ∧
        ∀ answer, machine.answer? thread = some (.answered answer) →
          answer.error.isSome = true := by
  refine ⟨?_, ?_, ?_⟩
  · exact ((serviceDiscipline setSafety tasks).reachable_safe serviceHandler_safe reached).1.nodup
  · intro action next allowed stepped id row found
    have start : ∃ later, machine.shared.shared.ledger.find? id = some later ∧ row.MovesTo later :=
      ⟨row, found, .refl row⟩
    exact allowed.keeps stepped start fun asked _ executed =>
      row_moves (reachable_prepared reached asked).ends executed found
  · intro thread request row asks found differs
    refine ⟨fun env next stepped => ?_, fun answer answered => ?_⟩
    · obtain ⟨_, _, isSpawn, -⟩ | ⟨thread, env, call, _, reply, after, isAdvance, running, executed, rfl⟩ :=
        Machine.step_cases stepped
      · cases isSpawn
      · cases isAdvance
        exact mismatch_changes_nothing reached asks found differs
          (Machine.nextCall?_eq_some.mpr ⟨_, running⟩) executed
    · refine (reachable_settled reached answered answer request rfl asks).resolve_right ?_
      rintro ⟨stored, foundStored, same⟩
      cases found.symm.trans foundStored
      cases differs.symm.trans same

end runs

/-! ## An operation cut off by a restart -/

def applyAllBody (members : List (String × Json)) : Json :=
  .obj (("confirmation", .str "APPLY CAMERA CALIBRATION SET") :: ("operationId", .str "A") :: members)

def applyAll (members : List (String × Json)) : ServiceTask :=
  .request "/api/calibration/apply-all" (some (applyAllBody members)) "engineer"

/-- The first run applies a calibration set; the second one recovers, and is asked for another set
under the same operation id. -/
def twoRuns (thread : ServiceThread) : ServiceTask :=
  match thread.run, thread.number with
  | 0, 0 => applyAll []
  | 1, 0 => .startup
  | 1, 1 => applyAll [("set", .str "other")]
  | _, _ => .restart

abbrev ServiceSchedule := List (Action ServiceThread Env ServiceCall ServiceCall.Reply ServiceOutcome)

def serviceSteps (run number count : Nat) : ServiceSchedule :=
  .spawn ⟨run, number⟩ ((twoRuns ⟨run, number⟩).program fun _ => none) ::
    List.replicate count (.advance ⟨run, number⟩ {})

/-- The service stops when the provider has been asked and nothing has been recorded. -/
def cutOff : ServiceSchedule :=
  serviceSteps 0 0 6 ++ serviceSteps 0 1 1 ++ serviceSteps 1 0 2 ++ serviceSteps 1 1 1

def firstRun : Service := ⟨⟨Table.empty, [], none⟩, 0, []⟩

def otherSet? : Option OperationRequest :=
  match checkOperationRequest (fun _ => none) "/api/calibration/apply-all"
    (some (applyAllBody [("set", .str "other")])) with
  | .ok request => some request
  | .error _ => none

theorem otherSet_asks (isOther : otherSet? = some request) :
    Asks (fun _ => none) twoRuns ⟨1, 1⟩ request := by
  refine ⟨_, _, _, rfl, ?_⟩
  unfold otherSet? at isOther
  split at isOther
  next checked =>
    rw [checked, Option.some.inj isOther]
  · cases isOther

theorem replay_refused_after_restart :
    ∃ (machine : Machine Service ServiceThread ServiceCall ServiceCall.Reply ServiceOutcome)
        (request : OperationRequest) (row : CalibrationOperation),
      (serviceRules (fun _ => none) twoRuns).Reachable machine ∧
      Asks (fun _ => none) twoRuns ⟨1, 1⟩ request ∧ machine.shared.dispatched = ["A"] ∧
      machine.shared.shared.ledger.find? request.operationId = some row ∧
      row.status = .needsReconciliation ∧ (machine.answer? ⟨1, 1⟩).isSome = true ∧
      ∀ answer, machine.answer? ⟨1, 1⟩ = some (.answered answer) → answer.error.isSome = true := by
  obtain ⟨request, isOther, isA⟩ : ∃ request, otherSet? = some request ∧ request.operationId = "A" :=
    Option.map_eq_some_iff.mp (by decide +kernel)
  obtain ⟨machine, reached, facts⟩ : ∃ machine,
      (serviceRules (fun _ => none) twoRuns).Reachable machine ∧
      (machine.shared.dispatched, (machine.answer? ⟨1, 1⟩).isSome,
        (machine.shared.shared.ledger.find? "A").map fun row =>
          (row.status, otherSet?.all fun request => request.matches row == false)) =
        (["A"], true, some (.needsReconciliation, true)) :=
    Rules.exists_reachable (fun _ _ _ => true) firstRun cutOff (fun _ _ _ _ => trivial) ⟨rfl, rfl⟩
      ⟨rfl, rfl, rfl, rfl, trivial⟩ (by decide +kernel)
  obtain ⟨dispatched, facts⟩ := Prod.mk.inj facts
  obtain ⟨answered, facts⟩ := Prod.mk.inj facts
  obtain ⟨row, found, facts⟩ := Option.map_eq_some_iff.mp facts
  obtain ⟨interrupted, differs⟩ := Prod.mk.inj facts
  have asks := otherSet_asks isOther
  rw [← isA] at found
  have mismatch : request.matches row = false := by simpa [isOther] using differs
  exact ⟨machine, request, row, reached, asks, dispatched, found, interrupted, answered,
    ((operation_dispatched_once reached).2.2 ⟨1, 1⟩ request row asks found mismatch).2⟩

end SteelInspection.Calibration
