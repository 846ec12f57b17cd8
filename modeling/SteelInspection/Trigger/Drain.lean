import Mathlib.Algebra.Group.Nat.Defs
import SteelInspection.Foundations.Interleaving
import SteelInspection.Service.Http

/-! # Draining the trigger gateway

Every trigger is admitted under the gateway's mutex, is counted as in flight while it is forwarded
to the inspection service, and is counted off when its admission guard is dropped.  Draining closes
the gateway for everything but steel-out completions; the gateway reports itself drained when it
accepts nothing and nothing is in flight.  No code opens it again.

Each locked access to the gateway is one call.  The verdicts of the security checks, the answers of
the inspection service, the listeners' state and the page for operators come from outside.
-/

namespace SteelInspection.Trigger.Drain

open Foundations Discipline

/-! ## The gateway -/

abbrev Thread := Nat

/-- `TriggerAdmissionGuard`, with the request that holds it and the target it was admitted for.  The
ticket tells two guards apart. -/
structure AdmissionGuard where
  ticket : Nat
  holder : Thread
  target : String
  deriving DecidableEq, Repr

/-- `GatewayState` without its security configuration and seen nonces; the guards that have not been
dropped, and the number of tickets given out. -/
structure Gateway where
  mode : String
  accepting : Bool
  inFlight : Nat
  guards : List AdmissionGuard
  issued : Nat

/-- The gateway as `main` makes it. -/
def Gateway.fresh (mode : String) : Gateway := ⟨mode, true, 0, [], 0⟩

def triggerDrainingJson : Json := .obj [("code", .int 503), ("error", .str "trigger_draining")]

def gatewayStateUnavailableJson : Json :=
  .obj [("code", .int 503), ("error", .str "gateway_state_unavailable")]

def completionTarget (target : String) : Bool := target == "/api/production/tasks/steel-out"

/-- `admit_trigger`; the counter is a `u64`. -/
def admitTrigger (holder : Thread) (target : String) (gateway : Gateway) :
    Except Json AdmissionGuard × Gateway :=
  if !gateway.accepting && !completionTarget target then (.error triggerDrainingJson, gateway)
  else if gateway.inFlight + 1 < 2 ^ 64 then
    (.ok ⟨gateway.issued, holder, target⟩,
      { gateway with
        inFlight := gateway.inFlight + 1
        guards := ⟨gateway.issued, holder, target⟩ :: gateway.guards
        issued := gateway.issued + 1 })
  else (.error gatewayStateUnavailableJson, gateway)

def dropGuard (guard : AdmissionGuard) (gateway : Gateway) : Gateway :=
  { gateway with inFlight := gateway.inFlight - 1, guards := gateway.guards.erase guard }

def admissionStatusJson (gateway : Gateway) : Json :=
  .obj [("accepting", .bool gateway.accepting),
    ("drained", .bool (!gateway.accepting && gateway.inFlight == 0)),
    ("inFlight", .int gateway.inFlight)]

def enterDrain (gateway : Gateway) : Json × Gateway :=
  (.obj [("accepting", .bool false), ("code", .int 0), ("drained", .bool (gateway.inFlight == 0)),
      ("inFlight", .int gateway.inFlight)],
    { gateway with accepting := false })

/-! ## Requests -/

inductive Call where
  /-- `source_allowed`, `authenticated_network_payload`, `authorize_operator_request`,
  `authorize_http_trigger` and the flag `allow_mode_mutation`. -/
  | sourceAllowed
  | authenticatedPayload
  | authorizeOperator
  | authorizeHttpTrigger
  | modeMutationAllowed
  | currentMode
  | setCurrentMode (mode : String)
  | admitTrigger (target : String)
  | dropGuard (guard : AdmissionGuard)
  | enterDrain
  | admissionStatus
  /-- `post_json` and `get_json` to the inspection service. -/
  | postJson (target payload : String)
  | getJson (target : String)
  /-- The listeners and `security_snapshot`. -/
  | snapshot
  /-- The page for operators, or its refusal. -/
  | manualPage

structure Snapshot where
  ready : Bool
  listeners : Json
  security : Json

abbrev Call.Reply : Call → Type
  | .sourceAllowed | .modeMutationAllowed => Bool
  | .authenticatedPayload => Except Json Json
  | .authorizeOperator | .authorizeHttpTrigger => Option HttpResponse
  | .currentMode => String
  | .setCurrentMode _ | .dropGuard _ => Unit
  | .admitTrigger _ => Except Json AdmissionGuard
  | .enterDrain | .admissionStatus => Json
  | .postJson _ _ | .getJson _ => Option Json
  | .snapshot => Snapshot
  | .manualPage => HttpResponse

/-- What the outside contributes to a call. -/
structure Env where
  allowed : Bool := true
  payload : Except Json Json := .ok (.obj [])
  refusal : Option HttpResponse := none
  service : Option Json := none
  snapshot : Snapshot := ⟨true, .null, .null⟩
  page : HttpResponse := ⟨200, "OK", "", none⟩

def semantics : Semantics Gateway Thread Env Call Call.Reply
  | _, env, .sourceAllowed, gateway | _, env, .modeMutationAllowed, gateway =>
    some (env.allowed, gateway)
  | _, env, .authenticatedPayload, gateway => some (env.payload, gateway)
  | _, env, .authorizeOperator, gateway | _, env, .authorizeHttpTrigger, gateway =>
    some (env.refusal, gateway)
  | _, _, .currentMode, gateway => some (gateway.mode, gateway)
  | _, _, .setCurrentMode mode, gateway => some ((), { gateway with mode })
  | thread, _, .admitTrigger target, gateway => some (admitTrigger thread target gateway)
  | _, _, .dropGuard guard, gateway => some ((), dropGuard guard gateway)
  | _, _, .enterDrain, gateway => some (enterDrain gateway)
  | _, _, .admissionStatus, gateway => some (admissionStatusJson gateway, gateway)
  | _, env, .postJson _ _, gateway | _, env, .getJson _, gateway => some (env.service, gateway)
  | _, env, .snapshot, gateway => some (env.snapshot, gateway)
  | _, env, .manualPage, gateway => some (env.page, gateway)

abbrev Code (α : Type) := Program Call Call.Reply α

abbrev ask (request : Call) : Code request.Reply := Program.ask request

/-- The scope of `_admission_guard`: the guard is dropped when the code below it has come to its
end. -/
def withAdmission {α : Type} (target : String) (forward : Code α) : Code (Except Json α) := do
  match ← ask (.admitTrigger target) with
  | .error error => return .error error
  | .ok guard =>
    let answer ← forward
    ask (.dropGuard guard)
    return .ok answer

def replaceUnderscores (text : String) : String :=
  String.ofList (text.toList.map fun character => if character = '_' then '-' else character)

def eventServicePath (event : String) : Option String :=
  let event := replaceUnderscores (Text.toAsciiLowercase (Text.trim event))
  if event ∈ ["steel-info", "info", "material-info"] then some "/api/production/tasks/steel-info"
  else if event ∈ ["steel-in", "in", "enter"] then some "/api/production/tasks/steel-in"
  else if event ∈ ["steel-out", "out", "leave"] then some "/api/production/tasks/steel-out"
  else if event ∈ ["secondary-data", "l2-data"] then some "/api/production/secondary-data"
  else if event = "capture-summary" then some "/api/production/capture-summary"
  else if event = "capture-once" then some "/api/production/capture-once"
  else if event = "defect" then some "/api/production/defect"
  else if event ∈ ["event", "trigger-event"] then some "/api/production/tasks/trigger-event"
  else none

def servicePathFor (path : String) : Option String :=
  if path ∈ ["/api/trigger/steel-info", "/api/l2/steel-info"] then
    some "/api/production/tasks/steel-info"
  else if path ∈ ["/api/trigger/steel-in", "/api/plc/steel-in"] then
    some "/api/production/tasks/steel-in"
  else if path ∈ ["/api/trigger/steel-out", "/api/plc/steel-out"] then
    some "/api/production/tasks/steel-out"
  else if path ∈ ["/api/trigger/secondary-data", "/api/l2/secondary-data"] then
    some "/api/production/secondary-data"
  else if path = "/api/trigger/capture-summary" then some "/api/production/capture-summary"
  else if path = "/api/trigger/capture-once" then some "/api/production/capture-once"
  else if path = "/api/trigger/defect" then some "/api/production/defect"
  else if path ∈ ["/api/trigger/event", "/api/plc/event"] then
    some "/api/production/tasks/trigger-event"
  else none

def manualServicePathFor (path : String) : Option String :=
  if path ∈ ["/api/trigger/manual/steel-info", "/api/manual/steel-info"] then
    some "/api/production/tasks/steel-info"
  else if path ∈ ["/api/trigger/manual/steel-in", "/api/manual/steel-in"] then
    some "/api/production/tasks/steel-in"
  else if path ∈ ["/api/trigger/manual/steel-out", "/api/manual/steel-out"] then
    some "/api/production/tasks/steel-out"
  else none

/-- `str::contains`. -/
def containsText (part : List Char) : List Char → Bool
  | [] => part.isEmpty
  | first :: rest => part.isPrefixOf (first :: rest) || containsText part rest

def gatewaySource (path : String) : String :=
  if containsText "/plc/".toList path.toList then "plc"
  else if containsText "/l2/".toList path.toList then "l2"
  else "trigger-gateway"

def normalizeGatewayMode (value : String) : String :=
  let value := Text.toAsciiLowercase (Text.trim value)
  if value ∈ ["manual", "手动"] then "manual"
  else if value ∈ ["gray", "grey", "grayscale", "灰度"] then "gray"
  else if value ∈ ["secondary", "level2", "l2", "二级"] then "secondary"
  else if value = "tcp" then "tcp"
  else if value = "udp" then "udp"
  else "api"

def modeLabel (mode : String) : String :=
  if mode = "manual" then "手动"
  else if mode = "gray" then "灰度"
  else if mode = "secondary" then "二级"
  else if mode = "tcp" then "TCP"
  else if mode = "udp" then "UDP"
  else "API"

/-- The fields of `mode_json`. -/
def modeFields (mode : String) : List (String × Json) :=
  [("allowedModes",
      .arr (["api", "tcp", "udp", "gray", "secondary", "manual"].map Json.str)),
    ("code", .int 0), ("manualAllowed", .bool (mode == "manual")), ("mode", .str mode),
    ("modeLabel", .str (modeLabel mode))]

/-- `entry(key).or_insert_with(value)`. -/
def fieldOr (key : String) (value : Json) (fields : List (String × Json)) : List (String × Json) :=
  if ((Json.obj fields).get? key).isSome then fields else Json.setField key value fields

/-- `enrich_payload`, of the value a JSON reader makes of the body if it reads it. -/
def enrichPayload (body : Option Json) (source mode : String) : String :=
  let fields :=
    match body.getD (.obj []) with
    | .obj fields => fields
    | other => [("raw", other)]
  (Json.obj (fieldOr "mode" (.str mode) (fieldOr "source" (.str source) fields))).render

def serviceOffline : Json :=
  .obj [("code", .int 503), ("error", .str "inspection_service_offline")]

def serviceCode (service : Json) : Json :=
  .int (((service.get? "code").bind Json.asI64).getD 503)

def networkTriggerResponse (transport : String) : Code Json := do
  if !(← ask .sourceAllowed) then
    return .obj [("code", .int 403), ("error", .str "trigger_source_forbidden")]
  match ← ask .authenticatedPayload with
  | .error error => return error
  | .ok payload =>
    let event := ((payload.getFirst? ["event", "type", "action"]).bind Json.asStr).getD ""
    match eventServicePath event with
    | none =>
      return .obj [("code", .int 400), ("error", .str "unsupported_event"), ("event", .str event),
        ("supportedEvents", .arr (["steel-info", "steel-in", "steel-out", "secondary-data",
          "capture-once", "capture-summary", "defect", "event"].map Json.str))]
    | some target =>
      let forwarded ← withAdmission target do
        let mode ← ask .currentMode
        let service ← ask (.postJson target (enrichPayload (some payload) transport mode))
        return (mode, service.getD serviceOffline)
      match forwarded with
      | .error error => return error
      | .ok (mode, service) =>
        return .obj [("code", serviceCode service), ("event", .str event),
          ("gateway", .str "steel-trigger-gateway"), ("mode", .str mode), ("service", service),
          ("target", .str target), ("transport", .str transport)]

def triggerAdmissionHttpResponse (error : Json) : HttpResponse :=
  .json 503 "Service Unavailable" error

def manualModeRequiredResponse (mode : String) : HttpResponse :=
  .json 409 "Conflict" (.obj [("code", .int 409), ("error", .str "manual_mode_required"),
    ("manualAllowed", .bool false),
    ("message",
      .str "manual steel-in/out controls are only available when trigger mode is manual"),
    ("mode", .str mode)])

def notFoundResponse : HttpResponse :=
  .json 404 "Not Found" (.obj [("code", .int 404), ("error", .str "not_found")])

/-- The two branches of `handle_client` that forward a trigger. -/
def forwardTrigger (target source mode : String) (body : Option Json) : Code HttpResponse := do
  let forwarded ← withAdmission target do
    let service ← ask (.postJson target (enrichPayload body source mode))
    return service.getD serviceOffline
  match forwarded with
  | .error error => return triggerAdmissionHttpResponse error
  | .ok service =>
    return .json 200 "OK" (.obj [("code", serviceCode service),
      ("gateway", .str "steel-trigger-gateway"), ("mode", .str mode), ("service", service),
      ("target", .str target)])

def changeMode (body : Option Json) : Code HttpResponse := do
  if !(← ask .modeMutationAllowed) then
    return .json 423 "Locked" (.obj [("code", .int 423), ("error", .str "trigger_mode_locked")])
  match ← ask .authorizeOperator with
  | some response => return response
  | none =>
    let requested := ((body.bind (·.get? "mode")).bind Json.asStr).getD "api"
    let mode := normalizeGatewayMode requested
    ask (.setCurrentMode mode)
    return .json 200 "OK" (.obj (modeFields mode))

def drainGateway : Code HttpResponse := do
  match ← ask .authorizeOperator with
  | some response => return response
  | none => return .json 200 "OK" (← ask .enterDrain)

def gatewayStatus (mode : String) : Code HttpResponse := do
  let service := (← ask (.getJson "/api/production/status")).getD serviceOffline
  let snapshot ← ask .snapshot
  let admission ← ask .admissionStatus
  let fields := [("service", .str "steel-trigger-gateway"),
    ("gatewayReady", .bool snapshot.ready), ("listeners", snapshot.listeners),
    ("security", snapshot.security),
    ("accepting", (admission.get? "accepting").getD (.bool false)),
    ("inFlight", (admission.get? "inFlight").getD .null),
    ("drained", (admission.get? "drained").getD .null),
    ("inspectionServiceHealthy",
      .bool (decide ((service.get? "code").bind Json.asI64 = some 0)))]
  return .json 200 "OK"
    (.obj (fields.foldl (fun status field => Json.setField field.1 field.2 status) (modeFields mode)))

def handleClient (method path : String) (body : Option Json) : Code HttpResponse := do
  let mode ← ask .currentMode
  if method = "OPTIONS" then return ⟨204, "No Content", "", none⟩
  else if method = "GET" ∧ path ∈ ["/", "/manual"] then ask .manualPage
  else if method = "GET" ∧ path = "/api/trigger/mode" then
    return .json 200 "OK" (.obj (modeFields mode))
  else if method = "POST" ∧ path = "/api/trigger/mode" then changeMode body
  else if method = "POST" ∧ path = "/api/trigger/drain" then drainGateway
  else if method = "GET" ∧ path ∈ ["/health", "/api/trigger/status"] then gatewayStatus mode
  else if method = "POST" then
    match manualServicePathFor path, servicePathFor path with
    | some target, _ =>
      match ← ask .authorizeOperator with
      | some response => return response
      | none =>
        if mode ≠ "manual" then return manualModeRequiredResponse mode
        else forwardTrigger target "manual" mode body
    | none, some target =>
      match ← ask .authorizeHttpTrigger with
      | some response => return response
      | none => forwardTrigger target (gatewaySource path) mode body
    | none, none => return notFoundResponse
  else return notFoundResponse

/-- What a request is answered with: a line of JSON, or an HTTP answer. -/
inductive Answer where
  | line (body : Json)
  | http (response : HttpResponse)

/-- The requests of the three listeners, in any number and any order. -/
def gatewayRules : Rules Gateway Thread Env Call Call.Reply Answer where
  semantics := semantics
  handler _ program :=
    (∃ transport, program = .line <$> networkTriggerResponse transport) ∨
      ∃ method path body, program = .http <$> handleClient method path body
  undisturbed _ _ _ := True
  initial gateway := ∃ mode, gateway = .fresh mode

/-! ## The counter counts the guards -/

/-- The counter is the number of guards; their tickets are different and have been given out. -/
structure Counted (gateway : Gateway) : Prop where
  inFlight : gateway.inFlight = gateway.guards.length
  unique : (gateway.guards.map AdmissionGuard.ticket).Nodup
  issued : ∀ guard ∈ gateway.guards, guard.ticket < gateway.issued

theorem Counted.fresh (mode : String) : Counted (.fresh mode) where
  inFlight := rfl
  unique := List.nodup_nil
  issued _ mem := nomatch mem

variable {gateway after : Gateway} {request : Call} {reply : request.Reply} {thread : Thread}
  {env : Env} {machine : Machine Gateway Thread Call Call.Reply Answer} {guard : AdmissionGuard}

/-- An admission gives out a new guard, or is refused and changes nothing. -/
theorem admitTrigger_cases {target : String} {reply : Except Json AdmissionGuard}
    (ran : admitTrigger thread target gateway = (reply, after)) :
    reply = .ok ⟨gateway.issued, thread, target⟩ ∧
      after = { gateway with
        inFlight := gateway.inFlight + 1
        guards := ⟨gateway.issued, thread, target⟩ :: gateway.guards
        issued := gateway.issued + 1 } ∧
      (gateway.accepting = true ∨ completionTarget target = true) ∨
    (∃ error, reply = .error error) ∧ after = gateway := by
  unfold admitTrigger at ran
  grind

section

variable (counted : Counted gateway)
include counted

theorem Counted.nodup : gateway.guards.Nodup :=
  List.Pairwise.of_map AdmissionGuard.ticket
    (fun _ _ different same => different (congrArg _ same)) counted.unique

theorem Counted.admit (holder : Thread) (target : String) :
    Counted { gateway with
      inFlight := gateway.inFlight + 1
      guards := ⟨gateway.issued, holder, target⟩ :: gateway.guards
      issued := gateway.issued + 1 } where
  inFlight := by simp [counted.inFlight]
  unique := by
    -- the ticket is new: all others were given out before
    have unused : gateway.issued ∉ gateway.guards.map AdmissionGuard.ticket := by
      intro used
      obtain ⟨guard, mem, same⟩ := List.mem_map.mp used
      have := counted.issued guard mem
      omega
    simpa using ⟨by simpa using unused, counted.unique⟩
  issued guard mem := by
    rcases List.mem_cons.mp mem with rfl | old
    · exact Nat.lt_succ_self _
    · exact Nat.lt_succ_of_lt (counted.issued guard old)

theorem Counted.drop (mem : guard ∈ gateway.guards) : Counted (dropGuard guard gateway) where
  inFlight := by simp [dropGuard, List.length_erase_of_mem mem, counted.inFlight]
  unique := counted.unique.sublist (List.erase_sublist.map _)
  issued other held := counted.issued other (List.mem_of_mem_erase held)

end

/-! ## Who holds a guard -/

/-- A request drops only a guard of its own that exists, and forwards only what it has a guard for. -/
def Permitted (thread : Thread) : Call → Gateway → Prop
  | .dropGuard guard, gateway => guard ∈ gateway.guards ∧ guard.holder = thread
  | .postJson target _, gateway =>
    ∃ guard ∈ gateway.guards, guard.holder = thread ∧ guard.target = target
  | _, _ => True

/-- The others neither take nor give the guards of a request. -/
def Untouched (thread : Thread) (gateway current : Gateway) : Prop :=
  ∀ guard, guard.holder = thread → (guard ∈ current.guards ↔ guard ∈ gateway.guards)

section

variable (permitted : Permitted thread request gateway)
  (ran : semantics thread env request gateway = some (reply, after))
include permitted ran

theorem counted_call (counted : Counted gateway) : Counted after := by
  cases request with
  | admitTrigger target =>
    obtain ⟨-, rfl, -⟩ | ⟨-, rfl⟩ := admitTrigger_cases (Option.some.inj ran)
    · exact counted.admit thread target
    · exact counted
  | dropGuard guard =>
    cases ran
    exact counted.drop permitted.1
  | _ =>
    cases ran
    exact { counted with }

theorem untouched_call {other : Thread} (different : other ≠ thread) :
    Untouched other gateway after := by
  intro guard held
  cases request with
  | admitTrigger target =>
    obtain ⟨-, rfl, -⟩ | ⟨-, rfl⟩ := admitTrigger_cases (Option.some.inj ran)
    · grind
    · exact Iff.rfl
  | dropGuard dropped =>
    cases ran
    have notDropped : guard ≠ dropped := by
      rintro rfl
      exact different (held.symm.trans permitted.2)
    exact List.mem_erase_of_ne notDropped
  | _ =>
    cases ran
    exact Iff.rfl

end

def gatewayDiscipline : Discipline gatewayRules where
  inv := Counted
  rely := Untouched
  good := Permitted
  rely_refl _ _ _ _ := Iff.rfl
  rely_trans _ _ _ _ before after guard held := (after guard held).trans (before guard held)
  inv_initial := by
    rintro gateway ⟨mode, rfl⟩
    exact .fresh mode
  inv_call counted permitted _ executed := counted_call permitted executed counted
  rely_call different _ permitted _ executed := untouched_call permitted executed different

def Free (thread : Thread) (gateway : Gateway) : Prop :=
  ∀ guard ∈ gateway.guards, guard.holder ≠ thread

/-- The request holds this guard and no other. -/
def Holds (thread : Thread) (guard : AdmissionGuard) (gateway : Gateway) : Prop :=
  guard.holder = thread ∧ guard ∈ gateway.guards ∧
    ∀ other ∈ gateway.guards, other.holder = thread → other = guard

theorem Free.rely {current : Gateway} (free : Free thread gateway)
    (untouched : Untouched thread gateway current) : Free thread current :=
  fun guard mem held => free guard ((untouched guard held).mp mem) held

theorem Holds.rely {current : Gateway} (holds : Holds thread guard gateway)
    (untouched : Untouched thread gateway current) : Holds thread guard current := by
  obtain ⟨held, mem, only⟩ := holds
  exact ⟨held, (untouched guard held).mpr mem,
    fun other found same => only other ((untouched other same).mp found) same⟩

def Admitted (thread : Thread) (target : String) : Except Json AdmissionGuard → Gateway → Prop
  | .ok guard, gateway => guard.target = target ∧ Holds thread guard gateway
  | .error _, gateway => Free thread gateway

section Requests

variable {thread : Thread} {gateway : Gateway}

theorem admit_safe (free : Free thread gateway) (target : String) :
    gatewayDiscipline.Safe thread (Admitted thread target) (ask (.admitTrigger target)) gateway := by
  refine Safe.ask (Call.admitTrigger target) (fun _ _ _ => trivial) ?_
  intro current untouched _ _ env reply after ran _
  have freeNow := free.rely untouched
  obtain ⟨rfl, rfl, -⟩ | ⟨⟨error, rfl⟩, rfl⟩ := admitTrigger_cases (Option.some.inj ran)
  · refine ⟨rfl, rfl, List.mem_cons_self, fun other found same => ?_⟩
    rcases List.mem_cons.mp found with new | old
    · exact new
    · exact (freeNow other old same).elim
  · exact freeNow

theorem drop_safe (holds : Holds thread guard gateway) :
    gatewayDiscipline.Safe thread (fun _ => Free thread) (ask (.dropGuard guard)) gateway := by
  refine Safe.ask (Call.dropGuard guard) ?_ ?_
  · intro current untouched _
    obtain ⟨held, mem, _⟩ := holds.rely untouched
    exact ⟨mem, held⟩
  intro current untouched counted _ env reply after ran _
  cases ran
  obtain ⟨held, mem, only⟩ := holds.rely untouched
  -- the guard was the only one of this request, and there was only one of it
  intro other found same
  have isGuard := only other (List.mem_of_mem_erase found) same
  subst isGuard
  exact (List.Nodup.mem_erase_iff counted.nodup).mp found |>.1 rfl

/-- A call that neither asks for a guard nor drops one, and forwards only to this target. -/
def Call.LeavesGuards (forwards : Option String) : Call → Prop
  | .admitTrigger _ | .dropGuard _ => False
  | .postJson target _ => forwards = some target
  | _ => True

variable {β : Type}

/-- Such calls change no more than the others do. -/
theorem safe_of_leaves {knows : Gateway → Prop} {program : Code β} {forwards : Option String}
    (calls : program.Calls (Call.LeavesGuards forwards)) (known : knows gateway)
    (own : ∀ {gateway current}, knows gateway → Untouched thread gateway current → knows current)
    (under : ∀ {gateway}, knows gateway → ∀ target, forwards = some target →
      ∃ guard ∈ gateway.guards, guard.holder = thread ∧ guard.target = target) :
    gatewayDiscipline.Safe thread (fun _ => knows) program gateway := by
  refine Safe.of_calls ?_ ?_ ?_ calls known
  · exact fun untouched known => own known untouched
  · intro request current leaves _ known
    cases request with
    | dropGuard guard => exact leaves.elim
    | postJson target payload => exact under known target leaves
    | _ => trivial
  · intro request env current reply after leaves _ known _ ran
    have same : after.guards = current.guards := by
      cases request with
      | admitTrigger target | dropGuard guard => exact leaves.elim
      | _ =>
        cases ran
        rfl
    exact own known fun guard _ => by rw [same]

section

variable (free : Free thread gateway)
include free

theorem free_of_leaves {program : Code β} (calls : program.Calls (Call.LeavesGuards none)) :
    gatewayDiscipline.Safe thread (fun _ => Free thread) program gateway :=
  safe_of_leaves calls free Free.rely fun _ _ impossible => by cases impossible

/-- A request that is admitted forwards under its guard and drops it before it goes on. -/
theorem withAdmission_safe {target : String} {forward : Code β}
    (calls : forward.Calls (Call.LeavesGuards (some target))) :
    gatewayDiscipline.Safe thread (fun _ => Free thread) (withAdmission target forward) gateway := by
  refine (admit_safe free target).bind fun reply current admitted => ?_
  cases reply with
  | error error => exact .pure admitted
  | ok guard =>
    obtain ⟨rfl, holds⟩ := admitted
    refine (safe_of_leaves calls holds Holds.rely ?_).bind fun answer later holds => ?_
    · rintro _ ⟨held, mem, -⟩ target same
      exact ⟨guard, mem, held, Option.some.inj same⟩
    · exact (drop_safe holds).bind fun _ _ freeAgain => .pure freeAgain

end

/-- A call that tells nothing about the drain. -/
def Call.Silent : Call → Prop
  | .enterDrain | .admissionStatus => False
  | _ => True

/-- A request that has been told about the drain answers with what it was told. -/
def Told : (request : Call) → request.Reply → Option Answer → Prop
  | .enterDrain, status, answer | .admissionStatus, status, answer =>
    ∃ body, answer = some (.http (.json 200 "OK" body)) ∧
      (body.get? "drained").bind Json.asBool = (status.get? "drained").bind Json.asBool
  | _, _, _ => True

def answerOf {α : Type} (answer : α → Answer) : Code α → Option Answer
  | .pure value => some (answer value)
  | _ => none

/-- The program does so after each of its calls. -/
def Tells {α : Type} (answer : α → Answer) : Code α → Prop
  | .call request next => (∀ reply, Told request reply (answerOf answer (next reply))) ∧
    ∀ reply, Tells answer (next reply)
  | _ => True

/-- The code of a request: it asks what tells it nothing about the drain, forwards triggers under an
admission, and answers with what it is told in the end. -/
inductive Orderly {α : Type} (answer : α → Answer) : Code α → Prop where
  | pure {value : α} : Orderly answer (.pure value)
  | ask {request : Call} {next : request.Reply → Code α} (leaves : request.LeavesGuards none)
    (silent : request.Silent) (rest : ∀ reply, Orderly answer (next reply)) :
    Orderly answer (ask request >>= next)
  | forward {β : Type} {target : String} {forward : Code β} {next : Except Json β → Code α}
    (calls : forward.Calls fun request => request.LeavesGuards (some target) ∧ request.Silent)
    (rest : ∀ forwarded, Orderly answer (next forwarded)) :
    Orderly answer (withAdmission target forward >>= next)
  | report (request : Call) {value : request.Reply → α} (leaves : request.LeavesGuards none)
    (told : ∀ reply, Told request reply (some (answer (value reply)))) :
    Orderly answer (.call request fun reply => .pure (value reply))

theorem Orderly.safe {answer : β → Answer} {program : Code β} (orderly : Orderly answer program)
    (free : Free thread gateway) :
    gatewayDiscipline.Safe thread (fun _ => Free thread) program gateway := by
  induction orderly generalizing gateway with
  | pure => exact .pure free
  | @ask request _ leaves _ _ ih =>
    exact (free_of_leaves free (.ask request leaves)).bind fun reply _ later => ih reply later
  | forward calls _ ih =>
    exact (withAdmission_safe free (calls.mono fun _ calls => calls.1)).bind
      fun forwarded _ later => ih forwarded later
  | report request leaves _ =>
    exact (free_of_leaves free (.ask request leaves)).bind fun _ _ later => .pure later

theorem Tells.bind {α : Type} {answer : α → Answer} {program : Code β} {next : β → Code α}
    (calls : program.Calls Call.Silent) (rest : ∀ value, Tells answer (next value)) :
    Tells answer (program >>= next) := by
  induction program with
  | pure value => exact rest value
  | diverge => trivial
  | call request continuation ih =>
    obtain ⟨silent, later⟩ := Program.calls_call.mp calls
    refine ⟨fun reply => ?_, fun reply => ih reply (later reply)⟩
    cases request <;> first | exact silent.elim | trivial

theorem Orderly.tells {answer : β → Answer} {program : Code β} (orderly : Orderly answer program) :
    Tells answer program := by
  induction orderly with
  | pure => trivial
  | @ask request _ _ silent _ ih => exact .bind (.ask request silent) ih
  | @forward _ target _ _ calls _ ih =>
    refine .bind (.bind (.ask (Call.admitTrigger target) trivial) fun reply => ?_) ih
    cases reply with
    | error error => exact .pure
    | ok guard =>
      exact (calls.mono fun _ calls => calls.2).bind fun _ =>
        .bind (.ask (Call.dropGuard guard) trivial) fun _ => .pure
  | report _ _ told => exact ⟨told, fun _ => trivial⟩

theorem Tells.map {answer : β → Answer} {program : Code β} (tells : Tells answer program) :
    Tells id (answer <$> program) := by
  induction program with
  | pure _ | diverge => trivial
  | call request next ih =>
    refine ⟨fun reply => ?_, fun reply => ih reply (tells.2 reply)⟩
    have told := tells.1 reply
    change Told request reply (answerOf id (answer <$> next reply))
    cases rest : next reply <;> rw [rest] at told <;> exact told

/-! ### The handlers -/

theorem networkTriggerResponse_orderly (transport : String) :
    Orderly .line (networkTriggerResponse transport) := by
  refine .ask trivial trivial fun allowed => ?_
  split
  · exact .pure
  refine .ask trivial trivial fun payload => ?_
  split
  · exact .pure
  dsimp only
  split
  · exact .pure
  refine .forward (.bind (.ask Call.currentMode ⟨trivial, trivial⟩) fun mode =>
    .bind (.ask (Call.postJson _ _) ⟨rfl, trivial⟩) fun _ => .pure) fun forwarded => ?_
  split <;> exact .pure

theorem forwardTrigger_orderly (target source mode : String) (body : Option Json) :
    Orderly .http (forwardTrigger target source mode body) := by
  refine .forward (.bind (.ask (Call.postJson _ _) ⟨rfl, trivial⟩) fun _ => .pure) fun forwarded => ?_
  split <;> exact .pure

theorem changeMode_orderly (body : Option Json) : Orderly .http (changeMode body) := by
  refine .ask trivial trivial fun allowed => ?_
  split
  · exact .pure
  refine .ask trivial trivial fun refusal => ?_
  split
  · exact .pure
  · exact .ask trivial trivial fun _ => .pure

theorem drainGateway_orderly : Orderly .http drainGateway := by
  refine .ask trivial trivial fun refusal => ?_
  split
  · exact .pure
  · exact .report .enterDrain trivial fun status => ⟨status, rfl, rfl⟩

theorem gatewayStatus_orderly (mode : String) : Orderly .http (gatewayStatus mode) := by
  refine .ask trivial trivial fun _ => .ask trivial trivial fun _ =>
    .report .admissionStatus trivial fun status => ⟨_, rfl, ?_⟩
  simp only [List.foldl, Json.get?_setField]
  cases status.get? "drained" <;> simp [Json.asBool]

theorem handleClient_orderly (method path : String) (body : Option Json) :
    Orderly .http (handleClient method path body) := by
  refine .ask trivial trivial fun mode => ?_
  split
  · exact .pure
  split
  · exact .ask trivial trivial fun _ => .pure
  split
  · exact .pure
  split
  · exact changeMode_orderly body
  split
  · exact drainGateway_orderly
  split
  · exact gatewayStatus_orderly mode
  split
  · split
    · refine .ask trivial trivial fun refusal => ?_
      split
      · exact .pure
      split
      · exact .pure
      · exact forwardTrigger_orderly _ _ _ _
    · refine .ask trivial trivial fun refusal => ?_
      split
      · exact .pure
      · exact forwardTrigger_orderly _ _ _ _
    · exact .pure
  · exact .pure

end Requests

/-! ## Every run -/

theorem handler_safe {program : Code Answer} (handler : gatewayRules.handler thread program)
    (free : Free thread gateway) :
    gatewayDiscipline.Safe thread (fun _ => Free thread) program gateway := by
  rcases handler with ⟨transport, rfl⟩ | ⟨method, path, body, rfl⟩
  · exact ((networkTriggerResponse_orderly transport).safe free).bind fun _ _ later => .pure later
  · exact ((handleClient_orderly method path body).safe free).bind fun _ _ later => .pure later

theorem free_initial (initial : gatewayRules.initial gateway) : Free thread gateway := by
  obtain ⟨mode, rfl⟩ := initial
  intro guard mem
  cases mem

theorem gateway_settles (reached : gatewayRules.Reachable machine) : Counted machine.shared ∧
      ∀ thread, gatewayDiscipline.Settles (fun thread _ => Free thread) machine thread :=
  gatewayDiscipline.reachable_settles (fun thread _ => Free thread) free_initial
    (fun untouched free => free.rely untouched) (fun _ _ _ _ handler _ => handler_safe handler) reached

theorem gateway_permitted (reached : gatewayRules.Reachable machine)
    (asks : machine.nextCall? thread = some request) : Permitted thread request machine.shared :=
  gatewayDiscipline.reachable_good_knowing (fun thread _ => Free thread) free_initial
    (fun untouched free => free.rely untouched) (fun _ _ _ _ handler _ => handler_safe handler) reached
    asks

/-- The gateway is closed, and the guards are these or those of completions. -/
def Closed (guards : List AdmissionGuard) (gateway : Gateway) : Prop :=
  gateway.accepting = false ∧
    ∀ guard ∈ gateway.guards, guard ∈ guards ∨ completionTarget guard.target = true

theorem Closed.call {guards : List AdmissionGuard} (closed : Closed guards gateway)
    (ran : semantics thread env request gateway = some (reply, after)) : Closed guards after := by
  obtain ⟨shut, known⟩ := closed
  cases request with
  | admitTrigger target =>
    obtain ⟨-, rfl, why⟩ | ⟨-, rfl⟩ := admitTrigger_cases (Option.some.inj ran)
    · refine ⟨shut, fun guard mem => ?_⟩
      rcases List.mem_cons.mp mem with rfl | old
      · -- the gateway is closed, so this admission was one of a completion
        exact .inr (why.resolve_left (by simp [shut]))
      · exact known guard old
    · exact ⟨shut, known⟩
  | dropGuard guard =>
    cases ran
    exact ⟨shut, fun other mem => known other (List.mem_of_mem_erase mem)⟩
  | enterDrain =>
    cases ran
    exact ⟨rfl, known⟩
  | _ =>
    cases ran
    exact ⟨shut, known⟩

theorem closed_path {last actions} (path : gatewayRules.Path machine actions last)
    (shut : machine.shared.accepting = false) : Closed machine.shared.guards last.shared :=
  path.keeps _ ⟨shut, fun _ mem => .inl mem⟩ fun closed _ ran => closed.call ran

/-- The reply tells its reader that the gateway is drained. -/
def reportsDrained : (request : Call) → request.Reply → Bool
  | .enterDrain, status | .admissionStatus, status =>
    ((status.get? "drained").bind Json.asBool).getD false
  | _, _ => false

theorem drained_of_reported (ran : semantics thread env request gateway = some (reply, after))
    (reported : reportsDrained request reply = true) :
    after.accepting = false ∧ after.inFlight = 0 := by
  cases request with
  | enterDrain =>
    cases ran
    exact ⟨rfl, by simpa [reportsDrained, Json.get?, Json.asBool] using reported⟩
  | admissionStatus =>
    cases ran
    simpa [reportsDrained, admissionStatusJson, Json.get?, Json.asBool] using reported
  | _ => cases reported

theorem handler_tells {program : Code Answer} (handler : gatewayRules.handler thread program) :
    Tells id program := by
  rcases handler with ⟨transport, rfl⟩ | ⟨method, path, body, rfl⟩
  · exact (networkTriggerResponse_orderly transport).tells.map
  · exact (handleClient_orderly method path body).tells.map

/-- In every run of the gateway the counter is the number of guards, a gateway that is drained admits
only completions from then on, and after it has been reported as drained every guard there is
belongs to a completion.  A request that has come to its end holds no guard, a trigger is forwarded
only under a guard for its target, and what the gateway reports about the drain is what the request
answers. -/
theorem drain_holds {machine}
    (reached : gatewayRules.Reachable machine) :
    machine.shared.inFlight = machine.shared.guards.length ∧
    (∀ {thread env actions last}, machine.nextCall? thread = some .enterDrain →
      gatewayRules.Path machine (.advance thread env :: actions) last →
        last.shared.accepting = false ∧
          ∀ guard ∈ last.shared.guards, guard ∉ machine.shared.guards →
            completionTarget guard.target = true) ∧
    (∀ {thread env request reply after actions last}, machine.nextCall? thread = some request →
      semantics thread env request machine.shared = some (reply, after) →
      reportsDrained request reply = true →
      gatewayRules.Path machine (.advance thread env :: actions) last →
        last.shared.accepting = false ∧
          ∀ guard ∈ last.shared.guards, completionTarget guard.target = true) ∧
    (∀ {thread answer}, machine.answer? thread = some answer →
      ∀ guard ∈ machine.shared.guards, guard.holder ≠ thread) ∧
    (∀ {thread target payload}, machine.nextCall? thread = some (.postJson target payload) →
      ∃ guard ∈ machine.shared.guards, guard.holder = thread ∧ guard.target = target) ∧
    ∀ {thread env request reply after next}, machine.nextCall? thread = some request →
      semantics thread env request machine.shared = some (reply, after) →
      machine.step semantics (.advance thread env) = some next →
        Told request reply (next.answer? thread) := by
  obtain ⟨counted, settles⟩ := gateway_settles reached
  refine ⟨counted.inFlight, fun {thread env actions last} asks path => ?_,
    fun {thread env request reply after actions last} asks executed reported path => ?_,
    fun {thread answer} answered => ?_, fun asks => gateway_permitted reached asks,
    fun {thread env request reply after next} asks executed stepped => ?_⟩
  · cases path with
    | @step _ next _ _ _ allowed stepped rest =>
      have executed : semantics thread env .enterDrain machine.shared =
          some (enterDrain machine.shared) := rfl
      have drained := Machine.shared_of_advance asks executed stepped
      obtain ⟨shut, known⟩ := closed_path rest (by rw [drained])
      refine ⟨shut, fun guard member new => (known guard member).resolve_left ?_⟩
      rw [drained]
      exact new
  · cases path with
    | @step _ next _ _ _ allowed stepped rest =>
      obtain ⟨shut, empty⟩ := drained_of_reported executed reported
      have reachedNext := (gateway_settles (.step reached allowed stepped)).1
      have drained := Machine.shared_of_advance asks executed stepped
      -- the counter is zero, so there is no guard to begin with
      have none : next.shared.guards = [] := by
        rw [← List.length_eq_zero_iff, ← reachedNext.inFlight, drained, empty]
      obtain ⟨stillShut, known⟩ := closed_path rest (by rw [drained, shut])
      refine ⟨stillShut, fun guard member => (known guard member).resolve_left ?_⟩
      simp [none]
  · obtain ⟨_, free⟩ := (settles thread).rests (.inr ⟨answer, Machine.answer?_eq_some.mp answered⟩)
    exact free
  · obtain ⟨continuation, running⟩ := Machine.nextCall?_eq_some.mp asks
    have tells : Tells id (.call request continuation) := Rules.reachable_programs reached
      (fun _ _ handler => handler_tells handler) (fun tells => tells.2) running
    have told := tells.1 reply
    simp only [Machine.step, running, executed, Option.some.injEq] at stepped
    rw [← stepped, Machine.answer?, Machine.resume_threads_self]
    cases rest : continuation reply <;> simpa only [rest, answerOf, id] using told

/-! ## A drain while a trigger is in flight -/

/-- A steel-in is admitted and waits for the service; an operator's request is about to drain. -/
def drainDuringSteelIn : List (Action Thread Env Call Call.Reply Answer) :=
  [.spawn 0 (.http <$> handleClient "POST" "/api/plc/steel-in" none),
    .spawn 1 (.http <$> handleClient "POST" "/api/trigger/drain" none),
    .advance 0 {}, .advance 0 {}, .advance 0 {}, .advance 1 {}, .advance 1 {}]

def drains (machine : Machine Gateway Thread Call Call.Reply Answer) (thread : Thread) : Bool :=
  match machine.nextCall? thread with
  | some .enterDrain => true
  | _ => false

/-- The gateway closes with the steel-in still in flight: its guard is the only one that is no
completion's, and the counter shows it. -/
theorem drain_with_steel_in_flight : ∃ machine,
      gatewayRules.Reachable machine ∧ machine.nextCall? 1 = some .enterDrain ∧
      machine.shared.inFlight = 1 ∧ machine.shared.guards.length = 1 ∧
      ∀ env actions last, gatewayRules.Path machine (.advance 1 env :: actions) last →
        last.shared.accepting = false ∧ ∀ guard ∈ last.shared.guards,
          guard ∉ machine.shared.guards → completionTarget guard.target = true := by
  obtain ⟨machine, reached, facts⟩ : ∃ machine, gatewayRules.Reachable machine ∧
      (drains machine 1, machine.shared.inFlight) = (true, 1) :=
    Rules.exists_reachable (fun _ _ _ => true) (.fresh "api") drainDuringSteelIn
      (fun _ _ _ _ => trivial) ⟨"api", rfl⟩ ⟨.inr ⟨_, _, _, rfl⟩, .inr ⟨_, _, _, rfl⟩, trivial⟩
      (by decide +kernel)
  obtain ⟨draining, counts⟩ := Prod.mk.inj facts
  obtain ⟨counted, closes, -⟩ := drain_holds reached
  have asks : machine.nextCall? 1 = some .enterDrain := by
    unfold drains at draining
    split at draining
    · assumption
    · cases draining
  exact ⟨machine, reached, asks, counts, counted ▸ counts,
    fun env actions last path => closes asks path⟩

end SteelInspection.Trigger.Drain
