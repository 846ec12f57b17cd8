import SteelInspection.Tasks.Admission

/-! # Repeated enqueue requests

A request with an idempotency key is looked up before anything else is asked: before the runtime is
asked whether it drains, before the open tasks are counted and before the session of the request is
determined.  The unique index keeps the rows of one key down to one, so a repeat finds the task of
the first request, whatever has happened since.
-/

namespace SteelInspection.Tasks

open Foundations

/-! ## Keys -/

/-- The kinds that enqueue accepts. -/
def TaskKind.isKnown : TaskKind → Bool
  | .other _ => false
  | _ => true

variable {kind : TaskKind} (statement : Statement)

theorem normalizeKind_known {value : String} (normal : normalizeKind value = some kind) :
    kind.isKnown = true := by
  unfold normalizeKind at normal
  split at normal
  all_goals cases normal
  all_goals rfl

theorem checkEnqueueRequest_known {body : Option Json} {request : EnqueueRequest}
    (checked : checkEnqueueRequest body = .ok request) : request.kind.isKnown = true := by
  unfold checkEnqueueRequest at checked
  split at checked
  · cases checked
  · grind [normalizeKind_known]

theorem TaskKind.text_no_colon (known : kind.isKnown = true) :
    ∀ character ∈ kind.text.toList, (character ≠ ':') := by
  cases kind with
  | other text => cases known
  | _ => simp [TaskKind.text]

theorem normalizeKind_text (known : kind.isKnown = true) : normalizeKind kind.text = some kind := by
  cases kind with
  | other text => cases known
  | _ => decide

/-- The text in front of the first colon of a key is the kind. -/
theorem kind_of_key {first second : TaskKind} {rest others : String} (known : first.isKnown = true)
    (other : second.isKnown = true) (same : first.text ++ ":" ++ rest = second.text ++ ":" ++ others) :
    first = second := by
  have front : ∀ {kind : TaskKind} (text : String), kind.isKnown = true →
      (kind.text ++ ":" ++ text).toList.takeWhile (fun character => decide (character ≠ ':')) =
        kind.text.toList := by
    intro kind text known
    rw [String.toList_append, String.toList_append, List.append_assoc,
      List.takeWhile_append_of_pos fun character mem =>
        decide_eq_true (TaskKind.text_no_colon known character mem)]
    simp
  have texts : first.text = second.text := by
    apply String.toList_inj.mp
    rw [← front rest known, same, front others other]
  have normal := normalizeKind_text known
  rw [texts, normalizeKind_text other] at normal
  exact (Option.some.inj normal).symm

theorem not_blank_key (known : kind.isKnown = true) (rest : String) :
    ¬Blank (kind.text ++ ":" ++ rest) := by
  obtain ⟨first, others, text, visible⟩ :
      ∃ first others, kind.text.toList = first :: others ∧ Text.isWhitespace first = false := by
    cases kind with
    | other text => cases known
    | _ => exact ⟨_, _, rfl, rfl⟩
  have characters : (kind.text ++ ":" ++ rest).toList = first :: (others ++ ":".toList ++ rest.toList) := by
    rw [String.toList_append, String.toList_append, text, List.cons_append, List.cons_append]
  exact not_blank_of_visible characters visible

/-- The keys of the stored tasks: all different, and each one starts with the kind of its task. -/
structure Keyed (shared : Shared) : Prop where
  unique : (shared.tasks.rows.map (·.idempotencyKey)).Nodup
  kinds : ∀ id row, shared.tasks.find? id = some row →
    row.kind.isKnown = true ∧ ∃ rest, row.idempotencyKey = row.kind.text ++ ":" ++ rest

theorem Statement.key_change (now : String) (row : ProductionTask) :
    (statement.change now row).idempotencyKey = row.idempotencyKey ∧
      (statement.change now row).kind = row.kind := by
  cases statement with
  | cancel id queued => cases queued <;> exact ⟨rfl, rfl⟩
  | _ => exact ⟨rfl, rfl⟩

theorem Statement.keys_execute (now : String) (tasks : TaskTable) :
    (statement.execute now tasks).rows.map (·.idempotencyKey) =
      tasks.rows.map (·.idempotencyKey) := by
  rw [statement.rows_execute, List.map_map]
  refine List.map_congr_left fun row _ => ?_
  show (statement.apply now row).idempotencyKey = row.idempotencyKey
  unfold Statement.apply
  split
  · exact (statement.key_change now row).1
  · rfl

theorem insert_fresh_key {env : Env} {input : ProductionTaskInput} {shared : Shared} {tasks : TaskTable}
    (inserted : shared.tasks.insert (input.row env.timestamp) = some tasks)
    (effect : (effects env (.insert input) shared).2.tasks = tasks) :
    input.idempotencyKey ∉ shared.tasks.rows.map (·.idempotencyKey) := by
  intro taken
  have present : shared.unlocked.tasks.rows.any
      (·.idempotencyKey = (input.row env.timestamp).idempotencyKey) = true := by
    obtain ⟨row, mem, same⟩ := List.mem_map.mp taken
    exact List.any_eq_true.mpr ⟨row, mem, decide_eq_true same⟩
  have ran := semantics_effects env (.insert input) shared
  simp only [semantics, present, if_true] at ran
  have unchanged : (effects env (.insert input) shared).2 = shared.unlocked := by
    rcases Connection.after_write ran with same | same <;> exact same
  -- then nothing was added
  have rows := Table.rows_insert inserted
  rw [← effect, unchanged] at rows
  have lengths := congrArg List.length rows
  simp [Shared.unlocked] at lengths

theorem EnqueueRequest.compoundKey_kind {request : EnqueueRequest} (keyed : request.compoundKey ≠ "") :
    request.compoundKey = request.kind.text ++ ":" ++ Text.trim request.rawKey := by
  unfold EnqueueRequest.compoundKey at keyed ⊢
  split
  next blank =>
    exact absurd (if_pos blank) keyed
  · rfl

theorem Keyed.kept {operation : Operation} {start shared : Shared} {request : Call} {env : Env}
    (keyed : Keyed shared) (issued : Issued operation start request shared) :
    Keyed (effects env request shared).2 := by
  constructor
  · obtain same | ⟨input, tasks, rfl, inserted, same⟩ | ⟨statement, asked, same⟩ :=
      tasks_cases env request shared
    · rw [same]
      exact keyed.unique
    · have fresh := insert_fresh_key inserted same
      rw [same, Table.rows_insert inserted]
      refine Table.nodup_concat keyed.unique fun other mem taken => ?_
      exact fresh (List.mem_map.mpr ⟨other, mem, taken⟩)
    · rw [same, statement.keys_execute]
      exact keyed.unique
  · intro id row found
    obtain stored | ⟨input, rfl, -, rfl⟩ | ⟨statement, old, asked, rfl, stored, -, rfl⟩ :=
      row_effects found
    · exact keyed.kinds id row stored
    · cases issued with
      | quiet leaves => exact leaves.elim
      | @insert _ _ _ enqueued _ _ _ checked _ admitted =>
        show input.kind.isKnown = true ∧ ∃ rest, input.idempotencyKey = input.kind.text ++ ":" ++ rest
        rw [admitted.kind, admitted.key]
        refine ⟨checkEnqueueRequest_known checked, ?_⟩
        split
        · exact ⟨_, rfl⟩
        next keyed =>
          exact ⟨_, EnqueueRequest.compoundKey_kind (by simpa using keyed)⟩
    · obtain ⟨sameKey, sameKind⟩ := statement.key_change env.timestamp old
      rw [sameKey, sameKind]
      exact keyed.kinds _ old stored

theorem keyed_reachable {shared : Shared} (reached : taskService.Reachable emptyQueue shared) :
    Keyed shared := by
  have starts : Keyed emptyQueue := ⟨List.nodup_nil, fun _ _ => nofun⟩
  exact Service.reachable_kept starts (fun operation start => operation_issues operation _ start)
    (fun _ _ issued _ keyed => Keyed.kept keyed issued) reached

/-! ## Repeats -/

section Unique

variable {tasks : TaskTable} (unique : (tasks.rows.map (·.idempotencyKey)).Nodup)
include unique

theorem key_unique (key : String) : (tasks.select (·.idempotencyKey = key)).length ≤ 1 := by
  have once := List.nodup_iff_count_le_one.mp unique key
  rw [List.count, List.countP_map, List.countP_eq_length_filter] at once
  exact once

theorem lookup_existing {existing : ProductionTask} (stored : existing ∈ tasks.rows) :
    latest (tasks.select (·.idempotencyKey = existing.idempotencyKey)) = some existing := by
  have mem : existing ∈ tasks.select (·.idempotencyKey = existing.idempotencyKey) :=
    List.mem_filter.mpr ⟨stored, decide_eq_true rfl⟩
  have alone : tasks.select (·.idempotencyKey = existing.idempotencyKey) = [existing] := by
    obtain ⟨other, only⟩ := List.length_eq_one_iff.mp
      (Nat.le_antisymm (key_unique unique _) (List.length_pos_of_mem mem))
    rw [only] at mem ⊢
    rw [List.mem_singleton.mp mem]
  rw [alone]
  rfl

end Unique

/-- What a client can see of the queue is as before. -/
structure Unchanged (before after : Shared) : Prop where
  tasks : after.tasks = before.tasks
  auditLog : after.auditLog = before.auditLog
  sequence : after.sequence = before.sequence

def duplicateAnswer (existing : ProductionTask) : TaskAnswer :=
  { code := 200, reason := "OK", error := none, duplicate := some true, task := some existing }

def conflictAnswer (existing : ProductionTask) : TaskAnswer :=
  { (TaskAnswer.refusal 409 "Conflict" "idempotency_conflict") with task := some existing }

/-- The request names no other chain, dependency or policy than those of the stored task. -/
def EnqueueRequest.agreesWith (request : EnqueueRequest) (existing : ProductionTask) : Prop :=
  (request.requestedChainId = "" ∨ existing.chainId = request.requestedChainId) ∧
  (request.requestedDependencyId = "" ∨ existing.dependsOnTaskId = request.requestedDependencyId) ∧
  (request.dependencyPolicyValue = "" ∨ existing.dependencyPolicy = request.dependencyPolicy)

/-- The lock is not poisoned, the lookup is answered, and the process does not stop. -/
structure Serves (check : Check Shared Env Call) : Prop where
  lock : ∀ env shared, check .lockAdmin (some env) shared = true → env.poisoned = false
  lookup : ∀ key env shared, check (.findByIdempotencyKey key) (some env) shared = true →
    env.connection = .works
  runs : ∀ request shared, check request none shared = false

section Repeat

variable {shared : Shared} {body : Option Json} {request : EnqueueRequest} {existing : ProductionTask}
  {check : Check Shared Env Call}

theorem effects_lockAdmin (env : Env) (shared : Shared) :
    (effects env .lockAdmin shared).1 = !env.poisoned ∧
      Unchanged shared (effects env .lockAdmin shared).2 := by
  cases poisoned : env.poisoned <;> simp [effects, semantics, poisoned, Shared.unlocked] <;>
    exact ⟨rfl, rfl, rfl⟩

/-- The answer to a repeat, as the stored task decides it. -/
def repeatAnswer (request : EnqueueRequest) (existing : ProductionTask) : TaskAnswer :=
  if request.conflictsWith existing then conflictAnswer existing else duplicateAnswer existing

section

variable {before : Shared} (keyed : Keyed before) (unchanged : Unchanged before shared)
  (stored : existing ∈ before.tasks.rows) (visible : ¬Blank existing.idempotencyKey)
include keyed unchanged stored visible

theorem lookup_ensures :
    (findProductionTaskByIdempotencyKey existing.idempotencyKey).run.Ensures effects check
      (fun after => Unchanged before after ∧ ¬Serves check) (fun outcome after =>
        Unchanged before after ∧ (∀ found, outcome = .ok found → found = some existing) ∧
          (Serves check → ∃ found, outcome = .ok found)) shared := by
  unfold findProductionTaskByIdempotencyKey
  rw [if_neg (show ¬(Text.trim existing.idempotencyKey).isEmpty = true from visible)]
  refine .ask (Call.findByIdempotencyKey existing.idempotencyKey) ?_ ?_
  · exact fun stops => ⟨unchanged, fun serves => by rw [serves.runs] at stops; cases stops⟩
  intro env passed
  have ran := semantics_effects env (.findByIdempotencyKey existing.idempotencyKey) shared
  refine ⟨?_, fun found answered => ?_, fun serves => ?_⟩
  · rw [Connection.after_query ran]
    exact { unchanged with }
  · rw [answered] at ran
    have answer := (Connection.query_ok ran).1
    rw [answer]
    show latest (shared.tasks.select _) = _
    rw [unchanged.tasks]
    exact lookup_existing keyed.unique stored
  · have works := serves.lookup _ _ _ passed
    simp only [semantics, works, Connection.query, Option.some.injEq] at ran
    exact ⟨_, (congrArg Prod.fst ran).symm⟩

/-- A repeat looks the task up and answers; it changes nothing. -/
theorem repeat_ensures (same : existing.idempotencyKey = request.compoundKey) (capacity : Nat)
    (actor : String) :
    (enqueueAdmitted capacity request actor).Ensures effects check
      (fun after => Unchanged before after ∧ ¬Serves check) (fun answer after =>
        Unchanged before after ∧ (Serves check → answer = repeatAnswer request existing)) shared := by
  unfold enqueueAdmitted
  have nonempty : ¬existing.idempotencyKey.isEmpty = true := by
    intro empty
    rw [String.isEmpty_iff.mp empty] at visible
    exact visible rfl
  rw [← same, if_neg nonempty]
  refine (lookup_ensures keyed unchanged stored visible).bind ?_
  rintro outcome after ⟨kept, found, answered⟩
  cases outcome with
  | error error =>
    refine .pure ⟨kept, fun serves => ?_⟩
    obtain ⟨_, impossible⟩ := answered serves
    cases impossible
  | ok row =>
    cases found row rfl
    dsimp only
    split
    next conflicts =>
      exact .pure ⟨kept, fun _ => by rw [repeatAnswer, if_pos conflicts]; rfl⟩
    next agrees =>
      exact .pure ⟨kept, fun _ => by rw [repeatAnswer, if_neg agrees]; rfl⟩

end

theorem enqueueResponse_ensures (keyed : Keyed shared)
    (checked : checkEnqueueRequest body = .ok request)
    (stored : existing ∈ shared.tasks.rows) (same : existing.idempotencyKey = request.compoundKey)
    (capacity : Nat) (actor : String) :
    (enqueueResponse capacity body actor).Ensures effects check
      (fun after => Unchanged shared after ∧ ¬Serves check) (fun answer after =>
        Unchanged shared after ∧ (Serves check → answer = repeatAnswer request existing)) shared := by
  have stops : ∀ {request : Call} {state : Shared}, check request none state = true → ¬Serves check := by
    intro request state passed serves
    rw [serves.runs] at passed
    cases passed
  have visible : ¬Blank existing.idempotencyKey := by
    obtain ⟨known, rest, key⟩ := keyed.kinds _ _ (Table.mem_rows_iff.mp stored)
    rw [key]
    exact not_blank_key known rest
  unfold enqueueResponse
  rw [checked]
  have locks : (ask .lockAdmin : Code Bool).Ensures effects check
      (fun after => Unchanged shared after ∧ ¬Serves check) (fun locked after =>
        Unchanged shared after ∧ (Serves check → locked = true)) shared := by
    refine .ask Call.lockAdmin (fun passed => ⟨⟨rfl, rfl, rfl⟩, stops passed⟩) fun env passed => ?_
    obtain ⟨locked, unchanged⟩ := effects_lockAdmin env shared
    refine ⟨unchanged, fun serves => ?_⟩
    rw [locked, serves.lock _ _ passed]
    rfl
  refine locks.bind ?_
  rintro locked after ⟨unchanged, free⟩
  split
  · refine (repeat_ensures keyed unchanged stored visible same capacity actor).bind ?_
    rintro answer last ⟨still, decided⟩
    have unlocks : (ask .unlockAdmin : Code Unit).Ensures effects check
        (fun after => Unchanged shared after ∧ ¬Serves check)
        (fun _ after => Unchanged shared after) last :=
      .ask Call.unlockAdmin (fun passed => ⟨still, stops passed⟩) fun env _ =>
        { still with }
    exact unlocks.bind fun _ _ kept => .pure ⟨kept, decided⟩
  next poisoned =>
    exact .pure ⟨unchanged, fun serves => absurd (free serves) poisoned⟩

end Repeat

/-- The lock is not poisoned, the lookup is answered, and the process does not stop. -/
def served : Check Shared Env Call
  | .lockAdmin, some env, _ => !env.poisoned
  | .findByIdempotencyKey _, some env, _ =>
    match env.connection with
    | .works => true
    | .fails _ | .losesReply _ => false
  | _, env, _ => env.isSome

theorem serves_served : Serves served where
  lock env shared passed := by simpa [served] using passed
  lookup key env shared passed := by
    simp only [served] at passed
    split at passed
    · assumption
    · cases passed
    · cases passed
  runs request shared := by cases request <;> rfl

/-- In every state the queue can reach there is at most one task for a kind and a trimmed key.  A
request that repeats the key of a stored task changes nothing, however it ends.  When the lock is
there and the database answers the lookup, it is answered with the stored task if it has the same
payload and names no other chain, dependency or policy, and with a conflict otherwise. -/
theorem enqueue_idempotent {shared : Shared} (reached : taskService.Reachable emptyQueue shared) :
    (∀ (kind : TaskKind) (key : String),
      (shared.tasks.select (·.idempotencyKey = kind.text ++ ":" ++ Text.trim key)).length ≤ 1) ∧
    ∀ (capacity : Nat) (body : Option Json) (actor : String) (request : EnqueueRequest)
      (existing : ProductionTask), checkEnqueueRequest body = .ok request →
      existing ∈ shared.tasks.rows → existing.idempotencyKey = request.compoundKey → ∀ script,
        Unchanged shared ((enqueueResponse capacity body actor).execute effects script shared).2 ∧
        ((enqueueResponse capacity body actor).passes effects served script shared = true →
          (existing.payload = request.payload.render ∧ request.agreesWith existing →
            ((enqueueResponse capacity body actor).execute effects script shared).1 =
              some (duplicateAnswer existing)) ∧
          (¬(existing.payload = request.payload.render ∧ request.agreesWith existing) →
            ((enqueueResponse capacity body actor).execute effects script shared).1 =
              some (conflictAnswer existing))) := by
  have keyed := keyed_reachable reached
  refine ⟨fun kind key => key_unique keyed.unique _, ?_⟩
  intro capacity body actor request existing checked stored same script
  constructor
  · have passed : (enqueueResponse capacity body actor).passes effects (fun _ _ _ => true) script shared =
        true := Program.passes_of_always (fun _ _ _ => rfl) _ script shared
    have anyway := (enqueueResponse_ensures keyed checked stored same capacity actor).execute passed
    cases answered : ((enqueueResponse capacity body actor).execute effects script shared).1 with
    | none => exact (anyway.2 answered).1
    | some answer => exact (anyway.1 answer answered).1
  · intro passed
    have kind : existing.kind = request.kind := by
      obtain ⟨known, rest, key⟩ := keyed.kinds _ _ (Table.mem_rows_iff.mp stored)
      have named : request.compoundKey ≠ "" := by
        intro empty
        apply not_blank_key known rest
        rw [← key, same, empty]
        rfl
      apply kind_of_key known (checkEnqueueRequest_known checked)
      rw [← key, same, EnqueueRequest.compoundKey_kind named]
    have decided : ((enqueueResponse capacity body actor).execute effects script shared).1 =
        some (repeatAnswer request existing) := by
      obtain ⟨answers, stops⟩ :=
        (enqueueResponse_ensures keyed checked stored same capacity actor).execute passed
      cases answered : ((enqueueResponse capacity body actor).execute effects script shared).1 with
      | none => exact absurd serves_served (stops answered).2
      | some answer => rw [(answers answer answered).2 serves_served]
    have agrees : request.conflictsWith existing = false ↔
        existing.payload = request.payload.render ∧ request.agreesWith existing := by
      simp only [EnqueueRequest.conflictsWith, EnqueueRequest.agreesWith, kind, ne_eq,
        not_true_eq_false, decide_false, Bool.false_or, Bool.or_eq_false_iff, Bool.and_eq_false_iff,
        Bool.not_eq_false', decide_eq_false_iff_not, not_not, String.isEmpty_iff]
      tauto
    constructor
    · intro same
      rw [decided, repeatAnswer, agrees.mpr same]
      rfl
    · intro different
      rw [decided, repeatAnswer, if_pos (by simpa using mt agrees.mp different)]

/-- A capture with the key `K-1`. -/
def keyedCapture (fields : List (String × Json)) : Option Json :=
  some (.obj (fields ++ [("kind", .str "capture-once"), ("idempotencyKey", .str " K-1 "),
    ("payload", .obj [("materialId", .str "7"), ("sessionId", .str "S-7")])]))

def afterKeyedCapture : Shared :=
  taskService.run [(.enqueue none (keyedCapture []) "operator", List.replicate 16 { now := 100 })]
    emptyQueue

theorem afterKeyedCapture_reachable : taskService.Reachable emptyQueue afterKeyedCapture :=
  Service.reachable_run taskService .start (by decide +kernel)

/-- The task of the first request, and the requests that repeat its key and its payload. -/
theorem keyedCapture_repeats (fields : List (String × Json))
    (reads : (checkEnqueueRequest (keyedCapture fields)).toOption.map
      (fun request => (request.compoundKey, request.payload.render)) =
      some ("capture-once:K-1", "\x7b\"materialId\":\"7\",\"sessionId\":\"S-7\"\x7d")) :
    ∃ request existing, checkEnqueueRequest (keyedCapture fields) = .ok request ∧
      existing ∈ afterKeyedCapture.tasks.rows ∧ existing.idempotencyKey = request.compoundKey ∧
      existing.payload = request.payload.render := by
  have stored : afterKeyedCapture.tasks.rows.map (fun row => (row.idempotencyKey, row.payload)) =
      [("capture-once:K-1", "\x7b\"materialId\":\"7\",\"sessionId\":\"S-7\"\x7d")] := by decide +kernel
  obtain ⟨existing, rows, columns⟩ := List.map_eq_singleton_iff.mp stored
  obtain ⟨request, answered, parts⟩ := Option.map_eq_some_iff.mp reads
  have same := columns.trans parts.symm
  simp only [Prod.mk.injEq] at same
  refine ⟨request, existing, ?_, by rw [rows]; exact List.mem_singleton_self existing, same⟩
  cases checked : checkEnqueueRequest (keyedCapture fields) with
  | error error => rw [checked] at answered; cases answered
  | ok other =>
    rw [checked] at answered
    cases answered
    rfl

/-- The queue is full and the runtime drains, and the repeat is still answered with the task. -/
theorem keyedCapture_answered : ∃ existing ∈ afterKeyedCapture.tasks.rows,
      ((enqueueResponse 1 (keyedCapture []) "operator").execute effects
        (List.replicate 3 { draining := true }) afterKeyedCapture).1 =
          some (duplicateAnswer existing) := by
  obtain ⟨request, existing, checked, stored, key, payload⟩ := keyedCapture_repeats []
    (by decide +kernel)
  refine ⟨existing, stored, ?_⟩
  have unnamed : (checkEnqueueRequest (keyedCapture [])).toOption.map (fun request =>
      (request.requestedChainId, request.requestedDependencyId, request.dependencyPolicyValue)) =
        some ("", "", "") := by decide +kernel
  rw [checked] at unnamed
  simp only [Except.toOption, Option.map_some, Option.some.injEq, Prod.mk.injEq] at unnamed
  exact (((enqueue_idempotent afterKeyedCapture_reachable).2 1 (keyedCapture []) "operator" request
    existing checked stored key _).2 (by decide +kernel)).1
      ⟨payload, .inl unnamed.1, .inl unnamed.2.1, .inl unnamed.2.2⟩

/-- The same key and the same payload, but another chain: the request is refused. -/
theorem repeat_in_other_chain_refused : ¬∀ shared, taskService.Reachable emptyQueue shared →
      ∀ (capacity : Nat) (body : Option Json) (actor : String) (request : EnqueueRequest)
        (existing : ProductionTask), checkEnqueueRequest body = .ok request →
        existing ∈ shared.tasks.rows → existing.idempotencyKey = request.compoundKey →
        existing.payload = request.payload.render →
        ∀ script, (enqueueResponse capacity body actor).passes effects served script shared = true →
          ((enqueueResponse capacity body actor).execute effects script shared).1 =
            some (duplicateAnswer existing) := by
  intro returns
  obtain ⟨request, existing, checked, stored, key, payload⟩ :=
    keyedCapture_repeats [("chainId", .str "C-2")] (by decide +kernel)
  have answered := returns afterKeyedCapture afterKeyedCapture_reachable 128
    (keyedCapture [("chainId", .str "C-2")]) "operator" request existing checked stored key payload
    (List.replicate 3 {}) (by decide +kernel)
  have refused : ((enqueueResponse 128 (keyedCapture [("chainId", .str "C-2")]) "operator").execute
      effects (List.replicate 3 {}) afterKeyedCapture).1.map (·.code) = some 409 := by decide +kernel
  rw [answered] at refused
  cases refused

end SteelInspection.Tasks
