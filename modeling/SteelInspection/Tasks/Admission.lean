import SteelInspection.Tasks.Issued

/-! # What enqueue stores, and when

The walk of enqueue up to its insert, over states that also carry the latest reading of the clock.
With it every operation makes its calls as `Issued` lists them.
-/

namespace SteelInspection.Tasks

open Foundations

abbrev Timed := Shared × Nat

def tick (env : Env) (_ : Call) (_ : Shared) (clock : Nat) : Nat := max clock env.now

def timed : Effects Timed Env Call Call.Reply := Program.annotated effects tick

/-- Between two states of an operation that has written nothing. -/
structure Untouched (before after : Timed) : Prop where
  tasks : after.1.tasks = before.1.tasks
  sequence : before.1.sequence ≤ after.1.sequence
  clock : before.2 ≤ after.2

theorem Untouched.refl (state : Timed) : Untouched state state :=
  ⟨rfl, Nat.le_refl _, Nat.le_refl _⟩

theorem Untouched.trans {first second third : Timed} (earlier : Untouched first second)
    (later : Untouched second third) : Untouched first third :=
  ⟨later.tasks.trans earlier.tasks, Nat.le_trans earlier.sequence later.sequence,
    Nat.le_trans earlier.clock later.clock⟩

theorem Untouched.call {env : Env} {request : Call} {state : Timed} (leaves : LeavesTasks request) :
    Untouched state (timed env request state).2 :=
  ⟨tasks_effects leaves, sequence_effects env request state.1, Nat.le_max_left _ _⟩

/-- The check lets no clock go back. -/
def Forward (check : Check Timed Env Call) : Prop :=
  ∀ request env state, check request (some env) state = true → state.2 ≤ env.now

/-- A name that was made since `start`. -/
def Dated (check : Check Timed Env Call) (start : Timed) (id : TaskId) (state : Timed) : Prop :=
  ∃ now sequence, id = taskName now sequence ∧ start.1.sequence ≤ sequence ∧
    sequence < state.1.sequence ∧ now ≤ state.2 ∧ (Forward check → start.2 ≤ now)

/-- The calls of an operation, with the age of the names it inserts. -/
def TimedIssued (check : Check Timed Env Call) (operation : Operation) (start : Timed)
    (request : Call) (state : Timed) : Prop :=
  Issued operation start.1 request state.1 ∧
    ∀ input, request = .insert input → Dated check start input.id state

variable {operation : Operation}

theorem TimedIssued.quiet {check : Check Timed Env Call} {start state : Timed} {request : Call}
    (leaves : LeavesTasks request) : TimedIssued check operation start request state := by
  refine ⟨.quiet leaves, ?_⟩
  rintro input rfl
  exact leaves.elim

/-! ## Enqueue -/

section Enqueue

variable {check : Check Timed Env Call} {configured : Option Nat} {body : Option Json} {actor : String}
  {request : EnqueueRequest} {start state : Timed} {input : ProductionTaskInput}

/-- The code of an enqueue, with the calls it makes. -/
abbrev Enqueues (check : Check Timed Env Call) (configured : Option Nat) (body : Option Json)
    (actor : String) (start : Timed) {β : Type} (program : Code β) (state : Timed) : Prop :=
  program.Issues timed check (TimedIssued check (.enqueue configured body actor) start)
    (fun _ _ => True) state

theorem issues_lookups {β : Type} {program : Code β} (calls : program.Calls LooksUp) :
    program.Issues timed check (TimedIssued check operation start) (fun _ after => Untouched state after)
      state := by
  refine .of_calls ?_ (fun _ => trivial) ?_ calls (.refl state)
  · exact fun looks _ => .quiet looks.leavesTasks
  · exact fun looks known => known.trans (.call looks.leavesTasks)

/-- What is settled about a new task before its chain is looked at. -/
structure Prepared (check : Check Timed Env Call) (capacity : Nat) (request : EnqueueRequest)
    (start : Timed) (input : ProductionTaskInput) (state : Timed) : Prop
    extends Described request input where
  untouched : Untouched start state
  room : openTasks start.1.tasks < capacity
  dated : Dated check start input.id state

theorem Dated.later {id : TaskId} {after : Timed} (dated : Dated check start id state)
    (untouched : Untouched state after) : Dated check start id after := by
  obtain ⟨now, sequence, name, lower, upper, read, forward⟩ := dated
  exact ⟨now, sequence, name, lower, Nat.lt_of_lt_of_le upper untouched.sequence,
    Nat.le_trans read untouched.clock, forward⟩

section

variable {capacity : Nat} (prepared : Prepared check capacity request start input state)
include prepared

theorem Prepared.later {after : Timed} (untouched : Untouched state after) :
    Prepared check capacity request start input after :=
  { prepared with
    untouched := prepared.untouched.trans untouched
    dated := prepared.dated.later untouched }

theorem Prepared.place (chainId : String) (dependsOnTaskId : TaskId) :
    Prepared check capacity request start { input with chainId, dependsOnTaskId } state :=
  { prepared with }

end

theorem issues_storeTask (checked : checkEnqueueRequest body = .ok request)
    (same : state.1.tasks = start.1.tasks) (dated : Dated check start input.id state)
    (admitted : Admitted (queueCapacity configured) request input state.1.tasks) :
    Enqueues check configured body actor start (storeTask input) state := by
  have issued : TimedIssued check (.enqueue configured body actor) start (.insert input) state := by
    refine ⟨.insert rfl checked same admitted, ?_⟩
    rintro other equal
    cases equal
    exact dated
  have inserts :
      Enqueues check configured body actor start (insertProductionTask input).run state :=
    .ask (Call.insert input) issued fun _ _ => trivial
  refine inserts.bind fun outcome after _ => ?_
  split
  · exact .pure trivial
  · exact (issues_lookups (calls_appendAuditLog (fun _ => trivial) _ _ _ _ _)).bind
      fun _ _ _ => .pure trivial

theorem issues_admitDependency (checked : checkEnqueueRequest body = .ok request)
    (prepared : Prepared check (queueCapacity configured) request start input state)
    (chosen : Chosen request input start.1.tasks) :
    Enqueues check configured body actor start (admitDependency input) state := by
  have stores : ∀ after, Untouched state after → (input.dependsOnTaskId = "" ∨ ∃ dependency,
        start.1.tasks.find? input.dependsOnTaskId = some dependency ∧
          dependency.chainId = input.chainId ∧ dependency.sessionId = input.sessionId ∧
          dependency.materialId = input.materialId) →
      Enqueues check configured body actor start (storeTask input) after := by
    intro after untouched depends
    have later := prepared.later untouched
    apply issues_storeTask checked later.untouched.tasks later.dated
    rw [later.untouched.tasks]
    obtain ⟨now, sequence, name, -⟩ := later.dated
    exact { later.toDescribed, chosen with
      room := later.room, named := ⟨now, sequence, name⟩, depends }
  unfold admitDependency
  split
  next none =>
    exact stores state (.refl state) (.inl (by simpa using none))
  have reads : (findProductionTask input.dependsOnTaskId).run.Issues timed check
      (TimedIssued check (.enqueue configured body actor) start) (fun outcome after =>
        Untouched state after ∧ ∀ value, outcome = .ok value →
          value = start.1.tasks.find? input.dependsOnTaskId) state := by
    refine .ask (Call.find input.dependsOnTaskId) (.quiet trivial) fun env _ => ?_
    refine ⟨.call trivial, fun value answered => ?_⟩
    rw [← prepared.untouched.tasks]
    exact (effects_find env input.dependsOnTaskId state.1).2 value answered
  refine reads.bind ?_
  rintro outcome after ⟨untouched, found⟩
  cases outcome with
  | error error => exact .pure trivial
  | ok value =>
    cases value with
    | none => exact .pure trivial
    | some dependency =>
      dsimp only
      split
      · exact .pure trivial
      · grind

theorem issues_latestInChain (chainId : String) :
    (latestProductionTaskInChain chainId).run.Issues timed check (TimedIssued check operation start)
      (fun outcome after => Untouched state after ∧
        ∀ value, outcome = .ok value → value = latestInChain state.1.tasks chainId) state := by
  unfold latestProductionTaskInChain
  split
  next blank =>
    refine .pure ⟨.refl state, fun value answered => ?_⟩
    cases answered
    rw [latestInChain, if_pos blank]
  next named =>
    refine .ask (Call.latestInChain chainId) (.quiet trivial) fun env _ => ?_
    refine ⟨.call trivial, fun value answered => ?_⟩
    have ran := semantics_effects env (.latestInChain chainId) state.1
    rw [show (effects env (.latestInChain chainId) state.1).1 = .ok value from answered] at ran
    rw [latestInChain, if_neg named]
    exact (Connection.query_ok ran).1

section

variable (checked : checkEnqueueRequest body = .ok request)
include checked

theorem issues_admitChain
    (prepared : Prepared check (queueCapacity configured) request start input state) :
    Enqueues check configured body actor start (admitChain request input) state := by
  refine (issues_lookups (looksUp_latestForSession input.sessionId)).bind fun outcome after kept => ?_
  have later := prepared.later kept
  cases outcome with
  | error error => exact .pure trivial
  | ok latestSessionTask =>
    dsimp only
    split
    · exact .pure trivial
    split
    · -- the client names the dependency
      rename_i named
      have named : request.requestedDependencyId ≠ "" := by simpa using named
      exact issues_admitDependency checked (later.place _ _)
        ⟨fun _ => rfl, fun unnamed => absurd unnamed named⟩
    next unnamed =>
      have unnamed : request.requestedDependencyId = "" := by simpa using unnamed
      split
      next event =>
        exact issues_admitDependency checked (later.place _ _)
          ⟨fun named => absurd unnamed named, fun _ other => absurd event other⟩
      refine (issues_latestInChain _).bind ?_
      rintro found last ⟨untouched, answer⟩
      cases found with
      | error error => exact .pure trivial
      | ok latestTask =>
        refine issues_admitDependency checked ((later.later untouched).place _ _)
          ⟨fun named => absurd unnamed named, fun _ _ => ?_⟩
        have equal := answer latestTask rfl
        rw [later.untouched.tasks] at equal
        rw [equal]

variable (untouched : Untouched start state)
include untouched

theorem issues_admitTask : Enqueues check configured body actor start
      (admitTask (queueCapacity configured) request actor) state := by
  have counts : (ask .countOpen : Code (Except DbErr Nat)).Issues timed check
      (TimedIssued check (.enqueue configured body actor) start) (fun outcome after =>
        Untouched start after ∧ ∀ count, outcome = .ok count → count = openTasks start.1.tasks)
      state := by
    refine .ask Call.countOpen (.quiet trivial) fun env _ => ?_
    refine ⟨untouched.trans (.call trivial), fun count answered => ?_⟩
    have ran := semantics_effects env .countOpen state.1
    rw [show (effects env .countOpen state.1).1 = .ok count from answered] at ran
    rw [← untouched.tasks]
    exact (Connection.query_ok ran).1
  refine counts.bind ?_
  rintro outcome counted ⟨untouched, count⟩
  cases outcome with
  | error error => exact .pure trivial
  | ok openCount =>
    dsimp only
    split
    · exact .pure trivial
    have room : openTasks start.1.tasks < queueCapacity configured := by
      rw [← count openCount rfl]
      omega
    have numbers : (ask .nextSequence : Code Nat).Issues timed check
        (TimedIssued check (.enqueue configured body actor) start) (fun sequence after =>
          Untouched start after ∧ start.1.sequence ≤ sequence ∧ sequence < after.1.sequence)
        counted :=
      .ask Call.nextSequence (.quiet trivial) fun env _ =>
        ⟨untouched.trans (.call trivial), untouched.sequence, Nat.lt_succ_self _⟩
    refine numbers.bind ?_
    rintro sequence numbered ⟨untouched, lower, upper⟩
    have reads : (ask .currentTimeMillis : Code Nat).Issues timed check
        (TimedIssued check (.enqueue configured body actor) start) (fun now after =>
          Untouched numbered after ∧ now ≤ after.2 ∧ (Forward check → start.2 ≤ now)) numbered :=
      .ask Call.currentTimeMillis (.quiet trivial) fun env passed =>
        ⟨.call trivial, Nat.le_max_right _ _, fun forward =>
          Nat.le_trans untouched.clock (forward _ _ _ passed)⟩
    refine reads.bind ?_
    rintro now read ⟨kept, past, since⟩
    refine (issues_lookups (looksUp_taskTarget _)).bind fun target aimed still => ?_
    cases target
    have dated : Dated check start
        ("TASK-" ++ toString now ++ "-" ++ Text.padDecimal 20 sequence) read :=
      ⟨now, sequence, rfl, lower, Nat.lt_of_lt_of_le upper kept.sequence, past, since⟩
    split
    · exact .pure trivial
    refine issues_admitChain checked
      ⟨⟨rfl, rfl, ?_⟩, (untouched.trans kept).trans still, room, dated.later still⟩
    dsimp only

theorem issues_enqueueFresh : Enqueues check configured body actor start
      (enqueueFresh (queueCapacity configured) request actor) state := by
  refine (issues_lookups (.ask Call.runtimeIsDraining trivial)).bind fun draining after kept => ?_
  split
  · exact .pure trivial
  · exact issues_admitTask checked (untouched.trans kept)

theorem issues_enqueueAdmitted : Enqueues check configured body actor start
      (enqueueAdmitted (queueCapacity configured) request actor) state := by
  unfold enqueueAdmitted
  split
  · exact issues_enqueueFresh checked untouched
  refine (issues_lookups (looksUp_findByKey _)).bind fun found after kept => ?_
  cases found with
  | error error => exact .pure trivial
  | ok existing =>
    cases existing with
    | none => exact issues_enqueueFresh checked (untouched.trans kept)
    | some existing =>
      dsimp only
      split <;> exact .pure trivial

end

theorem issues_enqueue (configured : Option Nat) (body : Option Json) (actor : String) (start : Timed) :
    Enqueues check configured body actor start
      (enqueueResponse (queueCapacity configured) body actor) start := by
  unfold enqueueResponse
  split
  · exact .pure trivial
  rename_i request checked
  have locks : (ask .lockAdmin : Code Bool).Issues timed check
      (TimedIssued check (.enqueue configured body actor) start)
      (fun _ after => Untouched start after) start :=
    .ask Call.lockAdmin (.quiet trivial) fun _ _ => .call trivial
  refine locks.bind fun locked after kept => ?_
  split
  · refine (issues_enqueueAdmitted checked kept).bind fun answer last _ => ?_
    have unlocks : Enqueues check configured body actor start (ask .unlockAdmin : Code Unit) last :=
      .ask Call.unlockAdmin (.quiet trivial) fun _ _ => trivial
    exact unlocks.bind fun _ _ _ => .pure trivial
  · exact .pure trivial

end Enqueue

/-! ## Every operation -/

theorem other_issues (start : Shared)
    (other : ∀ configured body actor, operation ≠ .enqueue configured body actor) :
    operation.program.Issues effects (fun _ _ _ => true) (Issued operation start)
      (fun outcome after => HandsOutReady outcome after.tasks) start := by
  cases operation with
  | enqueue configured body actor => exact absurd rfl (other _ _ _)
  | claim fuel => exact (issues_claimNext fuel).bind fun _ _ handed => .pure handed
  | progress id phase percent =>
    exact (issues_progress id phase percent).bind fun _ _ _ => .pure .nothing
  | finish fuel id status percent result error =>
    exact issues_finish.bind fun _ _ _ => .pure .nothing
  | cancel fuel body actor => exact (issues_cancel fuel body actor).bind fun _ _ _ => .pure .nothing
  | retry fuel body actor => exact (issues_retry fuel body actor).bind fun _ _ _ => .pure .nothing
  | recover fuel => exact (issues_recover fuel).bind fun _ _ _ => .pure .nothing

/-- An operation that is not an enqueue takes no name. -/
theorem issues_timed {check : Check Timed Env Call} {start : Timed}
    (other : ∀ configured body actor, operation ≠ .enqueue configured body actor) :
    operation.program.Issues timed check (TimedIssued check operation start)
      (fun outcome after => HandsOutReady outcome after.1.tasks) start := by
  refine (other_issues start.1 other).annotate.weaken ?_
  intro request state issued
  refine ⟨issued, ?_⟩
  rintro input rfl
  cases issued with
  | quiet leaves => exact leaves.elim
  | insert asked => exact absurd asked (other _ _ _)

/-- Every call of every operation is made as listed, and what a claim hands out is ready. -/
theorem operation_issues_timed (operation : Operation) (check : Check Timed Env Call) (start : Timed) :
    operation.program.Issues timed check (TimedIssued check operation start)
      (fun outcome after => HandsOutReady outcome after.1.tasks) start := by
  cases operation with
  | enqueue configured body actor =>
    exact (issues_enqueue configured body actor start).bind fun _ _ _ => .pure .nothing
  | _ => exact issues_timed nofun

theorem operation_issues (operation : Operation) (check : Check Shared Env Call) (start : Shared) :
    operation.program.Issues effects check (Issued operation start)
      (fun outcome after => HandsOutReady outcome after.tasks) start := by
  have walked := operation_issues_timed operation
    (fun request env state => check request env state.1) (start, 0)
  refine .forget tick 0 ?_
  exact walked.weaken fun _ _ issued => issued.1

end SteelInspection.Tasks
