import SteelInspection.Modes.Watching

/-! # The phases of a save

Which call a save makes in which phase.  Only the save itself changes its phase, and the configuration
it reads is the one it was admitted under, so that two facts carry its whole program; everything the
transitions need of the files is then an invariant of single steps.
-/

namespace SteelInspection.Modes

open Foundations Discipline

inductive Move : Thread → Call → Journal → Journal → Prop where
  | same {thread request journal} : Move thread request journal journal
  | profile {thread profile journal} :
    Move thread (.replaceProfile profile) journal { journal with profile }
  | marker {thread marker journal} :
    Move thread (.replaceMarker marker) journal (journal.writeMarker thread.save? marker)
  | enter {id candidate runtimeConfig journal}
    (new : journal.phase id = .outside) (accepting : journal.accepting = true) :
    Move (.save id) (.enter candidate) journal (journal.enter id (.admitted candidate runtimeConfig))
  | stage {id path profile journal} :
    Move (.save id) (.stage path profile) journal (journal.setPhase id .staged)
  | leave {id journal} : Move (.save id) .leave journal (journal.leave id)
  | respond {id response journal} : Move (.save id) (.respond response) journal
      { journal with answers := (id, response) :: journal.answers }
  | close {id journal} (accepting : journal.accepting = true) :
    Move (.save id) .closeAdmission journal ({ journal with accepting := false }.setPhase id .closed)
  | reopen {id journal} :
    Move (.save id) .openAdmission journal ({ journal with accepting := true }.setPhase id .reopened)
  | drain {id journal} (alone : journal.inFlight.length ≤ 1) :
    Move (.save id) .drain journal (journal.setPhase id .drained)
  | append {id journal} : Move (.save id) .appendRevision journal (journal.append id)
  | undo {id journal} : Move (.save id) .rollbackRevision journal (journal.undo id)
  | serve {thread profile journal} (stopped : journal.running = false) :
    Move thread (.serve profile) journal journal.serve
  | crash {thread journal} : Move thread .crashService journal journal.crash

variable {thread : Thread} {request : Call} {config : Config}

theorem move_of_execute {env : Env} {shared after : Shared} {reply : request.Reply}
    (ran : execute thread env request shared = some (reply, after)) :
    Move thread request shared.toJournal after.toJournal := by
  cases request
  all_goals simp only [execute] at ran
  all_goals repeat' split at ran
  all_goals cases ran
  all_goals first
    | exact .same | exact .profile | exact .marker | exact .stage | exact .leave | exact .respond
    | exact .reopen | exact .append | exact .undo | exact .crash | exact .close ‹_› | exact .drain ‹_›
    | exact .serve (by simp_all) | exact .enter (by simp_all) ‹_›

/-! ## Which call in which phase -/

def Phase.inFlight : Phase → Bool
  | .outside | .left => false
  | _ => true

def markerPhases : MarkerState → List Phase
  | .fence => [.closed]
  | .publish => [.stored]
  | .ready => [.published]
  | .committed => [.kept, .fenced, .drained, .stored]

@[simp] def SaveGood (id : SaveId) (phase : Phase) : Call → Prop
  | .leave => phase ≠ .outside ∧ phase ≠ .left
  | .respond response =>
    response.saved = some true → phase ∈ [Phase.kept, .drained, .stored, .published]
  | .stage _ _ => phase = .changing
  | .closeAdmission => phase = .staged
  | .openAdmission => phase ∈ [Phase.closed, .fenced, .drained, .stored]
  | .replaceMarker marker => marker.owner = id ∧ phase ∈ markerPhases marker.state
  | .replaceProfile _ => phase ∈ [Phase.inside, .kept, .published]
  | .drain => phase = .fenced
  | .appendRevision => phase = .inside ∨ phase = .drained
  | .rollbackRevision => phase = .stored
  | .serve _ | .crashService => False
  | _ => True

def Good (thread : Thread) (request : Call) (journal : Journal) : Prop :=
  match thread with
  | .save id => SaveGood id (journal.phase id) request
  | thread => OtherGood thread request

theorem Move.phase_other {journal after : Journal} {id : SaveId}
    (different : Thread.save id ≠ thread) (move : Move thread request journal after) :
    after.phase id = journal.phase id := by
  have elsewhere : ∀ {other}, thread = .save other → id ≠ other := by
    rintro other rfl rfl
    exact different rfl
  cases move with
  | @marker _ marker _ =>
    cases thread with
    | save other =>
      exact Function.update_of_ne (elsewhere rfl) _ _
    | _ => rfl
  | enter _ _ | stage | leave | close _ | reopen | drain _ | append | undo =>
    exact Function.update_of_ne (elsewhere rfl) _ _
  | _ => rfl

/-- No save has come that is not of this run of the service or an earlier one. -/
def Journal.Past (journal : Journal) : Prop :=
  ∀ id, journal.phase id ≠ .outside → id.serviceRun ≤ journal.serviceRun

theorem Move.past {journal after : Journal} (past : journal.Past)
    (live : ∀ id, thread = .save id → id.serviceRun = journal.serviceRun)
    (move : Move thread request journal after) : after.Past := by
  have later : journal.serviceRun ≤ after.serviceRun := by
    cases move with
    | serve _ => exact Nat.le_succ _
    | _ => exact Nat.le_refl _
  intro id came
  by_cases own : Thread.save id = thread
  · rw [live id own.symm]
    exact later
  · rw [move.phase_other own] at came
    exact Nat.le_trans (past id came) later

/-- A save that has come and is still served has the configuration it was served with before. -/
theorem served_of_execute {env : Env} {shared after : Shared} {reply : request.Reply} {id : SaveId}
    (ran : execute thread env request shared = some (reply, after))
    (past : id.serviceRun ≤ shared.serviceRun) (alive : after.alive (.save id) = true) :
    shared.alive (.save id) = true ∧ after.runtimeConfig = shared.runtimeConfig := by
  cases request with
  | serve profile =>
    simp only [execute] at ran
    split at ran <;> cases ran
    have run : shared.serviceRun + 1 = id.serviceRun := of_decide_eq_true alive
    omega
  | crashService =>
    simp only [execute] at ran
    split at ran <;> cases ran
    cases alive
  | _ =>
    simp only [execute] at ran
    repeat' split at ran
    all_goals cases ran
    all_goals exact ⟨alive, rfl⟩

def phaseDiscipline (config : Config) : Discipline (modeRules config) where
  inv shared := shared.Past
  rely thread shared current := ∀ id, thread = .save id → current.phase id = shared.phase id ∧
    (shared.phase id ≠ .outside → current.alive thread = true →
      shared.alive thread = true ∧ current.runtimeConfig = shared.runtimeConfig)
  good
    | .save id, request, shared => SaveGood id (shared.phase id) request
    | _, _, _ => True
  rely_refl _ _ _ _ := ⟨rfl, fun _ alive => ⟨alive, rfl⟩⟩
  rely_trans _ _ _ _ before after id same := by
    obtain ⟨phaseBefore, servedBefore⟩ := before id same
    obtain ⟨phaseAfter, servedAfter⟩ := after id same
    refine ⟨phaseAfter.trans phaseBefore, fun came alive => ?_⟩
    obtain ⟨between, sameAfter⟩ := servedAfter (phaseBefore ▸ came) alive
    obtain ⟨first, sameBefore⟩ := servedBefore came between
    exact ⟨first, sameAfter.trans sameBefore⟩
  inv_initial initial id came := absurd (congrFun initial.phase id) came
  inv_call past _ _ executed := by
    obtain ⟨alive, ran⟩ := execute_of_semantics executed
    refine (move_of_execute ran).past past ?_
    rintro id rfl
    exact (of_decide_eq_true (Bool.and_eq_true_iff.mp alive).2).symm
  rely_call different past _ _ executed id same := by
    subst same
    obtain ⟨-, ran⟩ := execute_of_semantics executed
    exact ⟨(move_of_execute ran).phase_other different, fun came alive =>
      served_of_execute ran (past id came) alive⟩

/-! ## The program of a save -/

section Save

variable {id : SaveId} {shared : Shared} {phases : List Phase} {phase : Phase} {response : Response}

abbrev Saves (config : Config) (id : SaveId) {β : Type} (after : β → Phase → Prop)
    (program : Code β) (shared : Shared) : Prop :=
  (phaseDiscipline config).Safe (.save id) (fun value current => after value (current.phase id))
    program shared

def Guarded : Call → Prop
  | .enter _ | .leave => False
  | _ => True

/-- The phases that a call within the guard leads to, with the answer it gets. -/
@[simp] def Phase.moves : (request : Call) → request.Reply → Phase → List Phase
  | .stage _ _, true, _ => [.staged]
  | .closeAdmission, true, _ => [.closed]
  | .openAdmission, _, _ => [.reopened]
  | .replaceMarker marker, true, phase => [phase.afterMarker marker.state]
  | .drain, true, _ => [.drained]
  | .appendRevision, .stored, phase => [phase.afterAppend]
  -- a failed transaction may have been committed all the same
  | .appendRevision, .failed _, phase => [phase, phase.afterAppend]
  | .rollbackRevision, true, _ => [.drained]
  | .rollbackRevision, false, phase => [.drained, phase]
  | _, _, phase => [phase]

theorem moves_of_execute {env : Env} {after : Shared} {reply : request.Reply}
    (ran : execute (.save id) env request shared = some (reply, after)) (guarded : Guarded request)
    (good : SaveGood id (shared.phase id) request) :
    after.phase id ∈ (shared.phase id).moves request reply := by
  cases request with
  | enter _ | leave => exact guarded.elim
  | serve _ | crashService => exact good.elim
  | _ =>
    simp only [execute] at ran
    repeat' split at ran
    all_goals cases ran
    all_goals simp [Journal.setPhase, Journal.append, Journal.undo, Journal.writeMarker, Thread.save?]

/-- What is known of the phase follows the calls. -/
theorem ask_moves (request : Call) (guarded : Guarded request)
    (good : ∀ phase ∈ phases, SaveGood id phase request) (known : shared.phase id ∈ phases) :
    Saves config id (fun reply phase => phase ∈ phases.flatMap (Phase.moves request reply))
      (ask request) shared := by
  have still : ∀ current, (phaseDiscipline config).rely (.save id) shared current →
      current.phase id ∈ phases := fun current relied => (relied id rfl).1.symm ▸ known
  refine Safe.ask request (fun current relied _ => good _ (still current relied)) ?_
  intro current relied _ _ env reply after ran _
  have before := still current relied
  exact List.mem_flatMap.mpr ⟨_, before,
    moves_of_execute (execute_of_semantics ran).2 guarded (good _ before)⟩

def Stays : Call → Prop
  | .readProfile | .now | .unstage _ | .runtimeConfig | .captureIsActive | .stopCapture
  | .startCapture => True
  | _ => False

theorem stays_safe {β : Type} {program : Code β} (calls : program.Calls Stays)
    (known : shared.phase id ∈ phases) :
    Saves config id (fun _ phase => phase ∈ phases) program shared := by
  refine Safe.of_calls ?_ ?_ ?_ calls known
  · exact fun relied before => (relied id rfl).1.symm ▸ before
  · intro request current stays _ _
    cases request with
    | readProfile | now | unstage _ | runtimeConfig | captureIsActive | stopCapture
    | startCapture => trivial
    | _ => exact stays.elim
  · intro request env current reply after stays _ before _ ran
    have move := move_of_execute (execute_of_semantics ran).2
    have same : after.toJournal = current.toJournal := by
      generalize after.toJournal = next at move
      cases move with
      | same => rfl
      | _ => exact stays.elim
    rwa [same]

/-- A marker of a save: written, it moves the phase on. -/
theorem publishRuntimeModeCommit_safe {actor : String} {fields : CommitFields} (state : MarkerState)
    (isState : fields.state = state) (known : shared.phase id ∈ phases)
    (within : ∀ phase ∈ phases, phase ∈ markerPhases state) :
    Saves config id (fun written moved => moved ∈ phases.map fun phase =>
        if written then phase.afterMarker state else phase)
      (publishRuntimeModeCommit config id actor fields) shared := by
  subst isState
  refine (stays_safe (.ask Call.readProfile trivial) known).bind fun read _ still => ?_
  cases read with
  | none => exact .pure (by simpa using still)
  | some active =>
    refine (stays_safe (.ask Call.now trivial) still).bind fun updatedAt _ timed => ?_
    refine (ask_moves (.replaceMarker (fields.marker config id actor active updatedAt)) trivial
      (fun phase mem => ⟨rfl, within phase mem⟩) timed).mono fun (written : Bool) _ moved => ?_
    obtain ⟨phase, mem, moved⟩ := List.mem_flatMap.mp moved
    cases written <;> exact List.mem_map.mpr ⟨phase, mem, (List.mem_singleton.mp moved).symm⟩

theorem replaceProfile_safe (profile : Profile) (known : shared.phase id ∈ phases)
    (within : ∀ phase ∈ phases, phase ∈ [Phase.inside, .kept, .published]) :
    Saves config id (fun _ phase => phase ∈ phases) (ask (.replaceProfile profile)) shared :=
  (ask_moves (.replaceProfile profile) trivial within known).mono fun _ _ kept => by simpa using kept

def Over (response : Response) (phase : Phase) : Prop :=
  (phase ≠ .outside ∧ phase ≠ .left) ∧
    (response.saved = some true → phase ∈ [Phase.kept, .drained, .stored, .published])

theorem over_of_unsaved (unsaved : response.saved ≠ some true) (known : phase ∈ phases)
    (within : ∀ phase ∈ phases, phase ≠ .outside ∧ phase ≠ .left) : Over response phase :=
  ⟨within phase known, fun saved => (unsaved saved).elim⟩

theorem restart_calls (captureWasActive : Bool) :
    (Transition.restart captureWasActive).Calls Stays := by
  cases captureWasActive with
  | false => exact .pure
  | true => exact .ask Call.startCapture trivial

variable (transition : Transition)

theorem over_of_rolledBack {other : Response}
    (rolledBack : response.saved = none ∧ phase = .reopened) (same : other.saved = response.saved) :
    Over other phase :=
  over_of_unsaved (by simp [same, rolledBack.1]) (List.mem_singleton.mpr rolledBack.2) (by decide)

section

variable (captureWasActive : Bool)
include captureWasActive

theorem rollBack_safe (status : Nat) (error : String)
    (known : shared.phase transition.save ∈ [Phase.fenced, .drained, .stored]) :
    Saves transition.config transition.save
      (fun response phase => response.saved = none ∧ phase = .reopened)
      (transition.rollBack captureWasActive status error) shared := by
  refine (publishRuntimeModeCommit_safe .committed rfl known (by decide)).bind
    fun written current restored => ?_
  have still : current.phase transition.save ∈ [Phase.fenced, .drained, .stored] := by
    cases written <;> exact restored
  refine (ask_moves .openAdmission trivial (by simp) still).bind fun _ _ opened => ?_
  refine (stays_safe (restart_calls captureWasActive) opened).bind fun _ _ last => ?_
  exact .pure ⟨rfl, by simpa using last⟩

theorem finish_safe (known : shared.phase transition.save ∈ [Phase.stored]) :
    Saves transition.config transition.save (fun outcome => Over outcome.1)
      (transition.finish captureWasActive) shared := by
  refine (publishRuntimeModeCommit_safe .publish rfl known (by decide)).bind fun written _ moved => ?_
  cases written with
  | true =>
    have ended : ∀ {response : Response} {phase : Phase}, phase ∈ [Phase.published] →
        Over response phase := by
      intro response phase published
      simp [List.mem_singleton.mp published, Over]
    refine (replaceProfile_safe transition.profile moved (by decide)).bind fun replaced _ kept => ?_
    cases replaced with
    | false => exact .pure (ended kept)
    | true =>
      refine (stays_safe (.ask Call.now trivial) kept).bind fun now _ timed => ?_
      refine (publishRuntimeModeCommit_safe .ready rfl timed (by decide)).bind fun ready _ last => ?_
      cases ready <;> exact .pure (ended last)
  | false =>
    refine (ask_moves .rollbackRevision trivial (by simp) moved).bind fun undone _ back => ?_
    cases undone with
    | true =>
      refine (rollBack_safe transition captureWasActive _ _ (by simp_all)).bind
        fun response _ rolledBack => ?_
      exact .pure (over_of_rolledBack rolledBack rfl)
    | false =>
      have ended : ∀ phase ∈ [Phase.drained, .stored], (phase ≠ .outside ∧ phase ≠ .left) ∧
          phase ∈ [Phase.kept, .drained, .stored, .published] := by decide
      exact .pure ⟨(ended _ back).1, fun _ => (ended _ back).2⟩

theorem store_safe (known : shared.phase transition.save ∈ [Phase.fenced]) :
    Saves transition.config transition.save (fun outcome => Over outcome.1)
      (transition.store captureWasActive) shared := by
  have gaveUp : ∀ {status : Nat} {error : String} {current : Shared},
      current.phase transition.save ∈ [Phase.fenced, .drained, .stored] →
      Saves transition.config transition.save (fun outcome => Over outcome.1)
        (do return (← transition.rollBack captureWasActive status error, false)) current := by
    intro status error current before
    refine (rollBack_safe transition captureWasActive status error before).bind
      fun response _ rolledBack => ?_
    exact .pure (over_of_rolledBack rolledBack rfl)
  refine (stays_safe (.ask Call.stopCapture trivial) known).bind fun stopped _ fenced => ?_
  cases stopped with
  | false => exact gaveUp (by simp_all)
  | true =>
    refine (ask_moves .drain trivial (by simp) fenced).bind fun drained _ moved => ?_
    cases drained with
    | false => exact gaveUp (by simp_all)
    | true =>
      refine (stays_safe (.ask Call.readProfile trivial) moved).bind fun read _ alone => ?_
      cases read with
      | none => exact gaveUp (by simp_all)
      | some _ =>
        refine (ask_moves .appendRevision trivial (by simp) alone).bind fun appended _ after => ?_
        cases appended with
        | stored => exact finish_safe transition captureWasActive after
        | failed error =>
          have either : _ ∈ [Phase.fenced, .drained, .stored] := List.mem_cons_of_mem _ after
          refine (rollBack_safe transition captureWasActive _ _ either).bind
            fun response _ rolledBack => ?_
          exact .pure (over_of_rolledBack rolledBack rfl)

theorem run_safe (known : shared.phase transition.save ∈ [Phase.staged]) :
    Saves transition.config transition.save (fun outcome => Over outcome.1)
      (transition.run captureWasActive) shared := by
  refine (ask_moves .closeAdmission trivial (by simp) known).bind fun closed _ moved => ?_
  cases closed with
  | false => exact .pure (over_of_unsaved (by simp) moved (by decide))
  | true =>
    refine (publishRuntimeModeCommit_safe .fence rfl moved (by decide)).bind fun written _ after => ?_
    cases written with
    | true => exact store_safe transition captureWasActive after
    | false =>
      refine (ask_moves .openAdmission trivial (by simp) after).bind fun _ _ reopened => ?_
      exact .pure (over_of_unsaved (by simp) reopened (by simp))

end

theorem changeMode_safe (known : shared.phase id ∈ [Phase.changing]) (actor : String)
    (active profile : Profile) :
    Saves config id Over (changeMode config id actor active profile) shared := by
  refine (stays_safe (.ask Call.now trivial) known).bind fun millis _ timed => ?_
  refine (ask_moves (.stage _ profile) trivial (by simp) timed).bind fun staged _ moved => ?_
  cases staged with
  | false => exact .pure (over_of_unsaved (by simp) moved (by simp))
  | true =>
    have probes : (Transition.captureWasActive
        ⟨config, id, actor, active, profile, transitionId config millis profile⟩).Calls Stays := by
      unfold Transition.captureWasActive
      split
      · exact .pure
      · exact .ask Call.captureIsActive trivial
    refine (stays_safe probes moved).bind fun wasActive _ same => ?_
    refine (run_safe ⟨config, id, actor, active, profile, _⟩ wasActive same).bind
      fun outcome current ended => ?_
    split
    · exact .pure ended
    · refine (stays_safe (.ask (Call.unstage _) trivial) (List.mem_singleton_self _)).bind
        fun _ _ last => .pure ?_
      exact List.mem_singleton.mp last ▸ ended

theorem saveSameMode_safe (known : shared.phase id ∈ [Phase.inside]) (actor : String)
    (profile : Profile) : Saves config id Over (saveSameMode config id actor profile) shared := by
  refine (stays_safe (.ask Call.readProfile trivial) known).bind fun read _ still => ?_
  cases read with
  | none => exact .pure (over_of_unsaved (by simp) still (by decide))
  | some previous =>
    refine (replaceProfile_safe profile still (by decide)).bind fun replaced _ kept => ?_
    cases replaced with
    | false => exact .pure (over_of_unsaved (by simp) kept (by decide))
    | true =>
      refine (ask_moves .appendRevision trivial (by simp) kept).bind fun appended _ after => ?_
      cases appended with
      | failed error =>
        have inside : _ ∈ [Phase.inside, .kept] := after
        refine (replaceProfile_safe previous inside (by decide)).bind fun _ _ last => ?_
        exact .pure (over_of_unsaved (by simp) last (by decide))
      | stored =>
        refine (publishRuntimeModeCommit_safe .committed rfl after (by decide)).bind
          fun written current moved => ?_
        have ended : current.phase id ∈ [Phase.kept] := by cases written <;> exact moved
        cases written with
        | true => exact .pure (by simp [List.mem_singleton.mp ended, Over])
        | false => exact .pure (over_of_unsaved (by simp) ended (by decide))

theorem saveAdminRuntimeProfile_safe (actor : String) (candidate : Option Profile)
    (known : shared.phase id = .admitted candidate shared.runtimeConfig) :
    Saves config id Over (saveAdminRuntimeProfile config id actor candidate) shared := by
  cases candidate with
  | none =>
    exact .pure (over_of_unsaved (by simp) (List.mem_singleton_self _) (by simp [known, Phase.admitted]))
  | some profile =>
    have came : shared.phase id ≠ .outside := by
      rw [known]
      unfold Phase.admitted
      split <;> simp
    have reads : Saves config id (fun active phase => phase = .admitted (some profile) active)
        (ask .runtimeConfig) shared := by
      refine Safe.ask Call.runtimeConfig (fun _ _ _ => trivial) ?_
      intro current relied _ _ env reply after ran _
      obtain ⟨alive, ran⟩ := execute_of_semantics ran
      cases ran
      obtain ⟨samePhase, served⟩ := relied id rfl
      rw [samePhase, (served came alive).2, known]
    refine reads.bind fun active _ phase => ?_
    split
    next keeps => exact saveSameMode_safe (by simp [phase, Phase.admitted, keeps]) actor profile
    next changes =>
      exact changeMode_safe (by simp [phase, Phase.admitted, changes]) actor active profile

theorem saveRequest_safe (actor : String) (candidate : Option Profile) (shared : Shared) :
    Saves config id (fun _ _ => True) (saveRequest config id actor candidate) shared := by
  have entering : (phaseDiscipline config).Safe (.save id)
      (fun (entered : Bool) current => entered = true →
        current.phase id = .admitted candidate current.runtimeConfig)
      (ask (.enter candidate)) shared := by
    refine .ask (Call.enter candidate) (fun _ _ _ => trivial) ?_
    intro current _ _ _ env reply after ran _ entered
    obtain ⟨_, ran⟩ := execute_of_semantics ran
    simp only [execute] at ran
    split at ran
    · cases ran
    · split at ran <;> cases ran
      · exact Function.update_self id _ current.phase
      · cases entered
  refine entering.bind fun entered _ admitted => ?_
  cases entered with
  | true =>
    refine (saveAdminRuntimeProfile_safe actor candidate (admitted rfl)).bind
      fun response current ended => ?_
    -- the answer and the end of the guard see the phase the handler ended in
    refine (ask_moves (.respond response) trivial (fun _ mem => List.mem_singleton.mp mem ▸ ended.2)
      (List.mem_singleton_self _)).bind fun _ after same => ?_
    refine (Safe.ask_any Call.leave fun later relied _ => ?_).bind fun _ _ _ => .pure trivial
    have still : later.phase id = current.phase id := (relied id rfl).1.trans (by simpa using same)
    exact show later.phase id ≠ .outside ∧ later.phase id ≠ .left from still ▸ ended.1
  | false =>
    refine (Safe.ask_any (Call.respond _) fun _ _ _ => ?_).bind fun _ _ _ => .pure trivial
    exact fun saved => by simp at saved

end Save

theorem reachable_good {machine}
    (reached : (modeRules config).Reachable machine)
    (next : machine.nextCall? thread = some request) :
    Good thread request machine.shared.toJournal := by
  cases thread with
  | save id =>
    refine (phaseDiscipline config).reachable_good (fun thread program shared handler _ => ?_)
      reached next
    cases handler with
    | save id actor candidate => exact saveRequest_safe actor candidate shared
    | _ => exact .of_any (fun _ => trivial) (fun _ _ => trivial) _ shared
  | _ => exact (reachable_watchGood reached next).1 rfl

end SteelInspection.Modes
