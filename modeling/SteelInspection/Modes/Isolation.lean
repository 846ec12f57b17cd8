import SteelInspection.Modes.Phases

/-! # Runtime mode changes and the saves beside them

From its fence to its publish marker a transition relies on being alone with the two files.  The
admission is closed before the fence, but the saves that were admitted earlier are waited for only
after it, and one of them may still replace both files.
-/

namespace SteelInspection.Modes

open Foundations

def Thread.inService : Thread → Bool
  | .save _ | .boot => true
  | .supervisor _ | .world => false

def savingRules (config : Config) : Rules Shared Thread Env Call Call.Reply Unit :=
  (modeRules config).assuming fun thread _ _ => thread.inService = true

/-- The phases in which a save replaces neither file before it has closed the admission itself. -/
def Phase.writesNothing : Phase → Bool
  | .outside | .changing | .staged | .reopened | .left => true
  | _ => false

/-- When a save closes the admission, every other save in flight is to change the mode or has given up
its transition; when it opens it again, its fence no longer stands. -/
def closesAlone (thread : Thread) (request : Call) (journal : Journal) : Bool :=
  match thread, request with
  | .save id, .closeAdmission =>
    !journal.accepting ||
      journal.inFlight.all fun other => other = id || (journal.phase other).writesNothing
  | .save id, .openAdmission => (journal.fenced id).isNone
  | _, _ => true

def isolationRules (config : Config) : Rules Shared Thread Env Call Call.Reply Unit :=
  (savingRules config).assuming fun thread request shared =>
    closesAlone thread request shared.toJournal = true

/-! ## What a fence excludes -/

def Phase.transits : Phase → Bool
  | .closed | .fenced | .drained | .stored | .published => true
  | _ => false

/-- The phases a save may be in while its fence stands. -/
def Phase.behindFence : Phase → Bool
  | .fenced | .drained | .stored | .left => true
  | _ => false

/-- A step of a save that asks nothing new of the others. -/
def Phase.advances (before after : Phase) : Bool :=
  (after.inFlight → before.inFlight) && (after.transits → before.transits) &&
    (before.writesNothing → after.writesNothing) && (before.behindFence → after.behindFence)

/-- A save that is in its transition, or whose fence stands. -/
def Journal.Holds (journal : Journal) (id : SaveId) : Prop :=
  (journal.phase id).transits = true ∨ journal.fenced id ≠ none

structure Isolated (journal : Journal) : Prop where
  admitted : ∀ id, (journal.phase id).inFlight = true → id ∈ journal.inFlight
  stopped : journal.running = false → ∀ id, journal.phase id = .outside
  closed : ∀ id, journal.Holds id → journal.accepting = false
  alone : ∀ id, journal.Holds id →
    ∀ other, other ≠ id → (journal.phase other).writesNothing = true
  stands : ∀ id marker profile, journal.fenced id = some (marker, profile) →
    journal.marker = some marker ∧ journal.profile = profile ∧
      (journal.phase id).behindFence = true

section Steps

variable {journal : Journal} {id : SaveId}

section

variable (isolated : Isolated journal)
include isolated

theorem Isolated.setPhase (running : journal.running = true) {phase : Phase}
    (advances : (journal.phase id).advances phase = true) :
    Isolated (journal.setPhase id phase) := by
  simp only [Phase.advances, Bool.and_eq_true, decide_eq_true_eq] at advances
  cases isolated
  constructor <;> simp only [Journal.setPhase, Journal.Holds] at * <;> grind

/-- While one save is to write, nobody else is in a transition or behind a fence. -/
theorem Isolated.profile (within : journal.phase id ∈ [Phase.inside, .kept, .published])
    (profile : Profile) : Isolated { journal with profile } := by
  have ahead : ∀ phase ∈ [Phase.inside, .kept, .published],
      phase.writesNothing = false ∧ phase.behindFence = false := by decide
  obtain ⟨writes, unfenced⟩ := ahead _ within
  refine { isolated with stands := fun other marker before standing => ?_ }
  by_cases same : other = id
  · -- behind its own fence a save does not replace the profile
    have behind := (isolated.stands other marker before standing).2.2
    rw [same, unfenced] at behind
    cases behind
  · have held : journal.Holds other := .inr fun none => by cases none.symm.trans standing
    rw [isolated.alone other held id (Ne.symm same)] at writes
    cases writes

section

variable (running : journal.running = true)
include running

theorem Isolated.marker {marker : Marker} (within : journal.phase id ∈ markerPhases marker.state) :
    Isolated (journal.writeMarker (some id) marker) := by
  have phases : ∀ state, ∀ phase ∈ markerPhases state, phase.writesNothing = false ∧
      phase.inFlight = true ∧ (phase.transits = true ∨ phase = .kept ∧ state = .committed) := by
    intro state
    cases state <;> decide
  obtain ⟨writes, flying, transits⟩ := phases _ _ within
  cases isolated
  constructor <;> simp only [Journal.writeMarker, Journal.Holds] at *
  all_goals grind [Phase.afterMarker, Phase.behindFence]

theorem Isolated.enter (accepting : journal.accepting = true) (candidate : Option Profile)
    (runtimeConfig : Profile) :
    Isolated (journal.enter id (.admitted candidate runtimeConfig)) := by
  cases isolated
  constructor <;> simp only [Journal.enter, Journal.setPhase, Journal.Holds, Phase.admitted] at *
  all_goals grind [Phase.transits]

theorem Isolated.leave : Isolated (journal.leave id) := by
  cases isolated
  constructor <;> simp only [Journal.leave, Journal.setPhase, Journal.Holds] at *
  all_goals grind [Function.update, Phase.inFlight, Phase.transits, Phase.writesNothing,
    Phase.behindFence]

theorem Isolated.close (accepting : journal.accepting = true) (staged : journal.phase id = .staged)
    (calm : closesAlone (.save id) .closeAdmission journal = true) :
    Isolated ({ journal with accepting := false }.setPhase id .closed) := by
  have quiet : ∀ other, other ≠ id → (journal.phase other).writesNothing = true := by
    intro other different
    by_cases flying : (journal.phase other).inFlight = true
    · simp only [closesAlone, accepting, Bool.not_true, Bool.false_or, List.all_eq_true] at calm
      simpa [different] using calm other (isolated.admitted other flying)
    · revert flying
      cases journal.phase other <;> decide
  cases isolated
  constructor <;> simp only [Journal.setPhase, Journal.Holds] at *
  all_goals grind [Function.update, Phase.inFlight, Phase.transits, Phase.writesNothing,
    Phase.behindFence]

theorem Isolated.reopen (within : journal.phase id ∈ [Phase.closed, .fenced, .drained, .stored])
    (calm : closesAlone (.save id) .openAdmission journal = true) :
    Isolated ({ journal with accepting := true }.setPhase id .reopened) := by
  have phases : ∀ phase ∈ [Phase.closed, .fenced, .drained, .stored],
      phase.writesNothing = false ∧ phase.inFlight = true := by decide
  obtain ⟨writes, flying⟩ := phases _ within
  have fallen : journal.fenced id = none := Option.isNone_iff_eq_none.mp calm
  cases isolated
  constructor <;> simp only [Journal.setPhase, Journal.Holds] at *
  all_goals grind [Function.update, Phase.inFlight, Phase.transits, Phase.writesNothing,
    Phase.behindFence]

end

theorem Isolated.serve (stopped : journal.running = false) : Isolated journal.serve := by
  have outside := isolated.stopped stopped
  have out : ∀ id, ¬ journal.Holds id := by
    rintro id (transits | standing)
    · rw [outside id] at transits
      cases transits
    · obtain ⟨⟨marker, profile⟩, fenced⟩ := Option.ne_none_iff_exists'.mp standing
      have behind := (isolated.stands id marker profile fenced).2.2
      rw [outside id] at behind
      cases behind
  refine ⟨fun id flying => ?_, nofun, fun id holds => (out id holds).elim,
    fun id holds => (out id holds).elim, isolated.stands⟩
  rw [show journal.serve.phase id = .outside from outside id] at flying
  cases flying

theorem Isolated.revisions (revisions : List SaveId) : Isolated { journal with revisions } :=
  { isolated with }

theorem Isolated.step {thread : Thread} {request : Call} {after : Journal}
    (move : Move thread request journal after) (good : Good thread request journal)
    (ours : thread.inService = true) (running : ∀ id, thread = .save id → journal.running = true)
    (calm : closesAlone thread request journal = true) : Isolated after := by
  cases move with
  | same => exact isolated
  | @profile _ profile _ =>
    cases thread with
    | save id => exact isolated.profile good profile
    | boot => exact good.elim nofun
    | supervisor _ | world => cases ours
  | @marker _ marker _ =>
    cases thread with
    | save id => exact isolated.marker (running id rfl) good.2
    | boot => exact good.1.elim nofun
    | supervisor _ | world => cases ours
  | enter _ accepting => exact isolated.enter (running _ rfl) accepting _ _
  | @stage id _ _ _ =>
    have changing : journal.phase id = .changing := good
    exact isolated.setPhase (running id rfl) (changing ▸ by decide)
  | leave => exact isolated.leave (running _ rfl)
  | respond => exact { isolated with }
  | close accepting => exact isolated.close (running _ rfl) accepting good calm
  | reopen => exact isolated.reopen (running _ rfl) good calm
  | @drain id _ _ =>
    have fenced : journal.phase id = .fenced := good
    exact isolated.setPhase (running id rfl) (fenced ▸ by decide)
  | @append id _ =>
    refine (isolated.revisions (id :: journal.revisions)).setPhase (running id rfl) ?_
    obtain inside | drained : journal.phase id = .inside ∨ journal.phase id = .drained := good
    · rw [inside]
      decide
    · rw [drained]
      decide
  | @undo id _ =>
    have stored : journal.phase id = .stored := good
    refine (isolated.revisions (journal.revisions.filter (· ≠ id))).setPhase (running id rfl) ?_
    exact stored ▸ by decide
  | serve stopped => exact isolated.serve stopped
  | crash =>
    cases thread with
    | save id => exact good.elim
    | boot => cases good
    | supervisor _ | world => cases ours

end

end Steps

/-! ## Runs -/

section Runs

variable {config : Config} {machine : Machine Shared Thread Call Call.Reply Unit}

theorem reachable_isolated (reached : (isolationRules config).Reachable machine) :
    Isolated machine.shared.toJournal := by
  refine reached.invariant (fun shared => Isolated shared.toJournal) ?_ ?_
  · intro shared initial
    have outside : ∀ id, shared.phase id = .outside := fun id => by rw [initial.phase]
    have unfenced : ∀ id, shared.fenced id = none := fun id => by rw [initial.fenced]
    have out : ∀ id, ¬ shared.toJournal.Holds id := by
      rintro id (transits | standing)
      · rw [outside id] at transits
        cases transits
      · exact standing (unfenced id)
    refine ⟨fun id flying => ?_, fun _ => outside, fun id holds => (out id holds).elim,
      fun id holds => (out id holds).elim, fun id marker profile standing => ?_⟩
    · rw [outside id] at flying
      cases flying
    · cases (unfenced id).symm.trans standing
  · intro machine reached isolated thread env request reply after next calm ran
    obtain ⟨alive, ran⟩ := execute_of_semantics ran
    refine isolated.step (move_of_execute ran)
      (reachable_good reached.free next) calm.1.2 ?_ calm.2
    rintro id rfl
    exact (Bool.and_eq_true_iff.mp alive).1

/-- In every run in which a save closes the admission with only other transitions beside it, and opens
it only when it has replaced its fence, a fence stays the marker on disk and the profile stays as it
was until the save itself replaces the marker. -/
theorem fence_stands (reached : (isolationRules config).Reachable machine) {id : SaveId}
    {marker : Marker} {profile : Profile}
    (fenced : machine.shared.fenced id = some (marker, profile)) :
    machine.shared.marker = some marker ∧ machine.shared.profile = profile := by
  obtain ⟨same, unchanged, -⟩ := (reachable_isolated reached).stands id marker profile fenced
  exact ⟨same, unchanged⟩

end Runs

/-! ## A save that was admitted before the fence -/

/-- The service starts; the first save is admitted and comes to `before`, the second one writes its
fence, and then the first goes on for `after` steps. -/
def besideFence (first : Profile) (before after : Nat) : Schedule :=
  .spawn .boot (bootService plainConfig none) :: turns .boot 3 ++
    .spawn (.save ⟨1, 0⟩) (saveRequest plainConfig ⟨1, 0⟩ "first" (some first)) ::
    turns (.save ⟨1, 0⟩) before ++
    .spawn (.save ⟨1, 1⟩) (saveRequest plainConfig ⟨1, 1⟩ "second" (some ⟨.online, "online"⟩)) ::
    turns (.save ⟨1, 1⟩) 8 ++ turns (.save ⟨1, 0⟩) after

/-- A save that keeps the mode has read the profile; the other one writes its fence, and then the first
one replaces the profile. -/
theorem profile_replaced_behind_fence :
    ¬ ∀ (config : Config) machine (id : SaveId)
      (marker : Marker) (profile : Profile), (savingRules config).Reachable machine →
      machine.shared.fenced id = some (marker, profile) →
        machine.shared.marker = some marker ∧ machine.shared.profile = profile := by
  intro claimed
  obtain ⟨machine, reached, facts⟩ : ∃ machine, (savingRules plainConfig).Reachable machine ∧
      ((machine.shared.fenced ⟨1, 1⟩).map Prod.snd, machine.shared.profile.settings) =
        (some offlineProfile, "changed") :=
    Rules.exists_reachable (fun thread _ _ => thread.inService) freshShared
      (besideFence ⟨.offline, "changed"⟩ 3 1) (fun _ _ _ passed => ⟨trivial, passed⟩)
      freshShared_initial (by repeat' constructor) (by decide +kernel)
  simp only [Prod.mk.injEq, Option.map_eq_some_iff] at facts
  obtain ⟨⟨⟨marker, profile⟩, fenced, rfl⟩, changed⟩ := facts
  have same := (claimed plainConfig machine ⟨1, 1⟩ marker _ reached fenced).2
  rw [same] at changed
  exact absurd changed (by decide)

/-- Two transitions at once: the one that was admitted first comes second to the fence and is
refused. -/
theorem fence_stands_beside_transition :
    ∃ machine marker, (isolationRules plainConfig).Reachable machine ∧
      machine.shared.fenced ⟨1, 1⟩ = some (marker, offlineProfile) ∧
      machine.shared.answers.map (fun answer => answer.2.error) =
        [some "runtime_mode_transition_already_active"] ∧
      machine.shared.marker = some marker ∧ machine.shared.profile = offlineProfile := by
  obtain ⟨machine, reached, facts⟩ : ∃ machine, (isolationRules plainConfig).Reachable machine ∧
      ((machine.shared.fenced ⟨1, 1⟩).map Prod.snd,
        machine.shared.answers.map (fun answer => answer.2.error)) =
        (some offlineProfile, [some "runtime_mode_transition_already_active"]) :=
    Rules.exists_reachable
      (fun thread request shared => thread.inService && closesAlone thread request shared.toJournal)
      freshShared (besideFence ⟨.simulation, "simulation"⟩ 1 7)
      (fun _ _ _ passed =>
        have both := Bool.and_eq_true_iff.mp passed
        ⟨⟨trivial, both.1⟩, both.2⟩)
      freshShared_initial (by repeat' constructor) (by decide +kernel)
  simp only [Prod.mk.injEq, Option.map_eq_some_iff] at facts
  obtain ⟨⟨⟨marker, profile⟩, fenced, rfl⟩, refused⟩ := facts
  exact ⟨machine, marker, reached, fenced, refused, fence_stands reached fenced⟩

end SteelInspection.Modes
