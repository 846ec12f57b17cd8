import SteelInspection.Modes.Phases

/-! # Giving up a fence

A save stores its revision behind its fence and then writes its publish marker.  Whoever finds the
fence later takes the transition for one that has stored nothing.  That is right as long as no save
ends, and no fence is given up, between these two writes.
-/

namespace SteelInspection.Modes

open Foundations

/-! ## Saves and their process -/

def Journal.Live (journal : Journal) (id : SaveId) : Prop :=
  journal.running = true ∧ journal.serviceRun = id.serviceRun

/-- The phases in which a save keeps the admission closed. -/
def Phase.closes : Phase → Bool
  | .closed | .fenced | .drained | .stored => true
  | _ => false

/-- The phases after the wait for the other requests. -/
def Phase.waited : Phase → Bool
  | .drained | .stored => true
  | _ => false

structure Admission (journal : Journal) : Prop where
  future : ∀ id, journal.phase id ≠ .outside → id.serviceRun ≤ journal.serviceRun
  flying : ∀ id, journal.Live id → (journal.phase id).inFlight = true → id ∈ journal.inFlight
  shut : ∀ id, journal.Live id → (journal.phase id).closes = true → journal.accepting = false
  single : ∀ id other, journal.Live id → journal.Live other → (journal.phase id).closes = true →
    (journal.phase other).closes = true → id = other
  alone : ∀ id, journal.Live id → (journal.phase id).waited = true →
    ∀ other ∈ journal.inFlight, other = id

/-- A step of a save that closes nothing and waits for nobody. -/
def Phase.stays (before after : Phase) : Bool :=
  (after.inFlight → before.inFlight) && (after.closes → before.closes) &&
    (after.waited → before.waited)

variable {phase : Phase}

theorem Phase.closes_of_waited (waited : phase.waited = true) : phase.closes = true := by
  cases phase <;> first | rfl | cases waited

section Steps

variable {thread : Thread} {request : Call} {journal after : Journal} {id : SaveId}

section

variable (admission : Admission journal)
include admission

theorem Admission.nobody (accepting : journal.accepting = true) {other : SaveId}
    (live : journal.Live other) :
    (journal.phase other).closes = false ∧ (journal.phase other).waited = false := by
  have open_ : (journal.phase other).closes = false := by
    cases closes : (journal.phase other).closes with
    | false => rfl
    | true => exact accepting.symm.trans (admission.shut other live closes)
  refine ⟨open_, ?_⟩
  cases waited : (journal.phase other).waited with
  | false => rfl
  | true => exact (Phase.closes_of_waited waited).symm.trans open_

section

variable (live : journal.Live id)
include live

theorem Admission.setPhase (stays : (journal.phase id).stays phase = true) :
    Admission (journal.setPhase id phase) := by
  simp only [Phase.stays, Bool.and_eq_true, decide_eq_true_eq] at stays
  cases admission
  constructor <;> simp only [Journal.setPhase, Journal.Live] at *
  all_goals grind

theorem Admission.drain (short : journal.inFlight.length ≤ 1) (fenced : journal.phase id = .fenced) :
    Admission (journal.setPhase id .drained) := by
  have single : id ∈ journal.inFlight → ∀ other ∈ journal.inFlight, other = id := by
    intro mem other also
    match journal.inFlight, short, mem, also with
    | [only], _, mem, also => rw [List.mem_singleton.mp mem, List.mem_singleton.mp also]
  cases admission
  constructor <;> simp only [Journal.setPhase, Journal.Live] at *
  all_goals grind [Phase.inFlight, Phase.closes]

theorem Admission.enter (accepting : journal.accepting = true) (candidate : Option Profile)
    (runtimeConfig : Profile) :
    Admission (journal.enter id (.admitted candidate runtimeConfig)) := by
  have nobody : ∀ other, journal.Live other → _ := fun _ => admission.nobody accepting
  cases admission
  constructor <;> simp only [Journal.enter, Journal.setPhase, Journal.Live, Phase.admitted] at *
  all_goals grind [Phase.closes, Phase.waited]

theorem Admission.leave : Admission (journal.leave id) := by
  cases admission
  constructor <;> simp only [Journal.leave, Journal.setPhase, Journal.Live] at *
  all_goals grind [Phase.inFlight, Phase.closes, Phase.waited]

theorem Admission.close (accepting : journal.accepting = true) (staged : journal.phase id = .staged) :
    Admission ({ journal with accepting := false }.setPhase id .closed) := by
  cases admission
  constructor <;> simp only [Journal.setPhase, Journal.Live] at *
  all_goals grind [Phase.inFlight, Phase.waited]

theorem Admission.reopen (within : journal.phase id ∈ [Phase.closed, .fenced, .drained, .stored]) :
    Admission ({ journal with accepting := true }.setPhase id .reopened) := by
  have phases : ∀ phase ∈ [Phase.closed, .fenced, .drained, .stored],
      phase.closes = true ∧ phase.inFlight = true := by decide
  obtain ⟨closes, flies⟩ := phases _ within
  cases admission
  constructor <;> simp only [Journal.setPhase, Journal.Live] at *
  all_goals grind [Phase.closes, Phase.waited]

end

omit admission in
/-- Nothing is in flight when no save of this run has come. -/
theorem Admission.of_outside
    (future : ∀ id, journal.phase id ≠ .outside → id.serviceRun ≤ journal.serviceRun)
    (outside : ∀ id, journal.Live id → journal.phase id = .outside) : Admission journal := by
  refine ⟨future, ?_, ?_, ?_, ?_⟩
  · intro id live flying
    rw [outside id live] at flying
    cases flying
  · intro id live closes
    rw [outside id live] at closes
    cases closes
  · intro id other live _ closes
    rw [outside id live] at closes
    cases closes
  · intro id live waited
    rw [outside id live] at waited
    cases waited

theorem Admission.serve : Admission journal.serve := by
  refine .of_outside (fun id started => Nat.le_succ_of_le (admission.future id started)) ?_
  -- the saves of the new run have not come yet
  intro id live
  by_contra started
  have past := admission.future id started
  have now : journal.serviceRun + 1 = id.serviceRun := live.2
  omega

theorem Admission.step (move : Move thread request journal after)
    (good : Good thread request journal) (live : ∀ id, thread = .save id → journal.Live id) :
    Admission after := by
  cases move with
  | same => exact admission
  | profile | respond => exact { admission with }
  | @marker _ marker _ =>
    cases thread with
    | save id =>
      have phases : ∀ state, ∀ phase ∈ markerPhases state,
          phase.stays (phase.afterMarker state) = true := by
        intro state
        cases state <;> decide
      have moved := admission.setPhase (live id rfl) (phases _ _ good.2)
      exact { moved with }
    | _ => exact { admission with }
  | enter _ accepting => exact admission.enter (live _ rfl) accepting _ _
  | @stage id _ _ _ =>
    have changing : journal.phase id = .changing := good
    exact admission.setPhase (live id rfl) (changing ▸ by decide)
  | leave => exact admission.leave (live _ rfl)
  | close accepting => exact admission.close (live _ rfl) accepting good
  | reopen => exact admission.reopen (live _ rfl) good
  | drain short => exact admission.drain (live _ rfl) short good
  | @append id _ =>
    have begun : journal.phase id = .inside ∨ journal.phase id = .drained := good
    have moved : Admission (journal.setPhase id (journal.phase id).afterAppend) := by
      refine admission.setPhase (live id rfl) ?_
      rcases begun with at_ | at_ <;> rw [at_] <;> decide
    exact { moved with }
  | @undo id _ =>
    have stored : journal.phase id = .stored := good
    have moved : Admission (journal.setPhase id .drained) :=
      admission.setPhase (live id rfl) (stored ▸ by decide)
    exact { moved with }
  | serve _ => exact admission.serve
  | crash => exact .of_outside admission.future fun id live => by cases live.1

end

end Steps

/-! ## What a fence says about its save -/

/-- A save stands between its revision and its publish marker. -/
def Journal.storing (journal : Journal) : Bool :=
  journal.inFlight.any fun id => journal.phase id = .stored

def Journal.inTime (journal : Journal) (clock : Nat) : Bool :=
  journal.marker.all fun marker => clock < marker.updatedAt + staleFenceMillis

/-- Between its revision and its publish marker a save neither ends nor is answered as saved, its
service does not crash and its fence does not become stale; a transaction that failed has stored
nothing; and the supervisor commits the marker that is still on disk. -/
def recoverySafe (thread : Thread) (request : Call) (shared : Shared) : Bool :=
  match thread, request with
  | .save id, .leave | .save id, .openAdmission => shared.phase id ≠ .stored
  | .save id, .respond response =>
    response.saved ≠ some true || !(shared.phase id).waited
  | .save id, .replaceMarker marker => marker.state ≠ .committed || shared.phase id ≠ .stored
  | .save id, .appendRevision => shared.phase id ≠ .drained || shared.inTime shared.clock
  | .supervisor _, .replaceMarker marker =>
    marker.state ≠ .committed || shared.marker = shared.seen
  | _, .crashService => !shared.storing
  | _, .pass millis => !shared.storing || shared.inTime (shared.clock + millis)
  | _, _ => true

def recoveryRules (config : Config) : Rules Shared Thread Env Call Call.Reply Unit :=
  (modeRules config).assuming fun thread request shared => recoverySafe thread request shared = true

/-- The phases in which the database may hold the revision of a save. -/
def Phase.mayBeStored : Phase → Bool
  | .kept | .stored | .published | .left => true
  | _ => false

/-- The phases in which a save may have been answered as saved. -/
def Phase.mayBeSaved : Phase → Bool
  | .kept | .published | .left => true
  | _ => false

/-- The phases in which the fence of a save may be the marker. -/
def Phase.mayBeFenced : Phase → Bool
  | .fenced | .drained | .stored | .reopened | .left => true
  | _ => false

structure Recoverable (journal : Journal) : Prop where
  stores : ∀ id, journal.phase id = .stored → journal.Live id
  revised : ∀ id ∈ journal.revisions, (journal.phase id).mayBeStored = true
  answered : ∀ id response, (id, response) ∈ journal.answers → response.saved = some true →
    (journal.phase id).mayBeSaved = true
  fence : ∀ marker, journal.marker = some marker → marker.state = .fence →
    (journal.phase marker.owner).mayBeFenced = true
  unstored : ∀ marker, journal.marker = some marker → marker.state = .fence →
    marker.owner ∈ journal.revisions → journal.phase marker.owner = .stored
  unsaved : ∀ marker, journal.marker = some marker → marker.state = .fence →
    ∀ response, (marker.owner, response) ∈ journal.answers → response.saved ≠ some true

/-- A step of a save that stores nothing. -/
def Phase.follows (before after : Phase) : Bool :=
  before ≠ .stored && after ≠ .stored && (before.mayBeStored → after.mayBeStored) &&
    (before.mayBeSaved → after.mayBeSaved) && (before.mayBeFenced → after.mayBeFenced)

section Recovery

variable {journal : Journal} {id : SaveId} {marker : Marker}

section

variable (recoverable : Recoverable journal)
include recoverable

theorem Recoverable.setPhase (follows : (journal.phase id).follows phase = true) :
    Recoverable (journal.setPhase id phase) := by
  simp only [Phase.follows, Bool.and_eq_true, decide_eq_true_eq] at follows
  obtain ⟨stores, revised, answered, fence, unstored, unsaved⟩ := recoverable
  constructor <;> simp only [Journal.setPhase, Journal.Live] at *
  all_goals first | exact unsaved | grind

theorem Recoverable.respond {response : Response} (within : response.saved = some true →
      journal.phase id ∈ [Phase.kept, .drained, .stored, .published])
    (calm : response.saved = some true → (journal.phase id).waited = false) :
    Recoverable { journal with answers := (id, response) :: journal.answers } := by
  have phases : ∀ phase ∈ [Phase.kept, .drained, .stored, .published], phase.waited = false →
      phase.mayBeSaved = true ∧ phase.mayBeFenced = false := by decide
  obtain ⟨stores, revised, answered, fence, unstored, unsaved⟩ := recoverable
  constructor <;> simp only [Journal.Live] at *
  · exact stores
  · exact revised
  · grind
  · exact fence
  · exact unstored
  · grind

theorem Recoverable.append (live : journal.Live id)
    (good : journal.phase id = .inside ∨ journal.phase id = .drained) :
    Recoverable (journal.append id) := by
  obtain ⟨stores, revised, answered, fence, unstored, unsaved⟩ := recoverable
  constructor <;> simp only [Journal.append, Journal.setPhase, Journal.Live] at *
  all_goals first
    | exact unsaved
    | grind [Function.update, Phase.afterAppend, Phase.mayBeStored, Phase.mayBeSaved,
        Phase.mayBeFenced]

theorem Recoverable.undo (stored : journal.phase id = .stored) : Recoverable (journal.undo id) := by
  obtain ⟨stores, revised, answered, fence, unstored, unsaved⟩ := recoverable
  constructor <;> simp only [Journal.undo, Journal.setPhase, Journal.Live] at *
  all_goals first
    | exact unsaved
    | grind [Phase.mayBeSaved, Phase.mayBeFenced]

/-- A marker of a save: a fence is that of a save that has stored nothing and said nothing. -/
theorem Recoverable.saveMarker
    (good : marker.owner = id ∧ journal.phase id ∈ markerPhases marker.state) :
    Recoverable (journal.writeMarker (some id) marker) := by
  obtain ⟨rfl, within⟩ := good
  have phases : ∀ state, ∀ phase ∈ markerPhases state,
      (phase.afterMarker state = .stored → phase = .stored) ∧
      (phase.mayBeStored = true → (phase.afterMarker state).mayBeStored = true ∧ state ≠ .fence) ∧
      (phase.mayBeSaved = true → (phase.afterMarker state).mayBeSaved = true ∧ state ≠ .fence) ∧
      (state = .fence → (phase.afterMarker state).mayBeFenced = true) := by
    intro state
    cases state <;> decide
  obtain ⟨stored, stores', saves, fences⟩ := phases _ _ within
  cases recoverable
  constructor <;> simp only [Journal.writeMarker, Journal.Live] at *
  all_goals grind

theorem Recoverable.serve (stopped : journal.running = false) : Recoverable journal.serve := by
  refine { recoverable with stores := fun id stored => ?_ }
  cases stopped.symm.trans (recoverable.stores id stored).1

theorem Recoverable.crash (admission : Admission journal) (calm : journal.storing = false) :
    Recoverable journal.crash := by
  refine { recoverable with stores := fun id stored => ?_ }
  have stands : journal.phase id = .stored := stored
  have flying := admission.flying id (recoverable.stores id stands) (by rw [stands]; rfl)
  have storing : journal.storing = true := List.any_eq_true.mpr ⟨id, flying, by simp [stands]⟩
  cases calm.symm.trans storing

end

variable {thread : Thread} {request : Call} {shared : Shared} {after : Journal}
  {reply : request.Reply}

theorem Recoverable.step (recoverable : Recoverable shared.toJournal)
    (admission : Admission shared.toJournal) (move : Move thread request shared.toJournal after)
    (good : Good thread request shared.toJournal)
    (live : ∀ id, thread = .save id → shared.toJournal.Live id)
    (calm : recoverySafe thread request shared = true) : Recoverable after := by
  generalize same : shared.toJournal = journal at *
  cases move with
  | same => exact recoverable
  | profile => exact { recoverable with }
  | marker =>
    cases thread with
    | save id => exact recoverable.saveMarker good
    | _ =>
      refine ⟨recoverable.stores, recoverable.revised, recoverable.answered, ?_, ?_, ?_⟩ <;>
        rintro found ⟨⟩ fence <;> exact absurd fence good.2
  | @enter id candidate runtimeConfig _ new _ =>
    have moved : Recoverable (journal.setPhase id (.admitted candidate runtimeConfig)) := by
      refine recoverable.setPhase (new ▸ ?_)
      unfold Phase.admitted
      split <;> rfl
    exact { moved with }
  | @stage id _ _ _ =>
    have changing : journal.phase id = .changing := good
    exact recoverable.setPhase (changing ▸ by decide)
  | @leave id _ =>
    have unstored : journal.phase id ≠ .stored := by
      subst same
      simpa [recoverySafe] using calm
    have moved : Recoverable (journal.setPhase id .left) := by
      refine recoverable.setPhase ?_
      revert unstored
      cases journal.phase id <;> decide
    exact { moved with }
  | @respond id response _ =>
    refine recoverable.respond good fun saved => ?_
    subst same
    simpa [recoverySafe, saved] using calm
  | @close id _ _ =>
    have staged : journal.phase id = .staged := good
    have moved : Recoverable (journal.setPhase id .closed) :=
      recoverable.setPhase (staged ▸ by decide)
    exact { moved with }
  | @reopen id _ =>
    have unstored : journal.phase id ≠ .stored := by
      subst same
      simpa [recoverySafe] using calm
    have phases : ∀ phase ∈ [Phase.closed, .fenced, .drained, .stored], phase ≠ .stored →
        phase.follows .reopened = true := by decide
    have moved : Recoverable (journal.setPhase id .reopened) :=
      recoverable.setPhase (phases _ good unstored)
    exact { moved with }
  | @drain id _ _ =>
    have fenced : journal.phase id = .fenced := good
    exact recoverable.setPhase (fenced ▸ by decide)
  | @append id _ => exact recoverable.append (live id rfl) good
  | undo => exact recoverable.undo good
  | serve stopped => exact recoverable.serve stopped
  | crash =>
    refine recoverable.crash admission ?_
    subst same
    cases thread with
    | save id => exact good.elim
    | _ => simpa [recoverySafe] using calm

/-! ### In time -/

/-- While a save stands behind its fence with its revision stored, the fence is not stale. -/
def InTime (shared : Shared) : Prop :=
  ∀ marker, shared.marker = some marker → marker.state = .fence →
    shared.phase marker.owner = .stored → shared.clock < marker.updatedAt + staleFenceMillis

theorem clock_of_execute {env : Env} {next : Shared}
    (ran : execute thread env request shared = some (reply, next)) :
    next.clock = shared.clock ∨ ∃ millis, request = .pass millis ∧
      next = { shared with clock := shared.clock + millis } := by
  cases request with
  | pass millis =>
    cases ran
    exact .inr ⟨millis, rfl, rfl⟩
  | _ =>
    left
    simp only [execute] at ran
    repeat' split at ran
    all_goals cases ran <;> rfl

/-- How a save comes to stand behind a fence with its revision stored. -/
theorem stored_behind_fence (move : Move thread request journal after)
    (good : Good thread request journal) (standing : after.marker = some marker)
    (fence : marker.state = .fence) (stored : after.phase marker.owner = .stored) :
    journal.marker = some marker ∧ (journal.phase marker.owner = .stored ∨
      thread = .save marker.owner ∧ request = .appendRevision ∧
        journal.phase marker.owner = .drained) := by
  cases move with
  | same | profile | respond | serve _ | crash => exact ⟨standing, .inl stored⟩
  | marker =>
    cases Option.some.inj standing
    cases thread with
    | save id =>
      -- its own fence has just been written
      obtain ⟨rfl, -⟩ := good
      simp [Journal.writeMarker, Thread.save?, fence, Phase.afterMarker] at stored
    | _ => exact absurd fence good.2
  | @append id _ =>
    refine ⟨standing, ?_⟩
    simp only [Journal.append, Journal.setPhase, Good, SaveGood] at stored good
    grind [Phase.afterAppend]
  | _ =>
    refine ⟨standing, .inl ?_⟩
    simp only [Journal.enter, Journal.leave, Journal.undo, Journal.setPhase, Phase.admitted] at stored
    grind

theorem lt_of_inTime {clock : Nat} (standing : journal.marker = some marker)
    (inTime : journal.inTime clock = true) : clock < marker.updatedAt + staleFenceMillis := by
  rw [Journal.inTime, standing, Option.all_some] at inTime
  exact of_decide_eq_true inTime

theorem InTime.step {env : Env} {next : Shared} (inTime : InTime shared)
    (recoverable : Recoverable shared.toJournal) (admission : Admission shared.toJournal)
    (ran : execute thread env request shared = some (reply, next))
    (good : Good thread request shared.toJournal) (calm : recoverySafe thread request shared = true) :
    InTime next := by
  intro marker standing fence stored
  obtain same | ⟨millis, rfl, rfl⟩ := clock_of_execute ran
  · rw [same]
    obtain ⟨stood, before | ⟨rfl, rfl, drained⟩⟩ :=
      stored_behind_fence (move_of_execute ran) good standing fence stored
    · exact inTime marker stood fence before
    · exact lt_of_inTime stood (by simpa [recoverySafe, drained] using calm)
  · have live := recoverable.stores marker.owner stored
    have flying := admission.flying marker.owner live (by rw [stored]; rfl)
    have storing : shared.storing = true :=
      List.any_eq_true.mpr ⟨marker.owner, flying, decide_eq_true stored⟩
    have passes : shared.inTime (shared.clock + millis) = true := by
      cases thread <;> simpa [recoverySafe, storing] using calm
    exact lt_of_inTime standing passes

/-! ### Giving up a fence -/

/-- A fence that is given up is that of a save without a revision, and not answered as saved. -/
def SoundReleases (journal : Journal) : Prop :=
  ∀ release ∈ journal.releases, release.stored = false ∧ release.saved = false

theorem released_sound (recoverable : Recoverable journal)
    (unstored : ∀ before, journal.marker = some before → before.state = .fence →
      marker.state = .committed → before.owner ∉ journal.revisions) :
    ∀ release ∈ journal.released marker, release.stored = false ∧ release.saved = false := by
  intro release mem
  unfold Journal.released at mem
  split at mem
  · cases mem
  rename_i before standing
  split at mem
  next gives =>
    cases List.mem_singleton.mp mem
    refine ⟨decide_eq_false (unstored before standing gives.1 gives.2.1), ?_⟩
    refine List.any_eq_false.mpr fun answer told => ?_
    rintro said
    have both := of_decide_eq_true said
    have own : (before.owner, answer.2) ∈ journal.answers := both.1 ▸ told
    exact recoverable.unsaved before standing gives.1 answer.2 own both.2
  · cases mem

/-- Whoever commits the marker, the save whose fence it was has stored nothing. -/
theorem unstored_at_commit (recoverable : Recoverable shared.toJournal)
    (admission : Admission shared.toJournal) (inTime : InTime shared)
    (good : Good thread (.replaceMarker marker) shared.toJournal)
    (watched : WatchGood thread (.replaceMarker marker) shared) (alive : shared.alive thread = true)
    (calm : recoverySafe thread (.replaceMarker marker) shared = true) {before : Marker}
    (standing : shared.marker = some before) (fence : before.state = .fence)
    (commits : marker.state = .committed) : before.owner ∉ shared.revisions := by
  intro revised
  have stored := recoverable.unstored before standing fence revised
  have live := recoverable.stores before.owner stored
  cases thread with
  | save id =>
    -- behind the fence only the save itself is still in flight
    have writes : shared.toJournal.Live id := by simpa [Shared.alive, Journal.Live] using alive
    have within : shared.phase id ∈ markerPhases .committed := commits ▸ good.2
    have phases : ∀ phase ∈ markerPhases .committed, phase.inFlight = true := by decide
    have flying := admission.flying id writes (phases _ within)
    have same : id = before.owner :=
      admission.alone before.owner live (by rw [stored]; rfl) id flying
    simp [recoverySafe, commits, same, stored] at calm
  | supervisor run =>
    have now : shared.supervisorRun = run := by simpa [Shared.alive] using alive
    have unchanged : shared.marker = shared.seen := by simpa [recoverySafe, commits] using calm
    obtain ⟨read, seen, was⟩ := watched now commits
    cases standing.symm.trans (unchanged.trans seen)
    obtain ready | ⟨-, stale⟩ := was
    · cases fence.symm.trans ready
    · exact absurd (inTime before standing fence stored) (Nat.not_lt.mpr stale)
  | boot | world =>
    obtain ⟨run, impossible⟩ := good.1
    cases impossible

theorem SoundReleases.step (sound : SoundReleases journal) (move : Move thread request journal after)
    (given : ∀ marker, request = .replaceMarker marker →
      ∀ release ∈ journal.released marker, release.stored = false ∧ release.saved = false) :
    SoundReleases after := by
  cases move with
  | marker =>
    intro release mem
    rcases List.mem_append.mp mem with new | old
    · exact given _ rfl release new
    · exact sound release old
  | _ => exact sound

end Recovery

/-! ## Runs -/

section Runs

variable {config : Config} {machine : Machine Shared Thread Call Call.Reply Unit}

structure Tidy (shared : Shared) : Prop where
  admission : Admission shared.toJournal
  recoverable : Recoverable shared.toJournal
  inTime : InTime shared
  sound : SoundReleases shared.toJournal

theorem tidy_initial {shared : Shared} (initial : Initial shared) : Tidy shared := by
  have outside : ∀ id, shared.phase id = .outside := fun id => by rw [initial.phase]
  have unfenced : ∀ {fact : Marker → Prop} marker, shared.marker = some marker →
      marker.state = .fence → fact marker := by
    intro _ marker standing fence
    cases (initial.marker marker standing).symm.trans fence
  refine ⟨.of_outside ?_ fun id _ => outside id, ⟨?_, ?_, ?_, ?_, ?_, ?_⟩, ?_, ?_⟩
  · exact fun id started => absurd (outside id) started
  · intro id stored
    cases (outside id).symm.trans stored
  · simp [initial.revisions]
  · simp [initial.answers]
  · exact unfenced
  · exact unfenced
  · exact unfenced
  · exact unfenced
  · simp [SoundReleases, initial.releases]

theorem reachable_tidy (reached : (recoveryRules config).Reachable machine) : Tidy machine.shared := by
  refine reached.invariant Tidy tidy_initial ?_
  intro machine reached tidy thread env request reply after next calm ran
  have free : (modeRules config).Reachable machine := reached.free
  have good := reachable_good free next
  have watched := (reachable_watchGood free next).2
  obtain ⟨alive, ran⟩ := execute_of_semantics ran
  have move := move_of_execute ran
  have live : ∀ id, thread = .save id → machine.shared.toJournal.Live id := by
    rintro id rfl
    simpa [Shared.alive, Journal.Live] using alive
  obtain ⟨admission, recoverable, inTime, sound⟩ := tidy
  refine ⟨admission.step move good live, recoverable.step admission move good live calm.2,
    inTime.step recoverable admission ran good calm.2, sound.step move ?_⟩
  rintro marker rfl
  exact released_sound recoverable fun before =>
    unstored_at_commit recoverable admission inTime good watched alive calm.2

/-- In every run that keeps to these conditions, crashes and restarts included, each fence that was
given up for a committed marker of its mode is that of a save of which the database held no revision
and which had not been answered as saved. -/
theorem released_fences_unsaved (reached : (recoveryRules config).Reachable machine) :
    ∀ release ∈ machine.shared.releases, release.stored = false ∧ release.saved = false :=
  (reachable_tidy reached).sound

end Runs

/-! ## A crash before the publish marker -/

/-- A save comes as far as these steps; then its service crashes, its fence becomes stale, and the
supervisor starts and finds it. -/
def crashedAfter (steps : Nat) : Schedule :=
  .spawn .boot (bootService plainConfig none) :: turns .boot 3 ++
    .spawn (.save ⟨1, 0⟩) (saveRequest plainConfig ⟨1, 0⟩ "operator" (some ⟨.online, "online"⟩)) ::
      turns (.save ⟨1, 0⟩) steps ++
    .spawn .world (ask .crashService) :: turns .world 1 ++
    .spawn .world (ask (.pass staleFenceMillis)) :: turns .world 1 ++
    .spawn (.supervisor 0) (loadSupervisor plainConfig) :: turns (.supervisor 0) 7

/-- The revision is in the database when the fence is given up. -/
theorem released_with_revision :
    ¬ ∀ (config : Config) machine,
      (modeRules config).Reachable machine →
        ∀ release ∈ machine.shared.releases, release.stored = false ∧ release.saved = false := by
  intro claimed
  obtain ⟨machine, reached, releases⟩ : ∃ machine, (modeRules plainConfig).Reachable machine ∧
      machine.shared.releases = [⟨⟨1, 0⟩, true, false⟩] :=
    Rules.exists_reachable (fun _ _ _ => true) freshShared (crashedAfter 12) (fun _ _ _ _ => trivial)
      freshShared_initial (by repeat' constructor)
      (by decide +kernel)
  have unstored := (claimed plainConfig machine reached ⟨⟨1, 0⟩, true, false⟩
    (by rw [releases]; exact List.mem_cons_self)).1
  cases unstored

/-- The service crashes before the revision is stored, and the fence is given up rightly. -/
theorem released_without_revision : ∃ machine, (recoveryRules plainConfig).Reachable machine ∧
      machine.shared.releases.map Release.owner = [⟨1, 0⟩] ∧
      ∀ release ∈ machine.shared.releases, release.stored = false ∧ release.saved = false := by
  obtain ⟨machine, reached, releases⟩ : ∃ machine, (recoveryRules plainConfig).Reachable machine ∧
      machine.shared.releases.map Release.owner = [⟨1, 0⟩] :=
    Rules.exists_reachable recoverySafe freshShared (crashedAfter 11)
      (fun _ _ _ passed => ⟨trivial, passed⟩) freshShared_initial
      (by repeat' constructor) (by decide +kernel)
  exact ⟨machine, reached, releases, released_fences_unsaved reached⟩

end SteelInspection.Modes
