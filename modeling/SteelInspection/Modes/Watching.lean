import SteelInspection.Modes.Supervising

/-! # What the supervisor knows

The supervisor looks at the files and acts some calls later, while saves go on beside it.  What it has
seen of the profile and the marker holds as long as nothing was replaced since, which is what `fresh`
records; what it remembers is its own.
-/

namespace SteelInspection.Modes

open Foundations

/-! ## What the others leave alone -/

structure Still (shared current : Shared) : Prop where
  clock : shared.clock ≤ current.clock
  memory : current.memory = shared.memory
  seen : current.seen = shared.seen
  fresh : current.fresh = true → shared.fresh = true
  profile : current.fresh = true → current.profile = shared.profile
  marker : current.fresh = true → current.marker = shared.marker

theorem Still.refl (shared : Shared) : Still shared shared :=
  ⟨Nat.le_refl _, rfl, rfl, fun fresh => fresh, fun _ => rfl, fun _ => rfl⟩

theorem Still.trans {first second third : Shared} (before : Still first second)
    (after : Still second third) : Still first third where
  clock := Nat.le_trans before.clock after.clock
  memory := after.memory.trans before.memory
  seen := after.seen.trans before.seen
  fresh still := before.fresh (after.fresh still)
  profile still := (after.profile still).trans (before.profile (after.fresh still))
  marker still := (after.marker still).trans (before.marker (after.fresh still))

variable {shared after : Shared} {request : Call} {reply : request.Reply} {thread : Thread}
  {env : Env}

/-- What the supervisor of one run can rely on; before its run it knows only that it will start with
nothing found. -/
structure Unmoved (run : Nat) (shared current : Shared) : Prop where
  runs : shared.supervisorRun ≤ current.supervisorRun
  still : shared.supervisorRun = run → current.supervisorRun = run → Still shared current
  starts : shared.supervisorRun < run → current.supervisorRun = run → current.memory.found = none

theorem Unmoved.refl (run : Nat) (shared : Shared) : Unmoved run shared shared :=
  ⟨Nat.le_refl _, fun _ _ => .refl shared, fun early now => absurd now (Nat.ne_of_lt early)⟩

theorem Unmoved.trans {run : Nat} {first second third : Shared} (before : Unmoved run first second)
    (after : Unmoved run second third) : Unmoved run first third := by
  have monotone := before.runs
  have later := after.runs
  refine ⟨Nat.le_trans monotone later, fun started now => ?_, fun early now => ?_⟩
  · have between : second.supervisorRun = run := by omega
    exact (before.still started between).trans (after.still between now)
  · by_cases between : second.supervisorRun = run
    · rw [(after.still between now).memory]
      exact before.starts early between
    · exact after.starts (by omega) now

section

variable (ran : execute thread env request shared = some (reply, after))
include ran

/-- Only its crash begins another run of the supervisor. -/
theorem supervisorRun_of_execute (lives : request ≠ .crashSupervisor) :
    after.supervisorRun = shared.supervisorRun := by
  cases request with
  | crashSupervisor => exact absurd rfl lives
  | _ =>
    simp only [execute] at ran
    repeat' split at ran
    all_goals cases ran <;> rfl

/-- The calls by which the supervisor neither looks at the marker, nor remembers, nor replaces it. -/
def Silent : Call → Prop
  | .readMarker _ | .remember _ | .replaceMarker _ | .crashSupervisor => False
  | _ => True

theorem still_of_execute (quiet : thread.supervises = true → Silent request)
    (lives : request ≠ .crashSupervisor) : Still shared after := by
  cases request with
  | crashSupervisor => exact absurd rfl lives
  | readMarker purpose =>
    simp only [execute] at ran
    split at ran <;> cases ran
    · exact .refl shared
    all_goals exact (quiet rfl).elim
  | remember memory =>
    simp only [execute] at ran
    split at ran
    next supervises =>
      exact (quiet supervises).elim
    · cases ran
  | replaceMarker marker =>
    have other : thread.supervises = false := Bool.eq_false_iff.mpr quiet
    simp only [execute, other] at ran
    split at ran <;> cases ran
    · exact .refl shared
    · exact ⟨Nat.le_refl _, rfl, rfl, by simp, by simp, by simp⟩
  | replaceProfile _ =>
    simp only [execute] at ran
    split at ran <;> cases ran
    · exact .refl shared
    · exact ⟨Nat.le_refl _, rfl, rfl, nofun, nofun, nofun⟩
  | readProject | stopProcess _ _ =>
    cases ran
    refine ⟨Nat.le_refl _, rfl, rfl, fun fresh => ?_, fun _ => rfl, fun _ => rfl⟩
    exact (Bool.and_eq_true_iff.mp fresh).1
  | persistApplied mode =>
    simp only [execute] at ran
    split at ran <;> cases ran
    · exact ⟨Nat.le_refl _, rfl, rfl, nofun, nofun, nofun⟩
    · exact { Still.refl shared with }
  | pass millis =>
    cases ran
    exact { Still.refl shared with clock := Nat.le_add_right _ _ }
  -- what a save does to the journal besides the two files, and the process of the service
  | stage _ _ | enter _ | leave | respond _ | closeAdmission | openAdmission | drain | appendRevision
  | rollbackRevision | serve _ | crashService | spawnProcess _ _ =>
    simp only [execute] at ran
    repeat' split at ran
    all_goals cases ran
    all_goals exact { Still.refl shared with }
  | _ =>
    cases ran
    exact { Still.refl shared with }

end

theorem unmoved_of_semantics {run : Nat} (different : Thread.supervisor run ≠ thread)
    (ran : semantics thread env request shared = some (reply, after)) :
    Unmoved run shared after := by
  obtain ⟨alive, ran⟩ := execute_of_semantics ran
  by_cases crash : request = .crashSupervisor
  · subst crash
    simp only [execute] at ran
    split at ran <;> cases ran
    refine ⟨Nat.le_succ _, fun started now => ?_, fun _ _ => rfl⟩
    exact absurd now (by simp [started])
  · have same := supervisorRun_of_execute ran crash
    refine ⟨Nat.le_of_eq same.symm, fun started _ => ?_, fun early now => ?_⟩
    · cases thread with
      | supervisor other =>
        -- the supervisor of another run is not the one that runs
        have ours : shared.supervisorRun = other := by simpa [Shared.alive] using alive
        exact absurd (started.symm.trans ours ▸ rfl) different
      | _ => exact still_of_execute ran nofun crash
    · exact absurd (same.symm.trans now) (Nat.ne_of_lt early)

/-! ## The discipline -/

/-- What the other threads may call; the supervisor writes no fence. -/
def OtherGood (thread : Thread) : Call → Prop
  | .serve _ => thread = .boot
  | .crashService => thread = .world
  | .replaceMarker marker => (∃ run, thread = .supervisor run) ∧ marker.state ≠ .fence
  | .replaceProfile _ => ∃ run, thread = .supervisor run
  | _ => True

/-- A committed marker of the supervisor comes from one that was ready, or from a fence that was stale;
and nothing is started in another mode than that of the profile. -/
def WatchGood (thread : Thread) (request : Call) (shared : Shared) : Prop :=
  match thread, request with
  | .supervisor run, .replaceMarker marker =>
    shared.supervisorRun = run → marker.state = .committed → ∃ before, shared.seen = some before ∧
      (before.state = .ready ∨
        before.state = .fence ∧ before.updatedAt + staleFenceMillis ≤ shared.clock)
  | .supervisor run, .spawnProcess _ mode =>
    shared.supervisorRun = run → shared.fresh = true → shared.memory.found.isSome = true →
      mode = some shared.profile.mode
  | _, _ => True

def watchDiscipline (config : Config) : Discipline (modeRules config) where
  inv _ := True
  rely thread shared current := ∀ run, thread = .supervisor run → Unmoved run shared current
  good thread request shared :=
    (thread.save? = none → OtherGood thread request) ∧ WatchGood thread request shared
  rely_refl _ shared run _ := .refl run shared
  rely_trans _ _ _ _ before after run same := (before run same).trans (after run same)
  inv_initial _ := trivial
  inv_call _ _ _ _ := trivial
  rely_call different _ _ _ executed run same := by
    subst same
    exact unmoved_of_semantics different executed

/-! ## The programs -/

def Stable (fact : Shared → Prop) : Prop :=
  ∀ ⦃shared current⦄, Still shared current → fact shared → fact current

/-- What the supervisor knows as long as its run lasts; before its run, what it will know then. -/
def Sees (run : Nat) (fact : Shared → Prop) (shared : Shared) : Prop :=
  (shared.supervisorRun = run → fact shared) ∧
    (shared.supervisorRun < run → ∀ current : Shared, current.memory.found = none → fact current)

section Supervisor

variable {config : Config} {run : Nat} {shared : Shared} {fact : Shared → Prop}

theorem Sees.unmoved (sees : Sees run fact shared) (stable : Stable fact) {current : Shared}
    (unmoved : Unmoved run shared current) : Sees run fact current := by
  have runs := unmoved.runs
  refine ⟨fun now => ?_, fun early => sees.2 (Nat.lt_of_le_of_lt runs early)⟩
  rcases Nat.lt_or_eq_of_le (now ▸ runs) with early | same
  · exact sees.2 early current (unmoved.starts early now)
  · exact stable (unmoved.still same now) (sees.1 same)

theorem Sees.of_now (now : shared.supervisorRun = run) (holds : fact shared) : Sees run fact shared :=
  ⟨fun _ => holds, fun early => absurd now (Nat.ne_of_lt early)⟩

variable {other : Shared → Prop} {request : Call} {hold : Bool} {marker : Marker}
  {reply : request.Reply}

theorem Sees.mono (sees : Sees run fact shared)
    (implies : ∀ {current}, fact current → other current) : Sees run other shared :=
  ⟨fun now => implies (sees.1 now), fun early current nothing => implies (sees.2 early current nothing)⟩

theorem supervisor_of_semantics {env : Env} {after : Shared}
    (ran : semantics (.supervisor run) env request shared = some (reply, after)) :
    shared.supervisorRun = run ∧ after.supervisorRun = run ∧ request ≠ .crashSupervisor ∧
      execute (.supervisor run) env request shared = some (reply, after) := by
  obtain ⟨alive, ran⟩ := execute_of_semantics ran
  have now : shared.supervisorRun = run := by simpa [Shared.alive] using alive
  have lives : request ≠ .crashSupervisor := by
    rintro rfl
    cases ran
  exact ⟨now, (supervisorRun_of_execute ran lives).trans now, lives, ran⟩

abbrev Watches (config : Config) (run : Nat) {β : Type} (after : β → Shared → Prop)
    (program : Code β) (shared : Shared) : Prop :=
  (watchDiscipline config).Safe (.supervisor run) (fun value => Sees run (after value)) program shared

theorem ask_watch (request : Call) (after : request.Reply → Shared → Prop) (stable : Stable fact)
    (may : OtherGood (.supervisor run) request)
    (good : ∀ {current}, fact current → WatchGood (.supervisor run) request current)
    (moves : ∀ {env current reply next}, fact current →
      execute (.supervisor run) env request current = some (reply, next) → after reply next)
    (known : Sees run fact shared) : Watches config run after (ask request) shared := by
  refine .ask request (fun current relied _ => ?_) ?_
  · refine ⟨fun _ => may, ?_⟩
    by_cases now : current.supervisorRun = run
    · exact good ((known.unmoved stable (relied run rfl)).1 now)
    · cases request with
      | replaceMarker _ | spawnProcess _ _ => exact fun again => absurd again now
      | _ => trivial
  · intro current relied _ _ env reply next ran _
    obtain ⟨now, later, -, ran⟩ := supervisor_of_semantics ran
    exact .of_now later (moves ((known.unmoved stable (relied run rfl)).1 now) ran)

/-- Whatever fails is recorded. -/
def Failing (ok : Bool) (shared : Shared) : Prop := ok = false → shared.fresh = false

def Looks : Call → Prop
  | .now | .memory | .readProfile | .readProject | .readApplied | .stopProcess _ true
  | .persistApplied _ => True
  | _ => False

/-- What the reply says of the state that a look leaves. -/
def Told : (request : Call) → request.Reply → Shared → Prop
  | .now, now, shared => now = shared.clock
  | .memory, memory, shared => shared.memory = memory
  | .readProfile, read, shared =>
    ∀ profile, read = some profile → shared.fresh = true → shared.profile = profile
  | .readProject, ok, shared => Failing ok shared
  | .stopProcess _ true, ok, shared => Failing ok shared
  | .persistApplied _, ok, shared => Failing ok shared
  | _, _, _ => True

theorem told_of_execute {env : Env} {after : Shared} (looks : Looks request)
    (ran : execute (.supervisor run) env request shared = some (reply, after)) :
    Told request reply after := by
  cases request with
  | now | memory =>
    cases ran
    rfl
  | readProfile =>
    cases ran
    intro profile found _
    split at found
    · cases found
    · exact Option.some.inj found
  | readProject =>
    cases ran
    intro failed
    simp_all
  | stopProcess service forMode =>
    cases forMode with
    | true =>
      cases ran
      intro failed
      simp_all
    | false => exact looks.elim
  | persistApplied mode =>
    simp only [execute] at ran
    split at ran <;> cases ran
    · exact fun _ => rfl
    · exact nofun
  | readApplied => trivial
  | _ => exact looks.elim

/-- A look: what is known stays, and the reply tells more. -/
theorem look_safe (request : Call) (looks : Looks request) (stable : Stable fact)
    (known : Sees run fact shared) :
    Watches config run (fun reply current => fact current ∧ Told request reply current)
      (ask request) shared := by
  obtain ⟨may, good, silent, lives⟩ : OtherGood (.supervisor run) request ∧
      (∀ current, WatchGood (.supervisor run) request current) ∧ Silent request ∧
      request ≠ .crashSupervisor := by
    cases request with
    | now | memory | readProfile | readProject | readApplied | stopProcess _ _ | persistApplied _ =>
      exact ⟨trivial, fun _ => trivial, trivial, nofun⟩
    | _ => exact looks.elim
  refine ask_watch request _ stable may (fun _ => good _) (fun before ran => ⟨?_, ?_⟩) known
  · exact stable (still_of_execute ran (fun _ => silent) lives) before
  · exact told_of_execute looks ran

/-! ### Facts about what is remembered and the profile -/

/-- A fact that only what is remembered and the profile decide. -/
def Plain (fact : Shared → Prop) : Prop :=
  ∀ ⦃shared current : Shared⦄, fact shared → current.memory = shared.memory →
    (current.fresh = true → shared.fresh = true ∧ current.profile = shared.profile) → fact current

theorem Plain.stable (plain : Plain fact) : Stable fact := fun _ _ still before =>
  plain before still.memory fun fresh => ⟨still.fresh fresh, still.profile fresh⟩

/-- The calls that touch neither what is remembered nor what the discipline asks about. -/
def Tame : Call → Prop
  | .readMarker .hold | .remember _ | .spawnProcess _ _ | .crashSupervisor | .serve _
  | .crashService => False
  | .replaceMarker marker => marker.state = .ready
  | _ => True

theorem Plain.execute (plain : Plain fact) {env : Env} {after : Shared}
    (ran : execute (.supervisor run) env request shared = some (reply, after))
    (lives : request ≠ .crashSupervisor) (looks : request ≠ .readMarker .hold)
    (remembers : ∀ memory, request ≠ .remember memory) (before : fact shared) : fact after := by
  cases request with
  | readMarker purpose =>
    cases purpose with
    | hold => exact absurd rfl looks
    | _ =>
      cases ran
      exact plain before rfl fun fresh => ⟨fresh, rfl⟩
  | remember memory => exact absurd rfl (remembers memory)
  | crashSupervisor => exact absurd rfl lives
  | replaceMarker marker =>
    simp only [Modes.execute] at ran
    split at ran <;> cases ran
    · exact before
    · exact plain before rfl fun fresh => ⟨(Bool.and_eq_true_iff.mp fresh).1, rfl⟩
  | _ => exact plain.stable (still_of_execute ran (fun _ => trivial) nofun) before

theorem tame_safe {β : Type} {program : Code β} (calls : program.Calls Tame) (plain : Plain fact)
    (known : Sees run fact shared) : Watches config run (fun _ => fact) program shared := by
  refine Discipline.Safe.of_calls ?_ ?_ ?_ calls known
  · exact fun relied sees => sees.unmoved plain.stable (relied run rfl)
  · intro request current tame _ _
    cases request with
    | replaceMarker marker =>
      exact ⟨fun _ => ⟨⟨run, rfl⟩, by simp [show marker.state = .ready from tame]⟩,
        fun _ committed => by cases committed.symm.trans tame⟩
    | replaceProfile _ => exact ⟨fun _ => ⟨run, rfl⟩, trivial⟩
    | spawnProcess _ _ | serve _ | crashService => exact tame.elim
    | _ => exact ⟨fun _ => trivial, trivial⟩
  · intro request env current reply after tame _ sees _ ran
    obtain ⟨now, later, lives, ran⟩ := supervisor_of_semantics ran
    refine .of_now later (plain.execute ran lives ?_ ?_ (sees.1 now))
    · rintro rfl
      exact tame
    · rintro memory rfl
      exact tame

/-! ### The mode that is found -/

def Released (marker : Option Marker) (clock : Nat) : Prop :=
  ∀ found, marker = some found → found.state = .committed ∨ found.state = .ready ∧
    ∃ release, found.releaseAfterMillis = some release ∧ release ≤ clock

/-- What the supervisor knows once it has asked whether a transition holds. -/
def Looked (hold : Bool) (shared : Shared) : Prop :=
  shared.fresh = true → hold = false → Released shared.marker shared.clock

theorem Looked.stable (hold : Bool) : Stable (Looked hold) := by
  intro shared current still looked fresh free found standing
  rw [still.marker fresh] at standing
  obtain committed | ⟨ready, release, after, passed⟩ := looked (still.fresh fresh) free found standing
  · exact .inl committed
  · exact .inr ⟨ready, release, after, Nat.le_trans passed still.clock⟩

def MarkerRead.Agrees (read : MarkerRead) (shared : Shared) : Prop :=
  match read with
  | .missing => shared.fresh = true → shared.marker = none
  | .failed => True
  | .found marker => shared.seen = some marker ∧ (shared.fresh = true → shared.marker = some marker)

theorem MarkerRead.Agrees.stable (read : MarkerRead) : Stable read.Agrees := by
  intro shared current still agrees
  cases read with
  | missing => exact fun fresh => (still.marker fresh).trans (agrees (still.fresh fresh))
  | failed => trivial
  | found marker =>
    exact ⟨still.seen.trans agrees.1,
      fun fresh => (still.marker fresh).trans (agrees.2 (still.fresh fresh))⟩

theorem Stable.and (first : Stable fact) (second : Stable other) :
    Stable fun shared => fact shared ∧ other shared :=
  fun _ _ still both => ⟨first still both.1, second still both.2⟩

theorem readHold_safe (shared : Shared) (known : Sees run (fun _ => True) shared) :
    Watches config run (fun (read : MarkerRead) current => read.Agrees current ∧
      (read = .failed → current.fresh = false)) (ask (.readMarker .hold)) shared := by
  refine ask_watch (Call.readMarker .hold) _ (fun _ _ _ _ => trivial) trivial (fun _ => trivial) ?_
    known
  intro env current reply next _ ran
  cases ran
  cases fault : env.fault <;> cases marker : current.marker <;>
    simp [MarkerRead.Agrees, marker]

theorem readMarker_safe {purpose : Purpose} (later : purpose = .mode ∨ purpose = .promotion)
    (stable : Stable fact) (blind : ∀ {current seen}, fact current → fact { current with seen })
    (known : Sees run fact shared) :
    Watches config run (fun (read : MarkerRead) current => fact current ∧ read.Agrees current)
      (ask (.readMarker purpose)) shared := by
  refine ask_watch (Call.readMarker purpose) _ stable trivial (fun _ => trivial) ?_ known
  intro env current reply next before ran
  obtain rfl | rfl := later <;> cases ran <;> refine ⟨blind before, ?_⟩ <;>
    cases fault : env.fault <;> cases marker : current.marker <;>
    simp [MarkerRead.Agrees, marker]

theorem runtimeModeTransitionHold_safe (known : Sees run (fun _ => True) shared) :
    Watches config run Looked runtimeModeTransitionHold shared := by
  refine (readHold_safe shared known).bind fun read _ agrees => ?_
  cases read with
  | missing =>
    refine .pure (agrees.mono fun missing fresh _ found standing => ?_)
    rw [missing.1 fresh] at standing
    cases standing
  | failed =>
    refine .pure (agrees.mono fun failed fresh _ => ?_)
    rw [failed.2 rfl] at fresh
    cases fresh
  | found marker =>
    have only : ∀ {current : Shared}, MarkerRead.Agrees (.found marker) current →
        current.fresh = true → ∀ other, current.marker = some other → other = marker :=
      fun agrees fresh other standing => Option.some.inj (standing.symm.trans (agrees.2 fresh))
    dsimp only
    split
    next committed =>
      refine .pure (agrees.mono fun same fresh _ found standing => ?_)
      rw [only same.1 fresh found standing]
      exact .inl committed
    · exact .pure (agrees.mono fun _ _ => nofun)
    · exact .pure (agrees.mono fun _ _ => nofun)
    next ready =>
      split
      · exact .pure (agrees.mono fun _ _ => nofun)
      rename_i release after
      refine (look_safe .now trivial (MarkerRead.Agrees.stable (.found marker))
        (agrees.mono And.left)).bind fun now current timed => ?_
      refine .pure (timed.mono fun same fresh passed found standing => ?_)
      rw [only same.1 fresh found standing]
      have late : release ≤ now := by simpa using passed
      exact .inr ⟨ready, release, after, same.2 ▸ late⟩

/-- What the supervisor knows of the mode it has found. -/
def Configured (hold : Bool) (configured : Option AcquisitionMode) (shared : Shared) : Prop :=
  shared.fresh = true → hold = false → ∀ mode, configured = some mode → shared.profile.mode = mode

def Held (hold : Bool) (shared : Shared) : Prop := shared.fresh = true → hold = true

theorem Held.plain (hold : Bool) : Plain (Held hold) :=
  fun _ _ held _ same fresh => held (same fresh).1

theorem Held.configured {shared : Shared} (held : Held hold shared)
    (configured : Option AcquisitionMode) : Configured hold configured shared := by
  intro fresh free
  rw [held fresh] at free
  cases free

theorem recoverFence_safe (profile : Profile) (fence : marker.state = .fence)
    (known : Sees run (fun current => Held hold current ∧ current.seen = some marker) shared) :
    Watches config run (Configured hold) (recoverFence config profile marker) shared := by
  have stable : Stable fun current => Held hold current ∧ current.seen = some marker :=
    fun _ _ still both => ⟨(Held.plain hold).stable still both.1, still.seen.trans both.2⟩
  have done : ∀ {configured : Option AcquisitionMode} {current : Shared},
      Sees run (Held hold) current →
        Watches config run (Configured hold) (.pure configured) current :=
    fun held => .pure (held.mono fun held => held.configured _)
  unfold recoverFence
  split
  · refine (look_safe .now trivial stable known).bind fun now _ timed => ?_
    split
    next stale =>
      have old : marker.updatedAt + staleFenceMillis ≤ now := by
        simp only [staleFenceMillis] at stale ⊢
        omega
      have aged : Stable fun current =>
          (Held hold current ∧ current.seen = some marker) ∧ now ≤ current.clock :=
        stable.and fun _ _ still passed => Nat.le_trans passed still.clock
      refine (look_safe .now trivial aged (timed.mono fun both => ⟨both.1, Nat.le_of_eq both.2⟩)).bind
        fun recoveredAt _ again => ?_
      refine (ask_watch (Call.replaceMarker _) (fun _ => Held hold) aged ?_ ?_ ?_
        (again.mono And.left)).bind fun written _ held => ?_
      · exact ⟨⟨run, rfl⟩, nofun⟩
      · intro current known _ _
        exact ⟨marker, known.1.2, .inr ⟨fence, Nat.le_trans old known.2⟩⟩
      · intro env current reply next known ran
        exact (Held.plain hold).execute ran nofun nofun nofun known.1.1
      · cases written <;> exact done held
    · exact done (timed.mono fun same => same.1.1)
  · exact done (known.mono And.left)

theorem completePublish_tame (profile : Profile) (marker : Marker) :
    (completePublish config profile marker).Calls Tame := by
  unfold completePublish
  split
  · exact .pure
  refine .bind (.ask (Call.readStaged _) trivial) fun read => ?_
  cases read with
  | none => exact .pure
  | some staged =>
    dsimp only
    split
    · refine .bind ?_ fun republished => ?_
      · unfold republishProfile
        split
        · exact .pure
        · exact .ask (Call.replaceProfile staged) trivial
      · cases republished with
        | false => exact .pure
        | true =>
          simp only [if_true]
          split
          · exact .pure
          refine .bind (.ask Call.now trivial) fun release => ?_
          refine .bind (.ask Call.now trivial) fun updatedAt => ?_
          refine .bind (.ask (Call.replaceMarker _) rfl) fun written => ?_
          cases written with
          | false => exact .pure
          | true => exact .bind (.ask (Call.unstage _) trivial) fun _ => .pure
    · exact .pure

def Viewed (hold : Bool) (profile : Profile) (shared : Shared) : Prop :=
  Looked hold shared ∧ (shared.fresh = true → shared.profile = profile)

theorem Viewed.stable (hold : Bool) (profile : Profile) : Stable (Viewed hold profile) :=
  (Looked.stable hold).and fun _ _ still same fresh =>
    (still.profile fresh).trans (same (still.fresh fresh))

theorem Viewed.released {profile : Profile} {current : Shared}
    (viewed : Viewed hold profile current) (agrees : MarkerRead.Agrees (.found marker) current)
    (fresh : current.fresh = true) (free : hold = false) :
    marker.state = .committed ∨ marker.state = .ready ∧
      ∃ release, marker.releaseAfterMillis = some release ∧ release ≤ current.clock :=
  viewed.1 fresh free marker (agrees.2 fresh)

theorem releasedMode_safe {profile : Profile} (ready : marker.state = .ready)
    (same : marker.acquisitionMode = profile.mode)
    (known : Sees run (fun current => Viewed hold profile current ∧
      MarkerRead.Agrees (.found marker) current) shared) :
    Watches config run (Configured hold) (releasedMode marker) shared := by
  have stable := (Viewed.stable hold profile).and (MarkerRead.Agrees.stable (.found marker))
  unfold releasedMode
  split
  next previous release _ after =>
    -- a released marker stays released, so the comparison takes the new mode
    refine (look_safe .now trivial stable known).bind fun now _ timed =>
      .pure (timed.mono fun known fresh free mode found => ?_)
    have late : release ≤ now := by
      obtain committed | ⟨-, passed, due, late⟩ := known.1.1.released known.1.2 fresh free
      · cases ready.symm.trans committed
      · cases due.symm.trans after
        exact known.2 ▸ late
    rw [if_neg (Nat.not_lt.mpr late)] at found
    rw [known.1.1.2 fresh, ← same]
    exact Option.some.inj found
  · exact .pure (known.mono fun _ _ _ _ => nofun)

theorem configuredAcquisitionMode_safe (known : Sees run (Looked hold) shared) :
    Watches config run (Configured hold) (configuredAcquisitionMode config) shared := by
  refine (look_safe .readProject trivial (Looked.stable hold) known).bind fun readable _ looked => ?_
  cases readable with
  | false =>
    refine .pure (looked.mono fun stale fresh => ?_)
    rw [stale.2 rfl] at fresh
    cases fresh
  | true =>
    refine (look_safe .readProfile trivial (Looked.stable hold) (looked.mono And.left)).bind
      fun read current viewed => ?_
    cases read with
    | none => exact .pure (viewed.mono fun _ _ _ _ => nofun)
    | some profile =>
      have seen : Sees run (Viewed hold profile) current :=
        viewed.mono fun both => ⟨both.1, both.2 profile rfl⟩
      refine (readMarker_safe (.inl rfl) (Viewed.stable hold profile) (fun before => before)
        seen).bind fun read current both => ?_
      cases read with
      | missing =>
        refine .pure (both.mono fun known fresh _ mode found => ?_)
        rw [known.1.2 fresh]
        exact Option.some.inj found
      | failed => exact .pure (both.mono fun _ _ _ _ => nofun)
      | found marker =>
        -- with a fence or an unpublished marker on disk the look has come to a hold
        have held : marker.state ≠ .committed → marker.state ≠ .ready →
            Sees run (fun shared => Held hold shared ∧ shared.seen = some marker) current := by
          refine fun uncommitted unready => both.mono fun known => ⟨fun fresh => ?_, known.2.1⟩
          by_contra free
          obtain committed | ⟨ready, -⟩ :=
            known.1.released known.2 fresh (Bool.eq_false_iff.mpr free)
          · exact uncommitted committed
          · exact unready ready
        dsimp only
        split
        next fence =>
          exact recoverFence_safe profile fence (held (by simp [fence]) (by simp [fence]))
        · split
          next same =>
            refine .pure (both.mono fun known fresh _ mode found => ?_)
            rw [known.1.2 fresh, ← same.2]
            exact Option.some.inj found
          · exact .pure (both.mono fun _ _ _ _ => nofun)
        next ready =>
          split
          next same =>
            exact releasedMode_safe ready same.2 both
          · exact .pure (both.mono fun _ _ _ _ => nofun)
        next publish =>
          have holding := held (by simp [publish]) (by simp [publish])
          refine (tame_safe (completePublish_tame profile marker) (Held.plain hold)
            (holding.mono And.left)).mono ?_
          exact fun configured _ sees => sees.mono fun held => held.configured configured

/-! ### Adopting a mode -/

/-- Nothing has failed since the mode was found, or it was adopted; and then it is that of the
profile, unless a transition holds. -/
def Adopted (shared : Shared) : Prop :=
  shared.fresh = true → ∀ mode, shared.memory.found = some mode →
    shared.memory.acquisitionMode = some mode ∧
      (shared.memory.hold = false → shared.profile.mode = mode)

theorem Adopted.plain : Plain Adopted := by
  intro shared current adopted memory same fresh mode found
  rw [memory] at found ⊢
  rw [(same fresh).2]
  exact adopted (same fresh).1 mode found

abbrev Adopts (config : Config) (run : Nat) {β : Type} (program : Code β) (shared : Shared) :
    Prop :=
  Watches config run (fun _ => Adopted) program shared

def Chosen (mode : AcquisitionMode) (shared : Shared) : Prop :=
  shared.memory.found = some mode ∧
    (shared.fresh = true → shared.memory.hold = false → shared.profile.mode = mode)

theorem Chosen.plain (mode : AcquisitionMode) : Plain (Chosen mode) := by
  intro shared current chosen memory same
  refine ⟨memory ▸ chosen.1, fun fresh free => ?_⟩
  rw [(same fresh).2]
  exact chosen.2 (same fresh).1 (memory ▸ free)

theorem adopted_of_stale (stale : shared.fresh = false) : Adopted shared := by
  intro fresh
  rw [stale] at fresh
  cases fresh

theorem Failing.plain (ok : Bool) : Plain (Failing ok) := by
  intro shared current failing _ same failed
  cases fresh : current.fresh with
  | false => rfl
  | true => exact (same fresh).1.symm.trans (failing failed)

theorem Plain.and (first : Plain fact) (second : Plain other) :
    Plain fun shared => fact shared ∧ other shared :=
  fun _ _ both memory same => ⟨first both.1 memory same, second both.2 memory same⟩

theorem stopServices_safe (plain : Plain fact) (services : List Service) {stopped : Bool}
    (known : Sees run (fun current => fact current ∧ Failing stopped current) shared) :
    Watches config run (fun stopped current => fact current ∧ Failing stopped current)
      (stopServices services stopped) shared := by
  induction services generalizing shared stopped with
  | nil => exact .pure known
  | cons service services ih =>
    have both := plain.and (Failing.plain stopped)
    refine (tame_safe (.ask (Call.observe service.id) trivial) both known).bind fun seen _ still => ?_
    cases seen with
    | false => exact ih still
    | true =>
      refine (look_safe (.stopProcess service.id true) trivial both.stable still).bind fun ok _ after => ?_
      refine ih (after.mono fun all => ⟨all.1.1, fun failed => ?_⟩)
      rcases Bool.and_eq_false_iff.mp failed with earlier | now
      · exact all.1.2 earlier
      · exact all.2 now

theorem promoteReleasedRuntimeMode_safe (plain : Plain fact) (mode : AcquisitionMode)
    (known : Sees run fact shared) :
    Watches config run (fun _ => fact) (promoteReleasedRuntimeMode mode) shared := by
  refine (readMarker_safe (.inr rfl) plain.stable
    (fun before => plain before rfl fun fresh => ⟨fresh, rfl⟩) known).bind fun read _ both => ?_
  cases read with
  | missing | failed => exact .pure (both.mono And.left)
  | found marker =>
    dsimp only
    split
    · exact .pure (both.mono And.left)
    next release ready _ =>
      split
      · have stable := plain.stable.and (MarkerRead.Agrees.stable (.found marker))
        refine (look_safe .now trivial stable both).bind fun now _ timed => ?_
        split
        · exact .pure (timed.mono fun all => all.1.1)
        refine (look_safe .now trivial stable (timed.mono And.left)).bind fun committedAt _ again => ?_
        refine ask_watch (Call.replaceMarker _) (fun _ => fact) stable ?_ ?_ ?_ (again.mono And.left)
        · exact ⟨⟨run, rfl⟩, nofun⟩
        · exact fun known _ _ => ⟨marker, known.2.1, .inl ready⟩
        · exact fun known ran => plain.execute ran nofun nofun nofun known.1
      · exact .pure (both.mono And.left)
    · exact .pure (both.mono And.left)

theorem remember_safe (memory : Memory) (after : Shared → Prop) (stable : Stable fact)
    (follows : ∀ {current}, fact current → after { current with memory })
    (known : Sees run fact shared) :
    Watches config run (fun _ => after) (ask (.remember memory)) shared := by
  refine ask_watch (Call.remember memory) (fun _ => after) stable trivial (fun _ => trivial) ?_ known
  intro env current reply next before ran
  cases ran
  exact follows before

theorem applyAcquisitionMode_safe (mode : AcquisitionMode) (known : Sees run (Chosen mode) shared) :
    Adopts config run (applyAcquisitionMode config mode) shared := by
  have plain := Chosen.plain mode
  have unfailing : Sees run (fun current => Chosen mode current ∧ Failing true current) shared :=
    known.mono fun chosen => ⟨chosen, nofun⟩
  refine (stopServices_safe plain (stopOrder config.services) unfailing).bind
    fun stopped _ after => ?_
  cases stopped with
  | false => exact .pure (after.mono fun failed => adopted_of_stale (failed.2 rfl))
  | true =>
    refine (look_safe (.persistApplied mode) trivial plain.stable (after.mono And.left)).bind
      fun persisted _ written => ?_
    cases persisted with
    | false => exact .pure (written.mono fun failed => adopted_of_stale (failed.2 rfl))
    | true =>
      refine (promoteReleasedRuntimeMode_safe plain mode (written.mono And.left)).bind
        fun _ _ promoted => ?_
      refine (look_safe .memory trivial plain.stable promoted).bind fun memory _ read => ?_
      have stable : Stable fun current => Chosen mode current ∧ current.memory = memory :=
        plain.stable.and fun _ _ still same => still.memory.trans same
      refine remember_safe _ Adopted stable ?_ read
      rintro current ⟨chosen, rfl⟩ fresh other found
      cases chosen.1.symm.trans found
      exact ⟨rfl, chosen.2 fresh⟩

theorem adoptMode_safe {configured : Option AcquisitionMode}
    (known : Sees run (Configured hold configured) shared) :
    Adopts config run (adoptMode config hold configured) shared := by
  have plain : Plain (Configured hold configured) := by
    intro before after known _ same fresh free mode found
    rw [(same fresh).2]
    exact known (same fresh).1 free mode found
  refine (look_safe .memory trivial plain.stable known).bind fun memory _ read => ?_
  have stable : Stable fun current => Configured hold configured current ∧ current.memory = memory :=
    plain.stable.and fun _ _ still same => still.memory.trans same
  cases configured with
  | none => exact remember_safe _ Adopted stable (fun _ _ _ => nofun) read
  | some mode =>
    have chosen : ∀ {current : Shared},
        Configured hold (some mode) current ∧ current.memory = memory →
        Chosen mode { current with memory := { memory with hold, found := some mode } } :=
      fun both => ⟨rfl, fun fresh free => both.1 fresh free mode rfl⟩
    by_cases already : memory.acquisitionMode = some mode
    · refine (remember_safe _ Adopted stable ?_ read).bind fun _ _ adopted => ?_
      · intro current both fresh other found
        cases found
        exact ⟨already, fun free => (chosen both).2 fresh free⟩
      · simp only [already, if_true]
        exact .pure adopted
    · refine (remember_safe _ (Chosen mode) stable chosen read).bind fun _ _ adopts => ?_
      simp only [already, if_false]
      exact applyAcquisitionMode_safe mode adopts

/-! ### Starting -/

section

variable (known : Sees run Adopted shared)
include known

theorem startService_safe (service : Service) :
    Adopts config run (startService service) shared := by
  refine (look_safe .memory trivial Adopted.plain.stable known).bind fun memory _ read => ?_
  split
  · exact .pure (read.mono And.left)
  rename_i free
  split
  · have plain : Plain fun current => Adopted current ∧ current.memory = memory :=
      Adopted.plain.and fun _ _ same memory _ => memory.trans same
    refine (tame_safe (.ask (Call.startable service.id) trivial) plain read).bind
      fun startable _ still => ?_
    cases startable with
    | false => exact .pure (still.mono And.left)
    | true =>
      refine (ask_watch (Call.spawnProcess service.id memory.acquisitionMode) (fun _ => Adopted)
        plain.stable trivial ?_ (fun known ran => Adopted.plain.execute ran nofun nofun nofun known.1)
        still).bind fun _ _ after => .pure after
      -- the mode that was found is the adopted one, and with nothing held that of the profile
      rintro current ⟨adopted, rfl⟩ _ fresh found
      obtain ⟨mode, same⟩ := Option.isSome_iff_exists.mp found
      obtain ⟨applied, active⟩ := adopted fresh mode same
      rw [applied, active (Bool.eq_false_iff.mpr free)]
  · exact .pure (read.mono And.left)

theorem reconcileService_safe (service : Service) :
    Adopts config run (reconcileService service) shared := by
  refine (look_safe .memory trivial Adopted.plain.stable known).bind fun memory _ read => ?_
  have adopted := read.mono And.left
  split
  · refine (tame_safe (.ask (Call.wantsStart service.id) trivial) Adopted.plain adopted).bind
      fun wanted _ still => ?_
    cases wanted with
    | false => exact .pure still
    | true =>
      simp only [if_true]
      split
      · exact .pure still
      · exact startService_safe still service
  · refine (tame_safe (.ask (Call.observe service.id) trivial) Adopted.plain adopted).bind
      fun seen _ still => ?_
    cases seen with
    | false => exact .pure still
    | true =>
      exact tame_safe (.bind (.ask (Call.stopProcess service.id false) trivial) fun _ => .pure)
        Adopted.plain still

theorem reconcileServices_safe (services : List Service) :
    Adopts config run (reconcileServices services) shared := by
  induction services generalizing shared with
  | nil => exact .pure known
  | cons service services ih =>
    exact (reconcileService_safe known service).bind fun _ _ still => ih still

theorem reconcile_safe : Adopts config run (reconcile config) shared := by
  refine (runtimeModeTransitionHold_safe (known.mono fun _ => trivial)).bind fun hold _ looked => ?_
  refine (configuredAcquisitionMode_safe looked).bind fun configured _ found => ?_
  exact (adoptMode_safe found).bind fun _ _ adopted => reconcileServices_safe adopted _

theorem restartService_safe (service : Service) :
    Adopts config run (restartService service) shared := by
  refine (tame_safe (.ask (Call.stopProcess service.id false) trivial) Adopted.plain known).bind
    fun stopped _ still => ?_
  cases stopped with
  | false => exact .pure still
  | true => exact startService_safe still service

theorem setStartupMode_safe (service : Service) (disabled : Bool) :
    Adopts config run (setStartupMode service disabled) shared := by
  cases disabled with
  | true =>
    exact tame_safe (.bind (.ask (Call.stopProcess service.id false) trivial) fun _ => .pure)
      Adopted.plain known
  | false =>
    refine (look_safe .memory trivial Adopted.plain.stable known).bind fun memory _ read => ?_
    have adopted := read.mono And.left
    split
    · refine (tame_safe (.ask (Call.wantsStart service.id) trivial) Adopted.plain adopted).bind
        fun wanted _ still => ?_
      cases wanted with
      | false => exact .pure still
      | true => exact startService_safe still service
    · exact .pure adopted

end

theorem loadSupervisor_safe (shared : Shared) (known : Sees run Adopted shared) :
    Adopts config run (loadSupervisor config) shared := by
  have anything : Stable fun _ => True := fun _ _ _ _ => trivial
  refine (look_safe .readApplied trivial Adopted.plain.stable known).bind fun applied _ read => ?_
  -- nothing is known to be free of a hold yet
  have looked : Sees run (Looked true) _ := read.mono fun _ _ => nofun
  refine (configuredAcquisitionMode_safe looked).bind fun configured current found => ?_
  have holds : Watches config run (fun _ _ => True) (holdAtLoad configured) current := by
    cases configured with
    | none => exact .pure (found.mono fun _ => trivial)
    | some mode =>
      exact (runtimeModeTransitionHold_safe (found.mono fun _ => trivial)).mono
        fun _ _ sees => sees.mono fun _ => trivial
  refine holds.bind fun hold _ any => ?_
  exact remember_safe _ Adopted anything (fun _ _ _ => nofun) any

end Supervisor

/-! ## Runs -/

variable (config : Config)

theorem validateRuntimeModeCommitForStartup_calls (loaded : Profile)
    (expected : Option AcquisitionMode) :
    (validateRuntimeModeCommitForStartup config loaded expected).Calls (OtherGood .boot) := by
  refine .bind (.ask (Call.readMarker .startup) trivial) fun read => ?_
  cases read with
  | missing | failed => exact .pure
  | found marker =>
    refine .bind (.ask Call.readProfile trivial) fun active => ?_
    cases active with
    | none => exact .pure
    | some active =>
      dsimp only
      split
      · split
        · exact .pure
        · exact .pure
        · split
          · exact .pure
          · exact .bind (.ask Call.now trivial) fun _ => .pure
        · exact .pure
      · exact .pure

theorem bootService_calls (expected : Option AcquisitionMode) :
    (bootService config expected).Calls (OtherGood .boot) := by
  refine .bind (.ask Call.readProfile trivial) fun read => ?_
  cases read with
  | none => exact .pure
  | some loaded =>
    refine .bind (validateRuntimeModeCommitForStartup_calls config loaded expected) fun valid => ?_
    cases valid with
    | false => exact .pure
    | true => exact .bind (.ask (Call.serve loaded) rfl) fun _ => .pure

variable {config}

/-- What is known of a thread between its programs. -/
def Rests (thread : Thread) (shared : Shared) : Prop :=
  ∀ run, thread = .supervisor run → Sees run Adopted shared

theorem handler_watched {config : Config} {program : Code Unit}
    (handler : Handler config thread program) (rests : Rests thread shared) :
    (watchDiscipline config).Safe thread (fun _ => Rests thread) program shared := by
  have ours : ∀ {run}, thread = .supervisor run → Adopts config run program shared →
      (watchDiscipline config).Safe thread (fun _ => Rests thread) program shared := by
    rintro run rfl safe
    refine safe.mono fun _ current sees other same => ?_
    cases same
    exact sees
  have others : thread.supervises = false → (thread.save? = none → program.Calls (OtherGood thread)) →
      (watchDiscipline config).Safe thread (fun _ => Rests thread) program shared := by
    intro other calls
    have idle : ∀ current, Rests thread current := fun _ run same => by
      rw [same] at other
      cases other
    have good : ∀ {request : Call} {current : Shared}, (thread.save? = none → OtherGood thread request) →
        (watchDiscipline config).good thread request current := by
      intro request current may
      cases thread with
      | supervisor run => cases other
      | _ => exact ⟨may, trivial⟩
    cases same : thread.save? with
    | some id => exact .of_any (fun _ => good (by simp [same])) (fun _ => idle) program shared
    | none =>
      exact .of_calls (fun _ _ => idle _) (fun may _ _ => good fun _ => may) (fun _ _ _ _ _ => idle _)
        (calls same) rests
  cases handler with
  | save _ _ _ => exact others rfl nofun
  | boot expected => exact others rfl fun _ => bootService_calls config expected
  | crashService => exact others rfl fun _ => .ask Call.crashService rfl
  | crashSupervisor => exact others rfl fun _ => .ask Call.crashSupervisor trivial
  | pass millis => exact others rfl fun _ => .ask (Call.pass millis) trivial
  | load run => exact ours rfl (loadSupervisor_safe shared (rests run rfl))
  | reconcile run => exact ours rfl (reconcile_safe (rests run rfl))
  | start run registered => exact ours rfl (startService_safe (rests run rfl) _)
  | stop run registered =>
    exact ours rfl (tame_safe (.bind (.ask (Call.stopProcess _ false) trivial) fun _ => .pure)
      Adopted.plain (rests run rfl))
  | restart run registered => exact ours rfl (restartService_safe (rests run rfl) _)
  | startupMode run disabled registered =>
    exact ours rfl (setStartupMode_safe (rests run rfl) _ disabled)

theorem reachable_watchGood {config : Config} {machine}
    (reached : (modeRules config).Reachable machine)
    (next : machine.nextCall? thread = some request) :
    (thread.save? = none → OtherGood thread request) ∧ WatchGood thread request machine.shared := by
  refine (watchDiscipline config).reachable_good_knowing (fun thread _ => Rests thread) ?_ ?_ ?_
    reached next
  · intro thread shared initial run _
    have nothing : ∀ current : Shared, current.memory.found = none → Adopted current :=
      fun current none fresh mode found => by cases none.symm.trans found
    exact ⟨fun _ => nothing shared (by rw [initial.memory]), fun _ => nothing⟩
  · exact fun relied rests run same =>
      (rests run same).unmoved Adopted.plain.stable (relied run same)
  · exact fun thread program _ shared handler _ rests => handler_watched handler rests

end SteelInspection.Modes
