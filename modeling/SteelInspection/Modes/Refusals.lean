import SteelInspection.Foundations.Alone
import SteelInspection.Modes.Supervising

/-! # A refused change of the mode

A save that changes the mode and is answered outside the 2xx range leaves the active profile as it
was, and the admission: it opens it again if it has closed it.  The marker is the old one, or a
committed one for that profile.
-/

namespace SteelInspection.Modes

open Foundations

def Response.refused (response : Response) : Bool :=
  response.status < 200 || 300 ≤ response.status

/-- The marker is the old one, or a committed one of this mode for the profile. -/
def MarkerRestored (config : Config) (mode : AcquisitionMode) (before after : Shared) : Prop :=
  after.marker = before.marker ∨ ∃ marker, after.marker = some marker ∧
    marker.state = .committed ∧ marker.acquisitionMode = mode ∧
    marker.profileSha256 = config.sha256 before.profile

/-- What a refused save leaves of the state before it. -/
structure Unharmed (config : Config) (before after : Shared) : Prop where
  profile : after.profile = before.profile
  accepting : after.accepting = before.accepting
  marker : MarkerRestored config before.runtimeConfig.mode before after

/-- An answer that leaves nothing of the save if it is a refusal and, where the marker had to be
restored, reports that it was. -/
def Traceless (config : Config) (before : Shared) (response : Response) (after : Shared) : Prop :=
  response.refused = true → response.commitRestored ≠ some false → Unharmed config before after

def Shared.traces (shared : Shared) : Profile × Bool × Option Marker :=
  (shared.profile, shared.accepting, shared.marker)

def Call.Quiet : Call → Prop
  | .replaceProfile _ | .replaceMarker _ | .closeAdmission | .openAdmission | .serve _ => False
  | _ => True

abbrev Ends (id : SaveId) {β : Type} (post : β → Shared → Prop) (program : Code β) (shared : Shared) :=
  program.Leaves semantics (.save id) post shared

variable {config : Config} {id : SaveId} {actor : String} {before shared after : Shared}

theorem Unharmed.later (unharmed : Unharmed config before shared)
    (same : after.traces = shared.traces) : Unharmed config before after := by
  simp only [Shared.traces, Prod.mk.injEq] at same
  obtain ⟨profile, accepting, marker⟩ := same
  refine ⟨profile.trans unharmed.profile, accepting.trans unharmed.accepting, ?_⟩
  unfold MarkerRestored
  rw [marker]
  exact unharmed.marker

theorem Unharmed.of_same (same : after.traces = before.traces) : Unharmed config before after :=
  .later ⟨rfl, rfl, .inl rfl⟩ same

theorem quiet_ends (request : Call) (quiet : request.Quiet) :
    Ends id (fun _ after => after.traces = shared.traces) (ask request) shared := by
  refine .ask request fun env reply after ran => ?_
  have ran := (execute_of_semantics ran).2
  cases request
  all_goals simp only [execute] at ran
  all_goals repeat' split at ran
  all_goals first | exact quiet.elim | cases ran <;> rfl

theorem any_ends {β : Type} (program : Code β) : Ends id (fun _ _ => True) program shared :=
  fun _ _ _ _ => trivial

theorem openAdmission_ends :
    Ends id (fun _ after => after.traces = (shared.profile, true, shared.marker))
      (ask .openAdmission) shared := by
  refine .ask Call.openAdmission fun env reply after ran => ?_
  cases (execute_of_semantics ran).2
  rfl

theorem publishRuntimeModeCommit_ends (fields : CommitFields) :
    Ends id (fun written after => ∃ time, after.traces = (shared.profile, shared.accepting,
        if written then some (fields.marker config id actor shared.profile time) else shared.marker))
      (publishRuntimeModeCommit config id actor fields) shared := by
  have reads : Ends id (fun read after => after = shared ∧ (read = none ∨ read = some shared.profile))
      (ask .readProfile) shared := by
    refine .ask Call.readProfile fun env reply after ran => ?_
    cases (execute_of_semantics ran).2
    cases env.fault <;> simp
  refine reads.bind ?_
  rintro read _ ⟨rfl, rfl | rfl⟩
  · exact .pure ⟨0, rfl⟩
  refine (quiet_ends .now trivial).bind fun time later same => ?_
  refine .ask (Call.replaceMarker _) fun env reply after ran => ⟨time, ?_⟩
  have ran := (execute_of_semantics ran).2
  simp only [Shared.traces, Prod.mk.injEq] at same
  simp only [execute] at ran
  split at ran <;> cases ran <;> simp [Shared.traces, Journal.writeMarker, same]

/-! ## The steps of a transition -/

variable {transition : Transition} (captureWasActive : Bool)

theorem restart_ends :
    Ends id (fun _ after => after.traces = shared.traces) (Transition.restart captureWasActive)
      shared := by
  cases captureWasActive with
  | false => exact .pure rfl
  | true => exact quiet_ends .startCapture trivial

theorem captureWasActive_ends :
    Ends id (fun _ after => after.traces = shared.traces) transition.captureWasActive shared := by
  unfold Transition.captureWasActive
  split
  · exact .pure rfl
  · exact quiet_ends .captureIsActive trivial

variable (active : transition.active = before.runtimeConfig) (wasOpen : before.accepting = true)
include active wasOpen

section

variable (same : shared.profile = before.profile)
include same

theorem rollBack_ends (status : Nat) (error : String) :
    Ends transition.save (Traceless transition.config before)
      (transition.rollBack captureWasActive status error) shared := by
  refine (publishRuntimeModeCommit_ends _).bind ?_
  rintro restored marked ⟨time, traces⟩
  refine openAdmission_ends.bind fun _ opened reopened => ?_
  refine (restart_ends captureWasActive).bind fun _ after last => .pure fun _ kept => ?_
  obtain rfl : restored = true := by simpa using kept
  simp only [Shared.traces, Prod.mk.injEq] at traces
  have undone : after.traces = Shared.traces { marked with accepting := true } := last.trans reopened
  refine .later ⟨?_, ?_, ?_⟩ undone
  · exact traces.1.trans same
  · exact wasOpen.symm
  · exact .inr ⟨_, traces.2.2, rfl, active ▸ rfl, by simp [CommitFields.marker, same]⟩

theorem finish_ends :
    Ends transition.save (fun outcome => Traceless transition.config before outcome.1)
      (transition.finish captureWasActive) shared := by
  have saved : ∀ {response : Response} {after : Shared}, response.status = 202 →
      Traceless transition.config before response after := by
    intro response after status refused
    simp [Response.refused, status] at refused
  refine (publishRuntimeModeCommit_ends _).bind ?_
  rintro written marked ⟨time, traces⟩
  simp only [Shared.traces, Prod.mk.injEq] at traces
  split
  · -- from here on the profile is saved, whatever happens
    refine (any_ends _).bind fun replaced _ _ => ?_
    split
    · refine (any_ends _).bind fun now _ _ => (any_ends _).bind fun ready _ _ => ?_
      split <;> exact .pure (saved rfl)
    · exact .pure (saved rfl)
  · refine (quiet_ends .rollbackRevision trivial).bind fun undone _ kept => ?_
    split
    · have still := (Prod.mk.inj kept).1.trans (traces.1.trans same)
      refine (rollBack_ends captureWasActive active wasOpen still _ _).bind fun _ _ traceless => ?_
      exact .pure traceless
    · exact .pure (saved rfl)

theorem store_ends :
    Ends transition.save (fun outcome => Traceless transition.config before outcome.1)
      (transition.store captureWasActive) shared := by
  refine (quiet_ends .stopCapture trivial).bind fun stopped _ kept => ?_
  have same := (Prod.mk.inj kept).1.trans same
  split
  · refine (quiet_ends .drain trivial).bind fun drained _ kept => ?_
    have same := (Prod.mk.inj kept).1.trans same
    split
    · refine (quiet_ends .readProfile trivial).bind fun read _ kept => ?_
      have same := (Prod.mk.inj kept).1.trans same
      cases read with
      | none =>
        exact (rollBack_ends captureWasActive active wasOpen same _ _).bind fun _ _ kept => .pure kept
      | some read =>
        refine (quiet_ends .appendRevision trivial).bind fun appended _ kept => ?_
        have same := (Prod.mk.inj kept).1.trans same
        cases appended with
        | stored => exact finish_ends captureWasActive active wasOpen same
        | failed error =>
          exact (rollBack_ends captureWasActive active wasOpen same _ _).bind fun _ _ kept => .pure kept
    · exact (rollBack_ends captureWasActive active wasOpen same _ _).bind fun _ _ kept => .pure kept
  · exact (rollBack_ends captureWasActive active wasOpen same _ _).bind fun _ _ kept => .pure kept

end

omit wasOpen

variable (transition) in
theorem run_ends (same : shared.traces = before.traces) :
    Ends transition.save (fun outcome => Traceless transition.config before outcome.1)
      (transition.run captureWasActive) shared := by
  have closes : Ends transition.save (fun closed after => after.profile = shared.profile ∧
      after.marker = shared.marker ∧ shared.accepting = (closed || after.accepting))
      (ask .closeAdmission) shared := by
    refine .ask Call.closeAdmission fun env reply after ran => ?_
    have ran := (execute_of_semantics ran).2
    simp only [execute] at ran
    split at ran <;> cases ran <;> simp_all [Journal.setPhase]
  simp only [Shared.traces, Prod.mk.injEq] at same
  refine closes.bind ?_
  rintro closed current ⟨profile, marker, accepting⟩
  split
  next isClosed =>
    have wasOpen : before.accepting = true := by
      rw [← same.2.1, accepting, isClosed]
      rfl
    refine (publishRuntimeModeCommit_ends _).bind ?_
    rintro written marked ⟨time, traces⟩
    simp only [Shared.traces, Prod.mk.injEq] at traces
    split
    · exact store_ends captureWasActive active wasOpen (by rw [traces.1, profile, same.1])
    · refine openAdmission_ends.bind fun _ opened reopened => .pure fun _ _ => .of_same ?_
      simp_all [Shared.traces]
  · refine .pure fun _ _ => .of_same ?_
    simp_all [Shared.traces]

omit active

theorem changeMode_ends (profile : Profile) :
    Ends id (Traceless config before) (changeMode config id actor before.runtimeConfig profile)
      before := by
  refine (quiet_ends .now trivial).bind fun millis _ timed => ?_
  refine (quiet_ends (.stage _ _) trivial).bind fun staged _ kept => ?_
  have same := kept.trans timed
  split
  · refine captureWasActive_ends.bind fun wasActive _ probed => ?_
    refine (run_ends ⟨_, _, _, _, _, _⟩ wasActive rfl (probed.trans same)).bind
      fun outcome _ traceless => ?_
    split
    · exact .pure traceless
    · refine (quiet_ends (.unstage _) trivial).bind fun _ _ last => .pure fun refused restored => ?_
      exact (traceless refused restored).later last
  · exact .pure fun _ _ => .of_same same

/-- A save that changes the mode, in any state and with a fault at any call; an answer that reports a
failure to restore the marker is left out.  When the active profile is of the mode the service runs
in, a restored marker is for the mode of that profile. -/
theorem refused_change_unharmed {profile : Profile} {script : List Env} {response : Response}
    (changes : profile.mode ≠ before.runtimeConfig.mode)
    (answered : (saveAdminRuntimeProfile config id actor (some profile)).alone semantics (.save id)
      script before = some (response, after))
    (refused : response.refused = true) (restored : response.commitRestored ≠ some false) :
    Unharmed config before after ∧ (before.profile.mode = before.runtimeConfig.mode →
      MarkerRestored config before.profile.mode before after) := by
  have reads : Ends id (fun read current => read = before.runtimeConfig ∧ current = before)
      (ask .runtimeConfig) before := by
    refine .ask Call.runtimeConfig fun env reply after ran => ?_
    cases (execute_of_semantics ran).2
    exact ⟨rfl, rfl⟩
  have saves : Ends id (Traceless config before)
      (saveAdminRuntimeProfile config id actor (some profile)) before := by
    refine reads.bind ?_
    rintro read current ⟨rfl, rfl⟩
    rw [if_neg changes]
    exact changeMode_ends profile
  have unharmed := saves script response after answered refused restored
  exact ⟨unharmed, fun same => same ▸ unharmed.marker⟩

/-- The service runs, and two saves are in it. -/
def twoSaves : Shared := { freshShared with running := true, inFlight := [⟨0, 1⟩, ⟨0, 0⟩] }

/-- The second of them changes the mode; one of its calls fails. -/
def changeAlone (failing : Nat) (before : Shared) : Option (Response × Shared) :=
  (saveAdminRuntimeProfile plainConfig ⟨0, 1⟩ "admin" (some ⟨.online, "online"⟩)).alone semantics
    (.save ⟨0, 1⟩) ((List.range 14).map fun call => { fault := call = failing }) before

/-- The wait for the other save times out. -/
theorem undrained_change_unharmed :
    ∃ response after, changeAlone 8 twoSaves = some (response, after) ∧ response.status = 409 ∧
      Unharmed plainConfig twoSaves after ∧
      MarkerRestored plainConfig twoSaves.profile.mode twoSaves after := by
  have ran : changeAlone 8 twoSaves = some _ := rfl
  obtain ⟨unharmed, own⟩ := refused_change_unharmed (by decide) ran rfl (by decide)
  exact ⟨_, _, ran, rfl, unharmed, own rfl⟩

/-- The other save has closed the admission, so it is not open after the refusal. -/
theorem overlapping_change_refused :
    ∃ response after, changeAlone 14 { twoSaves with accepting := false } = some (response, after) ∧
      response.status = 409 ∧ response.commitRestored = none ∧ after.accepting = false :=
  ⟨_, _, rfl, rfl, rfl, rfl⟩

end SteelInspection.Modes
