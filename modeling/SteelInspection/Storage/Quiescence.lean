import SteelInspection.Storage.Workers
import Mathlib.Data.List.Perm.Subperm

/-! # Quiescence

`_persistence_is_quiescent` reads four counters one after the other.  The first says that every round
admitted so far has ended; the last two are to say that no commit is left.  Between taking rounds off
the queue and counting them the database worker may wait with the lock released, and a commit that
fails goes back to a queue that has already been found empty, so the answer can be wrong; it is right
when at the last read the queue is still empty and the worker has counted what it holds.
-/

namespace SteelInspection.Storage

open Foundations Discipline

/-- Nothing of a round is left: its worker, its copies and its writes have ended, and its commit is
neither in the queue nor in the hands of the database worker. -/
def Settled (shared : Shared) (order : Nat) : Prop :=
  order ∈ shared.done ∧ Ended shared.copies order ∧ Ended shared.writes order ∧
    ∀ commit ∈ shared.commitQueue ++ shared.inHand, commit.order ≠ order

/-! ## The books of the commits -/

/-- The part of the state that the four reads depend on. -/
structure Ledger where
  nextOrder : Nat
  pendingRounds : Nat
  done : List Nat
  completed : List Nat
  queue : List Commit
  inHand : List Commit
  counted : Bool
  active : Nat
  asked : Nat → Nat

def Shared.ledger (shared : Shared) : Ledger where
  nextOrder := shared.nextOrder
  pendingRounds := shared.pendingRounds
  done := shared.done
  completed := shared.completed
  queue := shared.commitQueue
  inHand := shared.inHand
  counted := shared.counted
  active := shared.commitActiveRounds
  asked := shared.asked

/-- Everything a call can do to the ledger. -/
inductive Posting (thread : Thread) (ledger : Ledger) : Call → Ledger → Prop where
  | same {request} : Posting thread ledger request ledger
  | admission {job force generation} :
    Posting thread ledger (.admission job force generation)
      { ledger with
        nextOrder := ledger.nextOrder + 1, pendingRounds := ledger.pendingRounds + 1 }
  | finish {order} :
    Posting thread ledger (.endRound order) { ledger with done := order :: ledger.done }
  | complete {order} (ended : order ∈ ledger.done) (fresh : order ∉ ledger.completed) :
    Posting thread ledger (.completed order)
      { ledger with
        pendingRounds := ledger.pendingRounds - 1, completed := order :: ledger.completed }
  | enqueue {commit} :
    Posting thread ledger (.enqueueCommit commit) { ledger with queue := ledger.queue ++ [commit] }
  | collect {request held batch queue counted active}
    (asked : request = .takeCommits ∧ held = [] ∨ request = .resumeCommits held)
    (splits : batch ++ queue = held ++ ledger.queue)
    (counts : counted = true → batch.length ≤ active) :
    Posting thread ledger request { ledger with inHand := batch, queue, counted, active }
  | giveUp {batch queue succeeded active}
    (requeues : queue = ledger.queue ∨ queue = batch ++ ledger.queue) :
    Posting thread ledger (.finishCommits batch succeeded)
      { ledger with inHand := [], queue, counted := false, active }
  | ask {id} (caller : thread = .check id) :
    Posting thread ledger .readPendingRounds
      { ledger with asked := Function.update ledger.asked id ledger.nextOrder }

theorem coalesce_append (limit : Nat) (batch queue : List Commit) :
    (coalesce limit batch queue).1 ++ (coalesce limit batch queue).2 = batch ++ queue := by
  induction queue generalizing batch with
  | nil => simp [coalesce]
  | cons next queue ih =>
    unfold coalesce
    split
    · rw [ih, List.append_assoc, List.singleton_append]
    · rfl

variable {thread : Thread}

theorem posting_collect {config : Config} {env : Env} {request : Call} {held queue : List Commit}
    {shared : Shared} (asked : request = .takeCommits ∧ held = [] ∨ request = .resumeCommits held)
    {first : List Commit} (splits : first ++ queue = held ++ shared.commitQueue) :
    Posting thread shared.ledger request (collectBatch config env shared first queue).2.ledger := by
  have whole := (coalesce_append config.commitMaxBatchRounds first queue).trans splits
  simp only [collectBatch]
  split
  · exact .collect asked whole (by simp)
  · exact .collect asked whole fun _ => Nat.le_add_left _ _

theorem posting_of_semantics {config : Config} {env : Env} {request : Call} {shared after : Shared}
    {reply : request.Reply}
    (ran : semantics config thread env request shared = some (reply, after)) :
    Posting thread shared.ledger request after.ledger := by
  cases request with
  | nextCompleted _ _ | startCopy | startWrite =>
    obtain ⟨_, -, answered⟩ := Option.map_eq_some_iff.mp ran
    cases answered
    exact .same
  | takeCommits =>
    simp only [semantics] at ran
    split at ran
    · cases ran
      exact .same
    · cases ran
      exact .same
    next first queue waiting =>
      have after := congrArg (fun pair => pair.2.ledger) (Option.some.inj ran)
      exact after ▸ posting_collect (.inl ⟨rfl, rfl⟩) waiting.symm
  | resumeCommits batch =>
    have after := congrArg (fun pair => pair.2.ledger) (Option.some.inj ran)
    exact after ▸ posting_collect (.inr rfl) rfl
  | waitOrder phase _ | advanceOrder phase _ =>
    cases phase
    all_goals
      simp only [semantics] at ran
      split at ran <;> cases ran <;> exact .same
  | _ =>
    all_goals simp only [semantics] at ran
    all_goals repeat' split at ran
    all_goals cases ran
    all_goals first
      | exact .same | exact .admission | exact .finish | exact .enqueue | exact .ask rfl
      | exact .giveUp (.inr rfl) | exact .giveUp (.inl rfl) | exact .complete (‹_ ∧ _›).1 (‹_ ∧ _›).2

/-! ## The counters -/

/-- What the counters say: rounds that have not completed are pending, and what the database worker
has counted is active. -/
structure Tally (ledger : Ledger) : Prop where
  ended : ∀ order ∈ ledger.completed, order ∈ ledger.done
  once : ledger.completed.Nodup
  pending : ledger.nextOrder ≤ ledger.pendingRounds + ledger.completed.length
  active : ledger.counted = true → ledger.inHand.length ≤ ledger.active

section Tally

variable {thread : Thread} {request : Call} {ledger after : Ledger}

theorem length_le_of_below {orders : List Nat} {bound : Nat} (once : orders.Nodup)
    (below : ∀ order ∈ orders, order < bound) : orders.length ≤ bound := by
  have fewer := (once.subperm fun order mem => List.mem_range.mpr (below order mem)).length_le
  rwa [List.length_range] at fewer

variable (tally : Tally ledger) (below : ∀ order ∈ ledger.done, order < ledger.nextOrder)
include tally below

theorem tally_posting (posting : Posting thread ledger request after) : Tally after := by
  cases posting with
  | admission =>
    refine ⟨tally.ended, tally.once, ?_, tally.active⟩
    have pending := tally.pending
    show ledger.nextOrder + 1 ≤ ledger.pendingRounds + 1 + ledger.completed.length
    omega
  | finish =>
    exact ⟨fun order mem => List.mem_cons_of_mem _ (tally.ended order mem), tally.once,
      tally.pending, tally.active⟩
  | @complete order ended fresh =>
    have once : (order :: ledger.completed).Nodup := List.nodup_cons.mpr ⟨fresh, tally.once⟩
    have done : ∀ other ∈ order :: ledger.completed, other ∈ ledger.done := by
      grind [tally.ended]
    refine ⟨done, once, ?_, tally.active⟩
    -- the round is one of those that were pending
    have fewer := length_le_of_below once fun other mem => below other (done other mem)
    have pending := tally.pending
    simp only [List.length_cons] at fewer ⊢
    omega
  | collect _ _ counts => exact ⟨tally.ended, tally.once, tally.pending, counts⟩
  | giveUp _ => exact ⟨tally.ended, tally.once, tally.pending, nofun⟩
  | _ => exact { tally with }

/-- When nothing is pending, every round admitted has ended. -/
theorem Tally.all_done (none : ledger.pendingRounds = 0) {order : Nat}
    (admitted : order < ledger.nextOrder) : order ∈ ledger.done := by
  refine tally.ended order (Classical.byContradiction fun fresh => ?_)
  have once : (order :: ledger.completed).Nodup := List.nodup_cons.mpr ⟨fresh, tally.once⟩
  have fewer : (order :: ledger.completed).length ≤ ledger.nextOrder := by
    refine length_le_of_below once fun other mem => ?_
    rcases List.mem_cons.mp mem with rfl | before
    · exact admitted
    · exact below other (tally.ended other before)
  have pending := tally.pending
  simp only [List.length_cons] at fewer
  omega

end Tally

theorem Ordered.done_below {book : RoundBook} (ordered : Ordered book) :
    ∀ order ∈ book.done, order < book.nextOrder := by
  intro order ended
  refine ordered.below order ?_
  have count := List.count_pos_iff.mpr ended
  simp only [RoundBook.places]
  omega

section Runs

variable {config : Config} {machine : Machine Shared Thread Call Call.Reply Answer}

theorem reachable_tally (reached : (storageRules config).Reachable machine) :
    Tally machine.shared.ledger := by
  refine reached.invariant (fun shared => Tally shared.ledger) ?_ ?_
  · rintro shared rfl
    exact ⟨nofun, List.nodup_nil, Nat.le_refl _, nofun⟩
  · intro machine earlier tally thread env request reply after next _ ran
    exact tally_posting tally (reachable_ordered earlier).done_below (posting_of_semantics ran)

/-! ## The hands of the database worker -/

/-- The worker goes on with the rounds it holds. -/
def InHand (request : Call) (held : List Commit) : Prop :=
  match request with
  | .resumeCommits batch | .finishCommits batch _ => batch = held
  | _ => True

def handRules (config : Config) : Rules Shared Thread Env Call Call.Reply Answer :=
  (storageRules config).assuming fun thread request shared => Good config thread request shared.book

def handDiscipline (config : Config) : Discipline (handRules config) where
  inv _ := True
  rely thread shared current := thread = .database → current.inHand = shared.inHand
  good thread request shared := thread = .database → InHand request shared.inHand
  rely_refl _ _ _ := rfl
  rely_trans _ _ _ _ before after worker := (after worker).trans (before worker)
  inv_initial _ := trivial
  inv_call _ _ _ _ := trivial
  rely_call {thread other environment request shared reply next} different _ _ calm executed := by
    rintro rfl
    have posting : Posting thread shared.ledger request next.ledger := posting_of_semantics executed
    have caller : Good config thread request shared.book := calm.2
    show next.ledger.inHand = shared.ledger.inHand
    generalize shared.ledger = ledger at posting
    generalize next.ledger = after at posting
    cases posting with
    | collect asked _ _ =>
      rcases asked with ⟨rfl, -⟩ | rfl <;> exact (different caller.symm).elim
    | giveUp _ => exact (different caller.symm).elim
    | _ => rfl

/-- What the worker knows when it has taken rounds. -/
def Holding (taken : Taken) (shared : Shared) : Prop :=
  match taken with
  | .coalescing batch | .counted batch => shared.inHand = batch
  | .waiting | .stopped => True

theorem holding_collectBatch (config : Config) (env : Env) (shared : Shared)
    (batch queue : List Commit) : Holding (collectBatch config env shared batch queue).1
      (collectBatch config env shared batch queue).2 := by
  simp only [collectBatch]
  split <;> exact rfl

variable {shared : Shared} {thread : Thread} {id : Nat}

theorem commitBatch_safe (fuel : Nat) (taken : Taken) (holding : Holding taken shared) :
    (handDiscipline config).Obeys .database (commitBatch fuel taken) shared := by
  induction fuel generalizing taken shared with
  | zero => exact .diverge
  | succ fuel ih =>
    cases taken with
    | waiting | stopped => exact .pure trivial
    | coalescing batch =>
      refine (Safe.ask (Call.resumeCommits batch) (fun current relied _ _ => ?_) ?_).bind
        fun taken _ held => ih taken held
      · exact holding.symm.trans (relied rfl).symm
      intro current _ _ _ env reply after ran _
      have collected : collectBatch config env current batch current.commitQueue =
        (reply, after) := Option.some.inj ran
      have held := holding_collectBatch config env current batch current.commitQueue
      rwa [collected] at held
    | counted batch =>
      have commits : (handDiscipline config).Safe .database (fun _ current => current.inHand = batch)
          (ask (.commitResults batch)) shared := by
        refine Safe.ask (Call.commitResults batch) (fun _ _ _ _ => trivial) ?_
        intro current relied _ _ env reply after ran _
        cases ran
        exact (relied rfl).trans holding
      refine commits.bind fun succeeded _ held => ?_
      refine (Safe.ask_any (Call.finishCommits batch succeeded) ?_).bind
        fun _ _ _ => .pure trivial
      exact fun current relied _ _ => held.symm.trans (relied rfl).symm

theorem databaseCommitLoop_safe (fuel : Nat) :
    (handDiscipline config).Obeys .database (databaseCommitLoop fuel) shared := by
  induction fuel generalizing shared with
  | zero => exact .diverge
  | succ fuel ih =>
    have takes : (handDiscipline config).Safe .database Holding (ask .takeCommits) shared := by
      refine Safe.ask Call.takeCommits (fun _ _ _ _ => trivial) ?_
      intro current _ _ _ env reply after ran _
      have taken : semantics config .database env .takeCommits current = some (reply, after) :=
        ran
      simp only [semantics] at taken
      split at taken
      · cases taken
        trivial
      · cases taken
        trivial
      · grind [holding_collectBatch]
    refine takes.bind fun taken _ held => ?_
    refine (commitBatch_safe fuel taken held).bind fun goesOn _ _ => ?_
    split
    · exact ih
    · exact .pure trivial

theorem reachable_inHand (reached : (storageRules config).Reachable machine) {request : Call}
    (next : machine.nextCall? thread = some request) : InHand request machine.shared.inHand := by
  have handled : (handRules config).Reachable machine :=
    Rules.Reachable.assuming reached (fun earlier _ _ next => reachable_calls_good earlier next)
  by_cases worker : thread = .database
  · refine (handDiscipline config).reachable_good ?_ handled next worker
    intro other program shared handler _
    by_cases database : other = .database
    · subst database
      cases handler with
      | commit fuel => exact databaseCommitLoop_safe fuel
    · exact Safe.of_any (fun _ same => (database same).elim) (fun _ _ => trivial) _ _
  · have good := reachable_calls_good reached next
    cases request with
    | resumeCommits _ | finishCommits _ _ => exact (worker good).elim
    | _ => trivial

/-! ## The check -/

/-- At the last read the queue is still empty and the database worker has counted what it holds; and
a round that fails leaves with nothing of its own still running. -/
def quietRead (request : Call) (shared : Shared) : Bool :=
  match request with
  | .readCommitActiveRounds => shared.commitQueue.isEmpty && (shared.inHand.isEmpty || shared.counted)
  | _ => releaseUndisturbed request shared

def quiescenceRules (config : Config) : Rules Shared Thread Env Call Call.Reply Answer :=
  { storageRules config with undisturbed := fun _ request shared => quietRead request shared = true }

theorem storage_reachable (reached : (quiescenceRules config).Reachable machine) :
    (storageRules config).Reachable machine := by
  refine reached.transfer (fun initial => initial) (fun handler => handler)
    (fun ran => ⟨_, ran⟩) ?_
  intro machine _ _ thread request _ quiet
  cases request with
  | readCommitActiveRounds => rfl
  | _ => exact quiet

/-- What holds of every call of every run. -/
structure Known (config : Config) (thread : Thread) (request : Call) (shared : Shared) : Prop where
  ordered : Ordered shared.book
  good : Good config thread request shared.book
  tally : Tally shared.ledger
  inHand : InHand request shared.inHand

def checkRules (config : Config) : Rules Shared Thread Env Call Call.Reply Answer :=
  (quiescenceRules config).assuming (Known config)

/-- No commit of this round is left. -/
def CommitFree (order : Nat) (ledger : Ledger) : Prop :=
  ∀ commit ∈ ledger.queue ++ ledger.inHand, commit.order ≠ order

/-- What a check relies on: rounds that have ended stay so, and get no new commit. -/
structure CheckRely (id : Nat) (before after : Ledger) : Prop where
  asked : after.asked id = before.asked id
  done : ∀ order ∈ before.done, order ∈ after.done
  commitFree : ∀ order ∈ before.done, CommitFree order before → CommitFree order after

theorem CheckRely.of_fewer {before after : Ledger} (asked : after.asked id = before.asked id)
    (done : ∀ order ∈ before.done, order ∈ after.done)
    (fewer : after.queue ++ after.inHand ⊆ before.queue ++ before.inHand) :
    CheckRely id before after :=
  ⟨asked, done, fun _ _ free commit mem => free commit (fewer mem)⟩

theorem checkRely_posting {request : Call} {ledger after : Ledger}
    (different : Thread.check id ≠ thread)
    (running : ∀ commit, request = .enqueueCommit commit → commit.order ∉ ledger.done)
    (held : InHand request ledger.inHand) (posting : Posting thread ledger request after) :
    CheckRely id ledger after := by
  cases posting with
  | finish => exact ⟨rfl, fun _ mem => List.mem_cons_of_mem _ mem, fun _ _ free => free⟩
  | @enqueue commit =>
    refine ⟨rfl, fun _ mem => mem, fun order ended free other mem => ?_⟩
    -- a round that has ended enqueues nothing
    have news : other = commit ∨ other ∈ ledger.queue ++ ledger.inHand := by grind
    rcases news with rfl | old
    · exact fun same => running other rfl (same ▸ ended)
    · exact free other old
  | @collect _ batch taken queue _ _ asked splits _ =>
    refine .of_fewer rfl (fun _ mem => mem) fun commit mem => ?_
    have whole : commit ∈ batch ++ ledger.queue := by
      rw [← splits]
      exact List.mem_append.mpr (List.mem_append.mp mem).symm
    rcases asked with ⟨-, rfl⟩ | rfl
    · exact List.mem_append_left _ whole
    · have hands : batch = ledger.inHand := held
      rw [hands] at whole
      exact List.mem_append.mpr (List.mem_append.mp whole).symm
  | @giveUp batch queue _ _ requeues =>
    have hands : batch = ledger.inHand := held
    refine .of_fewer rfl (fun _ mem => mem) fun commit mem => ?_
    rw [List.append_nil] at mem
    rcases requeues with rfl | rfl
    · exact List.mem_append_left _ mem
    · rw [hands] at mem
      exact List.mem_append.mpr (List.mem_append.mp mem).symm
  | @ask other caller =>
    have elsewhere : id ≠ other := fun same => different (same ▸ caller.symm)
    exact ⟨Function.update_of_ne elsewhere _ _, fun _ mem => mem, fun _ _ free => free⟩
  | _ => exact ⟨rfl, fun _ mem => mem, fun _ _ free => free⟩

def checkDiscipline (config : Config) : Discipline (checkRules config) where
  inv _ := True
  rely thread shared current := ∀ id, thread = .check id → CheckRely id shared.ledger current.ledger
  good _ _ _ := True
  rely_refl _ _ _ _ := ⟨rfl, fun _ member => member, fun _ _ free => free⟩
  rely_trans _ _ _ _ before after id same :=
    ⟨(after id same).asked.trans (before id same).asked,
      fun order member => (after id same).done order ((before id same).done order member),
      fun order member free => (after id same).commitFree order ((before id same).done order member)
        ((before id same).commitFree order member free)⟩
  inv_initial _ := trivial
  inv_call _ _ _ _ := trivial
  rely_call different _ _ calm executed id same := by
    obtain ⟨-, known⟩ := calm
    refine checkRely_posting (same ▸ different) ?_ known.inHand (posting_of_semantics executed)
    rintro commit rfl
    obtain ⟨worker, -, mine⟩ := known.good
    exact known.ordered.not_done mine

/-- The rounds admitted before the check have ended. -/
def AllDone (id : Nat) (shared : Shared) : Prop :=
  ∀ order < shared.ledger.asked id, order ∈ shared.ledger.done

/-- What a check has found out when it answers. -/
def Found (thread : Thread) (answer : Answer) (shared : Shared) : Prop :=
  ∀ id, thread = .check id → answer = .quiescent true →
    ∀ order < shared.ledger.asked id, order ∈ shared.ledger.done ∧ CommitFree order shared.ledger

theorem allDone_rely {current : Shared}
    (relied : (checkDiscipline config).rely (.check id) shared current) (done : AllDone id shared) :
    AllDone id current := by
  intro order asked
  rw [(relied id rfl).asked] at asked
  exact (relied id rfl).done order (done order asked)

theorem found_rely {answer : Answer} {current : Shared}
    (relied : (checkDiscipline config).rely thread shared current)
    (found : Found thread answer shared) : Found thread answer current := by
  intro id same quiescent order asked
  have rely := relied id same
  rw [rely.asked] at asked
  obtain ⟨done, free⟩ := found id same quiescent order asked
  exact ⟨rely.done order done, rely.commitFree order done free⟩

theorem allDone_read (request : Call)
    (reads : request = .readActiveRounds ∨ request = .readCommitQueue) (done : AllDone id shared) :
    (checkDiscipline config).Safe (.check id) (fun _ => AllDone id) (ask request) shared := by
  refine Safe.ask request (fun _ _ _ => trivial) ?_
  intro current relied _ _ env reply after ran _
  rcases reads with rfl | rfl <;>
  · cases ran
    exact allDone_rely relied done

/-- At a last read that finds nothing counted, the worker holds nothing. -/
theorem empty_of_quietRead (quiet : quietRead .readCommitActiveRounds shared = true)
    (tally : Tally shared.ledger) (none : shared.commitActiveRounds = 0) :
    shared.commitQueue ++ shared.inHand = [] := by
  simp only [quietRead, Bool.and_eq_true, Bool.or_eq_true, List.isEmpty_iff] at quiet
  obtain ⟨queue, hands⟩ := quiet
  have empty : shared.inHand = [] := by
    rcases hands with empty | counted
    · exact empty
    · have fewer : shared.inHand.length ≤ shared.commitActiveRounds := tally.active counted
      exact List.eq_nil_of_length_eq_zero (by omega)
  rw [queue, empty, List.append_nil]

theorem persistenceIsQuiescent_safe (id : Nat) :
    (checkDiscipline config).Safe (.check id) (Found (.check id)) persistenceIsQuiescent shared := by
  have pends : (checkDiscipline config).Safe (.check id)
      (fun pending current => pending = 0 → AllDone id current) (ask .readPendingRounds) shared := by
    refine Safe.ask Call.readPendingRounds (fun _ _ _ => trivial) ?_
    intro current _ _ calm env reply after ran _ none order asked
    obtain ⟨-, known⟩ := calm
    cases ran
    have admitted : order < current.ledger.nextOrder := by
      have asked : order < Function.update current.asked id current.nextOrder id := asked
      rwa [Function.update_self] at asked
    exact known.tally.all_done known.ordered.done_below none admitted
  have commits : ∀ {shared : Shared}, AllDone id shared →
      (checkDiscipline config).Safe (.check id) (fun active current => active = 0 →
        AllDone id current ∧ ∀ order, CommitFree order current.ledger)
        (ask .readCommitActiveRounds) shared := by
    intro shared done
    refine Safe.ask Call.readCommitActiveRounds (fun _ _ _ => trivial) ?_
    intro current relied _ calm env reply after ran _ none
    obtain ⟨quiet, known⟩ := calm
    cases ran
    refine ⟨allDone_rely relied done, fun order commit mem => ?_⟩
    have left : commit ∈ current.commitQueue ++ current.inHand := mem
    rw [empty_of_quietRead quiet known.tally none] at left
    cases left
  refine pends.bind fun pending _ first => ?_
  split
  next none =>
    refine (allDone_read .readActiveRounds (.inl rfl) (first none)).bind fun active _ second => ?_
    split
    · refine (allDone_read .readCommitQueue (.inr rfl) second).bind fun queued _ third => ?_
      split
      · refine (commits third).bind fun committing _ last => .pure ?_
        rintro _ ⟨⟩ quiescent order asked
        have none : committing = 0 := by simpa using quiescent
        exact ⟨(last none).1 order asked, (last none).2 order⟩
      · exact .pure fun _ _ => nofun
    · exact .pure fun _ _ => nofun
  · exact .pure fun _ _ => nofun

theorem check_reachable (reached : (quiescenceRules config).Reachable machine) :
    (checkRules config).Reachable machine := by
  refine Rules.Reachable.assuming reached (fun earlier _ _ next => ?_)
  have stored := storage_reachable earlier
  exact ⟨reachable_ordered stored, reachable_calls_good stored next, reachable_tally stored,
    reachable_inHand stored next⟩

/-- In every run in which a check makes its last read while the queue is still empty and the database
worker has counted what it holds, and in which a failing round leaves with nothing of its own running,
a check that answers yes is right about every round admitted before it. -/
theorem quiescent_rounds_settled (reached : (quiescenceRules config).Reachable machine) {id : Nat}
    (answered : machine.answer? (.check id) = some (.quiescent true)) :
    ∀ order < machine.shared.asked id, Settled machine.shared order := by
  intro order asked
  have found : Found (.check id) (.quiescent true) machine.shared := by
    refine (checkDiscipline config).reachable_answer Found found_rely ?_ (check_reachable reached)
      answered
    intro thread program shared handler _
    cases thread with
    | check other =>
      cases handler with
      | check _ => exact persistenceIsQuiescent_safe other
    | _ =>
      exact Safe.of_any (fun _ => trivial)
        (fun _ _ _ => nofun) program shared
  obtain ⟨done, free⟩ := found id rfl rfl order asked
  have ordered := reachable_ordered (storage_reachable reached)
  have passed := ordered.passed order done
  exact ⟨done, ordered.copies.1 order passed, ordered.writes.1 order passed, free⟩

end Runs

/-! ## A check while the worker waits -/

def threadWriters : Config where
  roundWorkers := 1
  positive := Nat.one_pos
  processWorkers := false
  copyWorkers := 0

def oneCamera : RoundRows where
  rows := [⟨some "left", true, true, 200, true⟩]
  distinct := by decide

/-- Round 0 is stored, from its admission to its callback. -/
def storedRound : Schedule :=
  .spawn (.producer 0) (enqueueStorageRound 1 oneCamera "63" "session" false false false) ::
    turns (.producer 0) 2 ++
    .spawn (.round 0) (runRound threadWriters 1) :: turns (.round 0) 5 ++
    .spawn (.writer 0) writeFrame :: turns (.writer 0) 2 ++ turns (.round 0) 7 ++
    .spawn (.callback 0) (do let _ ← ask (.completed 0); pure .ended) :: turns (.callback 0) 1 ++
    [.spawn .database (databaseCommitLoop 3)]

def checked : Schedule :=
  .spawn (.check 0) persistenceIsQuiescent :: turns (.check 0) 4

/-- The worker has taken the commit of round 0 and waits for more when the check answers. -/
theorem quiescent_while_waiting :
    ¬ ∀ (config : Config) machine (id : Nat),
      (storageRules config).free.Reachable machine →
      machine.answer? (.check id) = some (.quiescent true) →
        ∀ order < machine.shared.asked id, Settled machine.shared order := by
  intro claimed
  obtain ⟨machine, reached, facts⟩ : ∃ machine, (storageRules threadWriters).free.Reachable machine ∧
      (machine.answer? (.check 0), machine.shared.asked 0, machine.shared.inHand) =
        (some (.quiescent true), 1, [⟨0, "63", "session"⟩]) :=
    Rules.exists_reachable (fun _ _ _ => true) {}
      (storedRound ++ [.advance .database { beforeDeadline := true }] ++ checked)
      (fun _ _ _ _ => trivial) rfl
      (by repeat' constructor) (by decide +kernel)
  simp only [Prod.mk.injEq] at facts
  obtain ⟨-, -, -, free⟩ :=
    claimed threadWriters machine 0 reached facts.1 0 (by rw [facts.2.1]; decide)
  rw [facts.2.2] at free
  exact free ⟨0, "63", "session"⟩ (List.mem_append_right _ List.mem_cons_self) rfl

/-- When the commit has been attempted to its end, the check is right. -/
theorem quiescent_after_commit : ∃ machine, (quiescenceRules threadWriters).Reachable machine ∧
      machine.answer? (.check 0) = some (.quiescent true) ∧ machine.shared.asked 0 = 1 ∧
      ∀ order < machine.shared.asked 0, Settled machine.shared order := by
  obtain ⟨machine, reached, facts⟩ : ∃ machine, (quiescenceRules threadWriters).Reachable machine ∧
      (machine.answer? (.check 0), machine.shared.asked 0) = (some (.quiescent true), 1) :=
    Rules.exists_reachable (fun _ => quietRead) {} (storedRound ++ turns .database 3 ++ checked)
      (fun _ _ _ passed => passed) rfl
      (by repeat' constructor) (by decide +kernel)
  rw [Prod.mk.injEq] at facts
  exact ⟨machine, reached, facts.1, facts.2, quiescent_rounds_settled reached facts.1⟩

end SteelInspection.Storage
