import SteelInspection.Foundations.Interleaving
import SteelInspection.Foundations.Table

/-! # Storage of capture rounds

`_enqueue_storage_round` admits a round and hands it to the round pool; a pool worker runs
`_persist_cached_round`, which copies the frames into shared memory, has them written by the writer
pool, waits for its turn, publishes the round and enqueues its database commit; the database worker
takes commits off the queue in batches.  Every locked section is one call, and so are the start and
the end of a copy and of a write.  Waiting on a condition gives the lock back: a call that would
wait answers so, and is made again.

The pools start any of the tasks that wait for them.  The callback of a finished round may run in
the worker or in the thread that has submitted it; it is a thread of its own here.
-/

namespace SteelInspection.Storage

open Foundations

structure Config where
  /-- `storage_round_workers`. -/
  roundWorkers : Nat
  positive : 0 < roundWorkers
  /-- Whether frames are written by processes, through shared memory. -/
  processWorkers : Bool
  copyWorkers : Nat
  simulation : Bool := false
  blackFrameThreshold : Nat := 1
  queueCapacityRounds : Nat := 8
  boundaryReserveRounds : Nat := 0
  commitCapacityRounds : Nat := 128
  commitMaxBatchRounds : Nat := 16

abbrev Camera := String

/-- A row of a round, as far as its storage depends on it; `camera` is what `camera_for_identity`
finds. -/
structure Row where
  camera : Option Camera
  frameReceived : Bool
  hasFrame : Bool
  maxIntensity : Nat
  steelSignal : Bool

/-- The rows of a round: one for each camera. -/
structure RoundRows where
  rows : List Row
  distinct : (rows.filterMap (·.camera)).Nodup

/-- A round that is to be stored. -/
structure Job where
  round : RoundRows
  materialId : String
  sessionId : String
  requireSteelSignal : Bool
  named : materialId ≠ "" ∧ sessionId ≠ ""

inductive Stage where
  | queued
  | running
  | ended (succeeded : Bool)
  deriving DecidableEq, Repr

structure Task where
  order : Nat
  camera : Camera
  stage : Stage
  deriving DecidableEq, Repr

def Task.key (task : Task) : Nat × Camera := (task.order, task.camera)

abbrev TaskTable := Table Task Task.key

structure Commit where
  order : Nat
  materialId : String
  sessionId : String
  deriving DecidableEq, Repr

/-- A frame on disk, with the round whose pixels were in the block when the write began and when it
ended. -/
structure Frame where
  order : Nat
  camera : Camera
  first : Option Nat
  last : Option Nat
  deriving DecidableEq, Repr

inductive Phase where
  | prepare
  | finalize
  deriving DecidableEq, Repr

structure Shared where
  -- the admission of rounds
  accepting : Bool := true
  pendingRounds : Nat := 0
  activeRounds : Nat := 0
  nextOrder : Nat := 0
  /-- The rounds a producer has admitted and not yet submitted. -/
  admitted : List (Nat × Nat) := []
  -- the round pool: what waits for it, what its workers run, and what has ended
  submitted : List (Nat × Job) := []
  running : List (Nat × Nat) := []
  done : List Nat := []
  /-- The rounds whose callback has run. -/
  completed : List Nat := []
  nextPrepareOrder : Nat := 0
  nextFinalizeOrder : Nat := 0
  -- the copies into shared memory and the writes
  copies : TaskTable := Table.empty
  writes : TaskTable := Table.empty
  /-- The round whose pixels a block holds, by camera and slot; `none` while it is copied. -/
  content : Camera → Nat → Option Nat := fun _ _ => none
  reading : Nat → Camera → Option Nat := fun _ _ => none
  frames : List Frame := []
  -- the database commits
  commitAccepting : Bool := true
  commitQueue : List Commit := []
  commitActiveRounds : Nat := 0
  /-- The rounds the database worker has taken off the queue, and whether it has counted them. -/
  inHand : List Commit := []
  counted : Bool := false
  /-- For each check the number of rounds admitted when it began. -/
  asked : Nat → Nat := fun _ => 0

inductive Call where
  /-- The locked section of `_enqueue_storage_round`. -/
  | admission (job : Job) (force : Bool) (saveGeneration : Bool)
  | submitRound (order : Nat) (job : Job)
  | startRound
  | activate
  | deactivate
  | endRound (order : Nat)
  | completed (order : Nat)
  | waitOrder (phase : Phase) (order : Nat)
  | advanceOrder (phase : Phase) (order : Nat)
  /-- `_advance_storage_round_order` in the `except` block of a round that fails. -/
  | releaseFailed (order : Nat)
  | reserveIndex (camera : Camera)
  | submitCopy (order : Nat) (camera : Camera)
  /-- The next copy that `as_completed` yields, and whether `result()` returns. -/
  | nextCompleted (order : Nat) (waiting : List Camera)
  | submitWrite (order : Nat) (camera : Camera)
  | awaitWrite (order : Nat) (camera : Camera)
  /-- The event of the round and the manifest of its flow. -/
  | publish (order : Nat)
  | enqueueCommit (commit : Commit)
  | startCopy
  | endCopy (order : Nat) (camera : Camera)
  | startWrite
  | endWrite (order : Nat) (camera : Camera)
  | takeCommits
  | resumeCommits (batch : List Commit)
  | commitResults (batch : List Commit)
  | finishCommits (batch : List Commit) (succeeded : Bool)
  | readPendingRounds
  | readActiveRounds
  | readCommitQueue
  | readCommitActiveRounds
  | stopStorage
  | stopCommits

inductive Admission where
  | refused
  | waiting
  | admitted (order : Nat)

inductive Enqueued where
  | waiting
  | refused
  | queued

inductive Taken where
  | waiting
  | stopped
  /-- The worker waits for more rounds, without the lock. -/
  | coalescing (batch : List Commit)
  | counted (batch : List Commit)

abbrev Call.Reply : Call → Type
  | .admission _ _ _ => Admission
  | .startRound => Nat × Job
  | .nextCompleted _ _ => Camera × Bool
  | .submitRound _ _ | .advanceOrder _ _ | .releaseFailed _ | .reserveIndex _ | .submitCopy _ _
  | .submitWrite _ _ | .awaitWrite _ _ | .publish _ | .commitResults _ => Bool
  | .enqueueCommit _ => Enqueued
  | .startCopy | .startWrite => Nat × Camera
  | .takeCommits | .resumeCommits _ => Taken
  | .readPendingRounds | .readActiveRounds | .readCommitQueue | .readCommitActiveRounds => Nat
  | .activate | .deactivate | .endRound _ | .completed _ | .waitOrder _ _ | .endCopy _ _
  | .endWrite _ _ | .finishCommits _ _ | .stopStorage | .stopCommits => Unit

structure Env where
  /-- The call raises, or a task ends with an error. -/
  fault : Bool := false
  /-- Which of the tasks that are possible is taken. -/
  choice : Nat := 0
  acquisitionStopped : Bool := false
  stillArmed : Bool := true
  beforeDeadline : Bool := false

inductive Thread where
  | producer (id : Nat)
  | round (id : Nat)
  | callback (id : Nat)
  | copier (id : Nat)
  | writer (id : Nat)
  | database
  | check (id : Nat)
  | operator
  deriving DecidableEq, Repr

/-! ## Calls -/

def Config.queueLimit (config : Config) (force : Bool) : Nat :=
  if force then config.queueCapacityRounds
  else max 1 (config.queueCapacityRounds - config.boundaryReserveRounds)

def Config.slot (config : Config) (order : Nat) : Nat := order % config.roundWorkers

theorem Task.key_stage (stage : Stage) (task : Task) : { task with stage }.key = task.key := rfl

def setStage (tasks : TaskTable) (order : Nat) (camera : Camera) (stage : Stage) : TaskTable :=
  tasks.update (order, camera) (fun task => { task with stage }) (Task.key_stage stage)

def stageOf (tasks : TaskTable) (order : Nat) (camera : Camera) : Option Stage :=
  (tasks.find? (order, camera)).map (·.stage)

/-- The rounds that follow in the queue for the same flow and session, up to the size of a batch. -/
def coalesce (limit : Nat) : List Commit → List Commit → List Commit × List Commit
  | batch, [] => (batch, [])
  | batch, next :: queue =>
    if batch.length < limit ∧ batch.head?.all (fun first =>
        first.materialId = next.materialId ∧ first.sessionId = next.sessionId)
    then coalesce limit (batch ++ [next]) queue
    else (batch, next :: queue)

/-- The part of the worker's section after its first round: it takes what follows, and then waits
for more, or counts its batch. -/
def collectBatch (config : Config) (env : Env) (shared : Shared) (batch queue : List Commit) :
    Taken × Shared :=
  let (batch, queue) := coalesce config.commitMaxBatchRounds batch queue
  if batch.length < config.commitMaxBatchRounds ∧ queue.isEmpty ∧ shared.commitAccepting ∧
      env.beforeDeadline then
    (.coalescing batch, { shared with commitQueue := queue, inHand := batch, counted := false })
  else
    (.counted batch,
      { shared with
        commitQueue := queue, inHand := batch, counted := true
        commitActiveRounds := shared.commitActiveRounds + batch.length })

def choose {α : Type} (env : Env) (candidates : List α) : Option α := candidates[env.choice]?

section Semantics

variable (config : Config)

def semantics : Semantics Shared Thread Env Call Call.Reply
  | thread, env, request, shared =>
    match request with
    | .admission _ force saveGeneration =>
      match thread with
      | .producer id =>
        if !shared.accepting then some (.refused, shared)
        else if config.queueLimit force ≤ shared.pendingRounds ∧ !env.acquisitionStopped then
          some (.waiting, shared)
        else if env.acquisitionStopped || (saveGeneration && !env.stillArmed) then
          some (.refused, shared)
        else
          some (.admitted shared.nextOrder,
            { shared with
              pendingRounds := shared.pendingRounds + 1, nextOrder := shared.nextOrder + 1
              admitted := (id, shared.nextOrder) :: shared.admitted })
      | _ => none
    | .submitRound order job =>
      if env.fault then some (false, shared)
      else some (true, { shared with
        admitted := shared.admitted.filter (fun entry => entry.2 ≠ order)
        submitted := shared.submitted ++ [(order, job)] })
    | .startRound =>
      match thread, shared.submitted with
      | .round id, (order, job) :: rest =>
        if shared.running.length < config.roundWorkers then
          some ((order, job), { shared with
            submitted := rest, running := (id, order) :: shared.running })
        else none
      | _, _ => none
    | .activate => some ((), { shared with activeRounds := shared.activeRounds + 1 })
    | .deactivate => some ((), { shared with activeRounds := shared.activeRounds - 1 })
    | .endRound order =>
      some ((), { shared with
        running := shared.running.filter (fun entry => entry.2 ≠ order)
        done := order :: shared.done })
    | .completed order =>
      if order ∈ shared.done ∧ order ∉ shared.completed then
        some ((), { shared with
          pendingRounds := shared.pendingRounds - 1, completed := order :: shared.completed })
      else none
    | .waitOrder phase order =>
      let next := match phase with
        | .prepare => shared.nextPrepareOrder
        | .finalize => shared.nextFinalizeOrder
      if next = order then some ((), shared) else none
    -- a mismatch raises a `RuntimeError`
    | .advanceOrder .prepare order =>
      if shared.nextPrepareOrder = order then
        some (true, { shared with nextPrepareOrder := order + 1 })
      else some (false, shared)
    | .advanceOrder .finalize order | .releaseFailed order =>
      if shared.nextFinalizeOrder = order then
        some (true, { shared with nextFinalizeOrder := order + 1 })
      else some (false, shared)
    | .reserveIndex _ => some (!env.fault, shared)
    | .submitCopy order camera =>
      match env.fault, shared.copies.insert ⟨order, camera, .queued⟩ with
      | false, some copies => some (true, { shared with copies })
      | _, _ => some (false, shared)
    | .nextCompleted order waiting =>
      let ended := waiting.filterMap fun camera =>
        match stageOf shared.copies order camera with
        | some (.ended succeeded) => some (camera, succeeded)
        | _ => none
      (choose env ended).map fun outcome => (outcome, shared)
    | .submitWrite order camera =>
      match env.fault, shared.writes.insert ⟨order, camera, .queued⟩ with
      | false, some writes => some (true, { shared with writes })
      | _, _ => some (false, shared)
    | .awaitWrite order camera =>
      match stageOf shared.writes order camera with
      | some (.ended succeeded) => some (succeeded, shared)
      | _ => none
    | .publish _ => some (!env.fault, shared)
    | .enqueueCommit commit =>
      if config.commitCapacityRounds ≤ shared.commitQueue.length ∧ shared.commitAccepting then
        some (.waiting, shared)
      else if !shared.commitAccepting then some (.refused, shared)
      else some (.queued, { shared with commitQueue := shared.commitQueue ++ [commit] })
    | .startCopy =>
      (choose env (shared.copies.select (·.stage = .queued))).map fun task =>
        ((task.order, task.camera), { shared with
          copies := setStage shared.copies task.order task.camera .running
          content := fun camera slot =>
            if camera = task.camera ∧ slot = config.slot task.order then none
            else shared.content camera slot })
    | .endCopy order camera =>
      if stageOf shared.copies order camera = some .running then
        some ((), { shared with
          copies := setStage shared.copies order camera (.ended !env.fault)
          content := fun other slot =>
            if other = camera ∧ slot = config.slot order ∧ !env.fault then some order
            else shared.content other slot })
      else none
    | .startWrite =>
      (choose env (shared.writes.select (·.stage = .queued))).map fun task =>
        ((task.order, task.camera), { shared with
          writes := setStage shared.writes task.order task.camera .running
          reading := fun order camera =>
            if order = task.order ∧ camera = task.camera then
              shared.content camera (config.slot order)
            else shared.reading order camera })
    | .endWrite order camera =>
      if stageOf shared.writes order camera = some .running then
        some ((), { shared with
          writes := setStage shared.writes order camera (.ended !env.fault)
          -- without shared memory the writer has the frame itself
          frames := if env.fault then shared.frames
            else if config.processWorkers then
              ⟨order, camera, shared.reading order camera,
                shared.content camera (config.slot order)⟩ :: shared.frames
            else ⟨order, camera, some order, some order⟩ :: shared.frames })
      else none
    | .takeCommits =>
      match shared.commitQueue, shared.commitAccepting with
      | [], true => some (.waiting, shared)
      | [], false => some (.stopped, shared)
      | first :: queue, _ => some (collectBatch config env shared [first] queue)
    | .resumeCommits batch => some (collectBatch config env shared batch shared.commitQueue)
    | .commitResults _ => some (!env.fault, shared)
    | .finishCommits batch succeeded =>
      let shared := { shared with
        commitActiveRounds := shared.commitActiveRounds - batch.length, inHand := []
        counted := false }
      if !succeeded ∧ shared.commitAccepting then
        some ((), { shared with commitQueue := batch ++ shared.commitQueue })
      else some ((), shared)
    | .readPendingRounds =>
      match thread with
      | .check id => some (shared.pendingRounds,
          { shared with asked := Function.update shared.asked id shared.nextOrder })
      | _ => some (shared.pendingRounds, shared)
    | .readActiveRounds => some (shared.activeRounds, shared)
    | .readCommitQueue => some (shared.commitQueue.length, shared)
    | .readCommitActiveRounds => some (shared.commitActiveRounds, shared)
    | .stopStorage => some ((), { shared with accepting := false })
    | .stopCommits => some ((), { shared with commitAccepting := false })

end Semantics

/-! ## The code -/

abbrev Code := Program Call Call.Reply

abbrev ask (request : Call) : Code request.Reply := Program.ask request

inductive Answer where
  | accepted (value : Bool)
  | quiescent (value : Bool)
  | ended
  deriving DecidableEq, Repr

/-- The frames `_persist_cached_round` stores: those with a known camera that are not black and, at
a boundary, show steel. -/
def Job.camera? (config : Config) (job : Job) (row : Row) : Option Camera :=
  if !row.hasFrame || row.maxIntensity ≤ config.blackFrameThreshold ||
      (job.requireSteelSignal && !row.steelSignal) then none
  else row.camera

def Job.cameras (config : Config) (job : Job) : List Camera :=
  job.round.rows.filterMap (job.camera? config)

/-- The loop over the rows, with shared memory: the copies that were submitted, or that one could
not be. -/
def submitCopies (config : Config) (order : Nat) : List Camera → List Camera →
    Code (Option (List Camera))
  | [], submitted => pure (some submitted)
  | camera :: cameras, submitted =>
    if config.copyWorkers = 0 then pure none
    else do
      if ← ask (.reserveIndex camera) then
        if ← ask (.submitCopy order camera) then
          submitCopies config order cameras (submitted ++ [camera])
        else pure none
      else pure none

/-- The same loop without shared memory, and the submission of the write of a frame. -/
def submitWrites (order : Nat) : List Camera → List Camera → Code (Option (List Camera))
  | [], submitted => pure (some submitted)
  | camera :: cameras, submitted => do
    if ← ask (.submitWrite order camera) then submitWrites order cameras (submitted ++ [camera])
    else pure none

/-- The loop over `as_completed`: a write is submitted for each copy that has succeeded; the first
that has failed, or whose write cannot be submitted, ends it. -/
def collectCopies (order : Nat) : Nat → List Camera → List Camera → Code (Option (List Camera))
  | 0, _, submitted => pure (some submitted)
  | count + 1, waiting, submitted => do
    let outcome : Camera × Bool ← ask (.nextCompleted order waiting)
    if outcome.2 then
      if ← ask (.submitWrite order outcome.1) then
        collectCopies order count (waiting.erase outcome.1) (submitted ++ [outcome.1])
      else pure none
    else pure none

/-- The loop over the writes: what was committed, and whether a write has failed. -/
def awaitWrites (order : Nat) : List Camera → List Camera → Bool → Code (List Camera × Bool)
  | [], committed, failed => pure (committed, failed)
  | camera :: cameras, committed, failed => do
    if ← ask (.awaitWrite order camera) then
      awaitWrites order cameras (committed ++ [camera]) failed
    else awaitWrites order cameras committed true

def enqueueDatabaseCommit (commit : Commit) : Nat → Code Unit
  | 0 => .diverge
  | fuel + 1 => do
    match (← ask (.enqueueCommit commit) : Enqueued) with
    | .waiting => enqueueDatabaseCommit commit fuel
    | .refused | .queued => pure ()

/-- The `except` block: the round releases the gate and fails. -/
def failRound (order : Nat) : Code Bool := do
  let _ ← ask (.waitOrder .finalize order)
  let _ ← ask (.releaseFailed order)
  pure false

/-- The ordered end of a round; `false` when it raises. -/
def publishRound (fuel order : Nat) (job : Job) (committed : List Camera) : Code Bool :=
  if committed.isEmpty then pure true
  else do
    if ← ask (.publish order) then
      enqueueDatabaseCommit ⟨order, job.materialId, job.sessionId⟩ fuel
      pure true
    else pure false

/-- What follows when the writes of a round have been submitted. -/
def finishRound (config : Config) (fuel order : Nat) (job : Job) (submitted : List Camera) :
    Code Bool := do
  let outcome ← awaitWrites order submitted [] false
  if config.simulation && outcome.2 then failRound order
  else
    let _ ← ask (.waitOrder .finalize order)
    let published ← publishRound fuel order job outcome.1
    if ← ask (.advanceOrder .finalize order) then pure published else failRound order

def persistCachedRound (config : Config) (fuel order : Nat) (job : Job) : Code Bool := do
  let _ ← ask (.waitOrder .prepare order)
  if config.processWorkers then
    let prepared ← submitCopies config order (job.cameras config) []
    let advanced : Bool ← ask (.advanceOrder .prepare order)
    match prepared, advanced with
    | some copies, true =>
      match ← collectCopies order copies.length copies [] with
      | none => failRound order
      | some submitted => finishRound config fuel order job submitted
    | _, _ => failRound order
  else
    let prepared ← submitWrites order (job.cameras config) []
    let advanced : Bool ← ask (.advanceOrder .prepare order)
    match prepared, advanced with
    | some submitted, true => finishRound config fuel order job submitted
    | _, _ => failRound order

def runRound (config : Config) (fuel : Nat) : Code Answer := do
  let next : Nat × Job ← ask .startRound
  let _ ← ask .activate
  let _ ← persistCachedRound config fuel next.1 next.2
  let _ ← ask .deactivate
  let _ ← ask (.endRound next.1)
  pure .ended

/-- The part of `_enqueue_storage_round` from the lock on. -/
def admitRound (job : Job) (force saveGeneration : Bool) : Nat → Code Answer
  | 0 => .diverge
  | fuel + 1 => do
    match (← ask (.admission job force saveGeneration) : Admission) with
    | .refused => pure (.accepted false)
    | .waiting => admitRound job force saveGeneration fuel
    | .admitted order =>
      if ← ask (.submitRound order job) then pure (.accepted true)
      else pure .ended

def enqueueStorageRound (fuel : Nat) (round : RoundRows) (materialId sessionId : String)
    (requireSteelSignal force saveGeneration : Bool) : Code Answer :=
  if round.rows.all (fun row => !row.frameReceived) then pure (.accepted false)
  else if named : materialId ≠ "" ∧ sessionId ≠ "" then
    admitRound ⟨round, materialId, sessionId, requireSteelSignal, named⟩ force saveGeneration fuel
  else pure (.accepted false)

/-- The worker from the moment it holds rounds: it waits for more, commits, and gives them up. -/
def commitBatch : Nat → Taken → Code Bool
  | 0, _ => .diverge
  | _ + 1, .waiting => pure true
  | _ + 1, .stopped => pure false
  | fuel + 1, .coalescing batch => do
    let taken : Taken ← ask (.resumeCommits batch)
    commitBatch fuel taken
  | _ + 1, .counted batch => do
    let succeeded : Bool ← ask (.commitResults batch)
    let _ ← ask (.finishCommits batch succeeded)
    pure true

def databaseCommitLoop : Nat → Code Answer
  | 0 => .diverge
  | fuel + 1 => do
    let taken : Taken ← ask .takeCommits
    if ← commitBatch fuel taken then databaseCommitLoop fuel else pure .ended

def persistenceIsQuiescent : Code Answer := do
  let pending : Nat ← ask .readPendingRounds
  if pending = 0 then
    let active : Nat ← ask .readActiveRounds
    if active = 0 then
      let queued : Nat ← ask .readCommitQueue
      if queued = 0 then
        let committing : Nat ← ask .readCommitActiveRounds
        pure (.quiescent (decide (committing = 0)))
      else pure (.quiescent false)
    else pure (.quiescent false)
  else pure (.quiescent false)

def copyFrame : Code Answer := do
  let task : Nat × Camera ← ask .startCopy
  let _ ← ask (.endCopy task.1 task.2)
  pure .ended

def writeFrame : Code Answer := do
  let task : Nat × Camera ← ask .startWrite
  let _ ← ask (.endWrite task.1 task.2)
  pure .ended

inductive Handler (config : Config) : Thread → Code Answer → Prop where
  | enqueue (id fuel : Nat) (round : RoundRows) (materialId sessionId : String)
    (requireSteelSignal force saveGeneration : Bool) :
    Handler config (.producer id)
      (enqueueStorageRound fuel round materialId sessionId requireSteelSignal force saveGeneration)
  | round (id fuel : Nat) : Handler config (.round id) (runRound config fuel)
  | callback (id order : Nat) :
    Handler config (.callback id) (do let _ ← ask (.completed order); pure .ended)
  | copy (id : Nat) : Handler config (.copier id) copyFrame
  | write (id : Nat) : Handler config (.writer id) writeFrame
  | commit (fuel : Nat) : Handler config .database (databaseCommitLoop fuel)
  | check (id : Nat) : Handler config (.check id) persistenceIsQuiescent
  | stopStorage : Handler config .operator (do let _ ← ask .stopStorage; pure .ended)
  | stopCommits : Handler config .operator (do let _ ← ask .stopCommits; pure .ended)

/-- Every copy and every write of this round has ended. -/
def tasksEnded (shared : Shared) (order : Nat) : Bool :=
  shared.copies.rows.all (fun task => task.order ≠ order || task.stage matches .ended _) &&
    shared.writes.rows.all (fun task => task.order ≠ order || task.stage matches .ended _)

/-- A round that fails releases the gate when what it has submitted has ended. -/
def releaseUndisturbed : Call → Shared → Bool
  | .releaseFailed order, shared => tasksEnded shared order
  | _, _ => true

abbrev Schedule := List (Action Thread Env Call Call.Reply Answer)

def turns (thread : Thread) (count : Nat) : Schedule := List.replicate count (.advance thread {})

end SteelInspection.Storage
