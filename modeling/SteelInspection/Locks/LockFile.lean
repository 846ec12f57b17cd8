import SteelInspection.Foundations.Interleaving
import SteelInspection.Foundations.Table
import SteelInspection.Foundations.Text

/-! # Lock files between processes

`exclusive_material_job` and `_playback_catalog_write_lock`: a process creates a file exclusively,
writes its process id and a token into it, and removes the file at the end if it still carries both.
A lock whose owner is no longer running, or that has carried no owner for five minutes, is removed
by whoever finds it.  Each access to a file is one call; processes may end at any time.
-/

namespace SteelInspection.Locks

open Foundations

/-- `UNKNOWN_OWNER_STALE_SECONDS`, and the same limit of the catalog lock. -/
def unknownOwnerStaleSeconds : Nat := 300

inductive LockPath where
  | material (id : String)
  | catalog
  deriving DecidableEq, Repr

/-- What is read of the text of a lock: the number `processId`, 0 when there is none, and the
token. -/
structure OwnerText where
  processId : Int
  token : Option String
  deriving DecidableEq, Repr

/-- A lock file.  Its text is `none` until it is written, or when it is no JSON object. -/
structure LockFile where
  path : LockPath
  inode : Nat
  creator : Nat
  text : Option OwnerText
  modified : Nat
  deriving DecidableEq, Repr

/-- The two places that remove a lock file. -/
inductive Removal where
  | stale
  | release
  deriving DecidableEq, Repr

inductive Call where
  /-- `os.open` with `O_CREAT | O_EXCL`. -/
  | create (path : LockPath)
  | write (path : LockPath) (descriptor : Nat) (text : OwnerText)
  | read (path : LockPath)
  | time
  | monotonic
  /-- `path.stat().st_mtime`. -/
  | modified (path : LockPath)
  | processIsRunning (pid : Int)
  | unlink (path : LockPath) (removal : Removal)
  /-- The protected section begins and ends. -/
  | enter (path : LockPath)
  | leave (path : LockPath)
  /-- A process ends, and time passes. -/
  | crash (pid : Nat)
  | tick (seconds : Nat)

inductive Created where
  | opened (descriptor : Nat)
  | exists
  | failed (error : String)

inductive Removed where
  | removed
  | missing
  | denied (error : String)

abbrev Call.Reply : Call → Type
  | .create _ => Created
  | .write _ _ _ | .enter _ | .leave _ | .crash _ | .tick _ => Unit
  | .read _ => Option OwnerText
  | .time | .monotonic => Nat
  | .modified _ => Option Nat
  | .processIsRunning _ => Bool
  | .unlink _ _ => Removed

/-- What the outside contributes to one call: an error of the operating system, and the monotonic
clock in milliseconds. -/
structure Env where
  fault : Option String := none
  monotonic : Nat := 0

inductive Thread where
  | process (pid : Nat)
  | world
  deriving DecidableEq, Repr

structure Shared where
  files : Table LockFile LockFile.path
  nextInode : Nat
  /-- The processes that are not running any more. -/
  ended : List Nat
  /-- The processes in a protected section. -/
  inside : List (Nat × LockPath)
  clock : Nat

/-- Time passes only as far as every running process that has created a lock still has time to write
its owner text: none takes as long as the stale limit for that. -/
def Shared.timely (shared : Shared) (seconds : Nat) : Bool :=
  shared.files.rows.all fun file =>
    file.text.isSome || shared.ended.contains file.creator ||
      shared.clock + seconds < file.modified + unknownOwnerStaleSeconds

/-- The calls of a process that is running. -/
def processCall (pid : Nat) (env : Env) (request : Call) (shared : Shared) :
    Option (request.Reply × Shared) :=
  match request with
  | .create path =>
    match env.fault with
    | some error => some (.failed error, shared)
    | none =>
      match shared.files.insert ⟨path, shared.nextInode, pid, none, shared.clock⟩ with
      | none => some (.exists, shared)
      | some files =>
        some (.opened shared.nextInode, { shared with files, nextInode := shared.nextInode + 1 })
  | .write path descriptor text =>
    -- a file that has been unlinked meanwhile is written, but nobody sees it
    some ((), { shared with
      files := shared.files.updateWhere
        (fun file => decide (file.path = path) && decide (file.inode = descriptor))
        (fun file => { file with text := some text, modified := shared.clock }) })
  | .read path =>
    if env.fault.isSome then some (none, shared)
    else some ((shared.files.find? path).bind (·.text), shared)
  | .time => some (shared.clock, shared)
  | .monotonic => some (env.monotonic, shared)
  | .modified path =>
    if env.fault.isSome then some (none, shared)
    else some ((shared.files.find? path).map (·.modified), shared)
  | .processIsRunning other =>
    some (decide (0 < other) && !shared.ended.contains other.toNat, shared)
  | .unlink path _ =>
    match env.fault with
    | some error => some (.denied error, shared)
    | none =>
      if (shared.files.find? path).isNone then some (.missing, shared)
      else some (.removed,
        { shared with files := shared.files.deleteWhere fun file => decide (file.path = path) })
  | .enter path => some ((), { shared with inside := (pid, path) :: shared.inside })
  | .leave path =>
    some ((), { shared with inside := shared.inside.filter (· ≠ (pid, path)) })
  | .crash _ | .tick _ => none

def semantics : Semantics Shared Thread Env Call Call.Reply
  | .process pid, env, request, shared =>
    if pid ∈ shared.ended then none else processCall pid env request shared
  | .world, _, .crash pid, shared => some ((), { shared with ended := pid :: shared.ended })
  | .world, _, .tick seconds, shared =>
    if shared.timely seconds then some ((), { shared with clock := shared.clock + seconds }) else none
  | .world, _, _, _ => none

/-! ## The code -/

abbrev Code := Program Call Call.Reply

abbrev ask (request : Call) : Code request.Reply := Program.ask request

inductive Raised where
  | valueError (message : String)
  | materialJobLocked (message : String)
  | timeout (message : String)
  | osError (error : String)
  deriving DecidableEq, Repr

abbrev Outcome := Except Raised Unit

/-- `max(0.0, time.time() - path.stat().st_mtime)`, and 0 when there is nothing to look at. -/
def lockAge (path : LockPath) : Code Nat := do
  let now : Nat ← ask .time
  match (← ask (.modified path) : Option Nat) with
  | none => pure 0
  | some modified => pure (now - modified)

/-- Whether a lock with this owner and this age may be removed. -/
def isRecoverable (ownerPid : Int) (ageSeconds : Nat) : Code Bool :=
  if ownerPid ≠ 0 then do
    let running : Bool ← ask (.processIsRunning ownerPid)
    pure !running
  else pure (decide (unknownOwnerStaleSeconds ≤ ageSeconds))

def ownerPid (owner : Option OwnerText) : Int := (owner.map (·.processId)).getD 0

def ownerToken (owner : Option OwnerText) : Option String := owner.bind (·.token)

/-- The attempts of `exclusive_material_job`; only the first of two recovers a lock. -/
def acquireMaterialLock (pid : Nat) (token normalized : String) : Nat → Code Outcome
  | 0 => pure (.error (.materialJobLocked ("material " ++ normalized ++ " lock unavailable")))
  | left + 1 => do
    match (← ask (.create (.material normalized)) : Created) with
    | .failed error => pure (.error (.osError error))
    | .opened descriptor =>
      let _ ← ask (.write (.material normalized) descriptor ⟨pid, some token⟩)
      pure (.ok ())
    | .exists =>
      let current : Option OwnerText ← ask (.read (.material normalized))
      let ageSeconds ← lockAge (.material normalized)
      let recoverable ← isRecoverable (ownerPid current) ageSeconds
      if left = 1 ∧ recoverable then
        match (← ask (.unlink (.material normalized) .stale) : Removed) with
        | .removed | .missing => acquireMaterialLock pid token normalized left
        | .denied error =>
          pure (.error (.materialJobLocked
            ("material " ++ normalized ++ " stale lock could not be recovered: " ++ error)))
      else if ownerPid current = 0 then
        pure (.error (.materialJobLocked ("material " ++ normalized ++
          " derived artifact lock has no readable owner and is too recent to recover")))
      else
        pure (.error (.materialJobLocked ("material " ++ normalized ++
          " derived artifacts are owned by process " ++ toString (ownerPid current))))

/-- The `while True` loop of `_playback_catalog_write_lock`. -/
def acquireCatalogLock (pid : Nat) (token : String) (deadline : Nat) : Nat → Code Outcome
  | 0 => .diverge
  | fuel + 1 => do
    match (← ask (.create .catalog) : Created) with
    | .failed error => pure (.error (.osError error))
    | .opened descriptor =>
      let _ ← ask (.write .catalog descriptor ⟨pid, some token⟩)
      pure (.ok ())
    | .exists =>
      let owner : Option OwnerText ← ask (.read .catalog)
      let ageSeconds ← lockAge .catalog
      let stale ← isRecoverable (ownerPid owner) ageSeconds
      if ← recoverCatalogLock stale owner then acquireCatalogLock pid token deadline fuel
      else
        let now : Nat ← ask .monotonic
        if deadline ≤ now then
          pure (.error (.timeout ("playback catalog is owned by process " ++
            if ownerPid owner = 0 then "unknown" else toString (ownerPid owner))))
        else acquireCatalogLock pid token deadline fuel
where
  /-- A stale lock is read a second time and removed if it still carries the same token. -/
  recoverCatalogLock (stale : Bool) (owner : Option OwnerText) : Code Bool :=
    if stale then do
      match (← ask (.read .catalog) : Option OwnerText) with
      | none => pure false
      | some current =>
        if current.token = ownerToken owner then
          match (← ask (.unlink .catalog .stale) : Removed) with
          | .removed => pure true
          | .missing | .denied _ => pure false
        else pure false
    else pure false

/-- The `with` block: the section, and the release of a lock that is still the process' own. -/
def underLock (path : LockPath) (pid : Nat) (token : String) (body : Code Outcome)
    (onDenied : String → Outcome → Outcome) : Code Outcome := do
  let _ ← ask (.enter path)
  let outcome ← body
  let _ ← ask (.leave path)
  let current : Option OwnerText ← ask (.read path)
  if ownerToken current = some token ∧ ownerPid current = pid then
    match (← ask (.unlink path .release) : Removed) with
    | .removed | .missing => pure outcome
    | .denied error => pure (onDenied error outcome)
  else pure outcome

/-- `str.isspace` of one character. -/
def isSpace (character : Char) : Bool :=
  Text.isWhitespace character || (0x1C ≤ character.toNat && character.toNat ≤ 0x1F)

/-- `str.strip`. -/
def strip (text : String) : String :=
  String.ofList ((text.toList.dropWhile isSpace).reverse.dropWhile isSpace).reverse

/-- `isDigit` is `str.isdigit` of one character, which the Unicode table of the interpreter says. -/
def exclusiveMaterialJob (isDigit : Char → Bool) (pid : Nat) (token materialId : String)
    (body : Code Outcome) : Code Outcome :=
  let normalized := strip materialId
  if normalized.isEmpty ∨ ¬normalized.toList.all isDigit then
    pure (.error (.valueError "material_id must be numeric"))
  else do
    match ← acquireMaterialLock pid token normalized 2 with
    | .error raised => pure (.error raised)
    | .ok () =>
      underLock (.material normalized) pid token body fun error _ => .error (.osError error)

/-- The timeout in milliseconds; an error while the lock is released is ignored. -/
def playbackCatalogWriteLock (fuel pid : Nat) (token : String) (timeout : Nat)
    (body : Code Outcome) : Code Outcome := do
  let started : Nat ← ask .monotonic
  match ← acquireCatalogLock pid token (started + max 1000 timeout) fuel with
  | .error raised => pure (.error raised)
  | .ok () => underLock .catalog pid token body fun _ outcome => outcome

/-! ## The processes -/

/-- What a process does with the locks: sections one after the other and inside each other. -/
inductive Job (pid : Nat) : Code Outcome → Prop where
  | work (outcome : Outcome) : Job pid (pure outcome)
  | material (isDigit : Char → Bool) (token materialId : String) {body : Code Outcome}
    (inner : Job pid body) : Job pid (exclusiveMaterialJob isDigit pid token materialId body)
  | catalog (fuel : Nat) (token : String) (timeout : Nat) {body : Code Outcome}
    (inner : Job pid body) : Job pid (playbackCatalogWriteLock fuel pid token timeout body)
  | next {first second : Code Outcome} (before : Job pid first) (after : Job pid second) :
    Job pid (first >>= fun _ => second)

inductive Handler : Thread → Code Outcome → Prop where
  | process {pid : Nat} {job : Code Outcome} (positive : 0 < pid) (does : Job pid job) :
    Handler (.process pid) job
  | crash (pid : Nat) : Handler .world (do let _ ← ask (.crash pid); pure (.ok ()))
  | tick (seconds : Nat) : Handler .world (do let _ ← ask (.tick seconds); pure (.ok ()))

def creatorOf (shared : Shared) (path : LockPath) : Option Nat :=
  (shared.files.find? path).map (·.creator)

/-- A lock that is removed as stale is not one that a running process has created. -/
def recoveryUndisturbed : Call → Shared → Bool
  | .unlink path .stale, shared => (creatorOf shared path).all shared.ended.contains
  | _, _ => true

def lockRules : Rules Shared Thread Env Call Call.Reply Outcome where
  semantics := semantics
  handler := Handler
  undisturbed _ request shared := recoveryUndisturbed request shared = true
  initial shared := shared.inside = [] ∧
    ∀ path creator, creatorOf shared path = some creator → creator ∈ shared.ended

/-- No two running processes are in the section of this lock. -/
def Exclusive (path : LockPath) (shared : Shared) : Prop :=
  ∀ first second, (first, path) ∈ shared.inside → (second, path) ∈ shared.inside →
    first ∉ shared.ended → second ∉ shared.ended → first = second

end SteelInspection.Locks
