import SteelInspection.Artifacts.Discipline

/-! # The programs of a cleanup

Every program of the cleanup makes its calls only when they are prepared: by a rule for looking at
the disk, one for each function of the execution, and the fact that planning freezes no hash for what
it rejects.
-/

namespace SteelInspection.Artifacts

open Foundations Discipline

/-! ## Looking at the disk -/

section programs

variable {reader : Reader} {thread : Thread} {shared : Shared} {β : Type}

abbrev Cleans (reader : Reader) (thread : Thread) {β : Type} (post : β → Shared → Prop)
    (program : Code β) (shared : Shared) : Prop :=
  (cleanupDiscipline reader).Safe thread post program shared

theorem plainly_bind {γ : Type} {program : Code β} {next : β → Checked γ} {post : β → Shared → Prop}
    {last : Except String γ → Shared → Prop} (safe : Cleans reader thread post program shared)
    (continues : ∀ value current, post value current →
      Cleans reader thread last (next value).run current) :
    Cleans reader thread last (plainly program >>= next).run shared := by
  have first : Cleans reader thread (Returns post fun _ => False) (plainly program).run shared :=
    safe.bind fun value current holds => .pure holds
  exact first.attempt continues fun _ _ => False.elim

theorem described_bind {ε γ : Type} {describe : ε → String} {program : Code (Except ε β)}
    {next : β → Checked γ} {post : Except ε β → Shared → Prop} {last : γ → Shared → Prop}
    {failed : Shared → Prop} (safe : Cleans reader thread post program shared)
    (continues : ∀ value current, post (.ok value) current →
      Cleans reader thread (Returns last failed) (next value).run current)
    (fails : ∀ error current, post (.error error) current → failed current) :
    Cleans reader thread (Returns last failed) (described describe program >>= next).run shared := by
  have first : Cleans reader thread (Returns (fun value => post (.ok value)) failed)
      (described describe program).run shared := by
    refine safe.bind fun outcome current holds => ?_
    cases outcome with
    | ok value => exact .pure holds
    | error error => exact .pure (fails error current holds)
  exact first.andThen continues

def Stable (thread : Thread) (knows : Shared → Prop) : Prop :=
  ∀ ⦃shared current⦄, CleanupRely thread shared current → knows shared → knows current

def Timeless (knows : Shared → Prop) : Prop :=
  ∀ shared resolved, knows shared → knows { shared with resolved }

theorem Since.stable {path : List (Component String)}
    {fact : Option (RealPath × Option (Node String Bytes)) → Prop} :
    Stable thread (Since thread path fact) := by
  intro shared current relied since steady
  obtain ⟨before, same⟩ := relied.disk path steady
  rw [same]
  exact since before

theorem Stable.and {first second : Shared → Prop} (one : Stable thread first)
    (other : Stable thread second) : Stable thread fun shared => first shared ∧ second shared :=
  fun _ _ relied known => ⟨one relied known.1, other relied known.2⟩

variable {knows : Shared → Prop} {collected : Collected} {row : RecordCleanup}
  (request : CleanupRequest)

section

variable (stable : Stable thread knows)
include stable

theorem look_knows (call : Call) (looks : call.looks = true) (known : knows shared) :
    Cleans reader thread (fun reply current => knows current ∧
      ∃ env, semantics thread env call current = some (reply, current)) (ask call) shared := by
  refine Safe.ask call (fun _ _ _ => ?_) ?_
  · cases call <;> trivial
  · intro current relied _ _ env reply after ran _
    cases look_after looks ran
    exact ⟨stable relied known, env, ran⟩

theorem canonicalize_knows (timeless : Timeless knows) (path : RawPath) (known : knows shared) :
    Cleans reader thread (Returns (fun real current => knows current ∧
      Since thread path.components (LeadsTo real) current) knows)
      (ask (.canonicalize path)) shared := by
  refine Safe.ask (Call.canonicalize path) (fun _ _ _ => trivial) ?_
  intro current relied _ _ env reply after ran _
  obtain ⟨isReal, rfl⟩ := Prod.mk.inj (Option.some.inj ran)
  have known := stable relied known
  cases reply with
  | error error => exact timeless current _ known
  | ok real =>
    refine ⟨timeless current _ known, fun _ => ⟨current.disk.tree real, ?_⟩⟩
    show current.disk.seen path.components = _
    rw [Disk.seen, Env.look_ok isReal]

/-- The path leads to a file within the roots, as long as that is not changed. -/
def Resolves (thread : Thread) (path : RawPath) (roots : List RealPath)
    (found : Option RealPath) (shared : Shared) : Prop :=
  ∀ canonical ∈ found,
    withinRoots roots canonical = true ∧ Since thread path.components (LeadsTo canonical) shared

theorem canonicalFileWithinRoots_knows (timeless : Timeless knows) (path : RawPath)
    (roots : List RealPath) (known : knows shared) :
    Cleans reader thread (Returns (fun found current => knows current ∧
      Resolves thread path roots found current) knows)
      (canonicalFileWithinRoots path roots).run shared := by
  unfold canonicalFileWithinRoots
  split
  · exact .pure known
  refine plainly_bind (look_knows stable (.present path) rfl known) fun present current known => ?_
  split
  · split
    · exact .pure known.1
    rename_i parent _
    refine described_bind (canonicalize_knows stable timeless parent known.1)
      (fun real current known => ?_) fun _ _ known => known
    split
    · exact .pure ⟨known.1, nofun⟩
    · exact .pure known.1
  · refine described_bind (canonicalize_knows stable timeless path known.1)
      (fun canonical current known => ?_) fun _ _ known => known
    split
    · exact .pure known.1
    rename_i inside
    refine plainly_bind (look_knows (stable.and Since.stable) (.isFile canonical) rfl known)
      fun isFile current known => ?_
    split
    · exact .pure known.1.1
    · refine .pure ⟨known.1.1, fun other isOther => ?_⟩
      cases isOther
      exact ⟨by simpa using inside, known.1.2⟩

theorem sha256File_knows (path : RealPath) (known : knows shared) :
    Cleans reader thread (Returns (fun hash current => knows current ∧
      ∃ bytes, current.disk.read path = .ok bytes ∧ reader.sha256 bytes = hash) knows)
      (sha256File reader path).run shared := by
  refine described_bind (look_knows stable (.read path) rfl known) (fun bytes current known => ?_)
    fun _ _ known => known.1
  obtain ⟨known, env, ran⟩ := known
  refine .pure ⟨known, bytes, ?_, rfl⟩
  simp only [semantics] at ran
  split at ran
  · cases ran
  · exact Env.look_ok (Prod.mk.inj (Option.some.inj ran)).1

end

/-! ## One entry -/

section seeing

variable {disk : Disk} {path : RealPath} {components : List (Component String)}

theorem canonicalize_eq_ok {components : List (Component String)} :
    disk.canonicalize components = .ok path ↔
      disk.tree.resolve Disk.maxLinks components = .ok path := by
  unfold Disk.canonicalize
  cases disk.tree.resolve Disk.maxLinks components <;> simp [Except.mapError]

theorem nodeAt_real (real : FileTree.Real disk.tree path) :
    disk.nodeAt (FileTree.written path) = .ok ((disk.tree path).getD .directory) := by
  unfold Disk.nodeAt
  rw [canonicalize_eq_ok.mpr (real.resolve Disk.maxLinks)]
  rfl

theorem file_of_read {bytes : Bytes} (real : FileTree.Real disk.tree path)
    (read : disk.read path = .ok bytes) : disk.tree path = some (.file bytes) := by
  unfold Disk.read at read
  rw [nodeAt_real real] at read
  cases node : disk.tree path with
  | none =>
    rw [node] at read
    cases read
  | some found => grind

theorem seen_eq_some {node : Option (Node String Bytes)} :
    disk.seen components = some (path, node) ↔
      disk.canonicalize components = .ok path ∧ disk.tree path = node := by
  unfold Disk.seen
  split <;> grind

theorem real_of_seen {node : Option (Node String Bytes)}
    (seen : disk.seen components = some (path, node)) : FileTree.Real disk.tree path :=
  FileTree.resolve_real (canonicalize_eq_ok.mp (seen_eq_some.mp seen).1)

theorem hasLength_of_length {length : Nat} (leads : LeadsTo path (disk.seen components))
    (isLength : disk.length path = .ok length) : HasLength path length (disk.seen components) := by
  obtain ⟨node, seen⟩ := leads
  refine ⟨node, seen, fun bytes isFile => ?_⟩
  rw [Disk.length, nodeAt_real (real_of_seen seen), (seen_eq_some.mp seen).2, isFile] at isLength
  exact Except.ok.inj isLength

theorem unchanged_of_read {planned : CleanupEntry} {bytes : Bytes}
    (measured : HasLength path planned.sizeBytes (disk.seen components))
    (read : disk.read path = .ok bytes) (sum : reader.sha256 bytes = planned.sha256) :
    Unchanged reader planned path (disk.seen components) := by
  obtain ⟨node, seen, isLength⟩ := measured
  have isNode : node = some (.file bytes) :=
    (seen_eq_some.mp seen).2.symm.trans (file_of_read (real_of_seen seen) read)
  exact ⟨bytes, isNode ▸ seen, isLength bytes isNode, sum⟩

end seeing

structure Working (thread : Thread) (id recordId : String) (plan : CleanupManifest)
    (roots : List RealPath) (shared : Shared) : Prop where
  planned : Planned id recordId plan shared
  roots : shared.rootsOf thread = roots

section entries

variable {id recordId : String} {plan : CleanupManifest} {roots : List RealPath}
  {knows : Shared → Prop}

theorem Working.stable : Stable thread (Working thread id recordId plan roots) :=
  fun _ _ relied working => ⟨relied.rows _ _ _ working.planned, relied.roots.trans working.roots⟩

theorem Working.timeless : Timeless (Working thread id recordId plan roots) :=
  fun _ _ working => ⟨working.planned, working.roots⟩

theorem act_working (stable : Stable thread knows)
    (implies : ∀ current, knows current → Working thread id recordId plan roots current)
    (call : Call) (act : call ≠ .allowedRoots)
    (prepared : ∀ current, knows current → Prepared reader thread call current)
    (known : knows shared) : Cleans reader thread
      (fun _ => Working thread id recordId plan roots) (ask call) shared := by
  refine Safe.ask call (fun current relied _ => prepared current (stable relied known)) ?_
  intro current relied _ _ env reply after ran _
  have working := implies current (stable relied known)
  have effect : Effect thread env current call after := effect_of_call ran
  refine ⟨working.planned.kept effect, Eq.trans ?_ working.roots⟩
  cases effect with
  | allows => exact absurd rfl act
  | _ => rfl

variable {planned entry : CleanupEntry} {manifest : CleanupManifest}

theorem removeFile_working {path : RealPath} {entry : EntryReference}
    (isCleanup : entry.cleanupId = id) (mem : plan.entries[entry.index]? = some planned)
    (samePath : planned.path = entry.path) (hashed : planned.sha256 ≠ "")
    (inside : withinRoots roots path = true)
    (known : Working thread id recordId plan roots shared ∧
      Since thread (RawPath.ofText planned.path).components (Unchanged reader planned path)
        shared) :
    Cleans reader thread (fun _ => Working thread id recordId plan roots)
      (ask (.removeFile path entry)) shared := by
  subst isCleanup
  refine act_working (Working.stable.and Since.stable) (fun _ known => known.1) _ (by simp)
    (fun current known => ?_) known
  obtain ⟨working, unchanged⟩ := known
  exact ⟨recordId, plan, planned, working.planned, mem, samePath, hashed,
    by rw [working.roots]; exact inside, unchanged⟩

abbrev EntryExecuted (thread : Thread) (id recordId : String) (plan : CleanupManifest)
    (roots : List RealPath) (planned : CleanupEntry) : Except String CleanupEntry → Shared → Prop :=
  Returns (fun executed shared => Working thread id recordId plan roots shared ∧
    planned.Keeps executed ∧ executed.status.isDone = true) (Working thread id recordId plan roots)

theorem removeUnchanged_working {reference : EntryReference} {path : RealPath}
    (isCleanup : reference.cleanupId = id) (mem : plan.entries[reference.index]? = some planned)
    (samePath : planned.path = reference.path) (keeps : planned.Keeps entry)
    (inside : withinRoots roots path = true)
    (known : Working thread id recordId plan roots shared ∧
      Since thread (RawPath.ofText planned.path).components (LeadsTo path) shared) :
    Cleans reader thread (EntryExecuted thread id recordId plan roots planned)
      (removeUnchanged reader reference entry path).run shared := by
  have sameSize := keeps.2.1
  have sameHash := keeps.2.2
  refine described_bind (look_knows (Working.stable.and Since.stable) (.metadata path) rfl known)
    (fun length current known => ?_) fun _ _ known => known.1.1
  obtain ⟨⟨working, resolves⟩, env, measured⟩ := known
  split
  · exact .pure working
  rename_i isSize
  -- what the calls have found is true of the disk at this moment
  have isLength : current.disk.length path = .ok planned.sizeBytes := by
    rw [← sameSize, ← not_not.mp isSize]
    exact Env.look_ok (Prod.mk.inj (Option.some.inj measured)).1
  have measured : Since thread (RawPath.ofText planned.path).components
      (HasLength path planned.sizeBytes) current :=
    fun steady => hasLength_of_length (resolves steady) isLength
  refine (sha256File_knows (Working.stable.and Since.stable) path ⟨working, measured⟩).attempt
    (fun hash current known => ?_) fun _ _ known => known.1
  obtain ⟨⟨working, measured⟩, bytes, read, isHash⟩ := known
  split
  · exact .pure working
  rename_i sameSum
  have sum : reader.sha256 bytes = planned.sha256 :=
    isHash.trans ((not_not.mp sameSum).trans sameHash)
  have unchanged : Since thread (RawPath.ofText planned.path).components
      (Unchanged reader planned path) current :=
    fun steady => unchanged_of_read (measured steady) read sum
  have hashed : planned.sha256 ≠ "" := sum ▸ reader.sha256_ne bytes
  exact described_bind (removeFile_working isCleanup mem samePath hashed inside
    ⟨working, unchanged⟩) (fun _ current working => .pure ⟨working, keeps, rfl⟩)
    fun _ _ working => working

section

variable {index : Nat} (mem : plan.entries[index]? = some planned) (keeps : planned.Keeps entry)
  (working : Working thread id recordId plan roots shared)
include mem keeps working

theorem removeEntry_working :
    Cleans reader thread (EntryExecuted thread id recordId plan roots planned)
      (removeEntry reader id index entry roots).run shared := by
  refine (canonicalFileWithinRoots_knows Working.stable Working.timeless _ roots working).attempt
    (fun found current known => ?_) fun _ _ working => working
  obtain ⟨working, facts⟩ := known
  cases found with
  | none => exact .pure ⟨working, keeps, rfl⟩
  | some canonical =>
    obtain ⟨inside, resolves⟩ := facts canonical rfl
    rw [keeps.1] at resolves
    exact removeUnchanged_working rfl mem keeps.1.symm keeps inside ⟨working, resolves⟩

theorem executeEntry_working :
    Cleans reader thread (EntryExecuted thread id recordId plan roots planned)
      (executeEntry reader id index entry roots).run shared := by
  unfold executeEntry
  cases status : entry.status with
  | deleted | missing => exact .pure ⟨working, keeps, by rw [status]; rfl⟩
  | rejected => exact .pure working
  | planned | failed => exact removeEntry_working mem keeps working

end

/-! ## A whole execution -/

abbrev Kept (knows : Shared → Prop) : Except String β → Shared → Prop := Returns (fun _ => knows) knows

theorem described_keeps {ε : Type} {describe : ε → String} {program : Code (Except ε β)}
    (safe : Cleans reader thread (fun _ => knows) program shared) :
    Cleans reader thread (Kept knows) (described describe program).run shared :=
  safe.bind fun outcome _ known => by cases outcome <;> exact .pure known

section

variable (working : Working thread id recordId plan roots shared)
include working

theorem updateRecordCleanupProgress_working {status : CleanupStatus} {error : String}
    (follows : plan.Follows manifest) :
    Cleans reader thread (Kept (Working thread id recordId plan roots))
      (updateRecordCleanupProgress id status manifest error).run shared := by
  refine described_bind (look_knows Working.stable (.findCleanup id) rfl working)
    (fun found current known => ?_) fun _ _ known => known.1
  split
  · exact .pure known.1
  · refine described_keeps (act_working Working.stable (fun _ known => known)
      (.updateCleanup id ⟨status, manifest, manifest.counts, error⟩) (by simp)
      (fun current working => ?_) known.1)
    exact ⟨recordId, plan, working.planned, follows⟩

/-- The entries before the current one are done, the others are as they were stored. -/
theorem executeEntries_working {entries ran : List CleanupEntry} {planned later : List CleanupEntry}
    (isPlan : plan.entries = planned ++ later) (kept : List.Forall₂ CleanupEntry.Keeps planned ran)
    (isDone : ∀ entry ∈ ran, entry.status.isDone = true)
    (rest : List.Forall₂ CleanupEntry.Keeps later entries) :
    Cleans reader thread (Returns (fun result current =>
        Working thread id recordId plan roots current ∧
        List.Forall₂ CleanupEntry.Keeps plan.entries result ∧
        ∀ entry ∈ result, entry.status.isDone = true) (Working thread id recordId plan roots))
      (executeEntries reader id manifest roots ran entries).run shared := by
  induction rest generalizing planned ran shared with
  | nil =>
    refine .pure ⟨working, ?_, isDone⟩
    rwa [isPlan, List.append_nil]
  | @cons current entry later entries keeps rest ih =>
    have place : plan.entries[ran.length]? = some current := by
      rw [isPlan, ← kept.length_eq]
      simp
    have follows : ∀ changed : CleanupEntry, current.Keeps changed →
        plan.Follows { manifest with entries := ran ++ changed :: entries } := by
      intro changed keeps
      show List.Forall₂ CleanupEntry.Keeps plan.entries (ran ++ changed :: entries)
      rw [isPlan]
      exact List.rel_append kept (.cons keeps rest)
    refine plainly_bind (executeEntry_working place keeps working) fun outcome shared known => ?_
    cases outcome with
    | error error =>
      refine (updateRecordCleanupProgress_working known (follows _ ?_)).andThen
        fun _ _ working => .pure working
      exact keeps
    | ok changed =>
      obtain ⟨working, keeps, changedDone⟩ := known
      refine (updateRecordCleanupProgress_working working (follows changed keeps)).andThen
        fun _ shared working => ?_
      refine @ih _ working _ (planned ++ [current]) (by simp [isPlan])
        (List.rel_append kept (.cons keeps .nil)) fun entry mem => ?_
      rcases List.mem_append.mp mem with old | new
      · exact isDone entry old
      · rw [List.mem_singleton.mp new]
        exact changedDone

theorem removeDirectories_working (directories : List String) :
    Cleans reader thread (Kept (Working thread id recordId plan roots))
      (removeDirectories roots directories).run shared := by
  induction directories generalizing shared with
  | nil => exact .pure working
  | cons directory directories ih =>
    refine plainly_bind (look_knows Working.stable (.present _) rfl working)
      fun present current known => ?_
    split
    · exact ih known.1
    refine described_bind (canonicalize_knows Working.stable Working.timeless _ known.1)
      (fun canonical current known => ?_) fun _ _ working => working
    refine plainly_bind (look_knows Working.stable (.isDir canonical) rfl known.1)
      fun isDir current known => ?_
    split
    · exact .pure known.1
    · refine described_bind (act_working Working.stable (fun _ known => known)
        (.removeDir canonical) (by simp) (fun _ _ => trivial) known.1)
        (fun _ current working => ih working) fun _ _ working => working

theorem completeRecordCleanup_working {counts : ManifestCounts} (follows : plan.Follows manifest)
    (isDone : ∀ entry ∈ manifest.entries, entry.status.isDone = true) :
    Cleans reader thread (Kept (Working thread id recordId plan roots))
      (completeRecordCleanup ⟨id, recordId, manifest, counts⟩).run shared := by
  refine described_bind (look_knows Working.stable (.findRecord recordId) rfl working)
    (fun found current known => ?_) fun _ _ known => known.1
  split
  · exact .pure known.1
  · refine described_keeps (act_working Working.stable (fun _ known => known)
      (.completeCleanup ⟨id, recordId, manifest, counts⟩) (by simp) (fun current working => ?_)
      known.1)
    exact ⟨plan, working.planned, follows, isDone⟩

end

theorem allowedRoots_working (planned : Planned id recordId plan shared) :
    Cleans reader thread (Returns (Working thread id recordId plan) fun _ => True)
      allowedRoots.run shared := by
  refine Safe.ask Call.allowedRoots (fun _ _ _ => trivial) ?_
  intro current relied _ _ env reply after ran _
  have stillPlanned : Planned id recordId plan current := relied.rows _ _ _ planned
  simp only [Rules.free, cleanupRules, semantics] at ran
  split at ran <;> cases ran
  · exact ⟨stillPlanned, if_pos rfl⟩
  · trivial

end entries

def Loaded (row : RecordCleanup) (shared : Shared) : Prop :=
  row.Frozen ∧ Planned row.id row.recordId row.plan shared

theorem executeCleanup_safe {cleanup : RecordCleanup} (loaded : Loaded cleanup shared) :
    Cleans reader thread (fun _ _ => True) (executeCleanup reader cleanup)
      shared := by
  have safe : Cleans reader thread (fun _ _ => True)
      (executePersistedCleanup reader cleanup).run shared := by
    obtain ⟨frozen, planned⟩ := loaded
    refine (allowedRoots_working planned).attempt (fun roots current working => ?_)
      fun _ _ _ => trivial
    dsimp only
    split
    · exact .pure trivial
    split
    · exact .pure trivial
    refine (executeEntries_working working (List.nil_append _).symm .nil (by simp)
      frozen.follows).attempt (fun entries current known => ?_) fun _ _ _ => trivial
    obtain ⟨working, follows, isDone⟩ := known
    refine (removeDirectories_working working _).attempt (fun _ current working => ?_)
      fun _ _ _ => trivial
    have isFollowed : cleanup.plan.Follows { cleanup.manifest with entries } := follows
    exact (completeRecordCleanup_working working isFollowed isDone).attempt
      (fun _ _ _ => .pure trivial) fun _ _ _ => trivial
  refine safe.bind fun outcome current _ => ?_
  split <;> exact .pure trivial

/-! ## Planning -/

theorem stable_true : Stable thread fun _ => True := fun _ _ _ known => known

theorem look_any (call : Call) (looks : call.looks = true) :
    Cleans reader thread (fun _ _ => True) (ask call) shared :=
  (look_knows stable_true call looks trivial).mono fun _ _ _ => trivial

theorem canonicalFileWithinRoots_any (path : RawPath) (roots : List RealPath) :
    Cleans reader thread (fun _ _ => True)
      (canonicalFileWithinRoots path roots).run shared :=
  (canonicalFileWithinRoots_knows stable_true (fun _ _ known => known) path roots trivial).mono
    fun _ _ _ => trivial

theorem allowedRoots_any : Cleans reader thread (fun _ _ => True) allowedRoots.run shared :=
  .ask_any Call.allowedRoots fun _ _ _ => trivial

theorem candidate_unhashed (rawPath kind : String) (roots : List RealPath) :
    Cleans reader thread (fun entry _ => entry.Unhashed)
      (candidate reader rawPath kind roots) shared := by
  have rejected : ∀ path error, (rejectedEntry path kind error).Unhashed := fun _ _ _ => rfl
  refine (canonicalFileWithinRoots_any _ roots).bind fun outcome current _ => ?_
  split
  next canonical =>
    refine (look_any (.metadata canonical) rfl).bind fun measured current _ => ?_
    split
    · refine (sha256File_knows stable_true canonical trivial).bind fun hashed current _ => ?_
      split
      · exact .pure nofun
      · exact .pure (rejected _ _)
    · exact .pure (rejected _ _)
  · exact .pure nofun
  · exact .pure (rejected _ _)

def Collected.Unhashed (collected : Collected) : Prop := ∀ entry ∈ collected.entries, entry.Unhashed

section

variable (unhashed : collected.Unhashed)
include unhashed

theorem Collected.Unhashed.add {entry : CleanupEntry} (also : entry.Unhashed) :
    (collected.add entry).Unhashed := by
  unfold Collected.add
  dsimp only
  split
  · exact unhashed
  intro other mem
  rcases List.mem_append.mp mem with old | new
  · exact unhashed other old
  · rw [List.mem_singleton.mp new]
    exact also

theorem addCandidate_unhashed (rawPath kind : String) (roots : List RealPath) :
    Cleans reader thread (fun result _ => result.Unhashed)
      (addCandidate reader collected rawPath kind roots) shared := by
  unfold addCandidate
  split
  · exact .pure unhashed
  · exact (candidate_unhashed rawPath kind roots).bind fun entry _ also => .pure (unhashed.add also)

theorem addCandidates_unhashed (roots : List RealPath) (candidates : List (String × String)) :
    Cleans reader thread (fun result _ => result.Unhashed)
      (addCandidates reader roots candidates collected) shared := by
  induction candidates generalizing collected shared with
  | nil => exact .pure unhashed
  | cons first candidates ih =>
    exact (addCandidate_unhashed unhashed first.1 first.2 roots).bind
      fun _ _ unhashed => ih unhashed

end

theorem summaryReferences_any (summaryPath : String) (roots : List RealPath) :
    Cleans reader thread (fun _ _ => True)
      (summaryReferences reader summaryPath roots) shared := by
  unfold summaryReferences
  split
  · exact .pure trivial
  refine (canonicalFileWithinRoots_any _ roots).bind fun outcome current _ => ?_
  split
  next canonical =>
    refine (look_any (.read canonical) rfl).bind fun bytes current _ => ?_
    split
    · split <;> exact .pure trivial
    · exact .pure trivial
  · exact .pure trivial

/-- What the program answers, if it answers, meets `post`. -/
abbrev Plans (reader : Reader) (thread : Thread) (post : β → Prop) (program : Checked β)
    (shared : Shared) : Prop :=
  Cleans reader thread (Returns (fun value _ => post value) fun _ => True) program.run shared

theorem buildManifest_unhashed (record : InspectionRecord) :
    Plans reader thread CleanupManifest.Unhashed (buildManifest reader record) shared := by
  unfold buildManifest
  split
  · exact .pure trivial
  split
  · exact .pure trivial
  refine allowedRoots_any.attempt (fun roots current _ => ?_) fun _ _ _ => trivial
  refine plainly_bind (addCandidates_unhashed (by intro entry mem; cases mem) roots _)
    fun collected current unhashed => ?_
  refine plainly_bind (summaryReferences_any _ roots) fun referenced current _ => ?_
  exact plainly_bind (addCandidates_unhashed unhashed roots _) fun _ _ unhashed => .pure unhashed

theorem collectItems_unhashed {roots : List RealPath} {directory : RealPath}
    {walk : RealPath → Collected → Checked Collected}
    (walks : ∀ path collected shared, collected.Unhashed →
      Plans reader thread Collected.Unhashed (walk path collected) shared)
    (items : List (String × Disk.EntryKind)) (unhashed : collected.Unhashed) :
    Plans reader thread Collected.Unhashed
      (collectItems reader roots directory walk items collected) shared := by
  induction items generalizing collected shared with
  | nil => exact .pure unhashed
  | cons item items ih =>
    have first : Plans reader thread Collected.Unhashed
        (collectItem reader roots (directory ++ [item.1]) walk item.2 collected) shared := by
      unfold collectItem
      split
      · exact .pure trivial
      · exact walks _ _ _ unhashed
      · exact (addCandidate_unhashed unhashed _ _ roots).bind fun _ _ unhashed => .pure unhashed
    exact first.andThen fun _ _ unhashed => ih unhashed

theorem collectCacheTree_unhashed (roots : List RealPath) (depth : Nat) (directory : RawPath)
    (unhashed : collected.Unhashed) : Plans reader thread Collected.Unhashed
      (collectCacheTree reader roots depth directory collected) shared := by
  induction depth generalizing directory collected shared with
  | zero => exact .diverge
  | succ depth ih =>
    refine described_bind (canonicalize_knows stable_true (fun _ _ known => known) directory trivial)
      (fun canonical current _ => ?_) fun _ _ _ => trivial
    refine plainly_bind (look_any (.isDir canonical) rfl) fun isDir current _ => ?_
    split
    · exact .pure trivial
    · refine described_bind (look_any (.readDir canonical) rfl) (fun items current _ => ?_)
        fun _ _ _ => trivial
      exact collectItems_unhashed (fun path collected shared unhashed =>
        ih (RawPath.ofReal path) unhashed) items unhashed

theorem appendCacheTree_unhashed {manifest : CleanupManifest} (depth : Nat)
    (cacheRecordRoot : RawPath) (unhashed : manifest.Unhashed) :
    Plans reader thread CleanupManifest.Unhashed
      (appendCacheTree reader depth cacheRecordRoot manifest) shared := by
  refine plainly_bind (look_any (.present cacheRecordRoot) rfl) fun present current _ => ?_
  split
  · exact .pure unhashed
  refine allowedRoots_any.attempt (fun roots current _ => ?_) fun _ _ _ => trivial
  have before : Collected.Unhashed ⟨manifest.entries, manifest.directories,
    manifest.entries.map fun entry => pathKey entry.path⟩ := unhashed
  exact (collectCacheTree_unhashed roots depth cacheRecordRoot before).andThen
    fun _ _ unhashed => .pure unhashed

/-! ## The requests -/

theorem Sound.loaded (sound : Sound shared) (mem : row ∈ shared.cleanups.rows) :
    Loaded row shared := by
  have found := Table.mem_rows_iff.mp mem
  exact ⟨sound.frozen row.id row found, row, found, rfl, rfl⟩

theorem findCleanup_loaded (id : String) :
    Cleans reader thread (fun reply current => ∀ row, reply = .ok (some row) →
      Loaded row current) (ask (.findCleanup id)) shared := by
  refine Safe.ask (Call.findCleanup id) (fun _ _ _ => trivial) ?_
  intro current relied sound _ env reply after ran _ row isRow
  subst isRow
  obtain ⟨found, rfl⟩ := Connection.query_ok ran
  exact Sound.loaded sound (List.mem_of_find?_eq_some found.symm)

theorem newest_mem (rows : List RecordCleanup) {best : Option RecordCleanup}
    (isNewest : rows.foldl newest best = some row) : row ∈ rows ∨ best = some row := by
  induction rows generalizing best with
  | nil => exact .inr isNewest
  | cons head tail ih =>
    rcases ih isNewest with mem | isBest
    · exact .inl (List.mem_cons_of_mem _ mem)
    unfold newest at isBest
    split at isBest
    · cases isBest
      exact .inl List.mem_cons_self
    · grind

theorem findOpenCleanup_loaded (recordId : String) :
    Cleans reader thread (fun reply current => ∀ row, reply = .ok (some row) →
      Loaded row current) (ask (.findOpenCleanup recordId)) shared := by
  refine Safe.ask (Call.findOpenCleanup recordId) (fun _ _ _ => trivial) ?_
  intro current relied sound _ env reply after ran _ row isRow
  subst isRow
  obtain ⟨found, rfl⟩ := Connection.query_ok ran
  have mem := (newest_mem _ found.symm).resolve_right (by simp)
  exact Sound.loaded sound (List.mem_of_mem_filter mem)

theorem insertCleanup_loaded {input : RecordCleanupInput} (unhashed : input.manifest.Unhashed) :
    Cleans reader thread (Returns Loaded fun _ => True) (ask (.insertCleanup input)) shared := by
  refine Safe.ask (Call.insertCleanup input) (fun _ _ _ => unhashed) ?_
  intro current relied _ _ env reply after ran _
  cases reply with
  | error _ => trivial
  | ok row =>
    simp only [Rules.free, cleanupRules, semantics] at ran
    split at ran
    next cleanups inserted =>
      obtain ⟨isRow, rfl⟩ := Connection.write_ok ran
      cases isRow
      refine ⟨⟨follows_refl _, unhashed⟩, input.row env, ?_, rfl, rfl⟩
      rw [Table.find?_insert inserted, if_pos rfl]
    · cases (Connection.write_ok ran).1

theorem planRecordCleanup_loaded :
    Cleans reader thread (Returns Loaded fun _ => True) (planRecordCleanup reader request).run
      shared := by
  refine described_bind (look_any (.findRecord request.recordId) rfl) (fun found current _ => ?_)
    fun _ _ _ => trivial
  split
  · exact .pure trivial
  rename_i record
  refine described_bind (look_any (.countUnresolved record.sessionId) rfl) (fun count current _ => ?_)
    fun _ _ _ => trivial
  split
  · exact .pure trivial
  refine allowedRoots_any.attempt (fun _ current _ => ?_) fun _ _ _ => trivial
  refine (buildManifest_unhashed record).andThen fun manifest current unhashed => ?_
  refine (appendCacheTree_unhashed request.depth request.cacheRecordRoot unhashed).andThen
    fun manifest current unhashed => ?_
  refine described_bind (findOpenCleanup_loaded _) (fun found current loaded => ?_)
    fun _ _ _ => trivial
  split
  next existing =>
    exact .pure (loaded existing rfl)
  · refine (insertCleanup_loaded ?_).bind fun outcome _ loaded => ?_
    · exact unhashed
    cases outcome <;> exact .pure loaded

theorem executeRecordArtifactCleanup_safe :
    Cleans reader thread (fun _ _ => True)
      (executeRecordArtifactCleanup reader request) shared := by
  refine (findOpenCleanup_loaded request.recordId).bind fun found current loaded => ?_
  split
  · exact .pure trivial
  next cleanup =>
    exact executeCleanup_safe (loaded cleanup rfl)
  refine (planRecordCleanup_loaded request).bind fun outcome current loaded => ?_
  split
  · exact .pure trivial
  next cleanup =>
    exact executeCleanup_safe loaded

theorem retryRecordCleanup_safe (id : String) :
    Cleans reader thread (fun _ _ => True) (retryRecordCleanup reader id) shared := by
  unfold retryRecordCleanup
  split
  · exact .pure trivial
  refine (findCleanup_loaded id).bind fun found current loaded => ?_
  split
  next cleanup =>
    split
    · exact .pure trivial
    · exact (executeCleanup_safe (loaded cleanup rfl)).bind fun _ _ _ => .pure trivial
  · exact .pure trivial
  · exact .pure trivial

theorem task_safe (task : CleanupTask) :
    Cleans reader thread (fun _ _ => True) (task.program reader) shared := by
  cases task with
  | cleanup request =>
    exact (executeRecordArtifactCleanup_safe request).bind fun _ _ _ => .pure trivial
  | retry id => exact retryRecordCleanup_safe id
  | change disk =>
    exact .bind (.ask_any (Call.change disk) fun _ _ _ => trivial) fun _ _ _ => .pure trivial

end programs

end SteelInspection.Artifacts
