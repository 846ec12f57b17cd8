import SteelInspection.Artifacts.Manifest

/-! # Planning a cleanup

`build_manifest` and `append_cache_tree`: the files of a record that may be deleted, each with the
length and the hash it has now, and the files that were asked for and may not be deleted.
-/

namespace SteelInspection.Artifacts

open Foundations

/-- What the cleanup makes of the bytes of a file. -/
structure Reader where
  sha256 : Bytes → String
  sha256_ne : ∀ bytes, sha256 bytes ≠ ""
  json : Bytes → Option Json

abbrev Code := Program Call Call.Reply

/-- Code that may end with the text of an error. -/
abbrev Checked := Attempt Call Call.Reply String

abbrev ask (request : Call) : Code request.Reply := Program.ask request

def described {ε β : Type} (describe : ε → String) (program : Code (Except ε β)) : Checked β :=
  ExceptT.mk (program >>= fun outcome => Program.pure (outcome.mapError describe))

/-- A call that cannot fail. -/
def plainly {β : Type} (program : Code β) : Checked β :=
  ExceptT.mk (program >>= fun value => Program.pure (.ok value))

def allowedRoots : Checked (List RealPath) := ExceptT.mk (ask .allowedRoots)

def canonicalFileWithinRoots (path : RawPath) (roots : List RealPath) :
    Checked (Option RealPath) := do
  if !path.absolute || isForbiddenMaintenancePath path.components then
    throw "artifact path is outside the deletable production namespace"
  else if !(← plainly (ask (.present path))) then
    match path.parent with
    | none => throw "artifact path has no parent"
    | some parent => do
      let canonicalParent ← described (fun _ => "missing artifact parent cannot be verified")
        (ask (.canonicalize parent))
      if withinRoots roots canonicalParent then pure none
      else throw "missing artifact path is outside allowed roots"
  else do
    let canonical ← described ("artifact path cannot be canonicalized: " ++ ·)
      (ask (.canonicalize path))
    if !withinRoots roots canonical then throw "artifact path escapes allowed roots"
    else if !(← plainly (ask (.isFile canonical))) then
      throw "artifact cleanup only deletes regular files"
    else pure (some canonical)

def readErrorText : Disk.ReadError → String
  | .opening error => "artifact open failed: " ++ error
  | .reading error => "artifact hash read failed: " ++ error

def sha256File (reader : Reader) (path : RealPath) : Checked String := do
  let bytes ← described readErrorText (ask (.read path))
  pure (reader.sha256 bytes)

mutual

/-- The absolute paths among the texts of a summary. -/
def collectSummaryPaths : Json → List String
  | .str text => if (RawPath.ofText text).absolute && !Text.contains text "://" then [text] else []
  | .arr items => collectFromItems items
  | .obj fields => collectFromFields fields
  | _ => []

def collectFromItems : List Json → List String
  | [] => []
  | item :: items => collectSummaryPaths item ++ collectFromItems items

def collectFromFields : List (String × Json) → List String
  | [] => []
  | (_, value) :: fields => collectSummaryPaths value ++ collectFromFields fields

end

/-- What has been collected so far. -/
structure Collected where
  entries : List CleanupEntry := []
  directories : List String := []
  seen : List String := []

def rejectedEntry (path kind error : String) : CleanupEntry := ⟨path, kind, 0, "", .rejected, error⟩

/-- The entry for a path: what `add_candidate` finds out about it. -/
def candidate (reader : Reader) (rawPath kind : String) (roots : List RealPath) :
    Code CleanupEntry := do
  match ← (canonicalFileWithinRoots (RawPath.ofText rawPath) roots).run with
  | .ok (some canonical) =>
    match ← ask (.metadata canonical) with
    | .ok length =>
      match ← (sha256File reader canonical).run with
      | .ok hash => pure ⟨display canonical, kind, length, hash, .planned, ""⟩
      | .error error => pure (rejectedEntry (display canonical) kind error)
    | .error error =>
      pure (rejectedEntry (display canonical) kind ("artifact metadata failed: " ++ error))
  | .ok none => pure ⟨rawPath, kind, 0, "", .missing, ""⟩
  | .error error => pure (rejectedEntry rawPath kind error)

def Collected.add (collected : Collected) (entry : CleanupEntry) : Collected :=
  let key := pathKey entry.path
  if collected.seen.contains key then collected
  else { collected with entries := collected.entries ++ [entry], seen := collected.seen ++ [key] }

def addCandidate (reader : Reader) (collected : Collected) (rawPath kind : String)
    (roots : List RealPath) : Code Collected := do
  if (Text.trim rawPath).isEmpty || Text.contains rawPath "://" then pure collected
  else do
    let entry ← candidate reader rawPath kind roots
    pure (collected.add entry)

def addCandidates (reader : Reader) (roots : List RealPath) :
    List (String × String) → Collected → Code Collected
  | [], collected => pure collected
  | (rawPath, kind) :: candidates, collected => do
    let collected ← addCandidate reader collected rawPath kind roots
    addCandidates reader roots candidates collected

def captureCandidates (record : InspectionRecord) : List (String × String) :=
  record.captureFiles.flatMap fun file => [(file.path, "capture"), (file.metadataPath, "metadata")]

/-- The paths that the summary refers to; none when it cannot be read. -/
def summaryReferences (reader : Reader) (summaryPath : String) (roots : List RealPath) :
    Code (List String) := do
  if summaryPath.isEmpty then pure []
  else
    match ← (canonicalFileWithinRoots (RawPath.ofText summaryPath) roots).run with
    | .ok (some canonical) =>
      match ← ask (.read canonical) with
      | .ok bytes =>
        match reader.json bytes with
        | some value => pure (collectSummaryPaths value)
        | none => pure []
      | .error _ => pure []
    | _ => pure []

def buildManifest (reader : Reader) (record : InspectionRecord) : Checked CleanupManifest := do
  match record.sessionStatus with
  | none => throw "record cleanup requires a retained material session"
  | some status =>
    if status ≠ "finished" then throw "record cleanup requires a finished material session"
    else do
      let roots ← allowedRoots
      let summaryPath := Text.trim record.summaryPath
      let collected ← plainly (addCandidates reader roots
        (captureCandidates record ++ [(summaryPath, "summary")]) {})
      let referenced ← plainly (summaryReferences reader summaryPath roots)
      let collected ← plainly (addCandidates reader roots
        (referenced.map fun path => (path, "summary-reference")) collected)
      pure ⟨cleanupSchema, record.id, record.materialId, record.sessionId, collected.entries, []⟩

def collectItem (reader : Reader) (roots : List RealPath) (path : RealPath)
    (walk : RealPath → Collected → Checked Collected) (kind : Disk.EntryKind)
    (collected : Collected) : Checked Collected :=
  match kind with
  | .link => throw "cache tree contains a symbolic link"
  | .directory => walk path collected
  | .file => plainly (addCandidate reader collected (display path) "inspection-world-cache" roots)

/-- The loop of `collect_cache_tree` over what is in a directory. -/
def collectItems (reader : Reader) (roots : List RealPath) (directory : RealPath)
    (walk : RealPath → Collected → Checked Collected) :
    List (String × Disk.EntryKind) → Collected → Checked Collected
  | [], collected => pure collected
  | (name, kind) :: items, collected => do
    let collected ← collectItem reader roots (directory ++ [name]) walk kind collected
    collectItems reader roots directory walk items collected

/-- `depth` bounds how deep the directories are nested. -/
def collectCacheTree (reader : Reader) (roots : List RealPath) :
    Nat → RawPath → Collected → Checked Collected
  | 0, _, _ => Attempt.diverge
  | depth + 1, directory, collected => do
    let canonical ← described ("cache directory unavailable: " ++ ·) (ask (.canonicalize directory))
    if !(← plainly (ask (.isDir canonical))) ||
        isForbiddenMaintenancePath (FileTree.written canonical) || !withinRoots roots canonical then
      throw "cache directory is outside allowed roots"
    else do
      let collected :=
        { collected with directories := collected.directories ++ [display canonical] }
      let items ← described ("cache directory read failed: " ++ ·) (ask (.readDir canonical))
      collectItems reader roots canonical
        (fun path => collectCacheTree reader roots depth (RawPath.ofReal path)) items collected

def componentCount (path : String) : Nat := (RawPath.ofText path).components.length + 1

def dedup (paths : List String) : List String := paths.destutter (· ≠ ·)

def appendCacheTree (reader : Reader) (depth : Nat) (cacheRecordRoot : RawPath)
    (manifest : CleanupManifest) : Checked CleanupManifest := do
  if !(← plainly (ask (.present cacheRecordRoot))) then pure manifest
  else do
    let roots ← allowedRoots
    let collected ← collectCacheTree reader roots depth cacheRecordRoot
      { entries := manifest.entries, directories := manifest.directories
        seen := manifest.entries.map fun entry => pathKey entry.path }
    let sorted := collected.directories.insertionSort fun first second =>
      componentCount first ≤ componentCount second
    pure { manifest with
      entries := collected.entries, directories := dedup sorted }

end SteelInspection.Artifacts
