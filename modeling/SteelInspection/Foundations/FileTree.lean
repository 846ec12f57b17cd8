import Mathlib.Data.List.Infix

/-! # File trees

A file tree says for every path whether there is a directory, a file or a link.  `KeepsAll` is the
statement that a program leaves a given tree alone, except for paths it is allowed to touch, and
each operation comes with the condition under which it does.
-/

namespace Foundations

inductive Node (Name Content : Type) where
  | directory
  | file (content : Content)
  | link (target : List Name)
  deriving DecidableEq

/-- What is at a path; the path is the list of names from the root. -/
abbrev FileTree (Name Content : Type) := List Name → Option (Node Name Content)

namespace FileTree

variable {Name Content : Type}

/-- Whatever is in the tree lies in a directory of the tree. -/
def WellFormed (tree : FileTree Name Content) : Prop :=
  ∀ path name, tree (path ++ [name]) ≠ none → tree path = some .directory

/-- `Path.exists`, which follows a link. -/
def present (tree : FileTree Name Content) (path : List Name) : Bool :=
  match tree path with
  | none => false
  | some (.link target) => (tree target).isSome
  | some _ => true

def isDirectory (tree : FileTree Name Content) (path : List Name) : Bool :=
  match tree path with
  | some .directory => true
  | _ => false

/-- The content of a file, also behind a link. -/
def content? (tree : FileTree Name Content) (path : List Name) : Option Content :=
  match tree path with
  | some (.file content) => some content
  | some (.link target) =>
    match tree target with
    | some (.file content) => some content
    | _ => none
  | _ => none

theorem isDirectory_iff {tree : FileTree Name Content} {path : List Name} :
    tree.isDirectory path = true ↔ tree path = some .directory := by
  unfold isDirectory
  split <;> simp_all

theorem WellFormed.directory_above {tree : FileTree Name Content} (wellFormed : tree.WellFormed)
    {path rest : List Name} (strict : rest ≠ []) (there : tree (path ++ rest) ≠ none) :
    tree path = some .directory := by
  induction rest using List.reverseRecOn with
  | nil => exact absurd rfl strict
  | append_singleton rest name ih =>
    have parent := wellFormed (path ++ rest) name (by simpa [List.append_assoc] using there)
    cases rest with
    | nil => simpa using parent
    | cons first others => exact ih (by simp) (by simp [parent])

theorem WellFormed.nothing_below {tree : FileTree Name Content} (wellFormed : tree.WellFormed)
    {path : List Name} (noDirectory : tree path ≠ some .directory) {below : List Name}
    (inside : path <+: below) (strict : below ≠ path) : tree below = none := by
  obtain ⟨rest, rfl⟩ := inside
  by_contra there
  apply noDirectory
  exact wellFormed.directory_above (by rintro rfl; simp at strict) there

variable [DecidableEq Name]

/-- The tree with these directories and files. -/
def ofLists (directories : List (List Name)) (files : List (List Name × Content)) :
    FileTree Name Content := fun path =>
  if path ∈ directories then some .directory
  else (files.find? fun file => decide (file.1 = path)).map fun file => .file file.2

theorem wellFormed_ofLists {directories : List (List Name)} {files : List (List Name × Content)}
    (closed : ∀ path ∈ directories ++ files.map (·.1), path.dropLast ∈ directories) :
    (ofLists directories files).WellFormed := by
  intro path name there
  have mem : path ++ [name] ∈ directories ++ files.map (·.1) := by
    rw [List.mem_append]
    by_cases directory : path ++ [name] ∈ directories
    · exact .inl directory
    right
    simp only [ofLists, directory, if_false, ne_eq, Option.map_eq_none_iff] at there
    obtain ⟨file, found⟩ := Option.ne_none_iff_exists'.mp there
    have same : file.1 = path ++ [name] := by simpa using List.find?_some found
    exact List.mem_map.mpr ⟨file, List.mem_of_find?_eq_some found, same⟩
  have above := closed _ mem
  rw [List.dropLast_concat] at above
  simp [ofLists, above]

/-- `mkdir(parents=True, exist_ok=True)`; `none` when something else is in the way. -/
def makeDirectories (tree : FileTree Name Content) (path : List Name) :
    Option (FileTree Name Content) :=
  if path.inits.all fun above => match tree above with
      | none | some .directory => true
      | _ => false then
    some fun other => if tree other = none ∧ other <+: path then some .directory else tree other
  else none

/-- Creates or replaces a file, with its parent directories. -/
def create (tree : FileTree Name Content) (path : List Name) (content : Content) :
    Option (FileTree Name Content) :=
  (tree.makeDirectories path.dropLast).bind fun made =>
    if made.isDirectory path then none
    else some fun other => if other = path then some (.file content) else made other

def delete (tree : FileTree Name Content) (path : List Name) : FileTree Name Content :=
  fun other => if other = path then none else tree other

/-- `shutil.rmtree`: the directory with everything below it. -/
def removeTree (tree : FileTree Name Content) (path : List Name) : FileTree Name Content :=
  fun other => if path <+: other then none else tree other

/-- What a removal that raises has done: some paths are left. -/
def removeLeaving (tree : FileTree Name Content) (path : List Name) (left : List Name → Bool) :
    FileTree Name Content :=
  fun other => if path <+: other ∧ left other = false then none else tree other

/-- Only the path and directories above it come into being. -/
theorem create_other {tree next : FileTree Name Content} {path other : List Name} {content : Content}
    (created : tree.create path content = some next) (apart : ¬ other <+: path) :
    next other = tree other := by
  obtain ⟨made, directories, written⟩ := Option.bind_eq_some_iff.mp created
  have different : other ≠ path := fun same => apart (same ▸ List.prefix_refl path)
  have above : ¬ other <+: path.dropLast := fun inside => apart (inside.trans (List.dropLast_prefix path))
  split at written
  · cases written
  cases written
  unfold makeDirectories at directories
  split at directories
  · cases directories
    simp [different, above]
  · cases directories

/-- Everything of the first tree is still there unchanged, except at the paths that do not count. -/
def KeepsAll (exempt : List Name → Prop) (before tree : FileTree Name Content) : Prop :=
  ∀ path node, ¬ exempt path → before path = some node → tree path = some node

variable {exempt : List Name → Prop} {before tree next : FileTree Name Content} {path : List Name}

omit [DecidableEq Name] in
theorem KeepsAll.refl : KeepsAll exempt before before := fun _ _ _ found => found

section

variable (keeps : KeepsAll exempt before tree)
include keeps

theorem KeepsAll.makeDirectories (made : tree.makeDirectories path = some next) :
    KeepsAll exempt before next := by
  unfold FileTree.makeDirectories at made
  split at made
  · cases made
    intro other node counts found
    have kept := keeps other node counts found
    simp [kept]
  · cases made

theorem KeepsAll.create {content : Content} (created : tree.create path content = some next)
    (new : exempt path ∨ before path = none) : KeepsAll exempt before next := by
  obtain ⟨made, directories, written⟩ := Option.bind_eq_some_iff.mp created
  have kept := keeps.makeDirectories directories
  split at written
  · cases written
  cases written
  intro other node counts found
  by_cases same : other = path
  · grind
  · simpa [same] using kept other node counts found

theorem KeepsAll.delete (new : exempt path ∨ before path = none) :
    KeepsAll exempt before (tree.delete path) := by
  intro other node counts found
  by_cases same : other = path
  · grind
  · simpa [FileTree.delete, same] using keeps other node counts found

theorem KeepsAll.removeTree (new : ∀ below, path <+: below → ¬ exempt below → before below = none) :
    KeepsAll exempt before (tree.removeTree path) := by
  intro other node counts found
  by_cases inside : path <+: other
  · rw [new other inside counts] at found
    cases found
  · simpa [FileTree.removeTree, inside] using keeps other node counts found

theorem KeepsAll.removeLeaving {left : List Name → Bool}
    (new : ∀ below, path <+: below → ¬ exempt below → before below ≠ none → left below = true) :
    KeepsAll exempt before (tree.removeLeaving path left) := by
  intro other node counts found
  have kept := keeps other node counts found
  by_cases inside : path <+: other
  · have stays := new other inside counts (by simp [found])
    simpa [FileTree.removeLeaving, stays] using kept
  · simpa [FileTree.removeLeaving, inside] using kept

end

end FileTree

end Foundations
