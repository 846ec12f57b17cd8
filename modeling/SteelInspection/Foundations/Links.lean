import SteelInspection.Foundations.FileTree

/-! # Paths through links

Resolving a path in a file tree with links, the way `realpath` does: name by name from the root, each
link replaced by its target, with a bound on the number of links.  What a path resolves to is a real
path: every name of it stands for itself, so that resolving it again, or the directory it is in,
changes nothing as long as the tree is the same.
-/

namespace Foundations

/-- A part of a path as it is written. -/
inductive Component (Name : Type) where
  | normal (name : Name)
  /-- The directory above. -/
  | parent
  deriving DecidableEq

inductive ResolveError where
  | notFound
  | notDirectory
  | tooManyLinks
  deriving DecidableEq

/-- Where a walk along a path ends. -/
inductive Walk (Name : Type) where
  | arrived (path : List Name)
  | link (target : List Name) (rest : List (Component Name))
  | stuck (error : ResolveError)

namespace FileTree

variable {Name Content : Type}

/-- The path of these names. -/
def written (path : List Name) : List (Component Name) := path.map .normal

/-- Follows the path from a directory up to the first link. -/
def walk (tree : FileTree Name Content) : List Name → List (Component Name) → Walk Name
  | directory, [] => .arrived directory
  | directory, .parent :: rest => tree.walk directory.dropLast rest
  | directory, .normal name :: rest =>
    match tree (directory ++ [name]) with
    | none => .stuck .notFound
    | some (.link target) => .link target rest
    | some .directory => tree.walk (directory ++ [name]) rest
    | some (.file _) => if rest.isEmpty then .arrived (directory ++ [name]) else .stuck .notDirectory

/-- The path that a path stands for, when no more than `links` links are on the way. -/
def resolve (tree : FileTree Name Content) (links : Nat) (path : List (Component Name)) :
    Except ResolveError (List Name) :=
  match tree.walk [] path with
  | .arrived real => .ok real
  | .stuck error => .error error
  | .link target rest =>
    match links with
    | 0 => .error .tooManyLinks
    | links + 1 => tree.resolve links (written target ++ rest)

/-- The path passes through no link. -/
def resolvesToItself [DecidableEq Name] (tree : FileTree Name Content) (links : Nat)
    (path : List (Component Name)) : Bool :=
  match tree.resolve links path with
  | .ok real => path = written real
  | .error _ => false

/-- Where the last name of a path stands, whatever is there. -/
def locate (tree : FileTree Name Content) (links : Nat) (path : List Name) :
    Except ResolveError (List Name) :=
  match path.getLast? with
  | none => .error .notFound
  | some name => (tree.resolve links (written path.dropLast)).map fun directory => directory ++ [name]

/-- Every name on the way to the directory is that of a directory. -/
inductive RealDirectory (tree : FileTree Name Content) : List Name → Prop where
  | root : RealDirectory tree []
  | inside {path : List Name} {name : Name} (above : RealDirectory tree path)
      (isDirectory : tree (path ++ [name]) = some .directory) : RealDirectory tree (path ++ [name])

/-- Every name on the way stands for itself. -/
inductive Real (tree : FileTree Name Content) : List Name → Prop where
  | directory {path : List Name} (real : RealDirectory tree path) : Real tree path
  | file {path : List Name} {name : Name} {content : Content} (above : RealDirectory tree path)
      (isFile : tree (path ++ [name]) = some (.file content)) : Real tree (path ++ [name])

variable {tree : FileTree Name Content} {path : List Name} {links : Nat}

section

variable (real : RealDirectory tree path)
include real

theorem RealDirectory.dropLast : RealDirectory tree path.dropLast := by
  cases real with
  | root => exact .root
  | inside above _ => simpa using above

theorem RealDirectory.walk_through (rest : List (Component Name)) :
    tree.walk [] (written path ++ rest) = tree.walk path rest := by
  induction real generalizing rest with
  | root => rfl
  | @inside path name above isDirectory ih =>
    have split : written (path ++ [name]) ++ rest = written path ++ .normal name :: rest := by
      simp [written]
    rw [split, ih]
    simp only [walk, isDirectory]

theorem RealDirectory.resolve (links : Nat) : tree.resolve links (written path) = .ok path := by
  have arrives : tree.walk [] (written path) = .arrived path := by
    rw [← List.append_nil (written path), real.walk_through]
    rfl
  unfold FileTree.resolve
  rw [arrives]

end

theorem walk_real {directory real : List Name} {path : List (Component Name)}
    (above : RealDirectory tree directory) (arrives : tree.walk directory path = .arrived real) :
    Real tree real := by
  induction path generalizing directory with
  | nil =>
    cases arrives
    exact .directory above
  | cons component rest ih =>
    cases component with
    | parent => exact ih above.dropLast arrives
    | normal name =>
      simp only [walk] at arrives
      split at arrives
      · cases arrives
      · cases arrives
      next isDirectory =>
        exact ih (above.inside isDirectory) arrives
      rename_i isFile
      split at arrives
      · cases arrives
        exact .file above isFile
      · cases arrives

theorem resolve_real {path : List (Component Name)} {real : List Name}
    (resolved : tree.resolve links path = .ok real) : Real tree real := by
  induction links generalizing path with
  | zero =>
    unfold resolve at resolved
    split at resolved
    next arrives =>
      cases resolved
      exact walk_real .root arrives
    · cases resolved
    · cases resolved
  | succ links ih =>
    unfold resolve at resolved
    split at resolved
    next arrives =>
      cases resolved
      exact walk_real .root arrives
    · cases resolved
    · exact ih resolved

theorem Real.resolve (real : Real tree path) (links : Nat) :
    tree.resolve links (written path) = .ok path := by
  cases real with
  | directory real => exact real.resolve links
  | @file path name content above isFile =>
    have arrives : tree.walk [] (written (path ++ [name])) = .arrived (path ++ [name]) := by
      rw [show written (path ++ [name]) = written path ++ [.normal name] by simp [written],
        above.walk_through]
      simp only [walk, isFile, List.isEmpty_nil, if_true]
    unfold FileTree.resolve
    rw [arrives]

theorem Real.locate {location : List Name} {content : Content} (real : Real tree path)
    (isFile : tree path = some (.file content)) (located : tree.locate links path = .ok location) :
    location = path := by
  cases real with
  | directory real =>
    cases real with
    | root => cases located
    | inside above isDirectory => cases isDirectory.symm.trans isFile
  | @file path name content above _ =>
    grind [FileTree.locate, Except.map, above.resolve]

theorem resolvesToItself_iff [DecidableEq Name] {path : List (Component Name)} :
    tree.resolvesToItself links path = true ↔
      ∃ real, tree.resolve links path = .ok real ∧ path = written real := by
  unfold resolvesToItself
  split
  next real resolved =>
    simp [resolved]
  next error resolved =>
    simp [resolved]

end FileTree

end Foundations
