import Ebrc.Text.Basic

/-!
# Paths

A path is its root and its names. Empty names and single dots are dropped when a path is read,
so that two spellings of a path that differ only in them are one path; double dots stay, since
what they lead to depends on the file system.
-/

namespace Ebrc

/-- Where a path starts. -/
inductive PathRoot where
  /-- At the current directory. -/
  | relative
  /-- At the root directory. -/
  | absolute
  /-- At the root directory, spelled with two slashes. -/
  | doubled
  deriving Repr, DecidableEq

/-- A path in normal form. -/
structure Path where
  root : PathRoot
  names : List Text
  deriving Repr, DecidableEq

namespace Path

/-- The root that the leading slashes of a text spell. -/
def rootOf (t : Text) : PathRoot :=
  match (t.takeWhile (· = '/')).length with
  | 0 => .relative
  | 2 => .doubled
  | _ => .absolute

/-- Read a path. -/
def ofText (t : Text) : Path where
  root := rootOf t
  names := (Text.split '/' t).filter fun name => name ≠ [] ∧ name ≠ ['.']

/-- The leading slashes of a path. -/
def rootText : PathRoot → Text
  | .relative => []
  | .absolute => ['/']
  | .doubled => ['/', '/']

/-- Write a path; the current directory is a dot. -/
def toText (p : Path) : Text :=
  match p.root, p.names with
  | .relative, [] => ['.']
  | root, names => rootText root ++ List.intercalate ['/'] names

/-- Does the path start at the root directory? -/
def isAbsolute (p : Path) : Bool := p.root ≠ .relative

/-- The second path as seen from the first one. -/
def append (p q : Path) : Path :=
  if q.isAbsolute then q else { p with names := p.names ++ q.names }

instance : Append Path := ⟨append⟩

/-- The path of a name in a directory. -/
def child (p : Path) (name : Text) : Path := { p with names := p.names ++ [name] }

/-- The path without its last name. -/
def parent (p : Path) : Path := { p with names := p.names.dropLast }

/-- The last name from its last dot on, unless that dot begins or ends the name. -/
def suffix (p : Path) : Text :=
  match p.names.getLast? with
  | none => []
  | some name =>
    let ending := Text.afterLast '.' name
    let stem := name.take (name.length - ending.length - 1)
    if ending = [] ∨ ending.length = name.length ∨ stem = [] then [] else '.' :: ending

end Path

end Ebrc
