import Ebrc.Event
import Ebrc.FileSystem

/-!
# Replacements

Local files that stand in for scripts and style sheets of sites. A list of replacements has a
line for each, with the file, a colon and the URL. The URL has no query; the query of a URL that
is asked for does not count. Of several replacements for a URL the one read last counts.
-/

namespace Ebrc

/-- A local file and the URL that it stands in for. -/
structure Replacement where
  url : Text
  file : Text
  deriving Repr, DecidableEq

/-- Why a line of a list is passed over with a word about it. -/
inductive ReplacementFault where
  | noColon
  | query
  deriving Repr, DecidableEq

/-- What the fault is told as. -/
def ReplacementFault.event (file : Text) (line : Nat) : ReplacementFault → Event
  | noColon => .replacementWithoutColon file line
  | query => .replacementWithQuery file line

namespace Replacement

/-- Read a line; empty lines and comments say nothing. -/
def ofLine (line : Text) : Except ReplacementFault (Option Replacement) :=
  if line = [] ∨ line.head? = some '#' then .ok none
  else
    match Text.cut ':' line with
    | (_, none) => .error .noColon
    | (file, some url) => if url.contains '?' then .error .query else .ok (some ⟨url, file⟩)

end Replacement

/-- Replacements, the one read last first. -/
abbrev Replacements := List Replacement

namespace Replacements

/-- The replacements that lines make, in the order of the lines. -/
def ofLines (lines : List Text) : List Replacement :=
  lines.filterMap fun line =>
    match Replacement.ofLine line with
    | .ok replacement => replacement
    | .error _ => none

/-- What is told about lines of which the first has this number. -/
def eventsFrom (file : Text) : Nat → List Text → List Event
  | _, [] => []
  | number, line :: rest =>
    match Replacement.ofLine line with
    | .ok _ => eventsFrom file (number + 1) rest
    | .error fault => fault.event file number :: eventsFrom file (number + 1) rest

/-- What comes of reading a list of replacements. -/
structure ReadResult where
  table : Replacements
  /-- How many replacements were read. -/
  count : Nat
  events : List Event
  deriving Repr, DecidableEq

/-- Read the list at a path; where there is no file, there is nothing to read. -/
def readList (table : Replacements) (files : FileSystem) (path : Path) :
    Except FileError ReadResult := do
  if ← files.isFile path then
    let lines := Text.allLines (← files.readText path)
    let found := ofLines lines
    return ⟨found.reverse ++ table, found.length, eventsFrom path.toText 1 lines⟩
  else return ⟨table, 0, []⟩

/-- The local file to use instead of a URL. -/
def find? (table : Replacements) (url : Text) : Option Text :=
  let base := (Text.cut '?' url).1
  (List.find? (·.url = base) table).map (·.file)

end Replacements

end Ebrc
