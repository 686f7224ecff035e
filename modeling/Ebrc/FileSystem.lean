import Ebrc.Path
import Ebrc.Text.Newline
import Ebrc.Text.Utf8

/-!
# File systems

A file system is a finite set of directories and files, each at a location: the names that
lead to it from the root directory. Paths are followed name by name from the root or from the
current directory, and a double dot goes up. Files hold bytes. Some of what a user could do with
an entry may be forbidden: to go on from a directory, to read, to write. There are no links and no
entries of other kinds, and nothing else goes wrong when files are read or written.
-/

namespace Ebrc

/-- Why an operation on a path fails. -/
inductive FileError where
  | notFound
  | notDirectory
  | isDirectory
  | nameTooLong
  | alreadyExists
  /-- It is forbidden. -/
  | denied
  /-- The path holds a character that no path may hold. -/
  | badPath
  deriving Repr, DecidableEq

/-- The wording of a failure. -/
def FileError.text : FileError → String
  | notFound => "No such file or directory"
  | notDirectory => "Not a directory"
  | isDirectory => "Is a directory"
  | nameTooLong => "File name too long"
  | alreadyExists => "File exists"
  | denied => "Permission denied"
  | badPath => "embedded null byte"

/-- The names that lead to a place from the root directory. -/
abbrev Location := List Text

/-- What stands at a location. -/
inductive FileEntry where
  | directory
  | file (content : List UInt8)
  deriving Repr, DecidableEq

/-- What a user does with an entry. -/
inductive Access where
  /-- To go on from a directory to one of its names. -/
  | search
  | read
  /-- To change a file, or to make an entry in a directory. -/
  | write
  deriving Repr, DecidableEq

/-- The entries of a file system, the root directory apart, and the current directory. -/
structure FileSystem where
  entries : List (Location × FileEntry) := []
  current : Location := []
  /-- What is forbidden, and where. -/
  forbidden : List (Location × Access) := []
  deriving Repr, DecidableEq

namespace FileSystem

/-- The number of bytes beyond which a name is too long. -/
def maxNameBytes : Nat := 255

/-- The number of bytes from which on a path is too long. -/
def maxPathBytes : Nat := 4096

/-- The entry at a location. -/
def entry? (fs : FileSystem) (here : Location) : Option FileEntry :=
  if here = [] then some .directory else fs.entries.lookup here

/-- Is it forbidden to do this with what stands at a location? -/
def forbids (fs : FileSystem) (here : Location) (access : Access) : Bool :=
  fs.forbidden.contains (here, access)

/-- Put an entry at a location, with which nothing is forbidden. -/
def insert (fs : FileSystem) (here : Location) (entry : FileEntry) : FileSystem :=
  { fs with
    entries := (here, entry) :: fs.entries.filter (·.1 ≠ here)
    forbidden := fs.forbidden.filter (·.1 ≠ here) }

/-- Go from a directory to one of its names. -/
def enter (fs : FileSystem) (here : Location) (name : Text) : Except FileError Location :=
  match fs.entry? here with
  | none => .error .notFound
  | some (.file _) => .error .notDirectory
  | some .directory =>
    if fs.forbids here .search then .error .denied
    else if maxNameBytes < (Text.encodeUtf8 name).length then .error .nameTooLong
    else if name = ['.', '.'] then .ok here.dropLast
    else .ok (here ++ [name])

/-- The location that a path leads to; nothing need stand there. -/
def locate (fs : FileSystem) (p : Path) : Except FileError Location :=
  if p.toText.contains '\x00' then .error .badPath
  else if maxPathBytes ≤ (Text.encodeUtf8 p.toText).length then .error .nameTooLong
  else p.names.foldlM fs.enter (if p.isAbsolute then [] else fs.current)

/-- What stands at a path, if anything does. It is a failure only if a name is too long, or if a
directory on the way may not be searched. -/
def probe (fs : FileSystem) (p : Path) : Except FileError (Option FileEntry) :=
  match fs.locate p with
  | .ok here => .ok (fs.entry? here)
  | .error .nameTooLong => .error .nameTooLong
  | .error .denied => .error .denied
  | .error _ => .ok none

/-- Does the path lead to a directory? -/
def isDirectory (fs : FileSystem) (p : Path) : Except FileError Bool :=
  (fs.probe p).map (· = some .directory)

/-- Does the path lead to a file? -/
def isFile (fs : FileSystem) (p : Path) : Except FileError Bool :=
  (fs.probe p).map fun
    | some (.file _) => true
    | _ => false

/-- Does the path lead anywhere? -/
def pathExists (fs : FileSystem) (p : Path) : Except FileError Bool :=
  (fs.probe p).map Option.isSome

/-- May what a path leads to be read? -/
def canRead (fs : FileSystem) (p : Path) : Except FileError Bool :=
  match fs.locate p with
  | .ok here => .ok ((fs.entry? here).isSome && !fs.forbids here .read)
  | .error .badPath => .error .badPath
  | .error _ => .ok false

/-- The content of a file. -/
def read (fs : FileSystem) (p : Path) : Except FileError (List UInt8) := do
  let here ← fs.locate p
  match fs.entry? here with
  | none => .error .notFound
  | some entry =>
    if fs.forbids here .read then .error .denied
    else
      match entry with
      | .directory => .error .isDirectory
      | .file content => .ok content

/-- The content of a file as text, with replacement characters where it is not UTF-8 and line
feeds as the only line ends. -/
def readText (fs : FileSystem) (p : Path) : Except FileError Text :=
  (fs.read p).map fun content => Text.unifyNewlines (Text.decodeUtf8 content)

/-- Make a directory in a directory that is there already. -/
def makeDirectory (fs : FileSystem) (p : Path) : Except FileError FileSystem := do
  let here ← fs.locate p
  match fs.entry? here with
  | some _ => .error .alreadyExists
  | none =>
    if fs.forbids here.dropLast .write then .error .denied else .ok (fs.insert here .directory)

/-- Open a file for appending, which makes an empty one where none is. -/
def openForAppend (fs : FileSystem) (p : Path) : Except FileError FileSystem := do
  let here ← fs.locate p
  match fs.entry? here with
  | some .directory => .error .isDirectory
  | some (.file _) => if fs.forbids here .write then .error .denied else .ok fs
  | none =>
    if fs.forbids here.dropLast .write then .error .denied else .ok (fs.insert here (.file []))

/-- The location of a path whose double dots are taken literally, whether or not its directories
are there. -/
def lexicalLocation (fs : FileSystem) (p : Path) : Location :=
  p.names.foldl (fun here name => if name = ['.', '.'] then here.dropLast else here ++ [name])
    (if p.isAbsolute then [] else fs.current)

/-- Make the directories on the way to a location, its last name included. -/
def makeDirectories (fs : FileSystem) (here : Location) : FileSystem :=
  (List.range here.length).foldl (fun fs n =>
    let above := here.take (n + 1)
    match fs.entry? above with
    | some _ => fs
    | none => fs.insert above .directory) fs

/-- Write a file, with the directories on its way. -/
def write (fs : FileSystem) (p : Path) (content : List UInt8) : FileSystem :=
  let here := fs.lexicalLocation p
  (fs.makeDirectories here.dropLast).insert here (.file content)

/-- Remove what stands at a path, and all below it. -/
def remove (fs : FileSystem) (p : Path) : FileSystem :=
  let here := fs.lexicalLocation p
  { fs with
    entries := fs.entries.filter fun entry => !here.isPrefixOf entry.1
    forbidden := fs.forbidden.filter fun access => !here.isPrefixOf access.1 }

/-- The paths of all entries below the current directory, those of directories with a slash at
the end, in ascending order. -/
def tree (fs : FileSystem) : List Text :=
  let below := fs.entries.filter fun entry =>
    fs.current.isPrefixOf entry.1 && fs.current.length < entry.1.length
  let paths := below.map fun (here, entry) =>
    let path := List.intercalate ['/'] (here.drop fs.current.length)
    if entry = .directory then path ++ ['/'] else path
  paths.mergeSort Text.notAfter

end FileSystem

end Ebrc
