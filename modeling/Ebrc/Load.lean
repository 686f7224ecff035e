import Ebrc.Encoding
import Ebrc.Load.Line

/-!
# Loading rc files

A load reads the lines of an rc file in order. A line that includes another file has that file
read at its place, and the reading goes on at the next line. How deep files may include one
another is bounded, and this bound is what the recursion runs on, so every load ends.

An included file that cannot be read or encoded is passed over. Any other fault stops the load
and leaves nothing loaded; a crash leaves what had been loaded until then.
-/

namespace Ebrc

namespace Progress

/-- The file that an include names, seen from the file with the include, unless its path refers
to a variable that is not defined. -/
def includedPath (env : Environment) (here : Position) (v : Text) (p : Progress) :
    Except Stop (Option Path × Progress) :=
  (p.expandPath env here v).map fun (path, p) =>
    (path.map ((Path.ofText here.file).parent ++ ·), p)

/-- Tell that an included file is passed over. -/
def skipInclude (here : Position) (file : Text) (reason : String) (p : Progress) : Progress :=
  p.tell (.includeSkipped here.file here.line file reason)

/-- Open an included file: its lines, if it can be read and encoded. -/
def openInclude (limits : Limits) (here : Position) (path : Path) (p : Progress) :
    Except Stop (Option (List Line) × Progress) :=
  let file := path.toText
  match p.files.readText path with
  | .error .badPath => p.crash (.file .badPath)
  | .error reason => .ok (none, p.skipInclude here file reason.text)
  | .ok text =>
    match Encoding.lines text file limits.functionName with
    | .error error => .ok (none, p.skipInclude here file error.text)
    | .ok lines => .ok (some lines, p.modify fun s => { s with files := s.files ++ [file] })

/-- Read the lines of a file, of which the first has this number. -/
def readLines (around : Surroundings)
    (includeFile : Position → Text → Progress → Except Stop Progress) (file : Text) :
    Nat → List Line → Progress → Except Stop Progress
  | _, [], p => .ok p
  | number, line :: rest, p => do
    let p ← p.readLine around includeFile ⟨file, number⟩ line
    readLines around includeFile file (number + 1) rest p

/-- End a file. A function must end in the file in which it starts. -/
def endFile (file : Text) (p : Progress) : Except Stop Progress :=
  match p.block with
  | .function (some f) _ => p.stop ⟨file, f.line⟩ (.functionLeftOpen f.name)
  | _ => .ok p

/-- Read all lines of a file, with some way to deal with includes. -/
def readAll (around : Surroundings)
    (includeFile : Position → Text → Progress → Except Stop Progress) (file : Text)
    (lines : List Line) (p : Progress) : Except Stop Progress := do
  let p ← readLines around includeFile file 1 lines p
  p.endFile file

/-- Refuse an include, unless it is passed over in any case. -/
def refuseInclude (around : Surroundings) (here : Position) (v : Text) (p : Progress) :
    Except Stop Progress := do
  match ← p.includedPath around.environment here v with
  | (none, p) => .ok p
  | (some _, p) => p.stop here (.includedTooDeep around.limits.includeDepth)

/-- Read an included file in some way, unless it is passed over. -/
def followInclude (around : Surroundings)
    (read : Text → List Line → Progress → Except Stop Progress) (here : Position) (v : Text)
    (p : Progress) : Except Stop Progress := do
  match ← p.includedPath around.environment here v with
  | (none, p) => .ok p
  | (some path, p) =>
    match ← p.openInclude around.limits here path with
    | (none, p) => .ok p
    | (some lines, p) => read path.toText lines p

/-- Read a file that may include others this many deep. -/
def readFile (around : Surroundings) : Nat → Text → List Line → Progress → Except Stop Progress
  | 0 => readAll around (refuseInclude around)
  | depth + 1 => readAll around (followInclude around (readFile around depth))

/-- End a load. Blocks of records must be closed, and the first account is the default one if
no other is. -/
def finish (file : Text) (p : Progress) : Except Stop Progress :=
  match p.block with
  | .none | .function _ _ =>
    .ok (p.modify fun s =>
      if s.accounts ≠ [] ∧ s.defaultAccount = 0 then { s with defaultAccount := 1 } else s)
  | _ => .error ⟨.config ⟨.blockLeftOpen, some file, none⟩, p⟩

end Progress

/-- What comes of a load. -/
structure LoadResult where
  /-- Why it stopped, if it did. -/
  fault : Option LoadFault
  loaded : Loaded
  files : FileSystem
  log : EventLog
  deriving Repr, DecidableEq

namespace Loaded

/-- Tell that a load has succeeded. -/
def report (s : Loaded) (file : Text) : Event :=
  .loaded file (s.files.length - 1) s.rules.counts s.accounts.length s.plugins.length
    s.tables.length

/-- The start of a load. -/
def begin (before : Loaded) (file : Text) (files : FileSystem) (log : EventLog) : Progress :=
  { loaded := { before.reset with files := [file] }, files, log }

/-- Load an rc file whose text is at hand. Nothing of what was loaded before is kept but the
default user agent. -/
def loadText (around : Surroundings) (text file : Text) (before : Loaded) (files : FileSystem)
    (log : EventLog) : LoadResult :=
  match Encoding.lines text file around.limits.functionName with
  | .error error => ⟨some (.config error), before.reset, files, log⟩
  | .ok lines =>
    match Progress.readFile around around.limits.includeDepth file lines
        (before.begin file files log) >>= (·.finish file) with
    | .ok p => ⟨none, p.loaded, p.files, p.log.push (p.loaded.report file)⟩
    | .error ⟨.config error, p⟩ => ⟨some (.config error), p.loaded.reset, p.files, p.log⟩
    | .error ⟨.crash crash, p⟩ => ⟨some (.crash crash), p.loaded, p.files, p.log⟩

/-- Load the rc file at a path. -/
def load (around : Surroundings) (file : Text) (before : Loaded) (files : FileSystem)
    (log : EventLog) : LoadResult :=
  match files.readText (Path.ofText file) with
  | .ok text => before.loadText around text file files log
  | .error .badPath => ⟨some (.crash (.file .badPath)), before.reset, files, log⟩
  | .error reason =>
    ⟨some (.config ⟨.unreadable reason, some file, none⟩), before.reset, files, log⟩

end Loaded

end Ebrc
