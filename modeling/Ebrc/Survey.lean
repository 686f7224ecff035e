import Ebrc.CommandLine
import Ebrc.Event.Record

/-!
# What to look at on disk

A run works on a file system that is given as a whole. Before it, the paths that its files may
lead to are collected: whatever a line of the form `word = value` could name, as an included
file, as a file or as a directory. A path too many does no harm. The home directories that paths
may start with are read from the system's list of users.
-/

namespace Ebrc

namespace Survey

/-- The variables whose values are needed in any case. -/
def standardVariables : List Text := ["HOME", "CONFIG_PATH", "EBRC_PATH"].map String.toList

/-- The home directories that the system keeps. They stand in its list of users, with a line for
each that has the name, a password, a number, the number of a group, a description, the home
directory and a shell. The number of the user who runs the program comes first in the line about
users of what is told of the program. -/
def homes (users program : Text) : Environment :=
  let known := (Text.lines users).filterMap fun line =>
    match Text.split ':' line with
    | [name, _, number, _, _, home, _] => some (name, number, home)
    | _ => none
  let own := (Text.lines program).findSome? fun line =>
    match Text.words line with
    | word :: number :: _ => if word = "Uid:".toList then some number else none
    | _ => none
  { ownHome := (known.find? fun (_, number, _) => some number = own).map fun (_, _, home) => home
    userHomes := known.map fun (name, _, home) => (name, home) }

/-- The variables that a text refers to. -/
def referenced : Text → List Text
  | [] => []
  | c :: t =>
    match (if c = '$' then Environment.reference? Text.isAsciiWordChar t else none) with
    | some reference => Environment.referencedName reference :: referenced t
    | none => referenced t

/-- A path, the directory that it lies in, and the directory for unread mail in it. -/
def around (path : Path) : List Path := [path.parent, path, path.child "unread".toList]

/-- The paths that a value could name in a file. -/
def ofValue (env : Environment) (file : Path) (v : Text) : List Path :=
  match env.expandHome (Path.ofText (env.expand v)) with
  | .ok path => around path ++ around (file.parent ++ path)
  | .error _ => []

/-- The paths that the lines of a file could name. -/
def ofText (env : Environment) (file : Path) (t : Text) : List Path :=
  (Text.lines t).flatMap fun line =>
    match splitAssignment? (Text.strip Text.isBlank line) with
    | some (_, v) => ofValue env file v
    | none => []

/-- The paths that a run starts from. The rc file and the list of replacements are known once
the application configuration is. -/
def start (env : Environment) (files : FileSystem) (request : CommandLine.Request) : List Path :=
  let given := (request.config.toList ++ request.rc.toList).map Path.ofText
  let configured := match AppConfig.load files request.config with
    | .ok config =>
      [config.rcFile, config.replacementsFile].filterMap fun t =>
        (env.expandHome (Path.ofText t)).toOption
    | .error _ => []
  (given ++ configured).flatMap around

end Survey

/-- An event on one line. -/
def EventRecord.line (r : EventRecord) : String :=
  let field : String × Value → String
    | (name, .text t) => s!" {name}={(Text.quoted t).toString}"
    | (name, .int n) => s!" {name}={n}"
    | (name, _) => s!" {name}"
  s!"{r.level.name}: {r.title}{String.join (r.fields.map field)}"

end Ebrc
