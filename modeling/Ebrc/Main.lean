import Ebrc.Survey

/-!
# The program

Reads the arguments, the environment and the files that a run may look at, lets the run take
place, and then prints what it has to say and makes the files and directories that it made.
-/

namespace Ebrc

namespace Console

/-- The environment with one more variable looked up. -/
private def lookUp (env : Environment) (name : Text) : IO Environment := do
  if (env.get? name).isSome then return env
  match ← IO.getEnv name.toString with
  | some value => return { env with bindings := (name, value.toList) :: env.bindings }
  | none => return env

/-- The text of a file of the system, which is empty if there is no such file. -/
private def systemText (path : String) : IO Text := do
  match ← (IO.FS.readFile path).toBaseIO with
  | .ok text => return text.toList
  | .error _ => return []

/-- The environment before any variable is looked up. -/
private def unboundEnvironment : IO Environment := do
  return Survey.homes (← systemText "/etc/passwd") (← systemText "/proc/self/status")

/-- The path of a location. -/
private def locationPath (here : Location) : String :=
  "/" ++ Text.toString (List.intercalate ['/'] here)

/-- The file system with what is forbidden on the way to a location: this, at the location, if that
can be reached, and otherwise to search the last directory that can. -/
private partial def forbid (files : FileSystem) (here : Location) (access : Access) :
    IO FileSystem := do
  match here, ← (IO.FS.realPath (locationPath here)).toBaseIO with
  | [], .error _ => return files
  | here, .error _ => forbid files here.dropLast .search
  | here, .ok path =>
    let entry := if ← path.isDir then .directory else .file []
    let files := (files.makeDirectories here.dropLast).insert here entry
    return { files with forbidden := (here, access) :: files.forbidden }

/-- The file system with what is found at a path, and the text of a file. -/
private def look (files : FileSystem) (path : Path) : IO (FileSystem × Option Text) := do
  let here := files.lexicalLocation path
  match ← (IO.FS.readBinFile path.toText.toString).toBaseIO with
  | .ok bytes =>
    let content := bytes.toList
    return ((files.makeDirectories here.dropLast).insert here (.file content),
      some (Text.unifyNewlines (Text.decodeUtf8 content)))
  | .error (.inappropriateType ..) => return (files.makeDirectories here, none)
  | .error (.permissionDenied ..) => return (← forbid files here .read, none)
  | .error _ => return (files, none)

/-- Look at paths, and at those that the files found there lead to. -/
private partial def explore (env : Environment) (files : FileSystem) (done : List Path) :
    List Path → IO (Environment × FileSystem)
  | [] => return (env, files)
  | path :: rest => do
    if done.contains path then explore env files done rest
    else
      let (files, text) ← look files path
      let text := text.getD []
      let env ← (Survey.referenced text).foldlM lookUp env
      explore env files (path :: done) (Survey.ofText env path text ++ rest)

/-- What only the owner may read and write and, a directory, enter. -/
private def ownerOnly (entered : Bool) : IO.FileRight :=
  { user := { read := true, write := true, execution := entered } }

/-- Make what a run has made, for the owner only. -/
private def carryOver (before after : FileSystem) : IO Unit := do
  for (here, entry) in after.entries.reverse do
    if !before.entries.any (·.1 == here) then
      let path := locationPath here
      match entry with
      | .directory =>
        IO.FS.createDirAll path
        IO.setAccessRights path (ownerOnly true)
      | .file content =>
        IO.FS.writeBinFile path ⟨content.toArray⟩
        IO.setAccessRights path (ownerOnly false)

/-- What is told on standard error. -/
private def report (debug : Bool) (outcome : CommandLine.Outcome) : IO Unit := do
  for event in outcome.log do
    let r := event.toRecord
    if debug || r.level ≠ .debug then IO.eprintln r.line
  match outcome.error with
  | some error => IO.eprintln error.text
  | none => pure ()

/-- Run the program with its arguments. -/
def run (arguments : List Text) : IO UInt32 := do
  let env ← Survey.standardVariables.foldlM lookUp (← unboundEnvironment)
  match CommandLine.Request.ofArguments env arguments with
  | .error refusal =>
    IO.eprintln CommandLine.usage
    return if refusal = .help then 0 else CommandLine.errorCode.toUInt32
  | .ok request =>
    let current := (Path.ofText (← IO.currentDir).toString.toList).names
    let empty : FileSystem := { current }
    let (env, files) ← explore env (empty.makeDirectories current) []
      (Survey.start env empty request)
    let (env, files) ← explore env files [] (Survey.start env files request)
    match CommandLine.serve env files request with
    | none => return 1
    | some outcome =>
      for line in outcome.output do IO.println line.toString
      report request.debug outcome
      carryOver files outcome.files
      match outcome.status with
      | .done code => return code.toUInt32
      | .refused _ => return CommandLine.errorCode.toUInt32
      | .crashed _ => return 1

end Console

end Ebrc

/-- Load an rc file and run the functions that the command line names. -/
def main (arguments : List String) : IO UInt32 := Ebrc.Console.run (arguments.map String.toList)
