import Ebrc.Session

/-!
# The command line

The program loads an rc file, runs the function for after a load, and then runs the functions
that the command line names. No editor is attached: the commands that would go to one are
printed, and succeed.

An option may be shortened to what no other option starts with. Its value follows it, or stands
behind an equals sign. The invocations of functions stand together, before, between or after the
options; two dashes say that only invocations follow.
-/

namespace Ebrc

namespace CommandLine

/-- The options. -/
inductive OptionName where
  | help
  | config
  | rc
  | noInit
  | debug
  deriving Repr, DecidableEq

/-- The spelling of the options. -/
def options : List (Text × OptionName) := [
  ("--help".toList, .help), ("--config".toList, .config), ("--rc".toList, .rc),
  ("--no-init".toList, .noInit), ("--debug".toList, .debug)]

/-- Why the arguments do not lead to a run. -/
inductive Refusal where
  | misuse
  /-- Help is asked for. -/
  | help
  deriving Repr, DecidableEq

/-- What an argument is. -/
inductive Argument where
  | word
  /-- Only words follow. -/
  | endMark
  | option (name : OptionName) (value : Option Text)
  /-- The short option for help, and the letters after it. -/
  | shortHelp (letters : Text)
  /-- An option that there is not. -/
  | unknown
  deriving Repr, DecidableEq

/-- Does the text look like a negative number, with or without a line end after it? -/
def isNegativeNumber (t : Text) : Bool :=
  match (if t.getLast? = some '\n' then t.dropLast else t) with
  | '-' :: t =>
    match Text.cut '.' t with
    | (whole, none) => !whole.isEmpty && whole.all Text.isDecimal
    | (whole, some places) =>
      whole.all Text.isDecimal && !places.isEmpty && places.all Text.isDecimal
  | _ => false

/-- What an argument is that starts like an option and is none: a word, if it looks like a
number or holds a space. -/
def unlikeOption (t : Text) : Argument :=
  if isNegativeNumber t || t.contains ' ' then .word else .unknown

/-- What an argument is, before any end mark. An option with several meanings is a misuse. -/
def classify (t : Text) : Except Refusal Argument :=
  match t with
  | '-' :: '-' :: _ =>
    let (name, value) := Text.cut '=' t
    match options.filter fun (spelling, _) => name.isPrefixOf spelling with
    | [] => .ok (unlikeOption t)
    | [(_, option)] => .ok (.option option value)
    | _ => .error .misuse
  | '-' :: 'h' :: letters => .ok (.shortHelp letters)
  | '-' :: _ :: _ => .ok (unlikeOption t)
  | _ => .ok .word

/-- What the arguments are. -/
def classifyAll : List Text → Except Refusal (List (Argument × Text))
  | [] => .ok []
  | t :: rest =>
    if t = ['-', '-'] then .ok ((.endMark, t) :: rest.map (.word, ·))
    else do
      let argument ← classify t
      return (argument, t) :: (← classifyAll rest)

/-- What the letters after the short option for help ask for: help, if they are that option
again and again. They may stand behind an equals sign, but then there must be some. -/
def helpOrMisuse : Text → Refusal
  | ['='] => .misuse
  | '=' :: letters => again letters
  | letters => again letters
where
  /-- Nothing but the option again. -/
  again (letters : Text) : Refusal := if letters.all (· = 'h') then .help else .misuse

/-- How far the words have come. -/
inductive Words where
  | ahead
  | here
  | over
  deriving Repr, DecidableEq

/-- How to call the program. -/
def usage : String :=
  "usage: [--config FILE] [--rc FILE] [--no-init] [--debug] [FUNCTION ...]"

/-- What the command line asks for. -/
structure Request where
  config : Option Text
  rc : Option Text
  runsInit : Bool := true
  debug : Bool := false
  invocations : List Text := []
  deriving Repr, DecidableEq

namespace Request

/-- What is asked for without any arguments. -/
def ofEnvironment (env : Environment) : Request where
  config := env.get? "CONFIG_PATH".toList
  rc := env.get? "EBRC_PATH".toList

/-- Follow the arguments. Words that do not stand together are a misuse, and so are options that
there are not, but only when nothing else ends the reading before. -/
def follow (r : Request) (words : Words) (stray : Bool) :
    List (Argument × Text) → Except Refusal Request
  | [] => if stray then .error .misuse else .ok r
  | (.word, t) :: rest =>
    if words = .over then r.follow words true rest
    else { r with invocations := r.invocations ++ [t] }.follow .here stray rest
  | (.endMark, _) :: rest =>
    if words = .over then r.follow words true rest else r.follow .here stray rest
  | (argument, _) :: rest =>
    let words := if words = .ahead then .ahead else .over
    match argument, rest with
    | .shortHelp letters, _ => .error (helpOrMisuse letters)
    | .option .help none, _ => .error .help
    | .option .noInit none, rest => { r with runsInit := false }.follow words stray rest
    | .option .debug none, rest => { r with debug := true }.follow words stray rest
    | .option .config (some v), rest => { r with config := some v }.follow words stray rest
    | .option .rc (some v), rest => { r with rc := some v }.follow words stray rest
    | .option .config none, (.word, v) :: rest =>
      { r with config := some v }.follow words stray rest
    | .option .rc none, (.word, v) :: rest => { r with rc := some v }.follow words stray rest
    | .option _ _, _ => .error .misuse
    | _, rest => r.follow words true rest

/-- What the arguments ask for. -/
def ofArguments (env : Environment) (arguments : List Text) : Except Refusal Request := do
  (ofEnvironment env).follow .ahead false (← classifyAll arguments)

end Request

/-- How a run of the program ends. -/
inductive Status where
  | done (code : Nat)
  | refused (refusal : Refusal)
  | crashed (crash : Crash)
  deriving Repr, DecidableEq

/-- The code that a misuse ends with, and an error of a configuration too. -/
def errorCode : Nat := 2

/-- What comes of a run of the program. -/
structure Outcome where
  status : Status
  /-- The lines printed. -/
  output : Array Text := #[]
  /-- The error of a configuration that ended the run. -/
  error : Option ConfigError := none
  files : FileSystem
  log : EventLog := #[]

/-- The editor that prints commands. -/
def printer : Host (Array Text) := fun line printed => ⟨some true, false, printed.push line⟩

/-- The end of a run in which a session was started. -/
def close (status : Status) (s : Session (Array Text)) (error : Option ConfigError := none) :
    Outcome := ⟨status, s.host, error, s.files, s.log⟩

/-- Run functions one after the other. The code tells whether all of them succeeded. -/
def runAll (code : Nat) (s : Session (Array Text)) : List Text → Option Outcome
  | [] => some (close (.done code) s)
  | line :: rest =>
    match s.runFunction line with
    | none => none
    | some (.error crash, s) => some (close (.crashed crash) s)
    | some (.ok result, s) => runAll (if result.ok then code else 1) s rest

/-- Do what is asked for; nothing comes of it if some function does not end. -/
def serve (env : Environment) (files : FileSystem) (request : Request) : Option Outcome :=
  match AppConfig.load files request.config with
  | .error (.config error) => some { status := .done errorCode, error, files }
  | .error (.crash crash) => some { status := .crashed crash, files }
  | .ok config =>
    match (Session.start config env files (some printer) #[]).reload request.rc with
    | (some (.config error), s) => some (close (.done errorCode) s error)
    | (some (.crash crash), s) => some (close (.crashed crash) s)
    | (none, s) =>
      match s.loadReplacements none with
      | (.error crash, s) => some (close (.crashed crash) s)
      | (.ok _, s) =>
        if request.runsInit then
          match s.runInit with
          | none => none
          | some (.error crash, s) => some (close (.crashed crash) s)
          | some (.ok _, s) => runAll 0 s request.invocations
        else runAll 0 s request.invocations

/-- Run the program. -/
def run (env : Environment) (files : FileSystem) (arguments : List Text) : Option Outcome :=
  match Request.ofArguments env arguments with
  | .error refusal => some { status := .refused refusal, files }
  | .ok request => serve env files request

end CommandLine

end Ebrc
