import Ebrc.Command
import Ebrc.Event
import Ebrc.Machine

/-!
# Function calls

A call looks a function up and runs its body. The commands of the body change settings, call
functions, or go to the editor. How deep calls are nested is bounded, and the recursion runs on
this bound.

When a function ends, in whatever way, the settings are put back to what they were before, with
the exception of functions that exist to change them. A command that crashes counts as one that
failed.
-/

namespace Ebrc

/-! ## The editor -/

/-- What an editor answers to a command: whether it succeeded, or nothing if it crashed. The
command may have asked for a stop. -/
structure HostReply (η : Type) where
  answer : Option Bool
  interrupts : Bool
  host : η

/-- An editor with a state of its own. -/
abbrev Host (η : Type) := Text → η → HostReply η

/-! ## Looking functions up -/

/-- What comes of looking a function up. -/
inductive Resolution where
  | found (rule : Rule)
  | refused (error : FunctionError)
  | crashed (crash : Crash)
  deriving Repr, DecidableEq

/-- Is the text a name that a function may have? -/
def isFunctionName (name : Text) : Bool := !name.isEmpty && name.all Char.isAlphanum

/-- Look a function up. -/
def RuleTable.resolve (rules : RuleTable) (name : Text) : Resolution :=
  if name = [] then .refused ⟨.unnamed, none⟩
  else if !isFunctionName name then .refused ⟨.badName, some name⟩
  else
    match rules.findFunction name with
    | .error crash => .crashed crash
    | .ok none => .refused ⟨.unknown name, some name⟩
    | .ok (some rule) => .found rule

/-- The function that is run after a load. -/
def initFunction : Text := "init".toList

/-- Do the changes that a function makes to the settings last? -/
def keepsChanges (name : Text) : Bool :=
  let name := Text.lower name
  name = initFunction || "set".toList.isPrefixOf name

/-! ## Calling -/

/-- How a call ends. -/
inductive Verdict where
  | success
  /-- The function minds a command that failed. -/
  | softFailure
  | failed (error : FunctionError)
  | notFound (error : FunctionError)
  deriving Repr, DecidableEq

/-- What comes of a call. -/
structure CallResult where
  function : Text
  verdict : Verdict
  /-- How many commands the function itself has run. -/
  commands : Nat
  deriving Repr, DecidableEq

/-- Has the call succeeded? -/
def CallResult.ok (result : CallResult) : Bool := result.verdict = .success

/-- What running functions change. -/
structure RunState (η : Type) where
  settings : Settings
  interrupted : Bool
  host : η
  log : EventLog

/-- Tell an event. -/
def RunState.tell {η : Type} (s : RunState η) (event : Event) : RunState η :=
  { s with log := s.log.push event }

/-- What calls go by. -/
structure CallContext (η : Type) where
  rules : RuleTable
  agents : List Text
  /-- How often the blocks of one function that test at their end may repeat. -/
  repetitions : Nat
  host? : Option (Host η)
  /-- How many lines of one function are run before it is taken not to end. -/
  patience : Nat

/-- What comes of a call and the state after it, if the call ends. -/
abbrev CallOutcome (η : Type) := Option (Except Crash CallResult × RunState η)

/-- Who carries commands out: whether a command succeeds, and the state after it, if it comes to an
end. -/
abbrev Evaluator (η : Type) := Text → RunState η → Option (Bool × RunState η)

namespace CallContext

variable {η : Type}

/-- Hand a command to the editor. -/
def askHost (context : CallContext η) (line : Text) (s : RunState η) : Bool × RunState η :=
  match context.host? with
  | none => (false, s.tell (.unknownCommand line))
  | some host =>
    let reply := host line s.host
    let s := { s with host := reply.host, interrupted := s.interrupted || reply.interrupts }
    match reply.answer with
    | some ok => (ok, s)
    | none => (false, s.tell (.crashedCommand line))

/-- Change the settings. -/
def changeSettings (context : CallContext η) (command : SettingsCommand) (line : Text)
    (s : RunState η) : Bool × RunState η :=
  match command.apply context.agents s.settings with
  | .ok (some settings) => (true, { s with settings })
  | .ok none => (false, s)
  | .error _ => (false, s.tell (.crashedCommand line))

/-- Carry a command out; `call` is how functions are called. -/
def carryOut (context : CallContext η) (call : Text → RunState η → CallOutcome η) :
    Evaluator η := fun line s =>
  match Command.ofLine? line with
  | none => some (context.askHost line s)
  | some (.echo text) => some (true, s.tell (.echo text))
  | some .noop => some (true, s)
  | some (.settings command) => some (context.changeSettings command line s)
  | some (.call invocation) =>
    (call invocation s).map fun
      | (.ok result, s) => (result.ok, s)
      | (.error _, s) => (false, s.tell (.crashedCommand line))

/-- Who steers the body of a function: the interrupt flag of the state, and whoever carries commands
out, each of which is told of first. -/
def steering (evaluate : Evaluator η) (name : Text) : Steering (RunState η) where
  interrupted s := (s.interrupted, s)
  carryOut line s := evaluate line (s.tell (.command name line))

/-- The end of a call whose body has been run. Settings that are not to last are put back. -/
def conclude (name : Text) (before : Settings) (m : Machine) (ending : Ending) (s : RunState η) :
    Except Crash CallResult × RunState η :=
  let s := { s with settings := if keepsChanges name then s.settings else before }
  match ending with
  | .finished soft =>
    (.ok ⟨name, if soft then .softFailure else .success, m.commands⟩,
      s.tell (.finished name soft m.commands))
  | .failed fault =>
    let error : FunctionError := ⟨fault, some name⟩
    (.ok ⟨name, .failed error, m.commands⟩, s.tell (.failed name error))
  | .crashed crash => (.error crash, s)

/-- Run the body of a function that has been looked up. -/
def runBody (context : CallContext η) (evaluate : Evaluator η) (name : Text) (rule : Rule)
    (invocation : Invocation) (before : RunState η) : CallOutcome η :=
  match rule.body.elim (.error .noFunction) Body.program with
  | .error crash => some (.error crash, before)
  | .ok code =>
    let task : Task := ⟨code, rule.mindful, invocation, context.repetitions⟩
    (Machine.run task (steering evaluate name) context.patience {} before).map
      fun (m, ending, s) => conclude name before.settings m ending s

/-- Tell of words that cannot be referred to. -/
def tellExtra (invocation : Invocation) (s : RunState η) : RunState η :=
  if invocation.hasExtra then
    s.tell (.extraArguments invocation.name invocation.arguments.length)
  else s

/-- Call a function whose commands are carried out by somebody, or by nobody when calls are nested
too deep already. -/
def invoke (context : CallContext η) (evaluate? : Option (Evaluator η)) (line : Text)
    (s : RunState η) : CallOutcome η :=
  let invocation := Invocation.ofLine line
  let s := tellExtra invocation s
  match context.rules.resolve invocation.name with
  | .crashed crash => some (.error crash, s)
  | .refused error =>
    some (.ok ⟨invocation.name, .notFound error, 0⟩, s.tell (.notFound invocation.name error))
  | .found rule =>
    let name := rule.pattern.getD []
    match evaluate? with
    | none =>
      let error : FunctionError := ⟨.tooDeep, some name⟩
      some (.ok ⟨name, .failed error, 0⟩, s.tell (.failed name error))
    | some evaluate => context.runBody evaluate name rule invocation s

/-- Call a function with no more than this many calls inside one another. -/
def call (context : CallContext η) : Nat → Text → RunState η → CallOutcome η
  | 0 => context.invoke none
  | depth + 1 => context.invoke (some (context.carryOut (context.call depth)))

end CallContext

end Ebrc
