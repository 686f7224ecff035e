import Ebrc.AppConfig.File
import Ebrc.Call
import Ebrc.Load
import Ebrc.MailRules
import Ebrc.Replacements
import Ebrc.SiteRules

/-!
# Sessions

A session joins what an application configuration settles, what an rc file has loaded, the
settings, the replacements and the editor. Loads and runs change it one after the other.

A reload that succeeds selects the default user agent; all other settings outlast reloads.
-/

namespace Ebrc

/-- A session with an editor whose state is of some kind. -/
structure Session (η : Type) where
  config : AppConfig
  environment : Environment
  files : FileSystem
  host? : Option (Host η)
  host : η
  loaded : Loaded
  settings : Settings := {}
  interrupted : Bool := false
  replacements : Replacements := []
  log : EventLog := #[]

namespace Session

variable {η : Type}

/-- A session in which nothing has been loaded. -/
def start (config : AppConfig) (environment : Environment) (files : FileSystem)
    (host? : Option (Host η)) (host : η) : Session η :=
  { config, environment, files, host?, host, loaded := .fresh config.defaultAgent }

/-- Tell an event. -/
def tell (s : Session η) (event : Event) : Session η := { s with log := s.log.push event }

/-! ## Loading -/

/-- What loads go by. -/
def surroundings (s : Session η) : Surroundings := ⟨s.config.limits, s.environment⟩

/-- The session after a load. -/
def afterLoad (s : Session η) (result : LoadResult) : Session η :=
  { s with loaded := result.loaded, files := result.files, log := result.log }

/-- Select the default user agent. -/
def selectDefaultAgent (s : Session η) : Session η :=
  { s with settings := { s.settings with currentAgent := s.loaded.agents.head?, agentIndex := 0 } }

/-- Load the rc file at a path, or the one that the configuration names. -/
def reload (path? : Option Text) (s : Session η) : Option LoadFault × Session η :=
  let path : Except Crash Path := match path? with
    | some path => .ok (Path.ofText path)
    | none => s.config.rcPath s.environment
  match path with
  | .error crash => (some (.crash crash), s)
  | .ok path =>
    let result := s.loaded.load s.surroundings path.toText s.files s.log
    let s := s.afterLoad result
    match result.fault with
    | none => (none, s.selectDefaultAgent)
    | some (.config error) => (some (.config error), s.tell (.loadFailed error))
    | some (.crash crash) => (some (.crash crash), s)

/-- Load an rc file whose text is at hand. -/
def loadText (text file : Text) (s : Session η) : Option LoadFault × Session η :=
  let result := s.loaded.loadText s.surroundings text file s.files s.log
  (result.fault, s.afterLoad result)

/-- Read the list of replacements at a path, or the one that the configuration names, and tell
how many there are in it. -/
def loadReplacements (path? : Option Text) (s : Session η) : Except Crash Nat × Session η :=
  let path : Except Crash Path := match path? with
    | none | some [] => AppConfig.homePath s.environment s.config.replacementsFile
    | some path => .ok (Path.ofText path)
  let result : Except Crash Replacements.ReadResult := do
    (s.replacements.readList s.files (← path)).mapError .file
  match result with
  | .error crash => (.error crash, s)
  | .ok result =>
    (.ok result.count,
      { s with replacements := result.table, log := s.log ++ result.events.toArray })

/-! ## Functions -/

/-- How many lines of one function are run before it is taken not to end. -/
def patience : Nat := Nat.pow 10 15

/-- What calls go by. -/
def context (s : Session η) : CallContext η where
  rules := s.loaded.rules
  agents := s.loaded.agents
  repetitions := s.config.safety.repetitions
  host? := s.host?
  patience := patience

/-- What running functions change. -/
def runState (s : Session η) : RunState η := ⟨s.settings, s.interrupted, s.host, s.log⟩

/-- The session after a run. -/
def afterRun (s : Session η) (r : RunState η) : Session η :=
  { s with settings := r.settings, interrupted := r.interrupted, host := r.host, log := r.log }

/-- Call a function. -/
def call (line : Text) (s : Session η) : Option (Except Crash CallResult × Session η) :=
  (s.context.call s.config.safety.callDepth line s.runState).map fun (result, r) =>
    (result, s.afterRun r)

/-- Call a function, with the interrupt flag down at first. -/
def runFunction (line : Text) (s : Session η) : Option (Except Crash CallResult × Session η) :=
  { s with interrupted := false }.call line

/-- Run the function for after a load, if there is one. -/
def runInit (s : Session η) : Option (Except Crash (Option CallResult) × Session η) :=
  match s.loaded.rules.findFunction initFunction with
  | .error crash => some (.error crash, s)
  | .ok none => some (.ok none, s)
  | .ok (some _) => (s.runFunction initFunction).map fun (result, s) => (result.map some, s)

/-- Carry a command out. -/
def carryOut (line : Text) (s : Session η) : Option (Bool × Session η) :=
  (s.context.carryOut (s.context.call s.config.safety.callDepth) line s.runState).map
    fun (ok, r) => (ok, s.afterRun r)

/-! ## Questions -/

/-- May scripts from a URL run? -/
def allowsScript (s : Session η) (url : Text) : Bool := s.loaded.rules.allowsScript s.settings url

/-- Must the host of a URL prove who it is? -/
def verifiesHost (s : Session η) (url : Text) : Bool := s.loaded.rules.verifiesHost s.settings url

/-- The proxy that leads to a URL. -/
def findProxy (url : Text) (s : Session η) : Text × Session η :=
  let (proxy, events) := s.loaded.rules.findProxy url
  (proxy, { s with log := s.log ++ events.toArray })

/-- The user agent to show to a URL, if a rule sets one. -/
def agentFor (s : Session η) (url : Text) : Except Crash (Option Text) :=
  s.loaded.rules.agentFor s.loaded.agents url

/-- Where a message goes. A session knows no aliases. -/
def redirectMail (s : Session η) (head : MailHead) : Except Crash (Option Text) :=
  s.loaded.rules.redirectMail (fun _ => none) head

end Session

end Ebrc
