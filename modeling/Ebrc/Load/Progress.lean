import Ebrc.Environment
import Ebrc.Event
import Ebrc.LoadFault
import Ebrc.Loaded

/-!
# A load in progress

Between two lines of an rc file a load has loaded something, stands inside a block or outside
of all, and has left traces in the file system and in the log. The blocks that collect a record
do not nest; inside a function, control blocks do.

A load stops at the first fault or crash; what it had done until then is told with it.
-/

namespace Ebrc

/-- A function whose closing line has not been read. -/
structure OpenFunction where
  name : Text
  /-- The line of its header. -/
  line : Nat
  /-- The lines of its body so far, the last one first. -/
  body : List Line := []
  deriving Repr, DecidableEq

/-- The block that a line stands in. -/
inductive OpenBlock where
  /-- None. -/
  | none
  | account (account : Account)
  | filter (kind : RuleKind)
  | plugin (plugin : Plugin)
  | table (table : Table)
  /-- A function, or a block without a letter that stands in its place, and the letters of the
  blocks inside it, the innermost one first. -/
  | function (function : Option OpenFunction) (inner : List (Option Char))
  deriving Repr, DecidableEq

/-- What a block is called in which another one may not start. -/
def OpenBlock.holder? : OpenBlock → Option BlockHolder
  | .none => .none
  | .account _ => some .account
  | .filter _ => some .filter
  | .plugin _ => some .plugin
  | .table _ => some .table
  | .function _ _ => some .function

/-- How far a load has come. -/
structure Progress where
  loaded : Loaded
  block : OpenBlock := .none
  files : FileSystem
  log : EventLog
  deriving Repr, DecidableEq

/-- What a load goes by. -/
structure Surroundings where
  limits : Limits
  environment : Environment
  deriving Repr, DecidableEq

/-- A line of an rc file. -/
structure Position where
  file : Text
  line : Nat
  deriving Repr, DecidableEq

/-- Why a load stops, and how far it had come. -/
structure Stop where
  fault : LoadFault
  progress : Progress
  deriving Repr, DecidableEq

namespace Progress

/-- Tell an event. -/
def tell (p : Progress) (event : Event) : Progress := { p with log := p.log.push event }

/-- Change what is loaded. -/
def modify (p : Progress) (f : Loaded → Loaded) : Progress := { p with loaded := f p.loaded }

@[simp] theorem modify_loaded (p : Progress) (f : Loaded → Loaded) :
    (p.modify f).loaded = f p.loaded := rfl

@[simp] theorem modify_block (p : Progress) (f : Loaded → Loaded) :
    (p.modify f).block = p.block := rfl

@[simp] theorem modify_files (p : Progress) (f : Loaded → Loaded) :
    (p.modify f).files = p.files := rfl

/-- Stop at a fault. A fault of a path that a line names is told without the line. -/
def stop {α : Type} (p : Progress) (here : Position) (fault : ConfigFault) : Except Stop α :=
  .error ⟨.config
    ⟨fault, some here.file, if fault.aboutPath then none else some here.line⟩, p⟩

/-- Stop at a crash. -/
def crash {α : Type} (p : Progress) (crash : Crash) : Except Stop α := .error ⟨.crash crash, p⟩

/-- Stop at a refusal. -/
def orRefuse {α : Type} (p : Progress) (here : Position) : Except Refusal α → Except Stop α
  | .ok a => .ok a
  | .error (.fault fault) => p.stop here fault
  | .error (.crash c) => p.crash c

/-- Stop at a failure of the file system. -/
def orCrash {α : Type} (p : Progress) : Except FileError α → Except Stop α
  | .ok a => .ok a
  | .error reason => p.crash (.file reason)

end Progress

end Ebrc
