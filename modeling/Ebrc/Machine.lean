import Ebrc.FunctionError
import Ebrc.Invocation
import Ebrc.Program

/-!
# The machine

The machine runs the body of a function. It goes from line to line, keeps the blocks that it
has entered and not left, and whether the last command succeeded, and jumps to the other end of
a block when the block is to be skipped or repeated.

A step either leads to the next line, asks for a command to be carried out, or ends the run.
Who carries commands out, and who asks for a stop, is left open: both work on a state of any
kind. The interrupt flag is looked at before every line.
-/

namespace Ebrc

/-- A block that has been entered, and how often it is still to run if it is a loop. -/
structure Frame where
  block : Block
  left : Int
  deriving Repr, DecidableEq

/-- The state of a running function. -/
structure Machine where
  /-- The position of the next line. -/
  position : Nat := 0
  /-- Did the last command succeed? A test sets this anew. -/
  ok : Bool := true
  /-- Has the function minded a command that failed? -/
  soft : Bool := false
  /-- The blocks entered and not left, the innermost one first. -/
  frames : List Frame := []
  /-- How often blocks that test at their end have repeated. -/
  repetitions : Nat := 0
  /-- How many commands have been carried out. -/
  commands : Nat := 0
  deriving Repr, DecidableEq

/-- A function that is run, and what it is run with. -/
structure Task where
  code : Program
  mindful : Bool
  invocation : Invocation
  /-- How often blocks that test at their end may repeat; 0 for any number of times. -/
  limit : Nat
  deriving Repr, DecidableEq

/-- How the run of a body ends. -/
inductive Ending where
  /-- At its end; has the function minded a command that failed? -/
  | finished (soft : Bool)
  | failed (fault : FunctionFault)
  | crashed (crash : Crash)
  deriving Repr, DecidableEq

/-- What comes of a line. -/
inductive Step where
  | next (m : Machine)
  /-- A command is to be carried out. -/
  | command (line : Text)
  | stop (ending : Ending)
  deriving Repr, DecidableEq

namespace Block

/-- Is the block entered after a command with this success? -/
def isEntered (block : Block) (ok : Bool) : Bool :=
  match block with
  | loop n => n ≠ 0
  | block =>
    match block.entryTest with
    | some onOk => ok = onOk
    | none => true

/-- What the success of the last command is taken to be inside the block. -/
def okInside (block : Block) (ok : Bool) : Bool := block.entryTest.isSome || ok

end Block

namespace Machine

/-- Go to the next line. -/
def advance (m : Machine) : Machine := { m with position := m.position + 1 }

/-- Skip the block just entered, up to its else, which is in the block still, or to its end. -/
def skip (code : Program) (m : Machine) : Step :=
  match code.blockEnd? (m.position + 1) with
  | none => .stop (.crashed .unbalancedBlock)
  | some stop =>
    .next { m with
      position := stop + 1
      frames := if code[stop]?.any Instruction.isClosing then m.frames.tail else m.frames }

/-- Enter a block, or skip it. -/
def openBlock (code : Program) (block : Block) (m : Machine) : Step :=
  let inside := { m with
    ok := block.okInside m.ok
    frames := ⟨block, block.count⟩ :: m.frames }
  if block.isEntered m.ok then .next inside.advance else inside.skip code

/-- Leave the block whose first branch ends in an else. -/
def leaveBranch (code : Program) (m : Machine) : Step :=
  match code.blockEnd? (m.position + 1), m.frames with
  | none, _ => .stop (.crashed .unbalancedBlock)
  | some _, [] => .stop (.crashed .noOpenBlock)
  | some stop, _ :: frames => .next { m with position := stop + 1, frames }

/-- Go back to the first line of the block that ends here. -/
def repeatBlock (code : Program) (m : Machine) : Step :=
  match code.blockStart? m.position with
  | none => .stop (.crashed .unbalancedBlock)
  | some start => .next { m with position := start + 1 }

/-- Repeat the block that ends here, or leave it. -/
def closeBlock (task : Task) (m : Machine) : Step :=
  match m.frames with
  | [] => .stop (.crashed .noOpenBlock)
  | frame :: frames =>
    let left := { m with frames }.advance
    match frame.block, frame.block.repeatTest with
    | .loop _, _ =>
      if 1 < frame.left then
        { m with frames := { frame with left := frame.left - 1 } :: frames }.repeatBlock task.code
      else .next left
    | _, some onOk =>
      if m.ok = onOk then
        if task.limit ≠ 0 ∧ task.limit < m.repetitions + 1 then
          .stop (.failed (.tooManyRepetitions task.limit))
        else
          { m with ok := true, repetitions := m.repetitions + 1 }.repeatBlock task.code
      else .next { left with ok := true }
    | _, none => .next left

/-- Would a function that minds its commands mind the last one now? -/
def softAfter (task : Task) (m : Machine) : Bool := m.soft || (task.mindful && !m.ok)

/-- The machine after a command was carried out. -/
def answer (task : Task) (ok : Bool) (m : Machine) : Machine :=
  { m with
    position := m.position + 1
    ok
    soft := m.softAfter task
    commands := m.commands + 1 }

/-- What comes of the next line. -/
def step (task : Task) (m : Machine) : Step :=
  match task.code[m.position]? with
  | none => .stop (.finished (m.softAfter task))
  | some .between => m.leaveBranch task.code
  | some .closing => m.closeBlock task
  | some (.opening block) => m.openBlock task.code block
  | some (.literal template) =>
    match task.invocation.fill template with
    | .error index => .stop (.failed (.noArgument index))
    | .ok line => .command line

end Machine

/-- Who steers a running function: who says whether to stop, and carries commands out. A
command that does not come to an end has no answer. -/
structure Steering (σ : Type) where
  interrupted : σ → Bool × σ
  carryOut : Text → σ → Option (Bool × σ)

namespace Machine

/-- Run to the end, in no more than a number of lines. -/
def run {σ : Type} (task : Task) (steering : Steering σ) :
    Nat → Machine → σ → Option (Machine × Ending × σ)
  | 0, _, _ => none
  | fuel + 1, m, s =>
    if m.position < task.code.length then
      let (stopped, s) := steering.interrupted s
      if stopped then some (m, .failed .interrupted, s)
      else
        match m.step task with
        | .stop ending => some (m, ending, s)
        | .next m => run task steering fuel m s
        | .command line =>
          match steering.carryOut line s with
          | none => none
          | some (ok, s) => run task steering fuel (m.answer task ok) s
    else some (m, .finished (m.softAfter task), s)

end Machine

end Ebrc
