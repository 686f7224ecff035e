import Ebrc.Instruction

/-!
# Programs

The body of a function is a flat sequence of instructions. Blocks are not made into a tree:
the other end of a block is found by a scan that counts openings against closings, and that
stops at an else on its own level too.
-/

namespace Ebrc

/-- The instructions of a function body. -/
abbrev Program := List Instruction

/-- The way in which a scan goes. -/
inductive Direction where
  | forward
  | backward
  deriving Repr, DecidableEq

namespace Program

/-- Read encoded lines. -/
def ofLines (lines : List Line) : Except Crash Program := lines.mapM Instruction.decode

/-- Write encoded lines. -/
def toLines (code : Program) : List Line := code.map Instruction.encode

/-- The templates of the commands. -/
def literals (code : Program) : List Text :=
  code.filterMap fun
    | .literal template => some template
    | _ => none

/-- How many instructions stand before the one that ends the block in which a scan starts:
blocks entered on the way, of which `nest` are open, are passed over as a whole, and so are
their elses. -/
def scan (enters leaves : Instruction → Bool) : Nat → Program → Option Nat
  | _, [] => none
  | nest, i :: rest =>
    if i.isBetween then
      if nest = 0 then some 0 else (scan enters leaves nest rest).map (· + 1)
    else if enters i then (scan enters leaves (nest + 1) rest).map (· + 1)
    else if leaves i then
      match nest with
      | 0 => some 0
      | nest + 1 => (scan enters leaves nest rest).map (· + 1)
    else (scan enters leaves nest rest).map (· + 1)

/-- The else or closing line that ends the block in which `start` lies, looked for from `start`
on. -/
def blockEnd? (code : Program) (start : Nat) : Option Nat :=
  (scan Instruction.isOpening Instruction.isClosing 0 (code.drop start)).map (start + ·)

/-- The opening line or else that starts the block which ends before `stop`, looked for from
`stop` backwards. -/
def blockStart? (code : Program) (stop : Nat) : Option Nat :=
  (scan Instruction.isClosing Instruction.isOpening 0 (code.take stop).reverse).map
    (stop - 1 - ·)

/-- The other end of the block at a position. A position next to the program counts as one
from which a scan may start into it. -/
def partner? (code : Program) (position : Int) : Direction → Option Nat
  | .forward => if position < -1 then none else code.blockEnd? (position + 1).toNat
  | .backward =>
    if position < 0 ∨ (code.length : Int) < position then none
    else code.blockStart? position.toNat

end Program

/-- The body of a function, which is known once its closing line has been read. -/
inductive Body where
  | unsealed
  | sealed (program : Program)
  deriving Repr, DecidableEq

namespace Body

/-- Has the closing line been read? -/
def isSealed : Body → Bool
  | unsealed => false
  | sealed _ => true

/-- The program of a body whose closing line has been read. -/
def program : Body → Except Crash Program
  | unsealed => .error .bodyNotSealed
  | sealed code => .ok code

/-- Make encoded lines the body. -/
def close (lines : List Line) : Body → Except Crash Body
  | unsealed => (Program.ofLines lines).map sealed
  | sealed _ => .error .bodyAlreadySealed

end Body

end Ebrc
