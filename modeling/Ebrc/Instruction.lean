import Ebrc.Crash
import Ebrc.Line
import Ebrc.Text.Case
import Ebrc.Text.Digit

/-!
# Instructions

The lines of a function body as the machine sees them. A control line is recognised by its
first character alone. A block is told from the others by what it tests, on entry or at its
end, and a loop carries its count.
-/

namespace Ebrc

/-- A kind of block, as its opening line has it. -/
inductive Block where
  /-- Runs a number of times. -/
  | loop (count : Int)
  /-- Runs once, if the last command succeeded or, for `false`, failed. -/
  | branch (onOk : Bool)
  /-- Tests on entry and at its end, and repeats while the test holds. -/
  | whileBlock (onOk : Bool)
  /-- Tests at its end only, and repeats until the test holds. -/
  | untilBlock (onOk : Bool)
  /-- A letter that stands for no kind of block, or none at all. -/
  | other (letter : Option Char)
  deriving Repr, DecidableEq

namespace Block

/-- The block whose opening line carries this letter and text. -/
def ofLetter (letter : Option Char) (payload : Text) : Except Crash Block :=
  match letter with
  | some 'l' =>
    if payload = [] then .ok (loop 0)
    else
      match Text.readInt? payload with
      | some n => .ok (loop n)
      | none => .error .badNumber
  | some 'I' => .ok (branch true)
  | some 'i' => .ok (branch false)
  | some 'W' => .ok (whileBlock true)
  | some 'w' => .ok (whileBlock false)
  | some 'U' => .ok (untilBlock true)
  | some 'u' => .ok (untilBlock false)
  | letter => .ok (other letter)

/-- The letter of a kind of block. -/
def letter : Block → Option Char
  | loop _ => some BlockLetter.loop
  | branch true => some BlockLetter.ifOk
  | branch false => some BlockLetter.ifFailed
  | whileBlock true => some BlockLetter.whileOk
  | whileBlock false => some BlockLetter.whileFailed
  | untilBlock true => some BlockLetter.untilOk
  | untilBlock false => some BlockLetter.untilFailed
  | other letter => letter

/-- The count of a loop, and 0 for other blocks. -/
def count : Block → Int
  | loop n => n
  | _ => 0

/-- The success on which a block that tests on entry is entered. A letter that stands for no
kind of block goes by its case, as the letters that do. -/
def entryTest : Block → Option Bool
  | loop _ | untilBlock _ => none
  | branch onOk | whileBlock onOk => some onOk
  | other letter => some (letter.any Text.isCapital)

/-- The success on which a block that tests at its end repeats. -/
def repeatTest : Block → Option Bool
  | whileBlock onOk => some onOk
  | untilBlock onOk => some !onOk
  | loop _ | branch _ | other _ => none

end Block

/-- A line of a function body. -/
inductive Instruction where
  /-- A command, with its arguments still to be filled in. -/
  | literal (template : Text)
  | opening (block : Block)
  | closing
  | between
  deriving Repr, DecidableEq

namespace Instruction

/-- Read an encoded line. -/
def decode (line : Line) : Except Crash Instruction :=
  match line with
  | [] => .ok (literal [])
  | c :: rest =>
    if c = Line.closeMark then .ok closing
    else if c = Line.elseMark then .ok between
    else if c = Line.openMark then
      (Block.ofLetter rest.head? rest.tail).map opening
    else .ok (literal line)

/-- Write an encoded line. -/
def encode : Instruction → Line
  | literal template => template
  | closing => Line.close
  | between => Line.between
  | opening (.loop n) => Line.opening BlockLetter.loop (Text.ofInt n)
  | opening block => Line.openMark :: block.letter.toList

/-- Does the line open a block? -/
def isOpening : Instruction → Bool
  | opening _ => true
  | _ => false

/-- Does the line close a block? -/
def isClosing : Instruction → Bool
  | closing => true
  | _ => false

/-- Does the line stand between two branches? -/
def isBetween : Instruction → Bool
  | between => true
  | _ => false

end Instruction

end Ebrc
