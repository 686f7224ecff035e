import Ebrc.Text.Blank
import Ebrc.Text.Digit

/-!
# Invocations

An invocation is a line with the name of a function and the words given to it. The lines of the
function refer to the words by their number, after a tilde, and to all of them together by the
number 0.
-/

namespace Ebrc

/-- The name of a function and the words given to it. -/
structure Invocation where
  name : Text
  arguments : List Text
  deriving Repr, DecidableEq

namespace Invocation

/-- The number of words that can be referred to one by one. -/
def maxWords : Nat := 9

/-- Read a line. -/
def ofLine (line : Text) : Invocation :=
  match Text.words line with
  | [] => ⟨[], []⟩
  | name :: arguments => ⟨name, arguments⟩

/-- What a number refers to. -/
def slot? (inv : Invocation) : Nat → Option Text
  | 0 => some (Text.unwords inv.arguments)
  | n + 1 => (inv.arguments.take maxWords)[n]?

/-- What all numbers refer to. -/
def slots (inv : Invocation) : List (Option Text) :=
  (List.range (maxWords + 1)).map inv.slot?

/-- Are there words that cannot be referred to one by one? -/
def hasExtra (inv : Invocation) : Bool := maxWords < inv.arguments.length

/-- Fill in what a template refers to, from left to right. What is filled in is not looked at
again. The first number that refers to nothing is told. -/
def fill (inv : Invocation) : Text → Except Nat Text
  | [] => .ok []
  | [c] => .ok [c]
  | c :: d :: t =>
    match (if c = '~' then Text.decimalValue? d else none) with
    | none => (inv.fill (d :: t)).map (c :: ·)
    | some n =>
      match inv.slot? n with
      | none => .error n
      | some argument => (inv.fill t).map (argument ++ ·)

end Invocation

end Ebrc
