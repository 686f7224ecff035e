import Ebrc.Text.Basic

/-!
# Document values

What a configuration document says: the values that its formats have in common. The members of
an object are in the order in which they were written; of two members with one name the last
one counts.
-/

namespace Ebrc

/-- Why a text is not read as a document. -/
inductive DocumentFault where
  | malformed
  /-- Lists and objects are nested too deep. -/
  | tooDeep
  /-- A number or a date that cannot be read: it has too many digits, or there is no such day. -/
  | badNumber
  /-- A number without any digits. -/
  | emptyNumber
  /-- A text declared to mean yes or no that means neither. -/
  | badSwitch
  /-- A text declared to be a date that has not the form of one. -/
  | badDate
  deriving Repr, DecidableEq

/-- A value of a document. -/
inductive Value where
  | null
  | bool (b : Bool)
  | int (n : Int)
  | float (x : Float)
  | text (t : Text)
  /-- A text with halves of characters in it that have lost their partners; the replacement
  character stands for them. -/
  | brokenText (t : Text)
  /-- A day or a time, as it was written. -/
  | date (t : Text)
  | list (items : List Value)
  | object (members : List (Text × Value))
  /-- A mapping that has keys which are no texts; the others are kept. -/
  | mixed (members : List (Text × Value))
  deriving Inhabited

/-- A text as it is put together from characters and escapes. A half of a character that has lost
its partner leaves a replacement character, and makes the text a broken one. -/
structure QuotedText where
  text : Text := []
  isBroken : Bool := false
  deriving Repr, DecidableEq

namespace QuotedText

/-- A text with one more character in front, or half of one. -/
def cons (c : Option Char) (q : QuotedText) : QuotedText :=
  match c with
  | some c => { q with text := c :: q.text }
  | none => ⟨'\uFFFD' :: q.text, true⟩

/-- A text with characters in front. -/
def prepend (t : Text) (q : QuotedText) : QuotedText := { q with text := t ++ q.text }

/-- A text from back to front. -/
def reverse (q : QuotedText) : QuotedText := { q with text := q.text.reverse }

/-- The value that a text is. -/
def toValue (q : QuotedText) : Value := if q.isBroken then .brokenText q.text else .text q.text

end QuotedText

namespace Value

/-- The member of an object with this name. -/
def member? (members : List (Text × Value)) (name : Text) : Option Value :=
  members.reverse.lookup name

/-- Does the value count as nothing: null, false, zero, or an empty text, list or object? -/
def isEmpty : Value → Bool
  | null => true
  | bool b => !b
  | int n => n = 0
  | float x => x == 0
  | text t => t.isEmpty
  | brokenText _ | date _ | mixed _ => false
  | list items => items.isEmpty
  | object members => members.isEmpty

end Value

/-- The binary fraction nearest to `digits * 10 ^ exponent`. An exponent far outside the range
of fractions is cut off, which changes nothing. -/
def floatOfDecimal (negative : Bool) (digits : Nat) (exponent : Int) : Float :=
  let size : Int := (Nat.toDigits 10 digits).length
  let magnitude :=
    if digits = 0 ∨ exponent + size < -400 then 0
    else if 400 < exponent + size then Float.ofScientific 1 false 400
    else Float.ofScientific digits (exponent < 0) exponent.natAbs
  if negative then -magnitude else magnitude

/-- The not-a-number and the two infinities of binary fractions. -/
def floatNaN : Float := 0 / 0

/-- Positive infinity. -/
def floatInfinity : Float := 1 / 0

end Ebrc
