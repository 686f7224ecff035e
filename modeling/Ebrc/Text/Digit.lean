import Ebrc.Text.Blank

/-!
# Digits and numbers

A decimal digit of any script has a value from 0 to 9, and the digits of a script stand next
to each other. Some further characters, such as superscripts, count as digits of a number in
the wide sense but have no decimal value.

Numbers are read in decimal digits of any script. A number of more than `maxNumberLength`
digits is not read.
-/

namespace Ebrc

namespace Text

/-- The zeros of all scripts; the other nine digits follow each of them. -/
def zeroDigits : List Nat := [
  0x30, 0x660, 0x6f0, 0x7c0, 0x966, 0x9e6, 0xa66, 0xae6, 0xb66, 0xbe6, 0xc66, 0xce6, 0xd66, 0xde6,
  0xe50, 0xed0, 0xf20, 0x1040, 0x1090, 0x17e0, 0x1810, 0x1946, 0x19d0, 0x1a80, 0x1a90, 0x1b50,
  0x1bb0, 0x1c40, 0x1c50, 0xa620, 0xa8d0, 0xa900, 0xa9d0, 0xa9f0, 0xaa50, 0xabf0, 0xff10, 0x104a0,
  0x10d30, 0x11066, 0x110f0, 0x11136, 0x111d0, 0x112f0, 0x11450, 0x114d0, 0x11650, 0x116c0, 0x11730,
  0x118e0, 0x11950, 0x11c50, 0x11d50, 0x11da0, 0x16a60, 0x16ac0, 0x16b50, 0x1d7ce, 0x1d7d8, 0x1d7e2,
  0x1d7ec, 0x1d7f6, 0x1e140, 0x1e2f0, 0x1e950, 0x1fbf0]

/-- Digits in the wide sense that are not decimal digits. -/
def digitSignRanges : List (Nat × Nat) := [
  (0xb2, 0xb3), (0xb9, 0xb9), (0x1369, 0x1371), (0x19da, 0x19da), (0x2070, 0x2070),
  (0x2074, 0x2079), (0x2080, 0x2089), (0x2460, 0x2468), (0x2474, 0x247c), (0x2488, 0x2490),
  (0x24ea, 0x24ea), (0x24f5, 0x24fd), (0x24ff, 0x24ff), (0x2776, 0x277e), (0x2780, 0x2788),
  (0x278a, 0x2792), (0x10a40, 0x10a43), (0x10e60, 0x10e68), (0x11052, 0x1105a), (0x1f100, 0x1f10a)]

/-- The value of a decimal digit. -/
def decimalValue? (c : Char) : Option Nat :=
  (zeroDigits.find? fun first => first ≤ c.toNat && c.toNat ≤ first + 9).map (c.toNat - ·)

/-- Is the character a decimal digit of some script? -/
def isDecimal (c : Char) : Bool := (decimalValue? c).isSome

/-- Is the character a decimal digit or another sign for a digit? -/
def isDigitSign (c : Char) : Bool := isDecimal c || inRanges digitSignRanges c

/-- Does the text consist of digits in the wide sense, at least one? -/
def allDigitSigns (t : Text) : Bool := !t.isEmpty && t.all isDigitSign

/-- The number of digits beyond which a number is not read. -/
def maxNumberLength : Nat := 4300

/-- The value of a run of decimal digits, the most significant one first. -/
def digitsValue (t : Text) : Nat :=
  t.foldl (fun n c => 10 * n + (decimalValue? c).getD 0) 0

/-- A run of decimal digits as a number, unless it is too long to be read. -/
def readDigits? (t : Text) : Option Nat :=
  if t.length ≤ maxNumberLength then some (digitsValue t) else none

/-- A sign, if there is one, and the text after it. -/
def cutSign : Text → Bool × Text
  | '-' :: t => (true, t)
  | '+' :: t => (false, t)
  | t => (false, t)

/-- A natural number with a sign. -/
def withSign (negative : Bool) (n : Nat) : Int := if negative then -(n : Int) else n

/-- Is the character white space that may stand around a number? The information separators of
ASCII may not. -/
def isNumberBlank (c : Char) : Bool := isBlank c && !('\x1c' ≤ c && c ≤ '\x1f')

/-- The number that a text starts with, after white space; 0 when there is none, and nothing
when it is too long to be read or when an information separator stands before it. -/
def leadingInt? (t : Text) : Option Int :=
  let blanks := t.takeWhile isBlank
  let (negative, rest) := cutSign (t.drop blanks.length)
  let digits := rest.takeWhile isDecimal
  if digits.isEmpty then some 0
  else if blanks.all isNumberBlank then (readDigits? digits).map (withSign negative)
  else none

/-- A text that is a number as a whole: white space around it, a sign, and single underscores
between the digits are allowed. -/
def readInt? (t : Text) : Option Int :=
  let (negative, rest) := cutSign (strip isNumberBlank t)
  let groups := split '_' rest
  if groups.all fun group => !group.isEmpty && group.all isDecimal then
    (readDigits? groups.flatten).map (withSign negative)
  else none

end Text

end Ebrc
