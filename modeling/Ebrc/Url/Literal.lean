import Ebrc.Text.Digit

/-!
# Address literals

Numeric network addresses as a URL writes them. A version 4 address is four decimal numbers
below 256 with points between them. A version 6 address is eight groups of hexadecimal digits
with colons between them; a double colon stands for one or more groups of zero, the last two
groups may be written as a version 4 address, and a zone may follow after a percent sign.

A URL puts a version 6 address, or an address of a version still to come, in brackets.
-/

namespace Ebrc

namespace AddressLiteral

/-- What is wrong with the text in brackets. -/
inductive Fault where
  /-- It starts as an address of a later version and is none. -/
  | badFutureAddress
  /-- It is a version 4 address. -/
  | versionFour
  /-- It is no address of any version. -/
  | notAddress (content : Text)
  deriving Repr, DecidableEq

/-- Is the character an ASCII hexadecimal digit? -/
def isHexDigit (c : Char) : Bool :=
  c.isDigit || ('a' ≤ c && c ≤ 'f') || ('A' ≤ c && c ≤ 'F')

/-- Is the text a number below 256 without leading zeros? -/
def isOctet (t : Text) : Bool :=
  !t.isEmpty && t.all Char.isDigit && t.length ≤ 3 && (t.length = 1 || t.head? ≠ some '0') &&
    Text.digitsValue t ≤ 255

/-- Is the text a version 4 address? -/
def isVersionFour (t : Text) : Bool :=
  let octets := Text.split '.' t
  octets.length = 4 && octets.all isOctet

/-- Is the text a group of a version 6 address? -/
def isGroup (t : Text) : Bool := !t.isEmpty && t.length ≤ 4 && t.all isHexDigit

/-- The text before the first double colon and the text after it. -/
def cutDouble? : Text → Option (Text × Text)
  | [] => none
  | ':' :: ':' :: t => some ([], t)
  | c :: t => (cutDouble? t).map fun (before, after) => (c :: before, after)

/-- How many groups the pieces between colons are worth, if each is one. The last one may be a
version 4 address where this is allowed. -/
def groupCount? (versionFourLast : Bool) : List Text → Option Nat
  | [] => some 0
  | [last] =>
    if isGroup last then some 1
    else if versionFourLast && isVersionFour last then some 2
    else none
  | group :: rest => if isGroup group then (groupCount? versionFourLast rest).map (· + 1) else none

/-- The pieces between colons; the empty text has none. -/
def groups (t : Text) : List Text := if t.isEmpty then [] else Text.split ':' t

/-- Is the text a version 6 address without a zone? -/
def isVersionSix (t : Text) : Bool :=
  match cutDouble? t with
  | none => groupCount? true (groups t) = some 8
  | some (before, after) =>
    match groupCount? false (groups before), groupCount? true (groups after) with
    | some high, some low => high + low ≤ 7
    | _, _ => false

/-- Is the text a version 6 address? A zone is not empty and holds no percent sign. -/
def isVersionSixZoned (t : Text) : Bool :=
  match Text.cut '%' t with
  | (address, none) => isVersionSix address
  | (address, some zone) => !zone.isEmpty && !zone.contains '%' && isVersionSix address

/-- Is the text an address of a version still to come: the letter v, a version in hexadecimal
digits, a point, and more? -/
def isFuture (t : Text) : Bool :=
  match t with
  | 'v' :: t =>
    match Text.cut '.' t with
    | (version, some (_ :: _)) => !version.isEmpty && version.all isHexDigit
    | _ => false
  | _ => false

/-- Check the text in brackets. -/
def check (content : Text) : Except Fault Unit :=
  if content.head? = some 'v' then
    if isFuture content then .ok () else .error .badFutureAddress
  else if isVersionFour content then .error .versionFour
  else if isVersionSixZoned content then .ok ()
  else .error (.notAddress content)

example : isVersionSix "::ffff:10.0.0.1".toList = true := by decide +kernel
example : isVersionSix "1::2::3".toList = false := by decide +kernel
example : isVersionSix "1:2:3:4:5:6:7::".toList = true := by decide +kernel

end AddressLiteral

end Ebrc
