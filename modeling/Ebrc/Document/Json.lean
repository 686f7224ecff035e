import Ebrc.Document.Value
import Ebrc.Text.Digit

/-!
# JSON

A reader of JSON documents. It also takes `NaN`, `Infinity` and `-Infinity` for numbers, as
many writers put them out, and keeps integers of any size apart from fractions. A byte order
mark in front, control characters inside strings, and text after the value are malformed.

Every function takes the text still to be read and returns what is left of it. The depth to
which values are nested is bounded by a fuel that the length of the text provides.
-/

namespace Ebrc

namespace Json

/-- Drop the white space in front. -/
def skipSpace (t : Text) : Text :=
  t.dropWhile fun c => c = ' ' || c = '\t' || c = '\n' || c = '\r'

/-- The value of a hexadecimal digit. -/
def hexValue? (c : Char) : Option Nat :=
  if '0' ≤ c ∧ c ≤ '9' then some (c.toNat - 0x30)
  else if 'a' ≤ c ∧ c ≤ 'f' then some (c.toNat - 0x57)
  else if 'A' ≤ c ∧ c ≤ 'F' then some (c.toNat - 0x37)
  else none

/-- The number that four hexadecimal digits write, and the text after them. -/
def hexQuad? : Text → Option (Nat × Text)
  | a :: b :: c :: d :: t => do
    let a ← hexValue? a
    let b ← hexValue? b
    let c ← hexValue? c
    let d ← hexValue? d
    some (0x1000 * a + 0x100 * b + 0x10 * c + d, t)
  | _ => none

/-- The character that a single letter after a backslash stands for. -/
def escaped? (c : Char) : Option Char :=
  match c with
  | '"' => some '"'
  | '\\' => some '\\'
  | '/' => some '/'
  | 'b' => some '\x08'
  | 'f' => some '\x0c'
  | 'n' => some '\n'
  | 'r' => some '\r'
  | 't' => some '\t'
  | _ => none

/-- The character written by one or two units of 16 bits, and the text after them. There is no
character for a unit that has lost its partner. -/
def unit? (t : Text) : Option (Option Char × Text) := do
  let (high, t) ← hexQuad? t
  if 0xD800 ≤ high ∧ high < 0xDC00 then
    match t with
    | '\\' :: 'u' :: rest =>
      let (low, rest) ← hexQuad? rest
      if 0xDC00 ≤ low ∧ low < 0xE000 then
        some (some (Char.ofNat (0x10000 + 0x400 * (high - 0xD800) + (low - 0xDC00))), rest)
      else some (none, t)
    | _ => some (none, t)
  else if 0xDC00 ≤ high ∧ high < 0xE000 then some (none, t)
  else some (some (Char.ofNat high), t)

/-- The rest of a string whose opening quote has been read; `done` holds its characters so far,
the last one first. -/
def readString (fuel : Nat) (done : QuotedText) (t : Text) :
    Except DocumentFault (QuotedText × Text) :=
  match fuel, t with
  | _, [] => .error .malformed
  | 0, _ => .error .malformed
  | fuel + 1, c :: t =>
    if c = '"' then .ok (done.reverse, t)
    else if c.toNat < 0x20 then .error .malformed
    else if c = '\\' then
      match t with
      | 'u' :: t =>
        match unit? t with
        | some (c, t) => readString fuel (done.cons c) t
        | none => .error .malformed
      | c :: t =>
        match escaped? c with
        | some c => readString fuel (done.cons c) t
        | none => .error .malformed
      | [] => .error .malformed
    else readString fuel (done.cons c) t

/-- The digits in front and the text after them. -/
def digits (t : Text) : Text × Text := (t.takeWhile Char.isDigit, t.dropWhile Char.isDigit)

/-- The fraction digits after a point, if a point and a digit follow. -/
def fraction (t : Text) : Option (Text × Text) :=
  match t with
  | '.' :: rest =>
    match digits rest with
    | ([], _) => none
    | found => some found
  | _ => none

/-- The exponent, if there is one. -/
def exponent (t : Text) : Option (Int × Text) :=
  match t with
  | e :: rest =>
    if e = 'e' ∨ e = 'E' then
      let (negative, rest) := Text.cutSign rest
      match digits rest with
      | ([], _) => none
      | (found, rest) => some (Text.withSign negative (Text.digitsValue found), rest)
    else none
  | [] => none

/-- A number without its sign. -/
def readNumber (negative : Bool) (t : Text) : Except DocumentFault (Value × Text) :=
  let (whole, rest) := match t with
    | '0' :: t => (['0'], t)
    | t => digits t
  if whole = [] then .error .malformed
  else
    let (places, rest') := (fraction rest).getD ([], rest)
    let (power, rest'') := (exponent rest').getD (0, rest')
    if rest''.length = rest.length then
      match Text.readDigits? whole with
      | some n => .ok (.int (Text.withSign negative n), rest)
      | none => .error .badNumber
    else
      .ok (.float (floatOfDecimal negative (Text.digitsValue (whole ++ places))
        (power - places.length)), rest'')

/-- The value that a fixed word writes. -/
def readWord (t : Text) : Except DocumentFault (Value × Text) :=
  let word (w : String) (v : Value) : Option (Value × Text) :=
    if w.toList.isPrefixOf t then some (v, t.drop w.length) else none
  match [word "null" .null, word "true" (.bool true), word "false" (.bool false),
      word "NaN" (.float floatNaN), word "Infinity" (.float floatInfinity),
      word "-Infinity" (.float (-floatInfinity))].findSome? id with
  | some found => .ok found
  | none => .error .malformed

mutual

/-- A value. So many levels of lists and objects may still be opened. -/
def readValue (levels : Nat) : Nat → Text → Except DocumentFault (Value × Text)
  | 0, _ => .error .malformed
  | fuel + 1, t =>
    match t with
    | [] => .error .malformed
    | '"' :: rest => do
      let (s, rest) ← readString (rest.length + 1) {} rest
      .ok (s.toValue, rest)
    | '[' :: rest =>
      if levels = 0 then .error .tooDeep
      else
        match skipSpace rest with
        | ']' :: rest => .ok (.list [], rest)
        | rest => readItems (levels - 1) fuel [] rest
    | '{' :: rest =>
      if levels = 0 then .error .tooDeep
      else
        match skipSpace rest with
        | '}' :: rest => .ok (.object [], rest)
        | rest => readMembers (levels - 1) fuel [] rest
    | '-' :: rest =>
      match rest with
      | 'I' :: _ => readWord t
      | rest => readNumber true rest
    | c :: _ => if c.isDigit then readNumber false t else readWord t

/-- The items of a list from the next one on. -/
def readItems (levels : Nat) : Nat → List Value → Text → Except DocumentFault (Value × Text)
  | 0, _, _ => .error .malformed
  | fuel + 1, done, t => do
    let (item, t) ← readValue levels fuel t
    match skipSpace t with
    | ',' :: t => readItems levels fuel (item :: done) (skipSpace t)
    | ']' :: t => .ok (.list (item :: done).reverse, t)
    | _ => .error .malformed

/-- The members of an object from the next one on. Those with a broken name are left out. -/
def readMembers (levels : Nat) :
    Nat → List (Text × Value) → Text → Except DocumentFault (Value × Text)
  | 0, _, _ => .error .malformed
  | fuel + 1, done, t =>
    match t with
    | '"' :: t => do
      let (name, t) ← readString (t.length + 1) {} t
      match skipSpace t with
      | ':' :: t => do
        let (item, t) ← readValue levels fuel (skipSpace t)
        let done := if name.isBroken then done else (name.text, item) :: done
        match skipSpace t with
        | ',' :: t => readMembers levels fuel done (skipSpace t)
        | '}' :: t => .ok (.object done.reverse, t)
        | _ => .error .malformed
      | _ => .error .malformed
    | _ => .error .malformed

end

/-- How deep lists and objects may be nested. -/
def maxLevels : Nat := 988

/-- Read a document. -/
def read (t : Text) : Except DocumentFault Value := do
  let (v, rest) ← readValue maxLevels (2 * t.length + 2) (skipSpace t)
  if skipSpace rest = [] then .ok v else .error .malformed

end Json

end Ebrc
