import Ebrc.Document.Value
import Ebrc.Text.Digit

/-!
# Scalars of YAML

A scalar without quotes that looks like a word for nothing, yes or no, like a number in one of
several notations, or like a day or time, is one; everything else is text. A tag may declare a
scalar to be of a kind that it does not look like, and then it is read as one of that kind, if it
can be.
-/

namespace Ebrc

namespace Yaml

/-- The kinds of nodes. -/
inductive Tag where
  | null
  | bool
  | int
  | float
  /-- A day or a time. -/
  | date
  | text
  | list
  | mapping
  /-- A list of mappings with one entry each. -/
  | pairs
  /-- The keys of a mapping. -/
  | set
  /-- A key whose value is a mapping that becomes part of the one around it. -/
  | merge
  /-- A key that stands for the mapping as a whole. -/
  | whole
  /-- A kind that is not known. -/
  | unknown
  deriving Repr, DecidableEq

namespace Tag

/-- What the tags of the known kinds start with. -/
def standardStart : Text := "tag:yaml.org,2002:".toList

/-- The rest of the tags of the known kinds. -/
def standardNames : List (String × Tag) := [
  ("null", .null), ("bool", .bool), ("int", .int), ("float", .float), ("timestamp", .date),
  ("str", .text), ("seq", .list), ("map", .mapping), ("omap", .pairs), ("pairs", .pairs),
  ("set", .set), ("merge", .merge), ("value", .whole)]

/-- The kind that a tag declares. -/
def ofText (t : Text) : Tag :=
  if standardStart.isPrefixOf t then
    (standardNames.lookup (String.ofList (t.drop standardStart.length))).getD .unknown
  else .unknown

end Tag

namespace Scalar

/-! ## Words -/

/-- The words for nothing. -/
def nullWords : List String := ["", "~", "null", "Null", "NULL"]

/-- The words for yes in small letters. -/
def yesWords : List String := ["yes", "true", "on"]

/-- The words for no in small letters. -/
def noWords : List String := ["no", "false", "off"]

/-- The words for yes and no: in small letters, in capital ones, and with a capital one first. -/
def switchWords : List String :=
  (yesWords ++ noWords).flatMap fun word => [word, word.capitalize, word.toUpper]

/-- The words for what is not a number. -/
def notNumberWords : List String := [".nan", ".NaN", ".NAN"]

/-- The words, without their sign, for a number beyond all others. -/
def infinityWords : List String := [".inf", ".Inf", ".INF"]

/-! ## Numbers -/

/-- The value of a digit in bases up to sixteen. -/
def digitValue (c : Char) : Nat :=
  if c.isDigit then c.toNat - 0x30 else c.toLower.toNat - 0x57

/-- Is the character a digit in this base? -/
def isDigitIn (base : Nat) (c : Char) : Bool :=
  (c.isDigit || ('a' ≤ c.toLower && c.toLower ≤ 'f')) && digitValue c < base

/-- The value of digits in a base. -/
def inBase (base : Nat) (t : Text) : Nat := t.foldl (fun n c => base * n + digitValue c) 0

/-- Is the character an underscore, or a digit in this base? -/
def isPlace (base : Nat) (c : Char) : Bool := c = '_' || isDigitIn base c

/-- Digits and underscores in a base, at least one of them. -/
def isRun (base : Nat) (t : Text) : Bool := !t.isEmpty && t.all (isPlace base)

/-- Digits and underscores, a digit first. -/
def isNumeral (t : Text) : Bool := t.head?.any Char.isDigit && t.all (isPlace 10)

/-- A number of minutes or seconds. -/
def isSixtieth (t : Text) : Bool :=
  match t with
  | [c] => c.isDigit
  | [c, d] => '0' ≤ c && c ≤ '5' && d.isDigit
  | _ => false

/-- Does the text look like a whole number without its sign: binary, octal, hexadecimal, decimal,
or decimal with sixtieths after colons? -/
def isInteger (t : Text) : Bool :=
  match t with
  | '0' :: 'b' :: rest => isRun 2 rest
  | '0' :: 'x' :: rest => isRun 16 rest
  | ['0'] => true
  | '0' :: rest => isRun 8 rest
  | t =>
    match Text.split ':' t with
    | first :: sixtieths => isNumeral first && sixtieths.all isSixtieth
    | [] => false

/-- Does the text look like the exponent that may end a fraction? It has a sign. -/
def isExponent (t : Text) : Bool :=
  match t with
  | [] => true
  | e :: sign :: digits =>
    (e = 'e' || e = 'E') && (sign = '+' || sign = '-') && !digits.isEmpty &&
      digits.all Char.isDigit
  | _ => false

/-- Does the text look like a fraction? One that starts with the point has no sign. -/
def isFraction (t : Text) : Bool :=
  let size := (Text.cutSign t).2
  let isPlaces (t : Text) : Bool := isExponent (t.dropWhile (isPlace 10))
  match Text.cut '.' size with
  | (_, none) => false
  | ([], some rest) =>
    infinityWords.contains (String.ofList size) || notNumberWords.contains (String.ofList t) ||
      (t = size && rest.head?.any Char.isDigit && isPlaces rest)
  | (whole, some rest) =>
    match Text.split ':' whole with
    | [whole] => isNumeral whole && isPlaces rest
    | first :: sixtieths =>
      isNumeral first && sixtieths.all isSixtieth && rest.all (isPlace 10)
    | [] => false

/-- A whole number with its sign. Decimal digits may be too many to be read. -/
def readInteger (t : Text) : Except DocumentFault Int :=
  let (negative, size) := Text.cutSign (t.filter (· ≠ '_'))
  let signed (n : Int) : Except DocumentFault Int := .ok (if negative then -n else n)
  let digits (base : Nat) (t : Text) : Except DocumentFault Int :=
    if !t.isEmpty && t.all (isDigitIn base) then signed (inBase base t) else .error .badNumber
  let decimal (t : Text) : Except DocumentFault Int :=
    match Text.readInt? t with
    | some n => .ok n
    | none => .error .badNumber
  match size with
  | [] => .error .emptyNumber
  | ['0'] => .ok 0
  | '0' :: 'b' :: rest => digits 2 rest
  | '0' :: 'x' :: rest => digits 16 rest
  | '0' :: rest => digits 8 ('0' :: rest)
  | size => do
    let parts ← (Text.split ':' size).mapM decimal
    signed (parts.foldl (fun n part => 60 * n + part) 0)

/-- A fraction in small letters that has no colon in it. -/
def decimalFraction (t : Text) : Except DocumentFault Float :=
  let (negative, size) := Text.cutSign t
  let whole := size.takeWhile Char.isDigit
  let (places, rest) := match size.drop whole.length with
    | '.' :: rest => (rest.takeWhile Char.isDigit, rest.dropWhile Char.isDigit)
    | rest => ([], rest)
  let power : Option Int := match rest with
    | [] => some 0
    | 'e' :: rest =>
      let (negative, digits) := Text.cutSign rest
      if !digits.isEmpty && digits.all Char.isDigit then
        some (Text.withSign negative (inBase 10 digits))
      else none
    | _ => none
  match power with
  | none => .error .badNumber
  | some power =>
    if whole = [] ∧ places = [] then .error .badNumber
    else .ok (floatOfDecimal negative (inBase 10 (whole ++ places)) (power - places.length))

/-- A fraction with its sign. -/
def readFraction (t : Text) : Except DocumentFault Float :=
  let t := (t.filter (· ≠ '_')).map Char.toLower
  let (negative, size) := Text.cutSign t
  let signed (x : Float) : Float := if negative then -x else x
  match String.ofList size with
  | "" => .error (if t = [] then .emptyNumber else .badNumber)
  | ".inf" => .ok (signed floatInfinity)
  | ".nan" => .ok floatNaN
  | _ => do
    let parts ← (Text.split ':' size).mapM decimalFraction
    let (sum, _) := parts.reverse.foldl
      (fun (sum, base) part => (sum + part * Float.ofNat base, base * 60)) ((0 : Float), 1)
    return signed (match parts with
      | [x] => x
      | _ => sum)

/-! ## Days and times -/

/-- A time of a day, and how many minutes the clock that shows it differs from the standard
one. -/
structure DayTime where
  hour : Nat
  minute : Nat
  second : Nat
  offset : Nat := 0
  deriving Repr, DecidableEq

/-- A day, and perhaps a time of it. -/
structure Moment where
  year : Nat
  month : Nat
  day : Nat
  time : Option DayTime := none
  deriving Repr, DecidableEq

namespace Moment

/-- A number of between so many digits, and the text after it. -/
def digits? (least most : Nat) (t : Text) : Option (Nat × Text) :=
  let run := (t.take most).takeWhile Char.isDigit
  if least ≤ run.length then some (inBase 10 run, t.drop run.length) else none

/-- The text after a character that it must start with. -/
def after? (c : Char) : Text → Option Text
  | [] => none
  | d :: t => if d = c then some t else none

/-- How many minutes a clock differs from the standard one. -/
def offset? (t : Text) : Option Nat :=
  match Text.stripLeft Text.isLineBlank t with
  | ['Z'] => some 0
  | sign :: rest =>
    if sign = '+' ∨ sign = '-' then do
      let (hours, rest) ← digits? 1 2 rest
      match rest with
      | [] => some (60 * hours)
      | rest =>
        let (minutes, rest) ← digits? 2 2 (← after? ':' rest)
        if rest = [] then some (60 * hours + minutes) else none
    else none
  | [] => if t = [] then some 0 else none

/-- The time of a day that stands behind it. -/
def time? (t : Text) : Option DayTime := do
  let t ← match t with
    | [] => none
    | c :: rest =>
      if c = 'T' ∨ c = 't' then some rest
      else if Text.isLineBlank c then some (Text.stripLeft Text.isLineBlank rest)
      else none
  let (hour, t) ← digits? 1 2 t
  let (minute, t) ← digits? 2 2 (← after? ':' t)
  let (second, t) ← digits? 2 2 (← after? ':' t)
  let t := match t with
    | '.' :: rest => rest.dropWhile Char.isDigit
    | t => t
  let offset ← offset? t
  return { hour, minute, second, offset }

/-- The day, or the time, that a text has the form of. -/
def ofText? (t : Text) : Option Moment := do
  let (year, t) ← digits? 4 4 t
  let (month, t) ← digits? 1 2 (← after? '-' t)
  let (day, t) ← digits? 1 2 (← after? '-' t)
  match t with
  | [] => return { year, month, day }
  | t => return { year, month, day, time := some (← time? t) }

/-- The number of days of a month. -/
def daysOf (year month : Nat) : Nat :=
  if month = 2 then
    if year % 4 = 0 ∧ (year % 100 ≠ 0 ∨ year % 400 = 0) then 29 else 28
  else if month ∈ [4, 6, 9, 11] then 30
  else 31

/-- Is there such a day, and such a time? -/
def isReal (m : Moment) : Bool :=
  0 < m.year && 1 ≤ m.month && m.month ≤ 12 && 1 ≤ m.day && m.day ≤ daysOf m.year m.month &&
    m.time.all fun t => t.hour < 24 && t.minute < 60 && t.second < 60 && t.offset < 24 * 60

end Moment

/-- Does the text look like a day or a time? A day alone is written with all its digits. -/
def isMoment (t : Text) : Bool :=
  (Moment.ofText? t).any fun m => m.time.isSome || t.length = 10

/-! ## Kinds -/

/-- The kind of a scalar without quotes and without a tag. -/
def kindOf (t : Text) : Tag :=
  let word := String.ofList t
  if switchWords.contains word then .bool
  else if isFraction t then .float
  else if isInteger (Text.cutSign t).2 then .int
  else if word = "<<" then .merge
  else if nullWords.contains word then .null
  else if isMoment t then .date
  else if word = "=" then .whole
  else .text

/-- A scalar of a kind as a value. -/
def read (kind : Tag) (q : QuotedText) : Except DocumentFault Value :=
  match kind with
  | .null => .ok .null
  | .bool =>
    let word := String.ofList (q.text.map Char.toLower)
    if yesWords.contains word then .ok (.bool true)
    else if noWords.contains word then .ok (.bool false)
    else .error .badSwitch
  | .int => (readInteger q.text).map .int
  | .float => (readFraction q.text).map .float
  | .date =>
    match Moment.ofText? q.text with
    | none => .error .badDate
    | some m => if m.isReal then .ok (.date q.text) else .error .badNumber
  | .text => .ok q.toValue
  | .list | .mapping | .pairs | .set | .merge | .whole | .unknown => .error .malformed

end Scalar

end Yaml

end Ebrc
