import Ebrc.Document.Value
import Ebrc.Text.Digit

/-!
# Checking values against fields

A field takes values of its kind, and also some of other kinds that plainly mean one of its
own: the words for yes and no and the numbers 0 and 1 for a switch; a fraction without places,
a switch and a text of digits for a number. Texts are only taken for texts. Whatever is not
taken draws one complaint.
-/

namespace Ebrc

/-- What is wrong with the value of a field. -/
inductive Complaint where
  /-- A number or text that means neither yes nor no. -/
  | notYesOrNo
  /-- No switch at all. -/
  | notSwitch
  /-- A text that writes no whole number. -/
  | notInteger
  /-- A number with places after the point. -/
  | hasFraction
  /-- A number without an end, or none. -/
  | notFinite
  /-- A number outside the range that is read. -/
  | outOfReach
  /-- No number at all. -/
  | notNumber
  /-- No text. -/
  | notText
  /-- A text with halves of characters in it. -/
  | brokenText
  /-- No group of fields. -/
  | notGroup
  | belowLeast
  | aboveGreatest
  | tooLong
  /-- None of the values that the field allows. -/
  | notAllowed
  /-- There is no such field. -/
  | noSuchField
  /-- The name tells something about all fields together, and takes no value. -/
  | notAField
  /-- The name stands for all fields together, and the value does not. -/
  | notWhole
  deriving Repr, DecidableEq

/-- A complaint and the names that lead to its field. -/
structure FieldComplaint where
  field : List Text
  complaint : Complaint
  deriving Repr, DecidableEq

/-- A value read from a document together with the complaints about it; the value counts only
if there are none. -/
structure Checked (α : Type) where
  value : α
  complaints : List FieldComplaint

namespace Value

/-- The words that switch something off. -/
def offWords : List Text := ["0", "off", "f", "false", "n", "no"].map String.toList

/-- The words that switch something on. -/
def onWords : List Text := ["1", "on", "t", "true", "y", "yes"].map String.toList

/-- The greatest number in which a fraction or a switch is looked for. -/
def maxReach : Int := 0x7fffffffffffffff

/-- The whole number that a fraction equals. -/
def wholeNumber (x : Float) : Except Complaint Int :=
  if x.isNaN || x.isInf then .error .notFinite
  else if x.floor != x then .error .hasFraction
  else if -9223372036854775808.0 < x && x < 9223372036854775808.0 then .ok x.toInt64.toInt
  else .error .outOfReach

/-- A switch. -/
def toSwitch : Value → Except Complaint Bool
  | .bool b => .ok b
  | .text t =>
    let word := t.map Char.toLower
    if word ∈ offWords then .ok false
    else if word ∈ onWords then .ok true
    else .error .notYesOrNo
  | .int n => ofNumber n
  | .float x =>
    match wholeNumber x with
    | .ok n => ofNumber n
    | .error _ => .error .notSwitch
  | .brokenText _ => .error .brokenText
  | _ => .error .notSwitch
where
  /-- Zero is off and one is on. -/
  ofNumber (n : Int) : Except Complaint Bool :=
    if n = 0 then .ok false
    else if n = 1 then .ok true
    else if -maxReach - 1 ≤ n ∧ n ≤ maxReach then .error .notYesOrNo
    else .error .notSwitch

/-- A number without the zeros in front of it, and without the underscores between these. The
last of them stays before a point and at the end. What starts with neither a digit nor a minus
sign is no number. -/
def dropZeros? : Text → Option Text
  | [] => none
  | c :: t =>
    if c = '0' then afterZero c t
    else if c = '-' ∨ c.isDigit then some (c :: t)
    else none
where
  /-- The same after a zero or an underscore. -/
  afterZero (last : Char) : Text → Option Text
    | [] => some [last]
    | c :: t =>
      if c = '0' ∨ c = '_' then afterZero c t
      else if c = '-' ∨ c.isDigit then some (c :: t)
      else if c = '.' then some (last :: c :: t)
      else none

/-- A number without a point that only zeros follow, at least one. -/
def dropPlaces (t : Text) : Text :=
  match Text.cut '.' t with
  | (whole, some zeros) => if zeros ≠ [] ∧ zeros.all (· = '0') then whole else t
  | (_, none) => t

/-- A number without the single underscores inside it. -/
def dropUnderscores (t : Text) : Text :=
  if (Text.split '_' t).all (!·.isEmpty) then t.filter (· ≠ '_') else t

/-- A number in plain decimal notation. Only a zero may start with a zero. -/
def plainInteger (t : Text) : Except Complaint Int :=
  let (negative, size) := match t with
    | '-' :: t => (true, t)
    | t => (false, t)
  let digits := size.takeWhile Char.isDigit
  let rest := size.drop digits.length
  match digits with
  | [] => .error .notInteger
  | first :: others =>
    if first = '0' ∧ others ≠ [] then .error .notInteger
    else if Text.maxNumberLength < t.length - rest.length then .error .outOfReach
    else if rest ≠ [] then .error .notInteger
    else .ok (Text.withSign negative (Text.digitsValue digits))

/-- A text that writes a whole number in ASCII digits. White space around it, a plus sign, zeros
in front of it, single underscores inside it, and a point with nothing but zeros after it are
allowed. -/
def integerOfText (t : Text) : Except Complaint Int :=
  let t := Text.strip Text.isNumberBlank t
  let t := match t with
    | '+' :: '-' :: _ => t
    | '+' :: rest => rest
    | _ => t
  match dropZeros? t with
  | some t => plainInteger (dropUnderscores (dropPlaces t))
  | none => .error .notInteger

/-- A whole number. -/
def toInteger : Value → Except Complaint Int
  | .int n => .ok n
  | .bool b => .ok (if b then 1 else 0)
  | .float x => wholeNumber x
  | .text t => integerOfText t
  | .brokenText _ => .error .brokenText
  | _ => .error .notNumber

/-- A whole number within bounds. -/
def toIntegerWithin (least : Int) (greatest : Option Int) (v : Value) : Except Complaint Int := do
  let n ← v.toInteger
  if n < least then .error .belowLeast
  else if greatest.any (· < n) then .error .aboveGreatest
  else .ok n

theorem toIntegerWithin_bounds {least n : Int} {greatest : Option Int} {v : Value}
    (taken : v.toIntegerWithin least greatest = .ok n) : least ≤ n ∧ ∀ g ∈ greatest, n ≤ g := by
  unfold toIntegerWithin at taken
  cases integer : v.toInteger with
  | error complaint =>
      rw [integer] at taken
      contradiction
  | ok i =>
      simp only [integer, bind, Except.bind] at taken
      split at taken
      · contradiction
      · rename_i enough
        split at taken
        · contradiction
        · rename_i within
          cases taken
          refine ⟨by omega, ?_⟩
          rintro g bound
          cases bound
          simpa using within

/-- A text. -/
def toPlainText : Value → Except Complaint Text
  | .text t | .brokenText t => .ok t
  | _ => .error .notText

/-- A text of bounded length. -/
def toTextWithin (longest : Nat) (v : Value) : Except Complaint Text := do
  let t ← v.toPlainText
  if t.length ≤ longest then .ok t else .error .tooLong

theorem toTextWithin_length {longest : Nat} {t : Text} {v : Value}
    (taken : v.toTextWithin longest = .ok t) : t.length ≤ longest := by
  unfold toTextWithin at taken
  cases plain : v.toPlainText with
  | error complaint =>
      rw [plain] at taken
      contradiction
  | ok t' =>
      simp only [plain, bind, Except.bind] at taken
      split at taken
      · cases taken
        assumption
      · contradiction

/-- A text, or none. -/
def toOptionalText : Value → Except Complaint (Option Text)
  | .null => .ok none
  | v => v.toPlainText.map some

/-- The value of a member of an object as a field reads it, or its default when the member is
absent. -/
def field {α : Type} (members : List (Text × Value)) (name : String) (default : α)
    (read : Value → Except Complaint α) : Checked α :=
  match member? members name.toList with
  | none => ⟨default, []⟩
  | some v =>
    match read v with
    | .ok a => ⟨a, []⟩
    | .error complaint => ⟨default, [⟨[name.toList], complaint⟩]⟩

/-- The same for a field that is a group of fields; complaints about these carry its name. -/
def group {α : Type} (members : List (Text × Value)) (name : String) (default : α)
    (read : List (Text × Value) → Except (List FieldComplaint) α) : Checked α :=
  match member? members name.toList with
  | none => ⟨default, []⟩
  | some (.object inner) | some (.mixed inner) =>
    match read inner with
    | .ok a => ⟨a, []⟩
    | .error complaints =>
      ⟨default, complaints.map fun c => { c with field := name.toList :: c.field }⟩
  | some _ => ⟨default, [⟨[name.toList], .notGroup⟩]⟩

end Value

end Ebrc
