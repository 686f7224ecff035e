import Ebrc.Text.Basic

/-!
# Glob patterns

A star matches any text, a question mark any one character, and a set in brackets one of its
characters, or one not in it when an exclamation mark comes first. A closing bracket that comes
first in a set belongs to it. A bracket without its partner stands for itself, and so does
every other character.

In a set, a hyphen between two characters stands for the range between them. A range whose ends
are in descending order is taken out of the set together with its ends, before the exclamation
mark is looked for.
-/

namespace Ebrc

/-- One element of a glob pattern. -/
inductive GlobItem where
  /-- Any text. -/
  | star
  /-- Any one character. -/
  | any
  /-- This character. -/
  | one (c : Char)
  /-- A character in one of the ranges, or in none of them when negated. -/
  | set (negated : Bool) (ranges : List (Char × Char))
  deriving Repr, DecidableEq

namespace GlobItem

/-- Does the item match this character? A star matches texts and is treated apart. -/
def admits : GlobItem → Char → Bool
  | star, _ => true
  | any, _ => true
  | one d, c => d = c
  | set negated ranges, c => negated != ranges.any fun (low, high) => low ≤ c && c ≤ high

end GlobItem

namespace Glob

/-- Divide the content of a set at the hyphens that stand for ranges. A hyphen does so when
enough characters precede it in its piece: one in the first piece, two in the others, because
the first of these ends the range before. `piece` holds what has been read of the current
piece, last character first. -/
def chunksFrom (enough : Nat) (piece : Text) : Text → List Text
  | [] => [piece.reverse]
  | c :: t =>
    if c = '-' ∧ enough ≤ piece.length then
      match t with
      | [] => [('-' :: piece).reverse]
      | _ => piece.reverse :: chunksFrom 2 [] t
    else chunksFrom enough (c :: piece) t

/-- Take out the ranges whose ends are in descending order, the last one first. -/
def dropDescending : List Text → List Text
  | [] => []
  | piece :: pieces =>
    match dropDescending pieces with
    | [] => [piece]
    | next :: rest =>
      match piece.getLast?, next.head? with
      | some low, some high =>
        if high < low then (piece.dropLast ++ next.tail) :: rest else piece :: next :: rest
      | _, _ => piece :: next :: rest

/-- The ranges of a divided set: one from the last character of each piece to the first one of
the next, and single characters otherwise. A hyphen without a left end stands for itself. -/
def rangesOf : List Text → List (Char × Char)
  | [] => []
  | [piece] => piece.map fun c => (c, c)
  | piece :: next :: rest =>
    match piece.getLast?, next with
    | some low, high :: others =>
      piece.dropLast.map (fun c => (c, c)) ++ (low, high) :: rangesOf (others :: rest)
    | _, _ => ('-', '-') :: rangesOf (next :: rest)
  termination_by pieces => pieces.length

/-- The set with this content. -/
def setOf (content : Text) : GlobItem :=
  let enough := if content.head? = some '!' then 2 else 1
  match dropDescending (chunksFrom enough [] content) with
  | ('!' :: piece) :: pieces => .set true (rangesOf (piece :: pieces))
  | pieces => .set false (rangesOf pieces)

/-- The content of a set whose opening bracket has been read, up to its closing bracket. -/
def setContent? (t : Text) : Option Text :=
  let (mark, t) := match t with
    | '!' :: t => (['!'], t)
    | t => ([], t)
  let (bracket, t) := match t with
    | ']' :: t => ([']'], t)
    | t => ([], t)
  match Text.cut ']' t with
  | (_, none) => none
  | (content, some _) => some (mark ++ bracket ++ content)

/-- The items of a pattern of which the first `skip` characters belong to a set already read. -/
def itemsFrom : Nat → Text → List GlobItem
  | _, [] => []
  | skip + 1, _ :: t => itemsFrom skip t
  | 0, c :: t =>
    if c = '*' then .star :: itemsFrom 0 t
    else if c = '?' then .any :: itemsFrom 0 t
    else if c = '[' then
      match setContent? t with
      | some content => setOf content :: itemsFrom (content.length + 1) t
      | none => .one c :: itemsFrom 0 t
    else .one c :: itemsFrom 0 t

/-- The items of a pattern. -/
def items (pattern : Text) : List GlobItem := itemsFrom 0 pattern

/-- All suffixes of a text, the longest one first: what a star can leave of it. -/
def suffixes : Text → List Text
  | [] => [[]]
  | c :: t => (c :: t) :: suffixes t

/-- What one item can leave of texts, each of which is a suffix of the one before it. A star
leaves every suffix of the longest one. -/
def leave (item : GlobItem) (texts : List Text) : List Text :=
  match item with
  | .star => texts.head?.elim [] suffixes
  | item => texts.filterMap fun
    | [] => none
    | c :: t => if item.admits c then some t else none

/-- Do the items match the whole text? The texts that the items so far can leave are kept
together, so that the work grows with the length of the pattern times that of the text. -/
def matchItems (items : List GlobItem) (t : Text) : Bool :=
  (items.foldl (fun texts item => leave item texts) [t]).any List.isEmpty

/-- Does the pattern match the whole text? Letter case counts. -/
def isMatch (pattern text : Text) : Bool := matchItems (items pattern) text

@[simp] theorem mem_suffixes {s t : Text} : s ∈ suffixes t ↔ s <:+ t := by
  induction t with
  | nil => simp [suffixes]
  | cons c t ih => rw [suffixes, List.mem_cons, ih, List.suffix_cons_iff]

end Glob

end Ebrc
