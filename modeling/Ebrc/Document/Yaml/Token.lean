import Ebrc.Document.Yaml.Lexeme

/-!
# Tokens of YAML

A document as the row of its words and marks. Indentation becomes tokens that open and close the
lists and mappings it shows. A word that a colon follows is a key: the token that announces the
key, and the one that opens a mapping if the key is the first of it, stand in front of the word,
and so they are inserted after it has been read.

A key without a mark of its own stands on one line with its colon, at most 1024 characters in
front of it. Blocks are opened only at the start of a line, or behind another mark.
-/

namespace Ebrc

namespace Yaml

/-- A word or a mark of a document. -/
inductive Token where
  | directive (d : Directive)
  | documentStart
  | documentEnd
  /-- A list opens that indentation shows. -/
  | listStart
  /-- A mapping opens that indentation shows. -/
  | mappingStart
  /-- What indentation shows ends. -/
  | blockEnd
  | openList
  | closeList
  | openMapping
  | closeMapping
  | comma
  /-- The hyphen in front of an item. -/
  | item
  /-- A key follows. -/
  | key
  /-- The value of a key follows. -/
  | value
  /-- The name of a node that has been read. -/
  | reference (name : Text)
  /-- The name for the node that follows. -/
  | anchor (name : Text)
  /-- The tag of the node that follows: its handle, unless it is written in full, and the rest. -/
  | tag (handle : Option Text) (rest : Text)
  | scalar (content : QuotedText) (isPlain : Bool)
  | finish
  /-- The text cannot be read further. -/
  | fault (f : DocumentFault)
  deriving Repr, DecidableEq

/-- Where something stands in a text. -/
structure Place where
  /-- The number of characters in front. -/
  index : Nat := 0
  line : Nat := 0
  column : Nat := 0
  deriving Repr, DecidableEq

namespace Place

/-- The place behind a character. A byte order mark takes no room on its line. -/
def after (place : Place) (c : Char) : Place :=
  if isLineEnd c then ⟨place.index + 1, place.line + 1, 0⟩
  else ⟨place.index + 1, place.line, if c = '\uFEFF' then place.column else place.column + 1⟩

end Place

/-- A word that is a key if a colon follows it. -/
structure PossibleKey where
  /-- The number of tokens in front of it. -/
  position : Nat
  /-- It stands where nothing but a key can stand. -/
  isRequired : Bool
  place : Place
  deriving Repr, DecidableEq

/-- A text of which a part has been read as tokens. -/
structure Scan where
  rest : Text
  place : Place := {}
  tokens : Array Token := #[]
  /-- How far the open lists and mappings are indented, the innermost first. -/
  indents : List Nat := []
  /-- The last word that may be a key. -/
  key : Option PossibleKey := none
  /-- The same for what is around each open bracket, the innermost first. -/
  outerKeys : List (Option PossibleKey) := []
  /-- May a key, or a block, start here? -/
  keysAllowed : Bool := true

namespace Scan

/-- Is the place between brackets? -/
def inBrackets (s : Scan) : Bool := !s.outerKeys.isEmpty

/-- How far the innermost block is indented, counted from one; zero without a block. -/
def around (s : Scan) : Nat := s.indents.head?.elim 0 (· + 1)

/-- Go on to where this text is ahead. -/
def goTo (rest : Text) (s : Scan) : Scan :=
  { s with rest, place := (s.rest.take (s.rest.length - rest.length)).foldl Place.after s.place }

/-- Add a token. -/
def push (t : Token) (s : Scan) : Scan := { s with tokens := s.tokens.push t }

/-! ## Keys -/

/-- The word is not a key, as no colon has followed it. -/
def refute (key : Option PossibleKey) : Except DocumentFault Unit :=
  if key.any (·.isRequired) then .error .malformed else .ok ()

/-- The last word is not a key. -/
def dropKey (s : Scan) : Except DocumentFault Scan := do
  refute s.key
  return { s with key := none }

/-- Is it too late for a colon after a word? -/
def isStale (place : Place) (key : PossibleKey) : Bool :=
  key.place.line ≠ place.line || key.place.index + 1024 < place.index

/-- The words that it is too late for are not keys. -/
def dropStale (s : Scan) : Except DocumentFault Scan := do
  let fresh (key : Option PossibleKey) : Except DocumentFault (Option PossibleKey) :=
    if key.any (isStale s.place) then (refute key).map fun _ => none else .ok key
  return { s with key := ← fresh s.key, outerKeys := ← s.outerKeys.mapM fresh }

/-- The word ahead may be a key. -/
def saveKey (s : Scan) : Except DocumentFault Scan := do
  if s.keysAllowed then
    let s ← s.dropKey
    let isRequired := !s.inBrackets && s.around == s.place.column + 1
    return { s with key := some ⟨s.tokens.size, isRequired, s.place⟩ }
  else return s

/-! ## Blocks -/

/-- Close the blocks that are indented further than this, or all. -/
def unwind (column : Option Nat) (s : Scan) : Scan :=
  if s.inBrackets then s
  else
    let closed := s.indents.takeWhile fun indent => column.all (· < indent)
    { s with
      indents := s.indents.drop closed.length
      tokens := s.tokens ++ closed.map fun _ => Token.blockEnd }

/-- Open a block that is indented this far, unless it is open. The token that opens it has this
many tokens in front of it. -/
def openBlock (start : Token) (position column : Nat) (s : Scan) : Scan :=
  if !s.inBrackets && s.around ≤ column then
    { s with
      indents := column :: s.indents
      tokens := s.tokens.insertIdxIfInBounds position start }
  else s

/-- A mark that belongs to a block stands here. -/
def startBlock (start : Token) (s : Scan) : Except DocumentFault Scan :=
  if s.inBrackets then .ok s
  else if s.keysAllowed then .ok (s.openBlock start s.tokens.size s.place.column)
  else .error .malformed

/-! ## Marks -/

/-- A directive, or what stands between documents. -/
def between (token : Token) (rest : Text) (s : Scan) : Except DocumentFault Scan := do
  let s ← (s.unwind none).dropKey
  return { s with keysAllowed := false }.push token |>.goTo rest

/-- An opening bracket. -/
def opening (token : Token) (rest : Text) (s : Scan) : Except DocumentFault Scan := do
  let s ← s.saveKey
  return { s with key := none, outerKeys := s.key :: s.outerKeys, keysAllowed := true }.push token
    |>.goTo rest

/-- A closing bracket. -/
def closing (token : Token) (rest : Text) (s : Scan) : Except DocumentFault Scan := do
  let s ← s.dropKey
  return { s with
    key := s.outerKeys.head?.join
    outerKeys := s.outerKeys.tail
    keysAllowed := false }.push token |>.goTo rest

/-- A comma. -/
def comma (rest : Text) (s : Scan) : Except DocumentFault Scan := do
  let s ← s.dropKey
  return { s with keysAllowed := true }.push .comma |>.goTo rest

/-- The mark of an item. -/
def item (rest : Text) (s : Scan) : Except DocumentFault Scan := do
  let s ← (← s.startBlock .listStart).dropKey
  return { s with keysAllowed := true }.push .item |>.goTo rest

/-- The mark of a key. -/
def keyMark (rest : Text) (s : Scan) : Except DocumentFault Scan := do
  let s ← (← s.startBlock .mappingStart).dropKey
  return { s with keysAllowed := !s.inBrackets }.push .key |>.goTo rest

/-- The mark of a value. -/
def valueMark (rest : Text) (s : Scan) : Except DocumentFault Scan :=
  match s.key with
  | some key =>
    let s := { s with tokens := s.tokens.insertIdxIfInBounds key.position .key }
    let s := s.openBlock .mappingStart key.position key.place.column
    .ok ({ s with key := none, keysAllowed := false }.push .value |>.goTo rest)
  | none => do
    let s ← s.startBlock .mappingStart
    return { s with keysAllowed := !s.inBrackets }.push .value |>.goTo rest

/-! ## Words -/

/-- A word that may be a key. -/
def word (read : Text → Except DocumentFault (Token × Text)) (s : Scan) :
    Except DocumentFault Scan := do
  let s ← s.saveKey
  let (token, rest) ← read s.rest
  return { s with keysAllowed := false }.push token |>.goTo rest

/-- A scalar in a block. -/
def block (folded : Bool) (rest : Text) (s : Scan) : Except DocumentFault Scan := do
  let s ← s.dropKey
  let (text, rest) ← readBlock folded s.around rest
  return { s with keysAllowed := true }.push (.scalar ⟨text, false⟩ false) |>.goTo rest

/-- A scalar without quotes. -/
def plain (s : Scan) : Except DocumentFault Scan := do
  let s ← s.saveKey
  let (text, rest, breaks) := readPlain s.inBrackets s.around (s.rest.length + 1) s.rest
  return { s with keysAllowed := breaks }.push (.scalar ⟨text, false⟩ true) |>.goTo rest

/-! ## Texts -/

/-- Go on to the next word or mark. A byte order mark may start the text. -/
def skip (s : Scan) : Scan :=
  let start := if s.place.index = 0 ∧ s.rest.head? = some '\uFEFF' then s.goTo s.rest.tail else s
  let (startsLine, rest) := skipGap false start.rest
  { start.goTo rest with keysAllowed := s.keysAllowed || (startsLine && !s.inBrackets) }

/-- Read the next word or mark. -/
def next (s : Scan) : Except DocumentFault Scan := do
  let s ← s.skip.dropStale
  let s := s.unwind s.place.column
  match s.rest with
  | [] => s.between .finish []
  | c :: t =>
    if c = '%' ∧ s.place.column = 0 then
      let (d, rest) ← readDirective t
      s.between (.directive d) rest
    else if s.place.column = 0 ∧ atDocumentMark (c :: t) then
      s.between (if c = '-' then .documentStart else .documentEnd) (t.drop 2)
    else
      let isMark := atGap t
      match c with
      | '[' => s.opening .openList t
      | '{' => s.opening .openMapping t
      | ']' => s.closing .closeList t
      | '}' => s.closing .closeMapping t
      | ',' => s.comma t
      | '*' => s.word fun t => (readAnchor t.tail).map fun (name, rest) => (.reference name, rest)
      | '&' => s.word fun t => (readAnchor t.tail).map fun (name, rest) => (.anchor name, rest)
      | '!' => s.word fun t => (readTag t).map fun (handle, tag, rest) => (.tag handle tag, rest)
      | '\'' | '"' => s.word fun t =>
        (readQuoted c (t.length + 1) t.tail).map fun (q, rest) => (.scalar q false, rest)
      | c =>
        if c = '-' ∧ isMark then s.item t
        else if c = '?' ∧ (s.inBrackets ∨ isMark) then s.keyMark t
        else if c = ':' ∧ (s.inBrackets ∨ isMark) then s.valueMark t
        else if (c = '|' ∨ c = '>') ∧ !s.inBrackets then s.block (c = '>') t
        else if startsPlain s.inBrackets (c :: t) then s.plain
        else .error .malformed

/-- The tokens of a text of which a part has been read. Every token but the last one takes up a
character. -/
def run : Nat → Scan → Array Token
  | 0, s => s.tokens.push (.fault .malformed)
  | fuel + 1, s =>
    match s.next with
    | .error f => s.tokens.push (.fault f)
    | .ok s => if s.tokens.back? = some .finish then s.tokens else run fuel s

end Scan

/-- The tokens of a text. The last one is that the text is over, or cannot be read further. -/
def tokens (t : Text) : List Token := (Scan.run (t.length + 1) { rest := t }).toList

end Yaml

end Ebrc
