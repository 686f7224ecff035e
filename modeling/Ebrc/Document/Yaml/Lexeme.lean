import Ebrc.Document.Json
import Ebrc.Text.Utf8

/-!
# Lexemes of YAML

How the single words of a document are read from its text: scalars with quotes, without quotes
and in blocks, names, tags and directives. Each function takes the text that a word starts with
and returns the text after it. White space and line ends inside a scalar are folded: blanks around
a line end are dropped, a single line end becomes a space, and of several the first is dropped.

Lines end in a line feed, a next-line character, or a line or paragraph separator. The last two
stay what they are when they are kept; the others become line feeds.
-/

namespace Ebrc

namespace Yaml

/-! ## Characters -/

/-- May the character stand in a document? -/
def isAllowed (c : Char) : Bool :=
  let n := c.toNat
  n = 0x9 || n = 0xA || n = 0xD || (0x20 ≤ n && n ≤ 0x7E) || n = 0x85 ||
    (0xA0 ≤ n && n ≠ 0xFFFE && n ≠ 0xFFFF)

/-- Does the character end a line? -/
def isLineEnd (c : Char) : Bool := c = '\n' || c = '\u0085' || c = '\u2028' || c = '\u2029'

/-- What is kept of a line end. -/
def keptLineEnd (c : Char) : Char := if c = '\u0085' then '\n' else c

/-- Does the character separate words: a blank or a line end? -/
def isGap (c : Char) : Bool := Text.isLineBlank c || isLineEnd c

/-- Is the text over, or does it go on with a gap? -/
def atGap (t : Text) : Bool := t.head?.all isGap

/-- Is the text over, or does it go on with a space or a line end? -/
def atSpace (t : Text) : Bool := t.head?.all fun c => c = ' ' || isLineEnd c

/-- Is the text, or its first line, over? -/
def atLineEnd (t : Text) : Bool := t.head?.all isLineEnd

/-- The brackets and the comma, which end a word inside brackets. -/
def isBracketMark (c : Char) : Bool := c ∈ [',', '[', ']', '{', '}']

/-- Is the character one of an anchor, of a directive or of the handle of a tag? -/
def isNameChar (c : Char) : Bool := c.isAlphanum || c = '-' || c = '_'

/-- Does a text that starts a line start with three dots or hyphens on their own, which stand
between documents? -/
def atDocumentMark (t : Text) : Bool :=
  (t.take 3 = ['-', '-', '-'] || t.take 3 = ['.', '.', '.']) && atGap (t.drop 3)

/-- The rest of a line on which nothing but a comment may follow, and the line end. -/
def skipLine? (t : Text) : Option Text :=
  let t := t.dropWhile (· = ' ')
  let t := if t.head? = some '#' then t.dropWhile (!isLineEnd ·) else t
  if atLineEnd t then some t.tail else none

/-- The gap and the comments in front of a word, and whether there is a line end among them. Only
spaces and line ends make up a gap between words. -/
def skipGap (inComment : Bool) : Text → Bool × Text
  | [] => (false, [])
  | c :: t =>
    if isLineEnd c then (true, (skipGap false t).2)
    else if inComment || c = ' ' then skipGap inComment t
    else if c = '#' then skipGap true t
    else (false, c :: t)

/-! ## Scalars with quotes -/

/-- The line ends that follow a line end within quotes, as they are kept, and the text after the
blanks among them. -/
def quotedLineEnds (startsLine : Bool) : Text → Except DocumentFault (Text × Text)
  | [] => .ok ([], [])
  | c :: t =>
    if startsLine && atDocumentMark (c :: t) then .error .malformed
    else if Text.isLineBlank c then quotedLineEnds false t
    else if isLineEnd c then
      (quotedLineEnds true t).map fun (kept, rest) => (keptLineEnd c :: kept, rest)
    else .ok ([], c :: t)

/-- Line ends as they are kept: a single line feed becomes a space, and the first of several is
dropped. -/
def fold (first : Char) (others : Text) : Text :=
  if first ≠ '\n' then first :: others
  else if others = [] then [' ']
  else others

/-- The gap in front within quotes, as it is kept, and the text after it. -/
def quotedGap (t : Text) : Except DocumentFault (Text × Text) :=
  let blanks := t.takeWhile Text.isLineBlank
  match t.drop blanks.length with
  | [] => .error .malformed
  | c :: rest =>
    if isLineEnd c then
      (quotedLineEnds true rest).map fun (others, rest) => (fold (keptLineEnd c) others, rest)
    else .ok (blanks, c :: rest)

/-- The character that a letter after a backslash stands for. -/
def escaped? (c : Char) : Option Char :=
  match c with
  | '0' => some '\x00'
  | 'a' => some '\x07'
  | 'v' => some '\x0b'
  | 'e' => some '\x1b'
  | ' ' => some ' '
  | '\t' => some '\t'
  | 'N' => some '\u0085'
  | '_' => some '\u00a0'
  | 'L' => some '\u2028'
  | 'P' => some '\u2029'
  | c => Json.escaped? c

/-- How many hexadecimal digits follow a letter after a backslash. -/
def hexLength? (c : Char) : Option Nat :=
  match c with
  | 'x' => some 2
  | 'u' => some 4
  | 'U' => some 8
  | _ => none

/-- The number that so many hexadecimal digits in front write. -/
def hexNumber? (count : Nat) (t : Text) : Option Nat :=
  let digits := t.take count
  if digits.length = count then
    (digits.mapM Json.hexValue?).map fun values => values.foldl (fun n v => 16 * n + v) 0
  else none

/-- What an escape whose backslash has been read adds to a scalar, none for half a character, and
the text after it. -/
def readEscape (t : Text) : Except DocumentFault (List (Option Char) × Text) :=
  match t with
  | [] => .error .malformed
  | c :: t =>
    match escaped? c, hexLength? c with
    | some char, _ => .ok ([some char], t)
    | none, some count =>
      match hexNumber? count t with
      | none => .error .malformed
      | some n =>
        if 0x110000 ≤ n then .error .badNumber
        else if 0xD800 ≤ n ∧ n < 0xE000 then .ok ([none], t.drop count)
        else .ok ([some (Char.ofNat n)], t.drop count)
    | none, none =>
      if isLineEnd c then (quotedLineEnds true t).map fun (kept, rest) => (kept.map some, rest)
      else .error .malformed

/-- The rest of a scalar whose opening quote has been read. Within single quotes a quote is
written twice; within double quotes a backslash starts an escape. -/
def readQuoted (quote : Char) : Nat → Text → Except DocumentFault (QuotedText × Text)
  | 0, _ | _, [] => .error .malformed
  | fuel + 1, c :: t =>
    if c = quote then
      if quote = '\'' ∧ t.head? = some quote then do
        let (q, rest) ← readQuoted quote fuel t.tail
        return (q.cons quote, rest)
      else .ok ({}, t)
    else if quote = '"' ∧ c = '\\' then do
      let (chars, t) ← readEscape t
      let (q, rest) ← readQuoted quote fuel t
      return (chars.foldr QuotedText.cons q, rest)
    else if isGap c then do
      let (kept, t) ← quotedGap (c :: t)
      let (q, rest) ← readQuoted quote fuel t
      return (q.prepend kept, rest)
    else do
      let (q, rest) ← readQuoted quote fuel t
      return (q.cons c, rest)

/-! ## Scalars without quotes -/

/-- May a scalar without quotes start here? -/
def startsPlain (inBrackets : Bool) : Text → Bool
  | [] => false
  | c :: t =>
    if c = '-' ∨ (c ∈ ['?', ':'] ∧ !inBrackets) then !atGap t
    else !isGap c && c ∉ ['?', ':', ',', '[', ']', '{', '}', '#', '&', '*', '!', '|', '>', '\'',
      '"', '%', '@', '\x60']

/-- Does a word without quotes end here? -/
def endsPlain (inBrackets : Bool) : Text → Bool
  | [] => true
  | c :: t =>
    isGap c || (c = ':' && (atGap t || (inBrackets && t.head?.any isBracketMark))) ||
      (inBrackets && (c = '?' || isBracketMark c))

/-- A word without quotes, and the text after it. -/
def plainWord (inBrackets : Bool) : Text → Text × Text
  | [] => ([], [])
  | c :: t =>
    if endsPlain inBrackets (c :: t) then ([], c :: t)
    else
      let (word, rest) := plainWord inBrackets t
      (c :: word, rest)

/-- A gap in a scalar without quotes. -/
structure PlainGap where
  /-- What is kept of it; none if the scalar ends here in any case. -/
  kept : Option Text
  /-- How far the text after it is indented, if it holds a line end. -/
  column : Option Nat
  rest : Text

/-- The line ends that follow a line end in a scalar without quotes, and how many spaces there are
after the last one. -/
def plainLineEnds (spaces : Nat) : Text → PlainGap
  | [] => ⟨some [], some spaces, []⟩
  | c :: t =>
    if c = ' ' then plainLineEnds (spaces + 1) t
    else if isLineEnd c then
      if atDocumentMark t then ⟨none, some 0, t⟩
      else
        let gap := plainLineEnds 0 t
        { gap with kept := gap.kept.map (keptLineEnd c :: ·) }
    else ⟨some [], some spaces, c :: t⟩

/-- The gap in front in a scalar without quotes. -/
def plainGap (t : Text) : PlainGap :=
  let spaces := t.takeWhile (· = ' ')
  match t.drop spaces.length with
  | [] => ⟨some spaces, none, []⟩
  | c :: rest =>
    if isLineEnd c then
      if atDocumentMark rest then ⟨none, some 0, rest⟩
      else
        let gap := plainLineEnds 0 rest
        { gap with kept := gap.kept.map (fold (keptLineEnd c)) }
    else ⟨some spaces, none, c :: rest⟩

/-- A scalar without quotes, the text after it, and whether there is a line end at the end of it.
Outside brackets it goes on only on lines that are indented this far. -/
def readPlain (inBrackets : Bool) (least : Nat) : Nat → Text → Text × Text × Bool
  | 0, t => ([], t, false)
  | fuel + 1, t =>
    match plainWord inBrackets t with
    | ([], _) => ([], t, false)
    | (word, rest) =>
      let gap := plainGap rest
      let ended := (word, gap.rest, gap.column.isSome)
      match gap.kept with
      | none | some [] => ended
      | some kept =>
        if gap.rest.head? = some '#' || (!inBrackets && gap.column.any (· < least)) then ended
        else
          match readPlain inBrackets least fuel gap.rest with
          | ([], _, _) => ended
          | (more, rest, breaks) => (word ++ kept ++ more, rest, breaks)

/-! ## Scalars in blocks -/

/-- What becomes of the line ends at the end of a block. -/
inductive Chomping where
  /-- None is kept. -/
  | strip
  /-- That of the last line is kept. -/
  | clip
  /-- All are kept. -/
  | keep
  deriving Repr, DecidableEq

/-- The marks after the character that opens a block: what becomes of the line ends at its end, and
how far it is indented relative to what is around it. Either may come first. -/
def blockHeader (t : Text) : Except DocumentFault (Chomping × Option Nat × Text) :=
  let chomping (t : Text) : Chomping × Text := match t with
    | '+' :: t => (.keep, t)
    | '-' :: t => (.strip, t)
    | t => (.clip, t)
  let increment (t : Text) : Option Nat × Text := match t with
    | c :: rest => if c.isDigit then (some (c.toNat - 0x30), rest) else (none, t)
    | [] => (none, [])
  let (chomp, indent, rest) :=
    match chomping t, increment t with
    | (.clip, _), (some n, rest) =>
      let (chomp, rest) := chomping rest
      (chomp, some n, rest)
    | (chomp, rest), _ =>
      let (indent, rest) := if chomp = .clip then (none, rest) else increment rest
      (chomp, indent, rest)
  if indent = some 0 ∨ !atSpace rest then .error .malformed
  else
    match skipLine? rest with
    | some rest => .ok (chomp, indent, rest)
    | none => .error .malformed

/-- The empty lines in front of a block, the largest number of spaces on any line, the number of
them on the last one, and the text after them. -/
def blockIndent (spaces most : Nat) : Text → Text × Nat × Nat × Text
  | [] => ([], most, spaces, [])
  | c :: t =>
    if c = ' ' then blockIndent (spaces + 1) (max most (spaces + 1)) t
    else if isLineEnd c then
      let (kept, rest) := blockIndent 0 most t
      (keptLineEnd c :: kept, rest)
    else ([], most, spaces, c :: t)

/-- The empty lines in front within a block that is indented this far, the number of spaces on the
line after them up to the indentation, and the text after these. -/
def blockBreaks (indent spaces : Nat) : Text → Text × Nat × Text
  | [] => ([], spaces, [])
  | c :: t =>
    if c = ' ' ∧ spaces < indent then blockBreaks indent (spaces + 1) t
    else if isLineEnd c then
      let (kept, rest) := blockBreaks indent 0 t
      (keptLineEnd c :: kept, rest)
    else ([], spaces, c :: t)

/-- The lines of a block. -/
structure BlockLines where
  content : Text := []
  /-- The line end of the last line. -/
  lineEnd : Text := []
  /-- The empty lines after it. -/
  breaks : Text
  rest : Text

/-- The lines of a block after empty lines; `spaces` stand before the text. When lines are folded,
a line end between two lines that start with no blank becomes a space, or nothing if empty lines
follow it. -/
def blockLines (folded : Bool) (indent : Nat) : Nat → Text → Nat → Text → BlockLines
  | 0, breaks, _, t => { breaks, rest := t }
  | fuel + 1, breaks, spaces, t =>
    if spaces ≠ indent ∨ t = [] then { breaks, rest := t }
    else
      let line := t.takeWhile (!isLineEnd ·)
      let (lineEnd, rest) := match t.drop line.length with
        | [] => ([], [])
        | c :: rest => ([keptLineEnd c], rest)
      let (nextBreaks, nextSpaces, rest) := blockBreaks indent 0 rest
      let goesOn := nextSpaces = indent ∧ rest ≠ []
      let joint :=
        if folded && lineEnd == ['\n'] && !t.head?.any Text.isLineBlank &&
            !rest.head?.any Text.isLineBlank then
          if nextBreaks = [] then [' '] else []
        else lineEnd
      if goesOn then
        let more := blockLines folded indent fuel nextBreaks nextSpaces rest
        { more with content := breaks ++ line ++ joint ++ more.content }
      else { content := breaks ++ line, lineEnd, breaks := nextBreaks, rest }

/-- A scalar in a block whose opening character has been read. What is around it is indented this
far, counted from one. -/
def readBlock (folded : Bool) (around : Nat) (t : Text) : Except DocumentFault (Text × Text) := do
  let (chomp, increment, t) ← blockHeader t
  let least := max around 1
  let (breaks, indent, spaces, t) := match increment with
    | some n =>
      let indent := least + n - 1
      let (breaks, spaces, t) := blockBreaks indent 0 t
      (breaks, indent, spaces, t)
    | none =>
      let (breaks, most, spaces, t) := blockIndent 0 0 t
      (breaks, max least most, spaces, t)
  let block := blockLines folded indent (t.length + 1) breaks spaces t
  let atEnd := match chomp with
    | .strip => []
    | .clip => block.lineEnd
    | .keep => block.lineEnd ++ block.breaks
  return (block.content ++ atEnd, block.rest)

/-! ## Names and tags -/

/-- The name of an anchor, and the text after it. -/
def readAnchor (t : Text) : Except DocumentFault (Text × Text) :=
  let name := t.takeWhile isNameChar
  let rest := t.drop name.length
  if name ≠ [] ∧ (atGap rest ∨ rest.head?.any (· ∈ ['?', ':', ',', ']', '}', '%', '@', '\x60']))
  then .ok (name, rest)
  else .error .malformed

/-- A handle of a tag: an exclamation mark, or a name between two of them. -/
def readHandle (t : Text) : Except DocumentFault (Text × Text) :=
  match t with
  | '!' :: rest =>
    if rest.head? = some ' ' then .ok (['!'], rest)
    else
      let name := rest.takeWhile isNameChar
      match rest.drop name.length with
      | '!' :: rest => .ok ('!' :: name ++ ['!'], rest)
      | _ => .error .malformed
  | _ => .error .malformed

/-- May the character stand in a tag as it is? -/
def isTagChar (c : Char) : Bool :=
  c.isAlphanum || c ∈ "-;/?:@&=+$,_.!~*'()[]".toList

/-- The bytes that escapes in front write, each as a percent sign and two hexadecimal digits. -/
def tagBytes : Text → Except DocumentFault (List UInt8 × Text)
  | '%' :: a :: b :: t =>
    match Json.hexValue? a, Json.hexValue? b with
    | some a, some b =>
      (tagBytes t).map fun (bytes, rest) => ((16 * a + b).toUInt8 :: bytes, rest)
    | _, _ => .error .malformed
  | '%' :: _ => .error .malformed
  | t => .ok ([], t)

/-- The rest of a tag after its handle, at least one character of it. -/
def readTagText (t : Text) : Except DocumentFault (Text × Text) := do
  let (tag, rest) ← go (t.length + 1) t
  if tag = [] then .error .malformed else .ok (tag, rest)
where
  /-- The same, none at all included. -/
  go : Nat → Text → Except DocumentFault (Text × Text)
    | 0, t => .ok ([], t)
    | _ + 1, [] => .ok ([], [])
    | fuel + 1, c :: t =>
      if c = '%' then do
        let (bytes, t) ← tagBytes (c :: t)
        match Text.decodeUtf8? bytes with
        | none => .error .malformed
        | some chars =>
          let (tag, rest) ← go fuel t
          return (chars ++ tag, rest)
      else if isTagChar c then do
        let (tag, rest) ← go fuel t
        return (c :: tag, rest)
      else .ok ([], c :: t)

/-- A tag whose exclamation mark is still to be read: its handle, none if it is written in full,
the rest of it, and the text after it. -/
def readTag (t : Text) : Except DocumentFault (Option Text × Text × Text) := do
  let (handle, tag, rest) ← match t.tail with
    | '<' :: t => do
      let (tag, rest) ← readTagText t
      match rest with
      | '>' :: rest => .ok (none, tag, rest)
      | _ => .error .malformed
    | rest =>
      if atGap rest then .ok (none, ['!'], rest)
      else do
        let (handle, rest) ←
          if (rest.takeWhile fun c => !(c = ' ' || isLineEnd c)).contains '!' then readHandle t
          else .ok (['!'], rest)
        let (tag, rest) ← readTagText rest
        .ok (some handle, tag, rest)
  if atSpace rest then .ok (handle, tag, rest) else .error .malformed

/-! ## Directives -/

/-- A line that says how to read the document after it. -/
inductive Directive where
  /-- The version of the format: only the number before the point counts. -/
  | version (major : Nat)
  /-- What a handle of tags stands for. -/
  | tags (handle start : Text)
  | other
  deriving Repr, DecidableEq

/-- A number of a version, and the text after it. -/
def readVersionPart (t : Text) : Except DocumentFault (Nat × Text) :=
  match t.takeWhile Char.isDigit with
  | [] => .error .malformed
  | digits =>
    match Text.readDigits? digits with
    | some n => .ok (n, t.drop digits.length)
    | none => .error .badNumber

/-- A directive whose percent sign has been read, and the text after its line. -/
def readDirective (t : Text) : Except DocumentFault (Directive × Text) := do
  let name := t.takeWhile isNameChar
  let t := t.drop name.length
  if name = [] ∨ !atSpace t then .error .malformed
  else
    let (directive, t) ← match String.ofList name with
      | "YAML" => do
        let (major, t) ← readVersionPart (t.dropWhile (· = ' '))
        match t with
        | '.' :: t => do
          let (_, t) ← readVersionPart t
          if atSpace t then .ok (Directive.version major, t) else .error .malformed
        | _ => .error .malformed
      | "TAG" => do
        let (handle, t) ← readHandle (t.dropWhile (· = ' '))
        if t.head? ≠ some ' ' then .error .malformed
        else do
          let (start, t) ← readTagText (t.dropWhile (· = ' '))
          if atSpace t then .ok (Directive.tags handle start, t) else .error .malformed
      | _ => .ok (.other, t.dropWhile (!isLineEnd ·))
    match skipLine? t with
    | some t => .ok (directive, t)
    | none => .error .malformed

end Yaml

end Ebrc
