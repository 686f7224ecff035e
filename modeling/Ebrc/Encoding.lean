import Ebrc.ConfigError
import Ebrc.Line
import Ebrc.Text.Digit

/-!
# Encoding of rc files

The first pass over an rc file. Every source line becomes one encoded line: indentation, one
carriage return at the end and comments are dropped, and a line whose non-blank characters are
as a whole one of the structural phrases becomes a header. Only so many of these characters
are looked at. A malformed function header or a null character ends the pass, and then nothing
is encoded.
-/

namespace Ebrc

namespace Encoding

/-- The number of non-blank characters of a line that are looked at. -/
def phraseLength : Nat := 23

/-- The phrases that are always spelled the same, and their headers. -/
def fixedPhrases : List (Text × Line) := [
  ("\x7d".toList, Line.close),
  ("\x7delse\x7b".toList, Line.between),
  ("mail\x7b".toList, Line.opening BlockLetter.mail),
  ("plugin\x7b".toList, Line.opening BlockLetter.plugin),
  ("mime\x7b".toList, Line.opening BlockLetter.plugin),
  ("table\x7b".toList, Line.opening BlockLetter.table),
  ("fromfilter\x7b".toList, Line.opening BlockLetter.fromFilter),
  ("tofilter\x7b".toList, Line.opening BlockLetter.toFilter),
  ("subjfilter\x7b".toList, Line.opening BlockLetter.subjectFilter),
  ("if(*)\x7b".toList, Line.opening BlockLetter.ifOk),
  ("if(?)\x7b".toList, Line.opening BlockLetter.ifFailed),
  ("while(*)\x7b".toList, Line.opening BlockLetter.whileOk),
  ("while(?)\x7b".toList, Line.opening BlockLetter.whileFailed),
  ("until(*)\x7b".toList, Line.opening BlockLetter.untilOk),
  ("until(?)\x7b".toList, Line.opening BlockLetter.untilFailed)]

/-- What is left of a text after a beginning that it must have. -/
def after? : Text → Text → Option Text
  | [], t => some t
  | _ :: _, [] => none
  | c :: start, d :: t => if c = d then after? start t else none

/-- The digits of a loop header. -/
def loopDigits? (phrase : Text) : Option Text := do
  let t ← after? "loop(".toList phrase
  let digits := t.takeWhile Text.isDecimal
  if digits ≠ [] ∧ t.dropWhile Text.isDecimal = ")\x7b".toList then some digits else none

/-- The mark of a function header and what follows it, if the phrase is meant for one. -/
def functionMark? (phrase : Text) : Option (Char × Text) := do
  match ← after? "function".toList phrase with
  | mark :: rest => if mark = mindfulMark ∨ mark = plainMark then some (mark, rest) else none
  | [] => none

/-- The name in a function header, from what follows its mark. -/
def functionName (maxName : Int) (rest : Text) : Except ConfigFault Text :=
  let name := rest.takeWhile Char.isAlphanum
  match rest with
  | [] => .error .functionUnnamed
  | c :: _ =>
    if c = '{' ∨ c = '(' then .error .functionUnnamed
    else if maxName < (name.length : Int) then .error (.functionNameTooLong maxName)
    else if rest.drop name.length ≠ ['{'] then .error .functionHeader
    else .ok name

/-- The header of a phrase, if it is a structural one. -/
def header? (maxName : Int) (phrase : Text) : Except ConfigFault (Option Line) :=
  match fixedPhrases.lookup phrase with
  | some header => .ok (some header)
  | none =>
    match loopDigits? phrase with
    | some digits => .ok (some (Line.opening BlockLetter.loop digits))
    | none =>
      match functionMark? phrase with
      | some (mark, rest) =>
        (functionName maxName rest).map fun name =>
          some (Line.opening BlockLetter.function (mark :: name))
      | none => .ok none

/-- The non-blank characters of a line that are looked at. -/
def phrase (line : Text) : Text := (line.filter (!Text.isLineBlank ·)).take phraseLength

/-- A text without a carriage return at its end. -/
def dropReturn (t : Text) : Text := if t.getLast? = some '\r' then t.dropLast else t

/-- Encode a source line. -/
def encodeLine (maxName : Int) (source : Text) : Except ConfigFault Line :=
  if source.contains '\x00' then .error .nullCharacter
  else
    let line := Text.stripLeft Text.isLineBlank (dropReturn source)
    if line.head? = some '#' then .ok Line.comment
    else (header? maxName (phrase line)).map (·.getD line)

/-- Encode source lines of which the first has this number. -/
def encodeFrom (maxName : Int) (number : Nat) : List Text → Except (ConfigFault × Nat) (List Line)
  | [] => .ok []
  | source :: rest =>
    match encodeLine maxName source with
    | .error fault => .error (fault, number)
    | .ok line => (encodeFrom maxName (number + 1) rest).map (line :: ·)

/-- The encoded lines of an rc file, one for each source line. -/
def lines (text : Text) (file : Text) (maxName : Int) : Except ConfigError (List Line) :=
  (encodeFrom maxName 1 (Text.lines text)).mapError fun (fault, number) =>
    { fault, path := some file, line := some number }

/-- Encode an rc file as a text in which every line ends in a line feed. -/
def encode (text : Text) (file : Text) (maxName : Int) : Except ConfigError Text :=
  (lines text file maxName).map Text.unlines

end Encoding

end Ebrc
