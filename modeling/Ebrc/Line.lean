import Ebrc.Text.Basic

/-!
# Encoded lines

The lines of an rc file, once its outward form has been taken off. A line that opens or closes
a block, or divides an if block, consists of a mark and what belongs to it; every other line is
text. An opening line carries the letter of its kind of block, and after it the count of a loop
or the mark and the name of a function.
-/

namespace Ebrc

/-- An encoded line. -/
abbrev Line := Text

namespace Line

/-- The mark of a line that opens a block. -/
def openMark : Char := '\u0081'

/-- The mark of a line that closes a block. -/
def closeMark : Char := '\u0082'

/-- The mark of a line between the branches of an if block. -/
def elseMark : Char := '\u0083'

/-- The closing line. -/
def close : Line := [closeMark]

/-- The line between two branches. -/
def between : Line := [elseMark]

/-- What is left of a comment. -/
def comment : Line := ['#']

/-- The line that opens a block of this kind. -/
def opening (letter : Char) (payload : Text := []) : Line := openMark :: letter :: payload

/-- Does the line start with a mark? -/
def isControl (line : Line) : Bool :=
  match line with
  | [] => false
  | c :: _ => c = openMark || c = closeMark || c = elseMark

/-- Does the line say nothing? -/
def isVoid (line : Line) : Bool := line.isEmpty || line = comment

theorem isVoid_iff {line : Line} : isVoid line ↔ line = [] ∨ line = comment := by
  simp only [isVoid, Bool.or_eq_true, List.isEmpty_iff, decide_eq_true_eq]

end Line

/-! ## The letters of the kinds of blocks -/

namespace BlockLetter

def mail : Char := 'm'
def plugin : Char := 'e'
def table : Char := 'b'
def fromFilter : Char := 'r'
def toFilter : Char := 't'
def subjectFilter : Char := 's'
def function : Char := 'f'
def loop : Char := 'l'
def ifOk : Char := 'I'
def ifFailed : Char := 'i'
def whileOk : Char := 'W'
def whileFailed : Char := 'w'
def untilOk : Char := 'U'
def untilFailed : Char := 'u'

/-- The kinds of blocks that stand on their own. -/
def topLevel : List Char := [function, mail, plugin, table, fromFilter, toFilter, subjectFilter]

end BlockLetter

/-- The mark of a function that minds when its commands fail. -/
def mindfulMark : Char := '+'

/-- The mark of a function that does not. -/
def plainMark : Char := ':'

end Ebrc
