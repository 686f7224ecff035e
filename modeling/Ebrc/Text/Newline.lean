import Ebrc.Text.Basic

/-!
# Line ends

A file may end its lines with a carriage return, with a line feed or with both in this order.
Reading a file as text makes each of them one line feed. A list of replacements is divided into
lines at further separators too.
-/

namespace Ebrc

namespace Text

/-- Every carriage return, with the line feed after it if there is one, as one line feed. -/
def unifyNewlines : Text → Text
  | [] => []
  | '\r' :: '\n' :: t => '\n' :: unifyNewlines t
  | '\r' :: t => '\n' :: unifyNewlines t
  | c :: t => c :: unifyNewlines t

/-- Does the character end a line of a list of replacements? -/
def isLineEnd (c : Char) : Bool :=
  c ∈ ['\n', '\r', '\x0b', '\x0c', '\x1c', '\x1d', '\x1e', '\u0085', '\u2028', '\u2029']

/-- The lines of a text, at every kind of line end; nothing after the last end is no line. -/
def allLines : Text → List Text
  | [] => []
  | '\r' :: '\n' :: t => [] :: allLines t
  | c :: t =>
    if isLineEnd c then [] :: allLines t
    else
      match allLines t with
      | [] => [[c]]
      | line :: rest => (c :: line) :: rest

end Text

end Ebrc
