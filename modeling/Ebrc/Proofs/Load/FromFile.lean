import Ebrc.Load
import Ebrc.Proofs.Text.Lines
import Ebrc.Proofs.Text.Utf8

/-!
# Loading from a file and from memory

The text of an rc file comes from the file, or it is at hand. A file is read as text, so every line
end in it has become a line feed before the encoding sees it; in a text at hand only one carriage
return at the end of a line is dropped. The two ways agree on every text in which carriage returns
stand nowhere else. Elsewhere they part: what is one line in memory is several in the file.
-/

namespace Ebrc

namespace Encoding

variable {maxName : Int} {source text file : Text}

theorem contains_dropReturn (source : Text) :
    (dropReturn source).contains '\x00' = source.contains '\x00' := by
  unfold dropReturn
  split
  · rename_i last
    obtain ⟨front, rfl⟩ := List.getLast?_eq_some_iff.1 last
    simp
  · rfl

/-- A line is encoded like the one without its carriage return, if there is no other. -/
theorem encodeLine_dropReturn (ends : '\r' ∉ dropReturn source) :
    encodeLine maxName (dropReturn source) = encodeLine maxName source := by
  have again : dropReturn (dropReturn source) = dropReturn source :=
    dropReturn_eq_self fun last => ends (List.mem_of_getLast? last)
  unfold encodeLine
  rw [contains_dropReturn, again]

theorem encodeFrom_dropReturn {number : Nat} {sources : List Text}
    (ends : ∀ source ∈ sources, '\r' ∉ dropReturn source) :
    encodeFrom maxName number (sources.map dropReturn) = encodeFrom maxName number sources := by
  induction sources generalizing number with
  | nil => rfl
  | cons source rest ih =>
      rw [List.forall_mem_cons] at ends
      rw [List.map_cons, encodeFrom, encodeFrom, encodeLine_dropReturn ends.1, ih ends.2]

/-- Making line ends one changes nothing in the encoding of such a text, faults included. -/
theorem lines_unifyNewlines (ends : ∀ line ∈ Text.lines text, '\r' ∉ dropReturn line) :
    lines (Text.unifyNewlines text) file maxName = lines text file maxName := by
  rw [lines, lines, Text.lines_unifyNewlines_eq_map ends, encodeFrom_dropReturn ends]

end Encoding

namespace FileSystem

/-- A file that holds a text is read as the text with its line ends made one. -/
theorem readText_of_holds {files : FileSystem} {path : Path} {text : Text}
    (holds : files.read path = .ok (Text.encodeUtf8 text)) :
    files.readText path = .ok (Text.unifyNewlines text) := by
  rw [readText, holds, Except.map, Text.decodeUtf8_encodeUtf8]

end FileSystem

namespace Loaded

variable {around : Surroundings} {text file : Text} {before : Loaded} {files : FileSystem}
  {log : EventLog}

/-- Only the encoded lines of a text matter. -/
theorem loadText_congr {text' : Text}
    (same : Encoding.lines text' file around.limits.functionName =
      Encoding.lines text file around.limits.functionName) :
    before.loadText around text' file files log = before.loadText around text file files log := by
  unfold loadText
  rw [same]

/-- Loading a file that holds a text is loading the text with its line ends made one. It is loading
the text itself, with the same outcome, the same state and the same log, if no carriage return
stands in a line but one at its end. -/
theorem load_eq_loadText (holds : files.read (Path.ofText file) = .ok (Text.encodeUtf8 text)) :
    before.load around file files log =
        before.loadText around (Text.unifyNewlines text) file files log ∧
      ((∀ line ∈ Text.lines text, '\r' ∉ Encoding.dropReturn line) →
        before.load around file files log = before.loadText around text file files log) := by
  have read : before.load around file files log =
      before.loadText around (Text.unifyNewlines text) file files log := by
    rw [load, FileSystem.readText_of_holds holds]
  refine ⟨read, fun ends => ?_⟩
  rw [read]
  exact loadText_congr (Encoding.lines_unifyNewlines ends)

/-- A text of two lines, both with a carriage return and a line feed at the end. -/
theorem load_eq_loadText_crlf :
    let text := "nojs=a.b\r\nnojs=c.d\r\n".toList
    let files : FileSystem := { entries := [([['r']], .file (Text.encodeUtf8 text))] }
    (∀ line ∈ Text.lines text, '\r' ∉ Encoding.dropReturn line) ∧
      (fresh ['a']).load ⟨{}, {}⟩ ['r'] files #[] =
        (fresh ['a']).loadText ⟨{}, {}⟩ text ['r'] files #[] := by
  refine ⟨by decide +kernel, ?_⟩
  exact (load_eq_loadText rfl).2 (by decide +kernel)

/-- A carriage return alone ends a line of a file, but not of a text at hand: the file has two
rules, and the text one whose pattern holds the second line. -/
theorem load_ne_loadText_return :
    let text := "nojs=a.b\rnojs=c.d\n".toList
    let files : FileSystem := { entries := [([['r']], .file (Text.encodeUtf8 text))] }
    let ofFile := (fresh ['a']).load ⟨{}, {}⟩ ['r'] files #[]
    let ofText := (fresh ['a']).loadText ⟨{}, {}⟩ text ['r'] files #[]
    files.read (Path.ofText ['r']) = .ok (Text.encodeUtf8 text) ∧
      ofFile.fault = none ∧ ofText.fault = none ∧ ofFile ≠ ofText ∧
      ofFile.loaded.rules.length = 2 ∧ ofText.loaded.rules.length = 1 := by
  exact ⟨rfl, by decide +kernel⟩

end Loaded

end Ebrc
