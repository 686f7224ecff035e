import Ebrc.Proofs.Load.Marks
import Ebrc.Proofs.Text.Lines

/-!
# Structure and text

The encoding takes a line for structure by its spelling alone. Every encoded line is traced back here
to the spelling of its source line: a header stands where the characters that are looked at are as a
whole a structural phrase, and every other line is kept as it stands but for its outward form.

Two things blur the line between structure and text. Only so many characters are looked at, so a
longer line can be taken for a header. And the marks of headers are characters like others: a line
of the source that starts with one is kept.
-/

namespace Ebrc

namespace Encoding

variable {maxName : Int} {source : Text} {line : Line}

/-- What is left of a source line without blanks and without one carriage return at its end. -/
def compact (source : Text) : Text := (dropReturn source).filter (!Text.isLineBlank ·)

/-- A source line is a comment. -/
def IsComment (source : Text) : Prop := (plain source).head? = some '#'

instance (source : Text) : Decidable (IsComment source) := inferInstanceAs (Decidable (_ = _))

theorem phrase_plain (source : Text) :
    phrase (plain source) = (compact source).take phraseLength := by
  have stripped (t : Text) :
      (t.dropWhile Text.isLineBlank).filter (!Text.isLineBlank ·) =
        t.filter (!Text.isLineBlank ·) := by
    induction t with
    | nil => rfl
    | cons c t ih =>
        by_cases blank : Text.isLineBlank c
        · simp [blank, ih]
        · simp [blank]
  rw [phrase, plain, Text.stripLeft, stripped, compact]

/-- How an encoded line comes from the spelling of its source line. -/
structure Separates (source : Text) (line : Line) : Prop where
  comment : IsComment source → line = Line.comment
  header : ¬IsComment source → ∀ h, Phrase ((compact source).take phraseLength) h → line = h
  /-- Every other line loses only its indentation and a carriage return at its end. -/
  kept : ¬IsComment source → (∀ h, ¬Phrase ((compact source).take phraseLength) h) →
    ∃ indent ending, (∀ c ∈ indent, Text.isLineBlank c) ∧ (ending = [] ∨ ending = ['\r']) ∧
      source = indent ++ (line ++ ending)
  /-- A mark comes from a phrase, or it has been there before. -/
  marked : line.isControl ↔ ¬IsComment source ∧
    ((plain source).isControl ∨ ∃ h, Phrase ((compact source).take phraseLength) h)
  /-- A line that is looked at as a whole, and has no mark before, gets one just if it is a phrase
  as a whole. -/
  short : (compact source).length ≤ phraseLength → (plain source).isControl = false →
    (line.isControl ↔ ¬IsComment source ∧ ∃ h, Phrase (compact source) h)
  /-- A longer line is seldom taken for a header. -/
  long : phraseLength < (compact source).length →
    ∀ h, Phrase ((compact source).take phraseLength) h →
      (∃ digits, digits.length = 16 ∧ h = Line.opening BlockLetter.loop digits) ∨
        ∃ mark name, name.length = 13 ∧ h = Line.opening BlockLetter.function (mark :: name)

theorem append_dropReturn (source : Text) :
    ∃ ending, (ending = [] ∨ ending = ['\r']) ∧ source = dropReturn source ++ ending := by
  unfold dropReturn
  split
  · rename_i last
    obtain ⟨front, rfl⟩ := List.getLast?_eq_some_iff.1 last
    exact ⟨['\r'], .inr rfl, by rw [List.dropLast_concat]⟩
  · exact ⟨[], .inl rfl, (List.append_nil _).symm⟩

theorem append_plain (source : Text) :
    ∃ indent ending, (∀ c ∈ indent, Text.isLineBlank c) ∧ (ending = [] ∨ ending = ['\r']) ∧
      source = indent ++ (plain source ++ ending) := by
  obtain ⟨ending, returns, whole⟩ := append_dropReturn source
  refine ⟨(dropReturn source).takeWhile Text.isLineBlank, ending,
    fun c among => List.mem_takeWhile_imp among, returns, ?_⟩
  rw [plain, Text.stripLeft, ← List.append_assoc, List.takeWhile_append_dropWhile]
  exact whole

/-- A line is a comment, or a phrase, or it is kept. -/
theorem Separates.of_cases (comment : IsComment source → line = Line.comment)
    (header : ¬IsComment source → ∀ h, Phrase ((compact source).take phraseLength) h → line = h)
    (kept : ¬IsComment source → (∀ h, ¬Phrase ((compact source).take phraseLength) h) →
      line = plain source) : Separates source line := by
  have marked : line.isControl ↔ ¬IsComment source ∧
      ((plain source).isControl ∨ ∃ h, Phrase ((compact source).take phraseLength) h) := by
    by_cases isComment : IsComment source
    · rw [comment isComment]
      exact ⟨fun marked => absurd marked (by decide), fun ⟨other, _⟩ => absurd isComment other⟩
    by_cases spelled : ∃ h, Phrase ((compact source).take phraseLength) h
    · obtain ⟨h, spelled⟩ := spelled
      rw [header isComment h spelled]
      exact ⟨fun _ => ⟨isComment, .inr ⟨h, spelled⟩⟩, fun _ => spelled.isControl⟩
    · rw [kept isComment fun h here => spelled ⟨h, here⟩]
      exact ⟨fun before => ⟨isComment, .inl before⟩,
        fun ⟨_, before⟩ => before.resolve_right spelled⟩
  refine ⟨comment, header, fun other unspelled => ?_, marked, fun short unmarked => ?_,
    fun long h spelled => spelled.longest (List.length_take_of_le (Nat.le_of_lt long))⟩
  · rw [kept other unspelled]
    exact append_plain source
  · rw [marked, unmarked, List.take_of_length_le short]
    simp only [Bool.false_eq_true, false_or]

theorem separates_of_encodeLine (encoded : encodeLine maxName source = .ok line) :
    Separates source line := by
  rcases encodeLine_cases encoded with ⟨isComment, rfl⟩ | ⟨other, looked⟩
  · exact .of_cases (fun _ => rfl) (fun other => absurd isComment other)
      (fun other => absurd isComment other)
  rw [phrase_plain] at looked
  refine .of_cases (fun isComment => absurd isComment other) (fun _ h spelled => ?_)
    fun _ unspelled => ?_
  · rcases looked with ⟨none, -⟩ | found
    · exact absurd ((header?_eq_some_iff none).2 spelled) (by simp)
    · exact Option.some.inj ((header?_eq_some_iff found).2 spelled)
  · rcases looked with ⟨-, same⟩ | found
    · exact same
    · exact absurd ((header?_eq_some_iff found).1 rfl) (unspelled line)

/-- No encoded line has a line feed in it. -/
theorem not_mem_of_encodeLine (single : '\n' ∉ source)
    (encoded : encodeLine maxName source = .ok line) : '\n' ∉ line := by
  rcases encodeLine_cases encoded with ⟨-, rfl⟩ | ⟨-, ⟨-, rfl⟩ | found⟩
  · decide
  · exact fun among => single (mem_of_mem_plain among)
  · exact (phrase_of_header? found).not_mem

/-- Line by line, the encoding of a text separates structure from text by the spelling of the source
line. -/
theorem separates_of_encode {text file encoded : Text}
    (accepted : encode text file maxName = .ok encoded) :
    List.Forall₂ Separates (Text.lines text) (Text.lines encoded) := by
  unfold encode at accepted
  cases result : lines text file maxName with
  | error fault =>
      rw [result] at accepted
      contradiction
  | ok encodedLines =>
      rw [result] at accepted
      cases accepted
      have all := forall₂_of_lines result
      have single : ∀ line ∈ encodedLines, '\n' ∉ line := by
        intro line among
        obtain ⟨source, there, here⟩ := exists_source all among
        exact not_mem_of_encodeLine (Text.not_mem_of_mem_lines there) here
      rw [Text.lines_unlines single]
      exact all.imp fun _ _ => separates_of_encodeLine

/-- A comment, a block with a line in it, and its end. -/
theorem separates_of_encode_mail :
    let text := "# a\n mail\x7b\r\n x = 1\n\x7d\n".toList
    let encoded := "#\n\u0081m\nx = 1\n\u0082\n".toList
    encode text ['r'] 10 = .ok encoded ∧
      List.Forall₂ Separates (Text.lines text) (Text.lines encoded) := by
  intro text encoded
  have accepted : encode text ['r'] 10 = .ok encoded := rfl
  exact ⟨accepted, separates_of_encode accepted⟩

/-- Where a line goes on after what is looked at, its rest is lost; where a phrase does, it is not
recognized; and a mark in the source is kept. -/
theorem encode_not_separates :
    (encode "loop(1234567890123456)\x7b more".toList ['r'] 10 =
        .ok "\u0081l1234567890123456\n".toList ∧
      ∀ h, ¬Phrase (compact "loop(1234567890123456)\x7b more".toList) h) ∧
    (encode "loop(12345678901234567)\x7b".toList ['r'] 10 =
        .ok "loop(12345678901234567)\x7b\n".toList ∧
      Phrase (compact "loop(12345678901234567)\x7b".toList)
        (Line.opening BlockLetter.loop "12345678901234567".toList)) ∧
    (encode "\u0081m".toList ['r'] 10 = .ok "\u0081m\n".toList ∧
      ∀ h, ¬Phrase (compact "\u0081m".toList) h) := by
  refine ⟨⟨rfl, fun h spelled => ?_⟩, ⟨rfl, ?_⟩, rfl,
    fun h spelled => ?_⟩
  · exact absurd spelled.ends (by decide)
  · exact @Phrase.loop "12345678901234567".toList (by decide) (List.all_eq_true.1 rfl)
  · exact absurd spelled.ends (by decide)

end Encoding

end Ebrc
