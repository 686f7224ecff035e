import Ebrc.Program
import Ebrc.Proofs.Load.Phrases
import Ebrc.Proofs.Text.Number
import Mathlib.Data.List.Forall2

/-!
# Marks

A text without marks is encoded into lines whose marks all come from the encoding. So a line of it
either has no mark in front, or is one of the headers that the encoding writes: a closing mark or a
mark of an else stands alone on its line, a block has a letter, and a loop a count that can be read.
The loader, which looks at whole lines, and the decoding, which looks at their first characters,
take such lines for the same.
-/

namespace Ebrc

/-- The text holds none of the marks of encoded lines. -/
def Text.Unmarked (t : Text) : Prop :=
  ∀ c ∈ t, c ≠ Line.openMark ∧ c ≠ Line.closeMark ∧ c ≠ Line.elseMark

instance (t : Text) : Decidable t.Unmarked := List.decidableBAll _ t

/-! ## Lines -/

/-- The letters of the blocks that collect records and mail rules. -/
def BlockLetter.records : List Char := [mail, plugin, table, fromFilter, toFilter, subjectFilter]

/-- The letters of the blocks that stand in functions, loops apart. -/
def BlockLetter.tests : List Char := [ifOk, ifFailed, whileOk, whileFailed, untilOk, untilFailed]

namespace Line

/-- A line that the encoding writes in place of a structural phrase. -/
inductive Header : Line → Prop where
  | close : Header close
  | between : Header between
  | record {letter : Char} (record : letter ∈ BlockLetter.records) : Header (opening letter)
  | test {letter : Char} (test : letter ∈ BlockLetter.tests) : Header (opening letter)
  | loop {digits : Text} (given : digits ≠ []) (decimal : ∀ c ∈ digits, Text.isDecimal c)
      (short : digits.length ≤ Encoding.phraseLength) :
      Header (opening BlockLetter.loop digits)
  | function {mark : Char} {name : Text} (marked : mark = mindfulMark ∨ mark = plainMark)
      (named : name ≠ []) (letters : ∀ c ∈ name, c.isAlphanum) :
      Header (opening BlockLetter.function (mark :: name))

/-- A line of a text without marks. -/
def Encoded (line : Line) : Prop := isControl line = false ∨ line.Header

/-- The marks that stand alone do so. -/
structure Proper (line : Line) : Prop where
  closing : line.head? = some closeMark → line = close
  between : line.head? = some elseMark → line = between

theorem isControl_eq_false_iff {line : Line} :
    isControl line = false ↔ line.head? ≠ some openMark ∧ line.head? ≠ some closeMark ∧
      line.head? ≠ some elseMark := by
  cases line with
  | nil => simp [isControl]
  | cons c rest => simp [isControl, and_assoc]

theorem proper_opening (letter : Char) (payload : Text) : Proper (opening letter payload) where
  closing same := by
    simp only [opening, List.head?_cons, Option.some.injEq] at same
    exact absurd same (by decide)
  between same := by
    simp only [opening, List.head?_cons, Option.some.injEq] at same
    exact absurd same (by decide)

theorem Encoded.proper {line : Line} (encoded : line.Encoded) : line.Proper := by
  rcases encoded with text | header
  · obtain ⟨-, notClosing, notBetween⟩ := isControl_eq_false_iff.1 text
    exact ⟨fun same => absurd same notClosing, fun same => absurd same notBetween⟩
  · cases header with
    | close => exact ⟨fun _ => rfl, fun same => absurd same (by decide)⟩
    | between => exact ⟨fun same => absurd same (by decide), fun _ => rfl⟩
    | record | test | loop | function => exact proper_opening _ _

end Line

/-! ## Instructions -/

namespace Line

variable {line : Line}

/-- The count of a loop can be read. -/
theorem exists_ofLetter_loop {digits : Text} (given : digits ≠ [])
    (decimal : ∀ c ∈ digits, Text.isDecimal c) (short : digits.length ≤ Encoding.phraseLength) :
    ∃ n, Block.ofLetter (some BlockLetter.loop) digits = .ok (.loop n) := by
  have signs : Text.allDigitSigns digits := by
    simp only [Text.allDigitSigns, Bool.and_eq_true, Bool.not_eq_true', List.isEmpty_eq_false_iff,
      List.all_eq_true]
    exact ⟨given, fun c among => Bool.or_eq_true_iff.2 (.inl (decimal c among))⟩
  cases read : Text.readInt? digits with
  | none =>
      rcases (Text.readInt?_eq_none_iff signs).1 read with long | ⟨c, among, other⟩
      · have enough : Encoding.phraseLength ≤ Text.maxNumberLength := by decide
        omega
      · rw [decimal c among] at other
        contradiction
  | some n =>
      refine ⟨n, ?_⟩
      simp only [Block.ofLetter, BlockLetter.loop, if_neg given, read]

/-- A line without a mark in front is a command. -/
theorem decode_of_isControl (text : isControl line = false) :
    Instruction.decode line = .ok (.literal line) := by
  cases line with
  | nil => rfl
  | cons c rest =>
      simp only [isControl, Bool.or_eq_false_iff, decide_eq_false_iff_not] at text
      simp only [Instruction.decode, if_neg text.1.1, if_neg text.1.2, if_neg text.2]

/-- A line of a text without marks is an instruction. -/
theorem Encoded.exists_decode (encoded : line.Encoded) :
    ∃ i, Instruction.decode line = .ok i := by
  rcases encoded with text | header
  · exact ⟨_, decode_of_isControl text⟩
  · cases header with
    | close => exact ⟨_, rfl⟩
    | between => exact ⟨_, rfl⟩
    | record among | test among =>
        simp only [BlockLetter.records, BlockLetter.tests, List.mem_cons, List.not_mem_nil,
          or_false] at among
        rcases among with rfl | rfl | rfl | rfl | rfl | rfl <;> exact ⟨_, rfl⟩
    | @loop digits given decimal short =>
        obtain ⟨n, read⟩ := exists_ofLetter_loop given decimal short
        refine ⟨.opening (.loop n), ?_⟩
        have decoded : Instruction.decode (opening BlockLetter.loop digits) =
            (Block.ofLetter (some BlockLetter.loop) digits).map .opening := rfl
        rw [decoded, read]
        rfl
    | function => exact ⟨_, rfl⟩

/-- Lines of texts without marks are a program. -/
theorem exists_ofLines {lines : List Line} (encoded : ∀ line ∈ lines, line.Encoded) :
    ∃ code, Program.ofLines lines = .ok code := by
  induction lines with
  | nil => exact ⟨[], rfl⟩
  | cons line rest ih =>
      obtain ⟨i, first⟩ := (encoded line (List.mem_cons_self ..)).exists_decode
      obtain ⟨code, others⟩ := ih fun line among => encoded line (List.mem_cons_of_mem _ among)
      rw [Program.ofLines] at others ⊢
      exact ⟨i :: code, by rw [List.mapM_cons, first, others]; rfl⟩

end Line

/-! ## The encoding -/

namespace Encoding

variable {maxName : Int} {line : Line}

/-- A phrase that is short enough stands for a header. -/
theorem Phrase.header {phrase : Text} (spelled : Phrase phrase line)
    (short : phrase.length ≤ phraseLength) : line.Header := by
  cases spelled with
  | fixed among =>
      simp only [fixedPhrases, List.mem_cons, List.not_mem_nil, or_false, Prod.mk.injEq] at among
      rcases among with ⟨-, rfl⟩ | ⟨-, rfl⟩ | ⟨-, rfl⟩ | ⟨-, rfl⟩ | ⟨-, rfl⟩ | ⟨-, rfl⟩ | ⟨-, rfl⟩ |
        ⟨-, rfl⟩ | ⟨-, rfl⟩ | ⟨-, rfl⟩ | ⟨-, rfl⟩ | ⟨-, rfl⟩ | ⟨-, rfl⟩ | ⟨-, rfl⟩ | ⟨-, rfl⟩
      · exact .close
      · exact .between
      · exact .record (by decide)
      · exact .record (by decide)
      · exact .record (by decide)
      · exact .record (by decide)
      · exact .record (by decide)
      · exact .record (by decide)
      · exact .record (by decide)
      all_goals exact .test (by decide)
  | loop given decimal =>
      refine .loop given decimal (Nat.le_trans ?_ short)
      rw [List.length_append, List.length_append]
      omega
  | function marked named letters => exact .function marked named letters

/-- The headers of phrases are no others. -/
theorem header_of_header? {phrase : Text} (short : phrase.length ≤ phraseLength)
    (found : header? maxName phrase = .ok (some line)) : line.Header :=
  (phrase_of_header? found).header short

theorem length_phrase_le (source : Text) : (phrase source).length ≤ phraseLength :=
  List.length_take_le _ _

/-- A source line as it stands when it is no comment and no structural phrase. -/
def plain (source : Text) : Line := Text.stripLeft Text.isLineBlank (dropReturn source)

/-- What a source line is encoded into. -/
theorem encodeLine_cases {source : Text} (encoded : encodeLine maxName source = .ok line) :
    ((plain source).head? = some '#' ∧ line = Line.comment) ∨
      ((plain source).head? ≠ some '#' ∧
        ((header? maxName (phrase (plain source)) = .ok none ∧ line = plain source) ∨
          header? maxName (phrase (plain source)) = .ok (some line))) := by
  unfold encodeLine at encoded
  dsimp only at encoded
  split at encoded
  · contradiction
  split at encoded
  · rename_i comment
    cases encoded
    exact .inl ⟨comment, rfl⟩
  · rename_i other
    obtain ⟨header?, found, same⟩ : ∃ header?, Encoding.header? maxName
        (phrase (plain source)) = .ok header? ∧ header?.getD (plain source) = line := by
      unfold plain
      cases found : Encoding.header? maxName
          (phrase (Text.stripLeft Text.isLineBlank (dropReturn source))) with
      | error fault =>
          rw [found] at encoded
          contradiction
      | ok header? =>
          rw [found] at encoded
          cases encoded
          exact ⟨header?, rfl, rfl⟩
    refine .inr ⟨other, ?_⟩
    cases header? with
    | none => exact .inl ⟨found, same.symm⟩
    | some header =>
        cases same
        exact .inr found

/-- The encoding takes nothing from the source but its own characters. -/
theorem mem_of_mem_plain {source : Text} {c : Char} (among : c ∈ plain source) : c ∈ source := by
  have kept : c ∈ dropReturn source := (List.dropWhile_suffix _).subset among
  unfold dropReturn at kept
  split at kept
  · exact List.dropLast_subset _ kept
  · exact kept

theorem encoded_of_encodeLine {source : Text} (unmarked : Text.Unmarked source)
    (encoded : encodeLine maxName source = .ok line) : line.Encoded := by
  rcases encodeLine_cases encoded with ⟨-, rfl⟩ | ⟨-, ⟨-, rfl⟩ | found⟩
  · exact .inl (by decide)
  · refine .inl (Line.isControl_eq_false_iff.2 ?_)
    have bare (mark : Char) (first : (plain source).head? = some mark) : mark ∈ source :=
      mem_of_mem_plain (List.mem_of_mem_head? first)
    exact ⟨fun first => absurd rfl (unmarked _ (bare _ first)).1,
      fun first => absurd rfl (unmarked _ (bare _ first)).2.1,
      fun first => absurd rfl (unmarked _ (bare _ first)).2.2⟩
  · exact .inr (header_of_header? (length_phrase_le _) found)

/-- Every source line is encoded, in order. -/
theorem forall₂_of_encodeFrom {number : Nat} {sources : List Text} {encoded : List Line}
    (all : encodeFrom maxName number sources = .ok encoded) :
    List.Forall₂ (fun source line => encodeLine maxName source = .ok line) sources encoded := by
  induction sources generalizing number encoded with
  | nil =>
      cases all
      exact .nil
  | cons source rest ih =>
      unfold encodeFrom at all
      cases first : encodeLine maxName source with
      | error fault =>
          rw [first] at all
          contradiction
      | ok head =>
          simp only [first] at all
          cases others : encodeFrom maxName (number + 1) rest with
          | error fault =>
              rw [others] at all
              contradiction
          | ok tail =>
              rw [others] at all
              cases all
              exact .cons first (ih others)

theorem forall₂_of_lines {text file : Text} {encoded : List Line}
    (all : lines text file maxName = .ok encoded) :
    List.Forall₂ (fun source line => encodeLine maxName source = .ok line) (Text.lines text)
      encoded := by
  unfold lines at all
  cases result : encodeFrom maxName 1 (Text.lines text) with
  | error fault =>
      rw [result] at all
      contradiction
  | ok encoded' =>
      rw [result] at all
      cases all
      exact forall₂_of_encodeFrom result

theorem exists_source {sources : List Text} {encoded : List Line}
    (all : List.Forall₂ (fun source line => encodeLine maxName source = .ok line) sources encoded)
    (among : line ∈ encoded) : ∃ source ∈ sources, encodeLine maxName source = .ok line := by
  induction all with
  | nil => contradiction
  | @cons source _ rest _ here _ ih =>
      rcases List.mem_cons.1 among with rfl | later
      · exact ⟨source, List.mem_cons_self .., here⟩
      · obtain ⟨source, there, encoded⟩ := ih later
        exact ⟨source, List.mem_cons_of_mem _ there, encoded⟩

/-- The lines of a text without marks have no marks but those of headers. -/
theorem encoded_of_mem_lines {text file : Text} {encoded : List Line}
    (unmarked : Text.Unmarked text) (all : lines text file maxName = .ok encoded) :
    ∀ line ∈ encoded, line.Encoded := by
  intro line among
  obtain ⟨source, there, here⟩ := exists_source (forall₂_of_lines all) among
  exact encoded_of_encodeLine (fun c occurs => unmarked c (Text.mem_of_mem_lines there occurs)) here

end Encoding

end Ebrc
