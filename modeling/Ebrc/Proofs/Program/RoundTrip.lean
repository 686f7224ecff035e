import Ebrc.Proofs.Load.Bodies
import Ebrc.Proofs.Load.LineByLine
import Ebrc.Proofs.Text.Decimal

/-!
# Programs and their lines

A program that has been read from lines can be written and read again: what is lost of a line is
lost when it is read, namely what stands behind a closing mark, an else or the letter of a block,
and how the count of a loop is spelled. The lines of a text without marks have nothing there to
lose. So these come back as they were, but for the counts of loops, which come back in their usual
form, and for the headers of functions, whose names an instruction does not keep.
-/

namespace Ebrc

/-- The line as it is written again: the same, unless it opens a loop. Then the count is in its
usual form. -/
inductive Line.Rewritten : Line → Line → Prop where
  | loop {digits usual : Text} (given : digits ≠ []) (decimal : ∀ c ∈ digits, Text.isDecimal c)
      (spelled : usual.Usual digits.digitsValue) :
      Rewritten (opening BlockLetter.loop digits) (opening BlockLetter.loop usual)
  | same {line : Line} (other : ∀ digits, line ≠ opening BlockLetter.loop digits) :
      Rewritten line line

/-! ## Instructions -/

section Instructions

variable {line : Line} {i : Instruction} {letter : Option Char} {payload : Text} {block : Block}

theorem Instruction.decode_openMark (rest : Text) :
    decode (Line.openMark :: rest) = (Block.ofLetter rest.head? rest.tail).map opening := rfl

/-- The count of a loop that has been read can be written and read again. -/
theorem Block.decode_encode_loop {n : Int} (short : n.natAbs < 10 ^ Text.maxNumberLength) :
    Instruction.decode (Instruction.encode (.opening (.loop n))) = .ok (.opening (.loop n)) := by
  have given : Text.ofInt n ≠ [] := by
    cases n with
    | ofNat n => exact (Text.usual_ofNat n).given
    | negSucc n => exact List.cons_ne_nil _ _
  have count : Block.ofLetter (some BlockLetter.loop) (Text.ofInt n) = .ok (.loop n) := by
    simp only [Block.ofLetter, BlockLetter.loop, if_neg given, Text.readInt?_ofInt short]
  rw [Instruction.encode, Line.opening, Instruction.decode_openMark, List.head?_cons,
    List.tail_cons, count]
  rfl

/-- What stands behind the letter matters to loops only. -/
theorem Block.ofLetter_eq (other : letter ≠ some 'l') :
    ofLetter letter payload = ofLetter letter [] := by
  unfold ofLetter
  split
  case h_1 => exact absurd rfl other
  all_goals rfl

/-- Of a block that is no loop the letter is written. -/
theorem Block.encode_of_ofLetter (other : letter ≠ some 'l')
    (read : ofLetter letter payload = .ok block) :
    Instruction.encode (.opening block) = Line.openMark :: letter.toList := by
  unfold ofLetter at read
  split at read
  case h_1 => exact absurd rfl other
  all_goals
    cases read
    rfl

/-- A block that has been read can be written and read again. -/
theorem Block.decode_encode (read : ofLetter letter payload = .ok block) :
    Instruction.decode (Instruction.encode (.opening block)) = .ok (.opening block) := by
  by_cases loop : letter = some 'l'
  · subst loop
    simp only [ofLetter] at read
    split at read
    · cases read
      have zero : (0 : Int).natAbs < 10 ^ Text.maxNumberLength := by
        rw [Int.natAbs_zero]
        exact Nat.pow_pos (by decide)
      exact decode_encode_loop zero
    · split at read
      · rename_i n digits
        cases read
        exact decode_encode_loop (Text.natAbs_lt_of_readInt? digits)
      · contradiction
  · rw [encode_of_ofLetter loop read, Instruction.decode_openMark]
    rw [ofLetter_eq loop] at read
    cases letter <;> exact congrArg (Except.map Instruction.opening) read

theorem Instruction.decode_encode (read : decode line = .ok i) : decode i.encode = .ok i := by
  cases line with
  | nil =>
      cases read
      rfl
  | cons c rest =>
      by_cases closing : c = Line.closeMark
      · subst closing
        cases read
        rfl
      by_cases between : c = Line.elseMark
      · subst between
        cases read
        rfl
      by_cases opens : c = Line.openMark
      · subst opens
        rw [decode_openMark] at read
        obtain ⟨block, known, rfl⟩ := exists_of_map_eq_ok read
        exact Block.decode_encode known
      · have literal : decode (c :: rest) = .ok (.literal (c :: rest)) := by
          rw [decode, if_neg closing, if_neg between, if_neg opens]
        rw [literal] at read
        cases read
        exact literal

theorem Line.ne_loop (other : line.take 2 ≠ opening BlockLetter.loop) :
    ∀ digits, line ≠ opening BlockLetter.loop digits := by
  rintro digits rfl
  exact other rfl

/-- A line of a text without marks is written as it was, but for the count of a loop. -/
theorem Line.Encoded.rewritten (encoded : line.Encoded) (other : ¬line.isFunctionHeader)
    (read : Instruction.decode line = .ok i) : line.Rewritten i.encode := by
  rcases encoded with text | header
  · rw [decode_of_isControl text] at read
    cases read
    refine .same fun digits same => ?_
    have opens : line.head? = some openMark := by rw [same, opening, List.head?_cons]
    exact absurd opens (isControl_eq_false_iff.1 text).1
  · cases header with
    | close | between =>
        cases read
        exact .same (ne_loop (by decide))
    | record among | test among =>
        simp only [BlockLetter.records, BlockLetter.tests, List.mem_cons, List.not_mem_nil,
          or_false] at among
        rcases among with rfl | rfl | rfl | rfl | rfl | rfl
        all_goals
          cases read
          exact .same (ne_loop (by decide))
    | @loop digits given decimal short =>
        have enough : Encoding.phraseLength ≤ Text.maxNumberLength := by decide
        have count : Block.ofLetter (some BlockLetter.loop) digits =
            .ok (.loop (digits.digitsValue : Int)) := by
          simp only [Block.ofLetter, BlockLetter.loop, if_neg given,
            Text.readInt?_digits given decimal (Nat.le_trans short enough)]
        rw [opening, Instruction.decode_openMark, List.head?_cons, List.tail_cons, count] at read
        cases read
        exact .loop given decimal (Text.usual_ofNat _)
    | function => exact absurd rfl other

end Instructions

/-! ## Programs -/

namespace Program

variable {line : Line} {lines : List Line} {code : Program}

theorem ofLines_cons_eq_ok : ofLines (line :: lines) = .ok code ↔
    ∃ i rest, Instruction.decode line = .ok i ∧ ofLines lines = .ok rest ∧ i :: rest = code := by
  simp only [ofLines, List.mapM_cons]
  constructor
  · intro read
    obtain ⟨i, first, read⟩ := exists_of_bind_eq_ok read
    obtain ⟨rest, later, read⟩ := exists_of_bind_eq_ok read
    cases read
    exact ⟨i, rest, first, later, rfl⟩
  · rintro ⟨i, rest, first, later, rfl⟩
    rw [first, later]
    rfl

/-- A program that has been read can be written and read again. -/
theorem ofLines_toLines_of_ofLines (read : ofLines lines = .ok code) :
    ofLines code.toLines = .ok code := by
  induction lines generalizing code with
  | nil =>
      cases read
      rfl
  | cons line lines ih =>
      obtain ⟨i, rest, first, later, rfl⟩ := ofLines_cons_eq_ok.1 read
      exact ofLines_cons_eq_ok.2 ⟨i, rest, Instruction.decode_encode first, ih later, rfl⟩

/-- Lines of texts without marks are written as they were, but for the counts of loops. -/
theorem rewritten_of_ofLines (encoded : ∀ line ∈ lines, line.Encoded)
    (other : ∀ line ∈ lines, ¬line.isFunctionHeader) (read : ofLines lines = .ok code) :
    List.Forall₂ Line.Rewritten lines code.toLines := by
  induction lines generalizing code with
  | nil =>
      cases read
      exact .nil
  | cons line lines ih =>
      obtain ⟨i, rest, first, later, rfl⟩ := ofLines_cons_eq_ok.1 read
      rw [List.forall_mem_cons] at encoded other
      exact .cons (encoded.1.rewritten other.1 first) (ih encoded.2 other.2 later)

/-- Programs and lines round-trip. A program that was read from any lines is written into lines
that are read as the same program. And lines of a text without marks that are no headers of
functions are a program, which is written into the same lines, with the counts of loops in their
usual form. -/
theorem ofLines_toLines :
    (∀ lines code, ofLines lines = .ok code → ofLines code.toLines = .ok code) ∧
      ∀ (text file encoded : Text) (maxName : Int), text.Unmarked →
        Encoding.encode text file maxName = .ok encoded →
          ∀ lines : List Line,
            (∀ line ∈ lines, line ∈ Text.lines encoded ∧ ¬line.isFunctionHeader) →
              ∃ code, ofLines lines = .ok code ∧
                List.Forall₂ Line.Rewritten lines code.toLines := by
  constructor
  · intro lines code read
    exact ofLines_toLines_of_ofLines read
  · intro text file encoded maxName unmarked accepted lines chosen
    have proper : ∀ line ∈ lines, line.Encoded := fun line among =>
      Encoding.encoded_of_mem_lines unmarked (Encoding.lines_of_encode accepted) line
        (chosen line among).1
    obtain ⟨code, read⟩ := Line.exists_ofLines proper
    exact ⟨code, read, rewritten_of_ofLines proper (fun line among => (chosen line among).2) read⟩

/-- A loop whose count is spelled in digits of two scripts, and a program with a count that has a
sign and an underscore. -/
theorem ofLines_toLines_twoScripts :
    let text := "loop (0\u0661\u0662) \x7b\n ls\n\x7d\n".toList
    let encoded := "\u0081l0\u0661\u0662\nls\n\u0082\n".toList
    let signed : List Line := [Line.opening 'l' "-1_0 ".toList, Line.close]
    (ofLines signed = .ok [.opening (.loop (-10)), .closing] ∧
      ofLines (toLines [.opening (.loop (-10)), .closing]) =
        .ok [.opening (.loop (-10)), .closing]) ∧
      Text.Unmarked text ∧ Encoding.encode text ['r'] 10 = .ok encoded ∧
      (∀ line ∈ Text.lines encoded, ¬Line.isFunctionHeader line) ∧
      ∃ code, ofLines (Text.lines encoded) = .ok code ∧
        List.Forall₂ Line.Rewritten (Text.lines encoded) code.toLines := by
  intro text encoded signed
  have read : ofLines signed = .ok [.opening (.loop (-10)), .closing] := by decide +kernel
  have unmarked : Text.Unmarked text := by decide
  have accepted : Encoding.encode text ['r'] 10 = .ok encoded := rfl
  have commands : ∀ line ∈ Text.lines encoded, ¬Line.isFunctionHeader line := by decide
  exact ⟨⟨read, ofLines_toLines.1 _ _ read⟩, unmarked, accepted, commands,
    ofLines_toLines.2 _ _ _ _ unmarked accepted _ fun line among => ⟨among, commands line among⟩⟩

end Program

end Ebrc
