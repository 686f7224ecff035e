import Ebrc.Encoding
import Mathlib.Data.List.TakeWhile

/-!
# Structural phrases

What is spelled like a structural phrase is said here without reference to how phrases are
recognized. A header is found just where one is spelled, unless the name of a function is too long.
-/

namespace Ebrc

namespace Encoding

variable {maxName : Int} {p : Text} {line : Line}

/-- A text is as a whole a structural phrase, which this header stands for. -/
inductive Phrase : Text → Line → Prop where
  | fixed {p : Text} {line : Line} (among : (p, line) ∈ fixedPhrases) : Phrase p line
  | loop {digits : Text} (given : digits ≠ []) (decimal : ∀ c ∈ digits, Text.isDecimal c) :
      Phrase ("loop(".toList ++ (digits ++ ")\x7b".toList)) (Line.opening BlockLetter.loop digits)
  | function {mark : Char} {name : Text} (marked : mark = mindfulMark ∨ mark = plainMark)
      (named : name ≠ []) (letters : ∀ c ∈ name, c.isAlphanum) :
      Phrase ("function".toList ++ mark :: (name ++ ['{']))
        (Line.opening BlockLetter.function (mark :: name))

/-! ## Recognition -/

theorem eq_append_of_after? {start t rest : Text} (found : after? start t = some rest) :
    t = start ++ rest := by
  induction start generalizing t with
  | nil =>
      cases found
      rfl
  | cons c start ih =>
      cases t with
      | nil => contradiction
      | cons d t =>
          unfold after? at found
          split at found
          · rename_i same
            rw [same, ih found, List.cons_append]
          · contradiction

theorem after?_append (start rest : Text) : after? start (start ++ rest) = some rest := by
  induction start with
  | nil => rfl
  | cons c start ih => rw [List.cons_append, after?, if_pos rfl, ih]

theorem loopDigits?_eq_some {phrase digits : Text} (found : loopDigits? phrase = some digits) :
    phrase = "loop(".toList ++ (digits ++ ")\x7b".toList) ∧ digits ≠ [] ∧
      ∀ c ∈ digits, Text.isDecimal c := by
  unfold loopDigits? at found
  obtain ⟨rest, after, found⟩ := Option.bind_eq_some_iff.1 found
  dsimp only at found
  split at found
  · rename_i shape
    cases found
    refine ⟨?_, shape.1, fun c among => List.mem_takeWhile_imp among⟩
    rw [eq_append_of_after? after, ← shape.2, List.takeWhile_append_dropWhile]
  · contradiction

theorem functionMark?_eq_some {phrase rest : Text} {mark : Char}
    (found : functionMark? phrase = some (mark, rest)) :
    phrase = "function".toList ++ mark :: rest ∧ (mark = mindfulMark ∨ mark = plainMark) := by
  unfold functionMark? at found
  obtain ⟨after, start, found⟩ := Option.bind_eq_some_iff.1 found
  split at found
  · split at found
    · rename_i marked
      cases found
      exact ⟨eq_append_of_after? start, marked⟩
    · contradiction
  · contradiction

theorem functionName_eq_ok {rest name : Text} (read : functionName maxName rest = .ok name) :
    rest = name ++ ['{'] ∧ name ≠ [] ∧ ∀ c ∈ name, c.isAlphanum := by
  unfold functionName at read
  cases rest with
  | nil => contradiction
  | cons c rest =>
      dsimp only at read
      split at read
      · contradiction
      rename_i notBrace
      split at read
      · contradiction
      split at read
      · contradiction
      rename_i brace
      cases read
      rw [Decidable.not_not] at brace
      refine ⟨?_, fun unnamed => ?_, fun c among => List.mem_takeWhile_imp among⟩
      · rw [← brace]
        exact (List.prefix_iff_eq_append.1 (List.takeWhile_prefix _)).symm
      · -- Without a name the brace itself would come first.
        rw [unnamed, List.length_nil, List.drop_zero] at brace
        cases brace
        exact notBrace (.inl rfl)

/-- What is recognized is spelled so. -/
theorem phrase_of_header? (found : header? maxName p = .ok (some line)) : Phrase p line := by
  unfold header? at found
  cases fixed : fixedPhrases.lookup p with
  | some header =>
      rw [fixed] at found
      cases found
      obtain ⟨before, after, entries, -⟩ := List.lookup_eq_some_iff.1 fixed
      refine .fixed ?_
      rw [entries]
      exact List.mem_append_right _ (List.mem_cons_self ..)
  | none =>
      rw [fixed] at found
      cases loop : loopDigits? p with
      | some digits =>
          simp only [loop, Except.ok.injEq, Option.some.injEq] at found
          obtain ⟨spelled, given, decimal⟩ := loopDigits?_eq_some loop
          rw [← found, spelled]
          exact .loop given decimal
      | none =>
          simp only [loop] at found
          cases function : functionMark? p with
          | none =>
              simp only [function, Except.ok.injEq] at found
              contradiction
          | some marked =>
              obtain ⟨mark, rest⟩ := marked
              simp only [function] at found
              cases named : functionName maxName rest with
              | error fault =>
                  rw [named] at found
                  contradiction
              | ok name =>
                  rw [named] at found
                  cases found
                  obtain ⟨spelled, marked⟩ := functionMark?_eq_some function
                  obtain ⟨rfl, given, letters⟩ := functionName_eq_ok named
                  rw [spelled]
                  exact .function marked given letters

theorem lookup_fixedPhrases : ∀ entry ∈ fixedPhrases,
    fixedPhrases.lookup entry.1 = some entry.2 := by
  decide

/-- No fixed phrase starts like a loop or a function. -/
theorem lookup_eq_none {c d : Char} (start : (c, d) = ('l', 'o') ∨ (c, d) = ('f', 'u'))
    (rest : Text) : fixedPhrases.lookup (c :: d :: rest) = none := by
  have apart : ∀ entry ∈ fixedPhrases,
      entry.1.take 2 ≠ ['l', 'o'] ∧ entry.1.take 2 ≠ ['f', 'u'] := by decide
  rw [List.lookup_eq_none_iff]
  intro entry among
  obtain ⟨loop, function⟩ := apart entry among
  rw [bne_iff_ne]
  intro same
  rw [← same] at loop function
  rcases start with start | start
  · cases start
    exact loop rfl
  · cases start
    exact function rfl

theorem loopDigits?_loop {digits : Text} (given : digits ≠ [])
    (decimal : ∀ c ∈ digits, Text.isDecimal c) :
    loopDigits? ("loop(".toList ++ (digits ++ ")\x7b".toList)) = some digits := by
  have taken : (digits ++ ")\x7b".toList).takeWhile Text.isDecimal = digits := by
    rw [List.takeWhile_append_of_pos decimal]
    exact List.append_nil _
  have dropped : (digits ++ ")\x7b".toList).dropWhile Text.isDecimal = ")\x7b".toList := by
    rw [List.dropWhile_append_of_pos decimal]
    rfl
  unfold loopDigits?
  rw [after?_append, Option.bind_eq_bind, Option.bind_some]
  dsimp only
  rw [taken, dropped, if_pos ⟨given, rfl⟩]

theorem functionMark?_function {mark : Char} (marked : mark = mindfulMark ∨ mark = plainMark)
    (rest : Text) : functionMark? ("function".toList ++ mark :: rest) = some (mark, rest) := by
  unfold functionMark?
  rw [after?_append, Option.bind_eq_bind, Option.bind_some]
  dsimp only
  rw [if_pos marked]

/-- The name of a function is read unless it is too long. -/
theorem functionName_append {name : Text} (named : name ≠ []) (letters : ∀ c ∈ name, c.isAlphanum) :
    functionName maxName (name ++ ['{']) =
      if maxName < (name.length : Int) then .error (.functionNameTooLong maxName)
      else .ok name := by
  have taken : (name ++ ['{']).takeWhile Char.isAlphanum = name := by
    rw [List.takeWhile_append_of_pos letters]
    exact List.append_nil _
  cases name with
  | nil => contradiction
  | cons c name =>
      have letter : ¬(c = '{' ∨ c = '(') := by
        have first := letters c (List.mem_cons_self ..)
        rintro (rfl | rfl) <;> exact absurd first (by decide)
      have brace : ¬(c :: name ++ ['{']).drop (c :: name).length ≠ ['{'] := by
        rw [List.drop_left, Decidable.not_not]
      unfold functionName
      rw [taken]
      dsimp only [List.cons_append] at brace ⊢
      rw [if_neg letter, if_neg brace]

/-- What is meant for the header of a function is decided by its name. -/
theorem header?_function (marked : mark = mindfulMark ∨ mark = plainMark) (rest : Text) :
    header? maxName ("function".toList ++ mark :: rest) =
      (functionName maxName rest).map fun name =>
        some (Line.opening BlockLetter.function (mark :: name)) := by
  have unfixed : fixedPhrases.lookup ("function".toList ++ mark :: rest) = none :=
    lookup_eq_none (.inr rfl) _
  have unlooped : loopDigits? ("function".toList ++ mark :: rest) = none := rfl
  unfold header?
  rw [unfixed, unlooped, functionMark?_function marked]

/-- What is spelled so is recognized, or refused because the name of a function is too long. -/
theorem header?_of_phrase (spelled : Phrase p line) :
    header? maxName p = .ok (some line) ∨ ∃ fault, header? maxName p = .error fault := by
  cases spelled with
  | fixed among =>
      have found : fixedPhrases.lookup p = some line := lookup_fixedPhrases _ among
      unfold header?
      rw [found]
      exact .inl rfl
  | @loop digits given decimal =>
      unfold header?
      rw [loopDigits?_loop given decimal]
      have unfixed : fixedPhrases.lookup ("loop(".toList ++ (digits ++ ")\x7b".toList)) = none :=
        lookup_eq_none (.inl rfl) _
      rw [unfixed]
      exact .inl rfl
  | @function mark name marked named letters =>
      rw [header?_function marked, functionName_append named letters]
      split
      · exact .inr ⟨_, rfl⟩
      · exact .inl rfl

/-- Where a phrase is not refused, a header is found just where one is spelled. -/
theorem header?_eq_some_iff {found : Option Line} (accepted : header? maxName p = .ok found) :
    found = some line ↔ Phrase p line := by
  constructor
  · rintro rfl
    exact phrase_of_header? accepted
  · intro spelled
    have recognized : header? maxName p = .ok (some line) ∨
        ∃ fault, header? maxName p = .error fault := header?_of_phrase spelled
    rw [accepted] at recognized
    rcases recognized with here | ⟨fault, refused⟩
    · exact Except.ok.inj here
    · contradiction

/-! ## Phrases and their headers -/

theorem Phrase.isControl (spelled : Phrase p line) : line.isControl := by
  cases spelled with
  | fixed among =>
      have marked : ∀ entry ∈ fixedPhrases, Line.isControl entry.2 := by decide
      exact marked _ among
  | loop | function => rfl

/-- A phrase ends in a brace. -/
theorem Phrase.ends (spelled : Phrase p line) :
    p.getLast? = some '\x7b' ∨ p.getLast? = some '\x7d' := by
  cases spelled with
  | fixed among =>
      have braces : ∀ entry ∈ fixedPhrases,
          entry.1.getLast? = some '\x7b' ∨ entry.1.getLast? = some '\x7d' := by decide
      exact braces _ among
  | loop | function => exact .inl (by simp [List.getLast?_cons, List.getLast?_append])

/-- A header is one line. -/
theorem Phrase.not_mem (spelled : Phrase p line) : '\n' ∉ line := by
  cases spelled with
  | fixed among =>
      have single : ∀ entry ∈ fixedPhrases, '\n' ∉ entry.2 := by decide
      exact single _ among
  | loop given decimal =>
      have digits := mt (decimal '\n') (by decide)
      simpa [Line.opening, Line.openMark, BlockLetter.loop] using digits
  | function marked named letters =>
      have name := mt (letters '\n') (by decide)
      rcases marked with rfl | rfl <;>
        simpa [Line.opening, Line.openMark, BlockLetter.function, mindfulMark, plainMark] using name

/-- A phrase as long as what is looked at is a loop with a count of 16 digits or a function with a
name of 13 characters. -/
theorem Phrase.longest (spelled : Phrase p line) (long : p.length = phraseLength) :
    (∃ digits, digits.length = 16 ∧ line = Line.opening BlockLetter.loop digits) ∨
      ∃ mark name, name.length = 13 ∧ line = Line.opening BlockLetter.function (mark :: name) := by
  cases spelled with
  | fixed among =>
      have shorter : ∀ entry ∈ fixedPhrases, entry.1.length ≠ phraseLength := by decide
      exact absurd long (shorter _ among)
  | @loop digits given decimal =>
      refine .inl ⟨digits, ?_, rfl⟩
      simp [phraseLength] at long
      omega
  | @function mark name marked named letters =>
      refine .inr ⟨mark, name, ?_, rfl⟩
      simp [phraseLength] at long
      omega

end Encoding

end Ebrc
