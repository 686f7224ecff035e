import Ebrc.Proofs.Load.LineByLine

/-!
# Headers of functions

A line that begins like the header of a function is meant for one, and it is encoded as one or
refused. Two things bound the name. One is the limit, which is a setting. The other one is that only
so many characters of a line are looked at, whatever the limit is: a name of 13 characters is just
seen with the brace behind it, and nothing that follows is. So a longer name is refused even where
the limit allows it, and behind a name of that length the line may go on with whatever it likes.
Under a limit below 13 the limit alone decides.
-/

namespace Ebrc

namespace Encoding

variable {maxName : Int} {text file source rest name : Text} {mark : Char} {line : Line}

/-- The number of characters of a name that, with the brace behind it, is as long as what is looked
at. -/
def longestName : Nat := 13

/-- A name that the limit allows: at least one letter or digit, and no other characters. -/
structure IsName (maxName : Int) (name : Text) : Prop where
  given : name ≠ []
  letters : ∀ c ∈ name, c.isAlphanum
  within : (name.length : Int) ≤ maxName

/-- What stands behind the mark of a header is seen as a name and its brace: it is nothing else, or
the name is so long that what follows is not looked at. -/
inductive SeenAs (rest name : Text) : Prop where
  | whole (short : name.length < longestName) (shape : rest = name ++ ['\x7b'])
  | cut {more : Text} (long : name.length = longestName) (shape : rest = name ++ '\x7b' :: more)

theorem take_eq_iff : rest.take (longestName + 1) = name ++ ['\x7b'] ↔ SeenAs rest name := by
  constructor
  · intro taken
    have length : min (longestName + 1) rest.length = name.length + 1 := by
      rw [← List.length_take, taken, List.length_append, List.length_singleton]
    have whole : rest = name ++ '\x7b' :: rest.drop (longestName + 1) := by
      rw [← List.singleton_append, ← List.append_assoc, ← taken, List.take_append_drop]
    by_cases long : name.length = longestName
    · exact .cut long whole
    · have nothing : rest.drop (longestName + 1) = [] := List.drop_eq_nil_of_le (by omega)
      rw [nothing] at whole
      exact .whole (by omega) whole
  · intro seen
    cases seen with
    | whole short shape =>
        rw [shape]
        exact List.take_of_length_le (by simp; omega)
    | @cut more long shape =>
        have front : name ++ '\x7b' :: more = (name ++ ['\x7b']) ++ more := by simp
        rw [shape, front]
        exact List.take_left' (by simp [long])

theorem functionName_eq_ok_iff : functionName maxName rest = .ok name ↔
    rest = name ++ ['\x7b'] ∧ IsName maxName name := by
  constructor
  · intro read
    obtain ⟨shape, given, letters⟩ := functionName_eq_ok read
    rw [shape, functionName_append given letters] at read
    split at read
    · contradiction
    · exact ⟨shape, given, letters, by omega⟩
  · rintro ⟨rfl, given, letters, within⟩
    rw [functionName_append given letters, if_neg (by omega)]

/-- What becomes of a line that begins like the header of a function. -/
theorem encodeLine_function (clean : '\x00' ∉ source) (other : ¬IsComment source)
    (marked : mark = mindfulMark ∨ mark = plainMark)
    (spelled : compact source = "function".toList ++ mark :: rest) :
    encodeLine maxName source =
      (functionName maxName (rest.take (longestName + 1))).map fun name =>
        Line.opening BlockLetter.function (mark :: name) := by
  have seen : phrase (plain source) =
      "function".toList ++ mark :: rest.take (longestName + 1) := by
    rw [phrase_plain, spelled]
    rfl
  unfold IsComment at other
  unfold plain at other seen
  unfold encodeLine
  rw [if_neg (by rwa [List.contains_iff_mem])]
  dsimp only
  rw [if_neg other, seen, header?_function marked]
  cases functionName maxName (rest.take (longestName + 1)) <;> rfl

theorem encodeLine_function_iff (clean : '\x00' ∉ source) (other : ¬IsComment source)
    (marked : mark = mindfulMark ∨ mark = plainMark)
    (spelled : compact source = "function".toList ++ mark :: rest) :
    encodeLine maxName source = .ok line ↔
      ∃ name, IsName maxName name ∧ SeenAs rest name ∧
        line = Line.opening BlockLetter.function (mark :: name) := by
  rw [encodeLine_function clean other marked spelled]
  constructor
  · intro encoded
    cases read : functionName maxName (rest.take (longestName + 1)) with
    | error fault =>
        rw [read] at encoded
        contradiction
    | ok name =>
        rw [read] at encoded
        cases encoded
        obtain ⟨shape, isName⟩ := functionName_eq_ok_iff.1 read
        exact ⟨name, isName, take_eq_iff.1 shape, rfl⟩
  · rintro ⟨name, isName, seen, rfl⟩
    rw [functionName_eq_ok_iff.2 ⟨take_eq_iff.2 seen, isName⟩]
    rfl

/-- The faults of headers. -/
def headerFaults (maxName : Int) : List ConfigFault :=
  [.functionUnnamed, .functionNameTooLong maxName, .functionHeader]

theorem mem_headerFaults {fault : ConfigFault}
    (refused : functionName maxName rest = .error fault) : fault ∈ headerFaults maxName := by
  unfold functionName at refused
  cases rest with
  | nil =>
      cases refused
      simp [headerFaults]
  | cons c rest =>
      dsimp only at refused
      split at refused
      · cases refused
        simp [headerFaults]
      split at refused
      · cases refused
        simp [headerFaults]
      split at refused
      · cases refused
        simp [headerFaults]
      · contradiction

/-- Below the longest name that is seen together with its brace, the limit alone decides. -/
theorem seenAs_iff_of_lt (low : maxName < longestName) (isName : IsName maxName name) :
    SeenAs rest name ↔ rest = name ++ ['\x7b'] := by
  have short : name.length < longestName := by
    have within := isName.within
    omega
  constructor
  · intro seen
    cases seen with
    | whole _ shape => exact shape
    | cut long _ => omega
  · exact .whole short

/-- A line that begins like the header of a function, its blanks and one carriage return at its end
left out, is encoded as the header of a function with this mark and this name, if a name within the
limit is seen there together with its brace. Otherwise the text is refused, because of this line or
an earlier one. What is seen is the header as a whole as long as names have less than 13 characters,
and so under every limit below that; with a name of 13 characters anything may follow, and no longer
name is seen. -/
theorem functionHeader_accepted_iff (file : Text) {i : Nat}
    (here : (Text.lines text)[i]? = some source) (clean : '\x00' ∉ source)
    (other : ¬IsComment source) (marked : mark = mindfulMark ∨ mark = plainMark)
    (spelled : compact source = "function".toList ++ mark :: rest) :
    (∀ name, IsName maxName name → SeenAs rest name →
        encodeLine maxName source = .ok (Line.opening BlockLetter.function (mark :: name)) ∧
          ∀ encoded, encode text file maxName = .ok encoded →
            (Text.lines encoded)[i]? = some (Line.opening BlockLetter.function (mark :: name))) ∧
      ((∀ name, IsName maxName name → ¬SeenAs rest name) →
        ∃ e n, encode text file maxName = .error e ∧ e.path = some file ∧ e.line = some n ∧
          n ≤ i + 1 ∧ (n = i + 1 → e.fault ∈ headerFaults maxName)) ∧
      (maxName < longestName → ∀ name, IsName maxName name →
        (SeenAs rest name ↔ rest = name ++ ['\x7b'])) := by
  refine ⟨fun name isName seen => ?_, fun unseen => ?_, fun low name => seenAs_iff_of_lt low⟩
  · have accepted : encodeLine maxName source =
        .ok (Line.opening BlockLetter.function (mark :: name)) :=
      (encodeLine_function_iff clean other marked spelled).2 ⟨name, isName, seen, rfl⟩
    refine ⟨accepted, fun encoded whole => ?_⟩
    obtain ⟨line, there, same⟩ := exists_line_of_encode whole here
    rw [accepted] at same
    cases same
    exact there
  · cases result : encodeLine maxName source with
    | ok line =>
        obtain ⟨name, isName, seen, -⟩ :=
          (encodeLine_function_iff clean other marked spelled).1 result
        exact absurd seen (unseen name isName)
    | error fault =>
        obtain ⟨e, n, refused, path, line, early, same⟩ :=
          exists_error_of_encodeLine file here result
        refine ⟨e, n, refused, path, line, early, fun last => ?_⟩
        rw [encodeLine_function clean other marked spelled] at result
        rw [same last]
        cases read : functionName maxName (rest.take (longestName + 1)) with
        | ok name =>
            rw [read] at result
            contradiction
        | error fault' =>
            rw [read] at result
            cases result
            exact mem_headerFaults read

/-- A header with the longest name that is seen, with more behind it, and one with a longer name. -/
theorem functionHeader_accepted_iff_longest :
    let source := "\tfunction + abcdefghijklm \x7b more\r".toList
    let longer := " function:abcdefghijklmn\x7b".toList
    let text := "# a\n".toList ++ source ++ "\n\x7d\n".toList
    let text' := "\x7d\n".toList ++ longer
    ((Text.lines text)[1]? = some source ∧ '\x00' ∉ source ∧ ¬IsComment source ∧
        compact source = "function".toList ++ '+' :: "abcdefghijklm\x7bmore".toList ∧
        IsName 20 "abcdefghijklm".toList ∧
        SeenAs "abcdefghijklm\x7bmore".toList "abcdefghijklm".toList ∧
        encodeLine 20 source = .ok "\u0081f+abcdefghijklm".toList) ∧
      (Text.lines text')[1]? = some longer ∧ '\x00' ∉ longer ∧ ¬IsComment longer ∧
        compact longer = "function".toList ++ ':' :: "abcdefghijklmn\x7b".toList ∧
        (∀ name, IsName 20 name → ¬SeenAs "abcdefghijklmn\x7b".toList name) ∧
        ∃ e n, encode text' ['r'] 20 = .error e ∧ e.path = some ['r'] ∧ e.line = some n ∧
          n ≤ 2 ∧ (n = 2 → e.fault ∈ headerFaults 20) := by
  intro source longer text text'
  have isName : IsName 20 "abcdefghijklm".toList := ⟨by decide, List.all_eq_true.1 rfl, by decide⟩
  have seen : SeenAs "abcdefghijklm\x7bmore".toList "abcdefghijklm".toList :=
    @SeenAs.cut _ _ "more".toList rfl rfl
  have unseen (name : Text) (_ : IsName 20 name) : ¬SeenAs "abcdefghijklmn\x7b".toList name := by
    intro seen
    have taken := take_eq_iff.2 seen
    have last := congrArg List.getLast? taken
    simp [longestName] at last
  have there : (Text.lines text)[1]? = some source ∧ '\x00' ∉ source ∧ ¬IsComment source ∧
      compact source = "function".toList ++ '+' :: "abcdefghijklm\x7bmore".toList := by decide
  have there' : (Text.lines text')[1]? = some longer ∧ '\x00' ∉ longer ∧ ¬IsComment longer ∧
      compact longer = "function".toList ++ ':' :: "abcdefghijklmn\x7b".toList := by decide
  obtain ⟨accepted, -, -⟩ := @functionHeader_accepted_iff 20 _ _ _ _ ['r'] _ there.1 there.2.1
    there.2.2.1 (.inl rfl) there.2.2.2
  obtain ⟨-, refused, -⟩ := @functionHeader_accepted_iff 20 _ _ _ _ ['r'] _ there'.1 there'.2.1
    there'.2.2.1 (.inr rfl) there'.2.2.2
  exact ⟨⟨there.1, there.2.1, there.2.2.1, there.2.2.2, isName, seen, (accepted _ isName seen).1⟩,
    there'.1, there'.2.1, there'.2.2.1, there'.2.2.2, unseen, refused unseen⟩

/-- The header of a function whose name the limit allows is refused, and a line that goes on behind
its brace is accepted and loses what is there. -/
theorem header_refused_within_limit :
    (IsName 20 "abcdefghijklmn".toList ∧
      compact "function:abcdefghijklmn\x7b".toList =
        "function:".toList ++ ("abcdefghijklmn".toList ++ ['\x7b']) ∧
      encode "function:abcdefghijklmn\x7b\n\x7d\n".toList ['r'] 20 =
        .error ⟨.functionHeader, some ['r'], some 1⟩) ∧
      encode "function:abcdefghijklm\x7b more\n\x7d\n".toList ['r'] 20 =
        .ok "\u0081f:abcdefghijklm\n\u0082\n".toList :=
  ⟨⟨⟨by decide, List.all_eq_true.1 rfl, by decide⟩, rfl, rfl⟩, rfl⟩

end Encoding

end Ebrc
