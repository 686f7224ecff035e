import Ebrc.Text.Digit

/-!
# Numbers that are not read

A number is read unless it has too many digits. Two further things stand in the way. An information
separator in front of a number counts as white space where the number is looked for, but not where
it is read. And a superscript, say, counts as a digit where a text is tested, but has no decimal
value.
-/

namespace Ebrc

namespace Text

/-! ## Digits among other characters -/

/-- The zeros of the scripts lie apart from white space, and so do the other signs for digits. -/
theorem apart_from_blanks :
    (∀ first ∈ zeroDigits, ∀ range ∈ blankRanges, first + 9 < range.1 ∨ range.2 < first) ∧
      ∀ sign ∈ digitSignRanges, ∀ range ∈ blankRanges, sign.2 < range.1 ∨ range.2 < sign.1 := by
  decide +kernel

theorem exists_range_of_isBlank {c : Char} (blank : isBlank c) :
    ∃ range ∈ blankRanges, range.1 ≤ c.toNat ∧ c.toNat ≤ range.2 := by
  obtain ⟨range, among, within⟩ := List.any_eq_true.1 blank
  rw [Bool.and_eq_true, decide_eq_true_eq, decide_eq_true_eq] at within
  exact ⟨range, among, within⟩

theorem exists_zero_of_isDecimal {c : Char} (digit : isDecimal c) :
    ∃ first ∈ zeroDigits, first ≤ c.toNat ∧ c.toNat ≤ first + 9 := by
  unfold isDecimal decimalValue? at digit
  rw [Option.isSome_map, List.find?_isSome] at digit
  obtain ⟨first, among, within⟩ := digit
  rw [Bool.and_eq_true, decide_eq_true_eq, decide_eq_true_eq] at within
  exact ⟨first, among, within⟩

theorem decimalValue_lt {c : Char} {n : Nat} (digit : decimalValue? c = some n) : n < 10 := by
  obtain ⟨first, found, rfl⟩ := Option.map_eq_some_iff.1 digit
  have within := List.find?_some found
  simp only [Bool.and_eq_true, decide_eq_true_eq] at within
  omega

theorem isBlank_of_isDigitSign {c : Char} (digit : isDigitSign c) : isBlank c = false := by
  cases blank : isBlank c with
  | false => rfl
  | true =>
      exfalso
      obtain ⟨range, blanks, least, greatest⟩ := exists_range_of_isBlank blank
      rcases Bool.or_eq_true_iff.1 digit with decimal | sign
      · obtain ⟨first, zeros, lower, upper⟩ := exists_zero_of_isDecimal decimal
        have apart := apart_from_blanks.1 first zeros range blanks
        omega
      · obtain ⟨sign, signs, within⟩ := List.any_eq_true.1 sign
        rw [Bool.and_eq_true, decide_eq_true_eq, decide_eq_true_eq] at within
        have apart := apart_from_blanks.2 sign signs range blanks
        omega

theorem stripLeft_eq_self {p : Char → Bool} {t : Text} (bare : ∀ c ∈ t, p c = false) :
    stripLeft p t = t := by
  cases t with
  | nil => rfl
  | cons c rest =>
      unfold stripLeft
      rw [List.dropWhile_cons_of_neg]
      rw [bare c (List.mem_cons_self ..)]
      exact Bool.false_ne_true

theorem stripRight_eq_self {p : Char → Bool} {t : Text} (bare : ∀ c ∈ t, p c = false) :
    stripRight p t = t := by
  induction t with
  | nil => rfl
  | cons c rest ih =>
      rw [stripRight, ih fun c among => bare c (List.mem_cons_of_mem _ among)]
      cases rest with
      | nil => simp [bare c (List.mem_cons_self ..)]
      | cons => rfl

theorem split_eq_singleton {sep : Char} {t : Text} (absent : sep ∉ t) : split sep t = [t] := by
  induction t with
  | nil => rfl
  | cons c rest ih =>
      rw [List.mem_cons, not_or] at absent
      rw [split, if_neg (Ne.symm absent.1), ih absent.2]

theorem cutSign_eq_self {t : Text} (minus : '-' ∉ t) (plus : '+' ∉ t) :
    cutSign t = (false, t) := by
  unfold cutSign
  split
  · exact absurd (List.mem_cons_self ..) minus
  · exact absurd (List.mem_cons_self ..) plus
  · rfl

/-! ## When a number is not read -/

theorem readDigits?_eq_none_iff {t : Text} : readDigits? t = none ↔ maxNumberLength < t.length := by
  unfold readDigits?
  split
  · simp only [reduceCtorEq, false_iff]
    omega
  · simp only [true_iff]
    omega

/-- A text of digits in the wide sense is not read as a number if one of them has no decimal value,
or if there are too many. -/
theorem readInt?_eq_none_iff {t : Text} (digits : allDigitSigns t) :
    readInt? t = none ↔ maxNumberLength < t.length ∨ ∃ c ∈ t, isDecimal c = false := by
  simp only [allDigitSigns, Bool.and_eq_true, Bool.not_eq_true', List.isEmpty_eq_false_iff,
    List.all_eq_true] at digits
  obtain ⟨given, signs⟩ := digits
  have absent {c : Char} (other : isDigitSign c = false) : c ∉ t := by
    intro among
    rw [signs c among] at other
    contradiction
  have bare : ∀ c ∈ t, isNumberBlank c = false := by
    intro c among
    rw [isNumberBlank, isBlank_of_isDigitSign (signs c among), Bool.false_and]
  have stripped : strip isNumberBlank t = t := by
    rw [strip, stripLeft_eq_self bare, stripRight_eq_self bare]
  unfold readInt?
  rw [stripped, cutSign_eq_self (absent (by decide)) (absent (by decide))]
  simp only [split_eq_singleton (absent (c := '_') (by decide)), List.all_cons, List.all_nil,
    Bool.and_true, List.flatten_singleton, Bool.and_eq_true, Bool.not_eq_true',
    List.isEmpty_eq_false_iff]
  by_cases decimal : t.all isDecimal
  · rw [if_pos ⟨given, decimal⟩, Option.map_eq_none_iff, readDigits?_eq_none_iff]
    have all : ¬∃ c ∈ t, isDecimal c = false := by
      rintro ⟨c, among, other⟩
      rw [List.all_eq_true.1 decimal c among] at other
      contradiction
    simp only [all, or_false]
  · rw [if_neg fun both => decimal both.2]
    simpa using .inr (by simpa using decimal)

/-- A text starts with a number that is not read: it has too many digits, or an information
separator stands somewhere in front of it. -/
def StartsUnreadable (t : Text) : Prop :=
  let blanks := t.takeWhile isBlank
  let digits := (cutSign (t.drop blanks.length)).2.takeWhile isDecimal
  digits ≠ [] ∧ (maxNumberLength < digits.length ∨ ∃ c ∈ blanks, isNumberBlank c = false)

theorem leadingInt?_eq_none_iff {t : Text} : leadingInt? t = none ↔ t.StartsUnreadable := by
  unfold leadingInt? StartsUnreadable
  dsimp only
  generalize t.takeWhile isBlank = blanks
  generalize (cutSign (t.drop blanks.length)) = signed
  obtain ⟨negative, rest⟩ := signed
  dsimp only
  by_cases none : rest.takeWhile isDecimal = []
  · simp [none]
  rw [if_neg (by simpa using none)]
  by_cases plain : blanks.all isNumberBlank
  · rw [if_pos plain, Option.map_eq_none_iff, readDigits?_eq_none_iff]
    have all : ¬∃ c ∈ blanks, isNumberBlank c = false := by
      rintro ⟨c, among, other⟩
      rw [List.all_eq_true.1 plain c among] at other
      contradiction
    simp only [none, all, or_false, ne_eq, not_false_eq_true, true_and]
  · rw [if_neg plain]
    simpa [none] using .inr (by simpa using plain)

end Text

end Ebrc
