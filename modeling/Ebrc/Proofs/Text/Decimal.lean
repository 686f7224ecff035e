import Ebrc.Proofs.Text.Number
import Mathlib.Algebra.Group.Nat.Defs
import Mathlib.Data.List.Basic
import Mathlib.Data.List.Induction

/-!
# The usual form of a number

A natural number is written in its usual form: ASCII digits, the first of which is no zero unless it
is the only one. A run of digits of any scripts is read as its value, so what is written is read
back, also behind a minus sign, as long as it is short enough to be read. And what has been read is
short enough to be written and read again.
-/

namespace Ebrc

namespace Text

variable {t : Text} {c : Char} {n : Nat}

/-- The text is the usual form of a number: digits of ASCII, with no zero in front of others. -/
structure Usual (t : Text) (n : Nat) : Prop where
  given : t ≠ []
  ascii : ∀ c ∈ t, c.isDigit
  leading : t.head? = some '0' → t = ['0']
  value : digitsValue t = n

/-! ## Values -/

theorem toNat_of_isDigit (digit : c.isDigit) : 48 ≤ c.toNat ∧ c.toNat ≤ 57 := by
  rw [Char.isDigit, Bool.and_eq_true, decide_eq_true_eq, decide_eq_true_eq] at digit
  exact digit

theorem decimalValue?_of_isDigit (digit : c.isDigit) : decimalValue? c = some (c.toNat - 48) := by
  have within := toNat_of_isDigit digit
  have first : zeroDigits = 48 :: zeroDigits.tail := rfl
  rw [decimalValue?, first, List.find?_cons_of_pos (by simpa using within)]
  rfl

theorem isDecimal_of_isDigit (digit : c.isDigit) : isDecimal c := by
  rw [isDecimal, decimalValue?_of_isDigit digit]
  rfl

theorem digitsValue_append (t : Text) (c : Char) :
    digitsValue (t ++ [c]) = 10 * digitsValue t + (decimalValue? c).getD 0 := by
  rw [digitsValue, List.foldl_append]
  rfl

theorem getD_decimalValue?_lt (c : Char) : (decimalValue? c).getD 0 < 10 := by
  cases value : decimalValue? c with
  | none => decide
  | some n => exact decimalValue_lt value

/-- A run of digits has a value of as many digits at most. -/
theorem digitsValue_lt (t : Text) : digitsValue t < 10 ^ t.length := by
  induction t using List.reverseRecOn with
  | nil => decide
  | append_singleton t c ih =>
      have last := getD_decimalValue?_lt c
      rw [digitsValue_append, List.length_append, List.length_singleton, Nat.pow_succ]
      omega

/-- The digits of ASCII have the values that writing gives them. -/
theorem digitsValue_of_isDigit (ascii : ∀ c ∈ t, c.isDigit) :
    digitsValue t = Nat.ofDigitChars 10 t 0 := by
  rw [Nat.ofDigitChars_eq_foldl, digitsValue]
  refine List.foldl_ext _ _ _ fun value c among => ?_
  rw [decimalValue?_of_isDigit (ascii c among)]
  rfl

/-! ## Writing -/

theorem head?_ofNat_ne_zero (positive : 0 < n) : (ofNat n).head? ≠ some '0' := by
  induction n using Nat.strongRecOn with
  | ind n ih =>
      unfold ofNat
      rcases Nat.lt_or_ge n 10 with small | large
      · have digit : ∀ n < 10, 0 < n → [Nat.digitChar n].head? ≠ some '0' := by decide
        rw [Nat.toDigits_of_lt_base small]
        exact digit n small positive
      · rw [Nat.toDigits_of_base_le (by decide) large,
          List.head?_append_of_ne_nil _ Nat.toDigits_ne_nil]
        exact ih (n / 10) (by omega) (by omega)

/-- Numbers are written in their usual form. -/
theorem usual_ofNat (n : Nat) : (ofNat n).Usual n where
  given := Nat.toDigits_ne_nil
  ascii c among := Nat.isDigit_of_mem_toDigits (by decide) (by decide) among
  leading zero := by
    cases n with
    | zero => rfl
    | succ n => exact absurd zero (head?_ofNat_ne_zero (Nat.succ_pos n))
  value := by
    rw [ofNat, digitsValue_of_isDigit fun c among =>
      Nat.isDigit_of_mem_toDigits (by decide) (by decide) among]
    exact Nat.ofDigitChars_toDigits (by decide) (by decide)

theorem length_ofNat_le (short : n < 10 ^ maxNumberLength) :
    (ofNat n).length ≤ maxNumberLength :=
  (Nat.length_toDigits_le_iff (by decide) (by decide)).2 short

/-! ## Reading -/

theorem isNumberBlank_of_isDecimal (digit : isDecimal c) : isNumberBlank c = false := by
  rw [isNumberBlank, isBlank_of_isDigitSign (Bool.or_eq_true_iff.2 (.inl digit)), Bool.false_and]

theorem not_mem_of_isDecimal (digits : ∀ c ∈ t, isDecimal c) (other : isDecimal c = false) :
    c ∉ t := by
  intro among
  rw [digits c among] at other
  contradiction

theorem readInt?_of_cutSign {negative : Bool} {rest : Text}
    (bare : ∀ c ∈ t, isNumberBlank c = false) (cut : cutSign t = (negative, rest))
    (given : rest ≠ []) (digits : ∀ c ∈ rest, isDecimal c) :
    readInt? t = (readDigits? rest).map (withSign negative) := by
  have stripped : strip isNumberBlank t = t := by
    rw [strip, stripLeft_eq_self bare, stripRight_eq_self bare]
  have single : split '_' rest = [rest] :=
    split_eq_singleton (not_mem_of_isDecimal digits (by decide))
  unfold readInt?
  rw [stripped, cut]
  simp only [single, List.all_cons, List.all_nil, Bool.and_true, List.flatten_singleton]
  rw [if_pos]
  simp only [Bool.and_eq_true, Bool.not_eq_true', List.isEmpty_eq_false_iff, List.all_eq_true]
  exact ⟨given, digits⟩

/-- Digits of any scripts are read as their value. -/
theorem readInt?_digits (given : t ≠ []) (digits : ∀ c ∈ t, isDecimal c)
    (short : t.length ≤ maxNumberLength) : readInt? t = some (digitsValue t : Int) := by
  have cut : cutSign t = (false, t) :=
    cutSign_eq_self (not_mem_of_isDecimal digits (by decide))
      (not_mem_of_isDecimal digits (by decide))
  rw [readInt?_of_cutSign (fun c among => isNumberBlank_of_isDecimal (digits c among)) cut given
    digits, readDigits?, if_pos short]
  rfl

theorem readInt?_minus_digits (given : t ≠ []) (digits : ∀ c ∈ t, isDecimal c)
    (short : t.length ≤ maxNumberLength) :
    readInt? ('-' :: t) = some (-(digitsValue t : Int)) := by
  have bare : ∀ c ∈ '-' :: t, isNumberBlank c = false := by
    intro c among
    rcases List.mem_cons.1 among with rfl | among
    · decide
    · exact isNumberBlank_of_isDecimal (digits c among)
  rw [readInt?_of_cutSign bare rfl given digits, readDigits?, if_pos short]
  rfl

/-- A number that is read is not longer than a run of digits that is read. -/
theorem natAbs_lt_of_readInt? {n : Int} (read : readInt? t = some n) :
    n.natAbs < 10 ^ maxNumberLength := by
  unfold readInt? at read
  dsimp only at read
  split at read
  · obtain ⟨m, digits, rfl⟩ := Option.map_eq_some_iff.1 read
    unfold readDigits? at digits
    split at digits
    · rename_i short
      cases digits
      have sign (negative : Bool) (m : Nat) : (withSign negative m).natAbs = m := by
        cases negative <;> simp [withSign]
      rw [sign]
      exact Nat.lt_of_lt_of_le (digitsValue_lt _) (Nat.pow_le_pow_right (by decide) short)
    · contradiction
  · contradiction

/-- What is written is read back. -/
theorem readInt?_ofInt {n : Int} (short : n.natAbs < 10 ^ maxNumberLength) :
    readInt? (ofInt n) = some n := by
  have digits (m : Nat) : ∀ c ∈ ofNat m, isDecimal c :=
    fun c among => isDecimal_of_isDigit ((usual_ofNat m).ascii c among)
  cases n with
  | ofNat m =>
      have read := readInt?_digits (usual_ofNat m).given (digits m) (length_ofNat_le short)
      rw [(usual_ofNat m).value] at read
      exact read
  | negSucc m =>
      have read := readInt?_minus_digits (usual_ofNat (m + 1)).given (digits (m + 1))
        (length_ofNat_le short)
      rw [(usual_ofNat (m + 1)).value] at read
      exact read

end Text

end Ebrc
