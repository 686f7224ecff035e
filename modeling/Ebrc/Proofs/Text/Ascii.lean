import Ebrc.Text.Case

/-!
# ASCII texts

What is told about all ASCII characters can be checked one by one. The other characters are no
letters or digits here, and none of them is a capital whose small letter is found by counting. The
letters of an ASCII text are made small one by one, so that making them small goes with everything
that takes a text apart.
-/

namespace Ebrc

namespace Text

variable {c : Char} {s t : Text}

/-- All characters of the text are ASCII characters. -/
def IsAscii (t : Text) : Prop := ∀ c ∈ t, c.toNat < 0x80

instance (t : Text) : Decidable t.IsAscii := List.decidableBAll _ t

theorem isAscii_append : IsAscii (s ++ t) ↔ IsAscii s ∧ IsAscii t := List.forall_mem_append

theorem isAscii_cons : IsAscii (c :: t) ↔ c.toNat < 0x80 ∧ IsAscii t := List.forall_mem_cons

/-! ## Characters -/

theorem ascii_induction {motive : Char → Prop} (each : ∀ n < 0x80, motive (Char.ofNat n))
    (ascii : c.toNat < 0x80) : motive c := by
  have here := each c.toNat ascii
  rwa [Char.ofNat_toNat] at here

/-- What holds of the capital ASCII letters, and of characters that are none, holds of every one. -/
theorem toLower_induction {motive : Char → Prop}
    (capital : ∀ n < 26, motive (Char.ofNat (0x41 + n)))
    (kept : ∀ c, c.toLower = c → motive c) (c : Char) : motive c := by
  by_cases letter : 0x41 ≤ c.toNat ∧ c.toNat ≤ 0x5a
  · have here := capital (c.toNat - 0x41) (by omega)
    rwa [Nat.add_sub_cancel' letter.1, Char.ofNat_toNat] at here
  · exact kept c (dif_neg letter)

theorem toNat_of_isAlphanum (letter : c.isAlphanum) : 48 ≤ c.toNat ∧ c.toNat ≤ 122 := by
  delta Char.isAlphanum Char.isAlpha Char.isUpper Char.isLower Char.isDigit at letter
  simp [UInt32.le_iff_toNat_le] at letter
  have same : c.toNat = c.val.toNat := rfl
  omega

theorem isAlphanum_toLower (c : Char) : c.toLower.isAlphanum = c.isAlphanum := by
  induction c using toLower_induction with
  | capital => decide +revert
  | kept c kept => rw [kept]

theorem toLower_toLower (c : Char) : c.toLower.toLower = c.toLower := by
  induction c using toLower_induction with
  | capital => decide +revert
  | kept c kept => rw [kept, kept]

/-! ## Small letters -/

theorem IsAscii.map_toLower (ascii : t.IsAscii) : IsAscii (t.map Char.toLower) := by
  intro c among
  obtain ⟨d, given, rfl⟩ := List.mem_map.1 among
  apply ascii_induction _ (ascii d given)
  decide

theorem lower_append (left : s.IsAscii) (right : t.IsAscii) :
    lower (s ++ t) = lower s ++ lower t := by
  rw [lower_of_ascii left, lower_of_ascii right, lower_of_ascii (isAscii_append.2 ⟨left, right⟩),
    List.map_append]

/-- Small letters stay what they are. -/
theorem lower_lower (ascii : t.IsAscii) : lower (lower t) = lower t := by
  rw [lower_of_ascii ascii, lower_of_ascii ascii.map_toLower, List.map_map]
  exact List.map_congr_left fun c _ => toLower_toLower c

end Text

end Ebrc
