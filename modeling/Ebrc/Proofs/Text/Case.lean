import Ebrc.Proofs.Text.Ascii
import Mathlib.Data.List.Forall2
import Mathlib.Data.List.TakeWhile

/-!
# Texts in small letters

How a character is made small hangs on its neighbours only for a capital sigma, and there only on
whether the neighbours are letters. A small ASCII letter is as much of a letter as its capital. So
texts that differ in the case of ASCII letters are the same text in small letters, whatever other
characters are among them. Each character becomes one or more of its own, and a dot comes from a
dot only.
-/

namespace Ebrc

namespace Text

variable {c : Char} {s t : Text}

/-- The texts are the same but for the case of ASCII letters. -/
def SameUpToCase (s t : Text) : Prop := s.map Char.toLower = t.map Char.toLower

instance (s t : Text) : Decidable (s.SameUpToCase t) := inferInstanceAs (Decidable (_ = _))

/-! ## Characters -/

theorem lowerChars_toLower (c : Char) : lowerChars c.toLower = lowerChars c := by
  induction c using toLower_induction with
  | capital => decide +revert
  | kept c kept => rw [kept]

theorem toLower_eq_sigma_iff (c : Char) : c.toLower = 'Σ' ↔ c = 'Σ' := by
  induction c using toLower_induction with
  | capital => decide +revert
  | kept c kept => rw [kept]

theorem inRanges_casedRanges_toLower (c : Char) :
    inRanges casedRanges c.toLower = inRanges casedRanges c := by
  induction c using toLower_induction with
  | capital => decide +kernel +revert
  | kept c kept => rw [kept]

theorem inRanges_caseIgnorableRanges_toLower (c : Char) :
    inRanges caseIgnorableRanges c.toLower = inRanges caseIgnorableRanges c := by
  induction c using toLower_induction with
  | capital => decide +kernel +revert
  | kept c kept => rw [kept]

/-! ## Texts -/

theorem startsCased_map_toLower (t : Text) :
    startsCased (t.map Char.toLower) = startsCased t := by
  have same : inRanges caseIgnorableRanges ∘ Char.toLower = inRanges caseIgnorableRanges := by
    funext c
    exact inRanges_caseIgnorableRanges_toLower c
  unfold startsCased
  rw [List.dropWhile_map, same]
  cases t.dropWhile (inRanges caseIgnorableRanges) with
  | nil => rfl
  | cons c rest => exact inRanges_casedRanges_toLower c

theorem lowerAfter_map_toLower (afterLetter : Bool) (t : Text) :
    lowerAfter afterLetter (t.map Char.toLower) = lowerAfter afterLetter t := by
  induction t generalizing afterLetter with
  | nil => rfl
  | cons c t ih =>
      simp only [List.map_cons, lowerAfter, toLower_eq_sigma_iff, startsCased_map_toLower,
        lowerChars_toLower, inRanges_caseIgnorableRanges_toLower, inRanges_casedRanges_toLower, ih]

/-- Small ASCII letters in place of the capitals make no difference in small letters. -/
theorem lower_map_toLower (t : Text) : lower (t.map Char.toLower) = lower t := by
  have sigma : (t.map Char.toLower).contains 'Σ' = t.contains 'Σ' := by
    rw [Bool.eq_iff_iff, List.contains_iff_mem, List.contains_iff_mem]
    simp [toLower_eq_sigma_iff]
  unfold lower
  rw [sigma, lowerAfter_map_toLower, List.flatMap_map]
  simp only [lowerChars_toLower]

theorem SameUpToCase.lower_eq (same : s.SameUpToCase t) : lower s = lower t := by
  rw [← lower_map_toLower s, same, lower_map_toLower]

/-! ## Dots -/

theorem ofNat_ne_dot {n : Nat} (least : 0x61 ≤ n) : Char.ofNat n ≠ '.' := by
  intro dot
  have code : (Char.ofNat n).toNat = 0x2e := congrArg Char.toNat dot
  by_cases valid : n.isValidChar
  · rw [Char.ofNat, dif_pos valid] at code
    have same : n = 0x2e := code
    omega
  · rw [Char.ofNat, dif_neg valid] at code
    contradiction

theorem le_of_mem_lowerRuns {run : Nat × Nat × Nat × Int} (among : run ∈ lowerRuns) :
    0x61 ≤ (run.1 : Int) + run.2.2.2 := by
  have each : ∀ run ∈ lowerRuns, 0x61 ≤ (run.1 : Int) + run.2.2.2 := by decide +kernel
  exact each run among

theorem lowerChar_eq_dot_iff (c : Char) : lowerChar c = '.' ↔ c = '.' := by
  by_cases ascii : c.toNat < 0x80
  · apply ascii_induction _ ascii
    decide
  have other : c ≠ '.' := by
    rintro rfl
    exact ascii (by decide)
  unfold lowerChar
  rw [if_neg ascii]
  split
  · next first last step distance found =>
      have least := le_of_mem_lowerRuns (List.mem_of_find?_eq_some found)
      have within := List.find?_some found
      simp only [Bool.and_eq_true, decide_eq_true_eq] at within
      have apart := ofNat_ne_dot (n := (c.toNat + distance).toNat) (by dsimp only at least; omega)
      exact iff_of_false apart other
  · rfl

/-- There is something in a piece of a text, and there are dots in it just if the character that it
stands for is one. -/
def KeepsDots (piece : Text) (c : Char) : Prop := piece ≠ [] ∧ ∀ d ∈ piece, (d = '.' ↔ c = '.')

theorem keepsDots_singleton {d : Char} : KeepsDots [d] c ↔ (d = '.' ↔ c = '.') := by
  simp [KeepsDots]

theorem keepsDots_lowerChars (c : Char) : KeepsDots (lowerChars c) c := by
  unfold lowerChars
  split
  · next dotted =>
      subst dotted
      exact ⟨List.cons_ne_nil _ _, by simp⟩
  · exact keepsDots_singleton.2 (lowerChar_eq_dot_iff c)

theorem exists_pieces_lowerAfter (afterLetter : Bool) (t : Text) :
    ∃ pieces, List.Forall₂ KeepsDots pieces t ∧ lowerAfter afterLetter t = pieces.flatten := by
  induction t generalizing afterLetter with
  | nil => exact ⟨[], .nil, rfl⟩
  | cons c t ih =>
      obtain ⟨pieces, later, parts⟩ := ih (if inRanges caseIgnorableRanges c then afterLetter
        else inRanges casedRanges c)
      rw [lowerAfter, parts]
      refine ⟨_ :: pieces, .cons ?_ later, rfl⟩
      split
      · next sigma =>
          subst sigma
          apply keepsDots_singleton.2
          split <;> decide
      · exact keepsDots_lowerChars c

/-- A text in small letters is made of a piece for each character. -/
theorem exists_pieces_lower (t : Text) :
    ∃ pieces, List.Forall₂ KeepsDots pieces t ∧ lower t = pieces.flatten := by
  unfold lower
  split
  · exact exists_pieces_lowerAfter false t
  · refine ⟨t.map lowerChars, ?_, rfl⟩
    rw [List.forall₂_map_left_iff, List.forall₂_same]
    exact fun c _ => keepsDots_lowerChars c

end Text

end Ebrc
