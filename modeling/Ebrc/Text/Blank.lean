import Ebrc.Text.Basic
import Ebrc.Text.Range

/-!
# White space

White space in the wide sense: the space and control separators of ASCII, and the space
separators of Unicode. It separates the words of an invocation and of a keyword's value.
-/

namespace Ebrc

namespace Text

/-- Every white space character lies in one of these ranges. -/
def blankRanges : List (Nat × Nat) := [
  (0x9, 0xd), (0x1c, 0x20), (0x85, 0x85), (0xa0, 0xa0), (0x1680, 0x1680), (0x2000, 0x200a),
  (0x2028, 0x2029), (0x202f, 0x202f), (0x205f, 0x205f), (0x3000, 0x3000)]

/-- Is the character white space? -/
def isBlank (c : Char) : Bool := inRanges blankRanges c

/-- The maximal runs of characters that are not white space. -/
def words : Text → List Text
  | [] => []
  | c :: t =>
    if isBlank c then words t
    else
      match t with
      | [] => [[c]]
      | next :: _ =>
        if isBlank next then [c] :: words t
        else
          match words t with
          | [] => [[c]]
          | word :: rest => (c :: word) :: rest

/-- The words joined by single spaces. -/
def unwords (ws : List Text) : Text := List.intercalate [' '] ws

@[simp] theorem isBlank_space : isBlank ' ' = true := by decide

theorem words_eq_nil_iff (t : Text) : words t = [] ↔ ∀ c ∈ t, isBlank c = true := by
  induction t with
  | nil => simp [words]
  | cons c t ih =>
    rw [words.eq_def]
    by_cases hc : isBlank c = true
    · simp [hc, ih]
    · simp only [hc]
      cases t with
      | nil => simp [hc]
      | cons next t =>
        simp only [Bool.false_eq_true, if_false]
        split
        · simp [hc]
        · split <;> simp [hc]

/-- A word is not empty and holds no white space. -/
theorem of_mem_words {t word : Text} (h : word ∈ words t) :
    word ≠ [] ∧ ∀ c ∈ word, isBlank c = false := by
  induction t generalizing word with
  | nil => simp [words] at h
  | cons c t ih =>
    rw [words.eq_def] at h
    by_cases hc : isBlank c = true
    · simp only [hc, if_true] at h
      exact ih h
    · have hc' : isBlank c = false := by simpa using hc
      simp only [hc', Bool.false_eq_true, if_false] at h
      cases t with
      | nil => simp_all
      | cons next t =>
        simp only at h
        split at h
        · simp only [List.mem_cons] at h
          rcases h with rfl | h
          · simp [hc']
          · exact ih h
        · split at h
          · simp_all
          · next word' rest hw =>
            rw [hw] at ih
            simp only [List.mem_cons] at h
            rcases h with rfl | h
            · have := @ih word' (by simp)
              simp [hc']
              exact this.2
            · exact ih (by simp [h])

end Text

end Ebrc
