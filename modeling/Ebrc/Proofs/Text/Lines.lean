import Ebrc.Encoding
import Ebrc.Proofs.Text.Number
import Ebrc.Proofs.Text.Pieces
import Ebrc.Text.Newline

/-!
# Lines of a text

A text is taken apart into lines from its front: a line without a line feed, the line feed, and the
lines of what follows. The lines of a text that ends in a line feed can therefore be told apart from
the lines of whatever is put after it. How the lines change when every line end becomes a line feed
is told line by line too: carriage returns inside a line divide it, and one at its end is dropped.
-/

namespace Ebrc

namespace Text

/-- The text is empty or ends in a line feed. -/
def Whole (t : Text) : Prop := t = [] ∨ t.getLast? = some '\n'

instance (t : Text) : Decidable t.Whole := inferInstanceAs (Decidable (_ ∨ _))

variable {sep : Char} {l t rest : Text}

@[simp] theorem lines_nil : lines [] = [] := rfl

/-- The first line stands before the first line feed. -/
theorem lines_append_cons (absent : '\n' ∉ l) : lines (l ++ '\n' :: t) = l :: lines t := by
  unfold lines
  rw [split_append_cons, split_eq_singleton absent, List.singleton_append]
  cases pieces : split '\n' t with
  | nil => exact absurd pieces (split_ne_nil '\n' t)
  | cons first others =>
      simp only [List.getLast?_cons_cons, List.dropLast_cons_cons]
      split <;> rfl

/-- Without a line feed there is one line at most. -/
theorem lines_of_not_mem (absent : '\n' ∉ t) : lines t = if t = [] then [] else [t] := by
  unfold lines
  rw [split_eq_singleton absent]
  by_cases empty : t = []
  · rw [if_pos empty, empty]
    rfl
  · rw [if_neg empty, if_neg]
    simpa using empty

/-- A text has no line feed, or a first line and something after it. -/
theorem exists_first_line (t : Text) :
    '\n' ∉ t ∨ ∃ l rest, '\n' ∉ l ∧ t = l ++ '\n' :: rest := by
  induction t with
  | nil => exact .inl List.not_mem_nil
  | cons c t ih =>
      by_cases feed : c = '\n'
      · exact .inr ⟨[], t, List.not_mem_nil, by rw [feed, List.nil_append]⟩
      rcases ih with absent | ⟨l, rest, absent, rfl⟩
      · exact .inl (by simp [Ne.symm feed, absent])
      · exact .inr ⟨c :: l, rest, by simp [Ne.symm feed, absent], rfl⟩

/-- What holds of texts without a line feed, and of a line in front of a text that it holds of,
holds of every text. -/
@[elab_as_elim]
theorem line_induction {motive : Text → Prop} (last : ∀ t, '\n' ∉ t → motive t)
    (line : ∀ l rest, '\n' ∉ l → motive rest → motive (l ++ '\n' :: rest)) (t : Text) :
    motive t := by
  rcases exists_first_line t with absent | ⟨l, rest, absent, rfl⟩
  · exact last t absent
  · exact line l rest absent (line_induction last line rest)
termination_by t.length
decreasing_by
  subst_vars
  rw [List.length_append, List.length_cons]
  omega

/-- No line holds a line feed. -/
theorem not_mem_of_mem_lines (among : l ∈ lines t) : '\n' ∉ l := by
  unfold lines at among
  dsimp only at among
  split at among
  · exact not_mem_of_mem_split (List.dropLast_subset _ among)
  · exact not_mem_of_mem_split among

theorem lines_unlines {ls : List Text} (absent : ∀ l ∈ ls, '\n' ∉ l) : lines (unlines ls) = ls := by
  induction ls with
  | nil => rfl
  | cons l ls ih =>
      rw [List.forall_mem_cons] at absent
      have shape : unlines (l :: ls) = l ++ '\n' :: unlines ls := by simp [unlines]
      rw [shape, lines_append_cons absent.1, ih absent.2]

/-! ## Texts that end in a line feed -/

theorem whole_append_cons : Whole (l ++ '\n' :: rest) ↔ Whole rest := by
  unfold Whole
  cases rest with
  | nil => simp
  | cons c rest => simp [List.getLast?_append, List.getLast?_cons_cons]

theorem eq_nil_of_whole (whole : Whole t) (absent : '\n' ∉ t) : t = [] := by
  rcases whole with empty | ends
  · exact empty
  · exact absurd (List.mem_of_getLast? ends) absent

/-- What stands after a text that ends in a line feed has its own lines. -/
theorem lines_append (whole : Whole t) (rest : Text) :
    lines (t ++ rest) = lines t ++ lines rest := by
  induction t using line_induction with
  | last t absent => rw [eq_nil_of_whole whole absent, List.nil_append, lines_nil, List.nil_append]
  | line l t absent ih =>
      rw [List.append_assoc, List.cons_append, lines_append_cons absent, lines_append_cons absent,
        ih (whole_append_cons.1 whole), List.cons_append]

/-- What stands behind the last line feed of a text is the beginning of a line. -/
theorem exists_last_line (t : Text) : ∃ before l, Whole before ∧ '\n' ∉ l ∧ t = before ++ l := by
  induction t using line_induction with
  | last t absent => exact ⟨[], t, .inl rfl, absent, rfl⟩
  | line first t _ ih =>
      obtain ⟨before, l, whole, absent, rfl⟩ := ih
      exact ⟨first ++ '\n' :: before, l, whole_append_cons.2 whole, absent, by simp⟩

/-- A line feed at the end of a text changes none of its lines, unless an empty line comes of it. -/
theorem lines_append_feed (notWhole : ¬Whole t) : lines (t ++ ['\n']) = lines t := by
  induction t using line_induction with
  | last t absent =>
      have given : t ≠ [] := fun empty => notWhole (.inl empty)
      rw [lines_append_cons absent, lines_nil, lines_of_not_mem absent, if_neg given]
  | line l t absent ih =>
      rw [List.append_assoc, List.cons_append, lines_append_cons absent, lines_append_cons absent,
        ih fun whole => notWhole (whole_append_cons.2 whole)]

/-! ## Line ends made one -/

theorem unifyNewlines_cons {c : Char} (other : c ≠ '\r') :
    unifyNewlines (c :: t) = c :: unifyNewlines t := by
  rw [unifyNewlines]
  · rintro rest rfl
    exact absurd rfl other
  · rintro rfl
    exact other rfl

theorem unifyNewlines_return (single : t.head? ≠ some '\n') :
    unifyNewlines ('\r' :: t) = '\n' :: unifyNewlines t := by
  rw [unifyNewlines]
  rintro rest rfl
  exact single rfl

end Text

namespace Encoding

theorem dropReturn_cons {c : Char} {t : Text} (apart : c ≠ '\r' ∨ t ≠ []) :
    dropReturn (c :: t) = c :: dropReturn t := by
  unfold dropReturn
  cases t with
  | nil => simp [apart.resolve_right (fun given => given rfl)]
  | cons d t =>
      rw [List.getLast?_cons_cons, List.dropLast_cons_cons]
      split <;> rfl

theorem dropReturn_append_return (t : Text) : dropReturn (t ++ ['\r']) = t := by
  simp [dropReturn]

theorem dropReturn_eq_self {t : Text} (other : t.getLast? ≠ some '\r') : dropReturn t = t :=
  if_neg other

end Encoding

namespace Text

open Encoding (dropReturn dropReturn_cons)

variable {l t : Text}

/-- A character in front of a text belongs to its first line. -/
theorem lines_cons {c : Char} {first : Text} {others : List Text} (other : c ≠ '\n')
    (parts : lines t = first :: others) : lines (c :: t) = (c :: first) :: others := by
  rcases exists_first_line t with absent | ⟨l, rest, absent, rfl⟩
  · rw [lines_of_not_mem absent] at parts
    split at parts
    · contradiction
    cases parts
    rw [lines_of_not_mem (by simp [Ne.symm other, absent]), if_neg (List.cons_ne_nil _ _)]
  · rw [lines_append_cons absent] at parts
    cases parts
    have absent' : '\n' ∉ c :: first := by simp [Ne.symm other, absent]
    exact lines_append_cons absent'

/-- One more character in front of a line whose carriage returns become line feeds. -/
theorem lines_unifyNewlines_cons {c : Char} {below : List Text} (other : c ≠ '\n')
    (apart : c ≠ '\r' ∨ l ≠ [] ∧ t.head? ≠ some '\n')
    (parts : lines (unifyNewlines t) = split '\r' (dropReturn l) ++ below) :
    lines (unifyNewlines (c :: t)) = split '\r' (dropReturn (c :: l)) ++ below := by
  rw [dropReturn_cons (apart.imp_right And.left), split]
  by_cases isReturn : c = '\r'
  · obtain ⟨-, single⟩ := apart.resolve_left fun notReturn => notReturn isReturn
    rw [if_pos isReturn, isReturn, unifyNewlines_return single, ← List.nil_append ('\n' :: _),
      lines_append_cons List.not_mem_nil, parts, List.cons_append]
  · rw [if_neg isReturn, unifyNewlines_cons isReturn]
    cases pieces : split '\r' (dropReturn l) with
    | nil => exact absurd pieces (split_ne_nil '\r' _)
    | cons first others =>
        rw [pieces, List.cons_append] at parts
        exact lines_cons other parts

/-- A line and its end: the carriage returns in the line divide it. -/
theorem lines_unifyNewlines_append (absent : '\n' ∉ l) :
    lines (unifyNewlines (l ++ '\n' :: t)) =
      split '\r' (dropReturn l) ++ lines (unifyNewlines t) := by
  induction l with
  | nil =>
      rw [List.nil_append, unifyNewlines_cons (by decide)]
      exact lines_append_cons List.not_mem_nil
  | cons c l ih =>
      rw [List.mem_cons, not_or] at absent
      by_cases ends : c = '\r' ∧ l = []
      · -- The carriage return and the line feed are one line end.
        obtain ⟨rfl, rfl⟩ := ends
        exact lines_append_cons List.not_mem_nil
      refine lines_unifyNewlines_cons (Ne.symm absent.1) ?_ (ih absent.2)
      rcases l with _ | ⟨d, l⟩
      · exact .inl fun isReturn => ends ⟨isReturn, rfl⟩
      · refine .inr ⟨List.cons_ne_nil _ _, fun feed => absent.2 ?_⟩
        cases feed
        exact List.mem_cons_self ..

/-- A last line without a line feed. -/
theorem lines_unifyNewlines_last (absent : '\n' ∉ l) (given : l ≠ []) :
    lines (unifyNewlines l) = split '\r' (dropReturn l) := by
  induction l with
  | nil => contradiction
  | cons c l ih =>
      rw [List.mem_cons, not_or] at absent
      by_cases last : l = []
      · subst last
        by_cases isReturn : c = '\r'
        · rw [isReturn]
          rfl
        · have single : '\n' ∉ [c] := by simpa using absent.1
          have kept : dropReturn [c] = [c] := by simp [dropReturn, isReturn]
          have unbroken : '\r' ∉ [c] := by simpa using Ne.symm isReturn
          rw [unifyNewlines_cons isReturn, unifyNewlines, lines_of_not_mem single, if_neg given,
            kept, split_eq_singleton unbroken]
      · have single : l.head? ≠ some '\n' := fun feed =>
          absent.2 (List.mem_of_mem_head? feed)
        have later : lines (unifyNewlines l) = split '\r' (dropReturn l) ++ [] := by
          rw [ih absent.2 last, List.append_nil]
        have step := lines_unifyNewlines_cons (Ne.symm absent.1) (.inr ⟨last, single⟩) later
        rwa [List.append_nil] at step

/-- With line ends made one, each line is divided at its carriage returns but one at its end. -/
theorem lines_unifyNewlines (t : Text) :
    lines (unifyNewlines t) = (lines t).flatMap fun line => split '\r' (dropReturn line) := by
  induction t using line_induction with
  | last t absent =>
      rw [lines_of_not_mem absent]
      by_cases empty : t = []
      · rw [if_pos empty, empty]
        rfl
      · rw [if_neg empty, List.flatMap_singleton, lines_unifyNewlines_last absent empty]
  | line l t absent ih =>
      rw [lines_append_cons absent, List.flatMap_cons, lines_unifyNewlines_append absent, ih]

/-- Without carriage returns inside lines the lines stay the same but for those at their ends. -/
theorem lines_unifyNewlines_eq_map (ends : ∀ line ∈ lines t, '\r' ∉ dropReturn line) :
    lines (unifyNewlines t) = (lines t).map dropReturn := by
  rw [lines_unifyNewlines]
  revert ends
  induction lines t with
  | nil =>
      intro
      rfl
  | cons line rest ih =>
      intro ends
      rw [List.forall_mem_cons] at ends
      rw [List.flatMap_cons, split_eq_singleton ends.1, ih ends.2, List.map_cons,
        List.singleton_append]

end Text

end Ebrc
