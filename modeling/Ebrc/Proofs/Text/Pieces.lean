import Ebrc.Text.Basic
import Mathlib.Data.List.Infix
import Mathlib.Data.List.TakeWhile

/-!
# Pieces of texts put together

Where texts are put together, the last piece of the first and the first piece of the second one
become one piece, and the others stay what they are. What is cut at a separator, or stripped at the
end, can be told in the same way from the parts of a text.
-/

namespace Ebrc

namespace Text

variable {sep c : Char} {s t : Text} {p : Char → Bool}

/-! ## Pieces between separators -/

/-- The pieces next to the seam become one. -/
theorem split_append_of_seam {front behind : List Text} {last first : Text}
    (left : split sep s = front ++ [last]) (right : split sep t = first :: behind) :
    split sep (s ++ t) = front ++ (last ++ first) :: behind := by
  induction s generalizing front last with
  | nil =>
      have single : front = [] ∧ last = [] := by
        cases front with
        | nil => exact ⟨rfl, (List.cons.inj left).1.symm⟩
        | cons piece pieces => simp [split] at left
      rw [single.1, single.2]
      exact right
  | cons c s ih =>
      rw [List.cons_append, split]
      rw [split] at left
      by_cases here : c = sep
      · rw [if_pos here] at left ⊢
        cases front with
        | nil => exact absurd (List.cons.inj left).2 (split_ne_nil sep s)
        | cons piece pieces =>
            obtain ⟨rfl, later⟩ := List.cons.inj left
            rw [ih later]
            rfl
      · rw [if_neg here] at left ⊢
        cases parts : split sep s with
        | nil => exact absurd parts (split_ne_nil sep s)
        | cons piece pieces =>
            rw [parts] at left
            cases front with
            | nil =>
                obtain ⟨rfl, rfl⟩ := List.cons.inj left
                rw [@ih [] piece parts]
                rfl
            | cons other others =>
                obtain ⟨rfl, rfl⟩ := List.cons.inj left
                rw [@ih (piece :: others) last parts]
                rfl

/-- A separator between two texts keeps their pieces apart. -/
theorem split_append_cons (sep : Char) (s t : Text) :
    split sep (s ++ sep :: t) = split sep s ++ split sep t := by
  have behind : split sep (sep :: t) = [] :: split sep t := by rw [split, if_pos rfl]
  rcases List.eq_nil_or_concat' (split sep s) with none | ⟨front, last, parts⟩
  · exact absurd none (split_ne_nil sep s)
  · rw [split_append_of_seam parts behind, parts]
    simp

/-! ## Cutting at the first separator -/

theorem cut_append (absent : sep ∉ s) : cut sep (s ++ sep :: t) = (s, some t) := by
  induction s with
  | nil => rw [List.nil_append, cut, if_pos rfl]
  | cons c s ih =>
      rw [List.mem_cons, not_or] at absent
      rw [List.cons_append, cut, if_neg (Ne.symm absent.1), ih absent.2]

theorem cut_of_not_mem (absent : sep ∉ t) : cut sep t = (t, none) := by
  induction t with
  | nil => rfl
  | cons c t ih =>
      rw [List.mem_cons, not_or] at absent
      rw [cut, if_neg (Ne.symm absent.1), ih absent.2]

/-- A text is cut at its first separator. -/
theorem cut_eq_some_iff {before after : Text} :
    cut sep t = (before, some after) ↔ t = before ++ sep :: after ∧ sep ∉ before := by
  constructor
  · intro parts
    by_cases here : sep ∈ t
    · obtain ⟨front, behind, rfl, absent⟩ := List.eq_append_cons_of_mem here
      rw [cut_append absent] at parts
      cases parts
      exact ⟨rfl, absent⟩
    · rw [cut_of_not_mem here] at parts
      cases parts
  · intro parts
    obtain ⟨rfl, absent⟩ := parts
    exact cut_append absent

theorem fst_cut (sep : Char) (t : Text) : (cut sep t).1 = t.takeWhile (· ≠ sep) := by
  induction t with
  | nil => rfl
  | cons c t ih =>
      rw [cut, List.takeWhile_cons]
      by_cases here : c = sep
      · simp [here]
      · simp [here, ih]

/-! ## Cutting at the last separator -/

theorem afterLast_append (absent : sep ∉ t) : afterLast sep (s ++ t) = afterLast sep s ++ t := by
  have all : ∀ c ∈ t.reverse, decide (c ≠ sep) = true := by
    intro c among
    exact decide_eq_true (ne_of_mem_of_not_mem (List.mem_reverse.1 among) absent)
  rw [afterLast, List.reverse_append, List.takeWhile_append_of_pos all, List.reverse_append,
    List.reverse_reverse]
  rfl

/-! ## Stripping the end -/

theorem stripRight_append (kept : stripRight p t ≠ []) :
    stripRight p (s ++ t) = s ++ stripRight p t := by
  induction s with
  | nil => rfl
  | cons c s ih =>
      rw [List.cons_append, stripRight, ih]
      cases rest : s ++ stripRight p t with
      | nil => exact absurd (List.append_eq_nil_iff.1 rest).2 kept
      | cons d rest' => rw [List.cons_append, rest]

theorem stripRight_eq_self_of_last (last : ∀ c ∈ t.getLast?, p c = false) :
    stripRight p t = t := by
  rcases List.eq_nil_or_concat' t with rfl | ⟨front, c, rfl⟩
  · rfl
  · have kept : stripRight p [c] = [c] := by
      rw [stripRight, stripRight]
      exact if_neg (by simpa using last c (by simp))
    rw [stripRight_append (by rw [kept]; exact List.cons_ne_nil _ _), kept]

theorem stripRight_eq_nil_iff : stripRight p t = [] ↔ ∀ c ∈ t, p c := by
  induction t with
  | nil => simp [stripRight]
  | cons c t ih =>
      rw [stripRight, List.forall_mem_cons, ← ih]
      cases rest : stripRight p t with
      | nil => by_cases here : p c <;> simp [here]
      | cons => simp

theorem stripRight_append_of_all (stripped : ∀ c ∈ t, p c) :
    stripRight p (s ++ t) = stripRight p s := by
  induction s with
  | nil => exact stripRight_eq_nil_iff.2 stripped
  | cons c s ih => rw [List.cons_append, stripRight, ih, stripRight]

/-! ## Occurrences -/

theorem occursIn_iff {needle : Text} : occursIn needle t ↔ needle <:+: t := by
  induction t with
  | nil => simp [occursIn, List.isEmpty_iff]
  | cons c t ih =>
      rw [occursIn, Bool.or_eq_true, List.isPrefixOf_iff_prefix, ih, List.infix_cons_iff]

end Text

end Ebrc
