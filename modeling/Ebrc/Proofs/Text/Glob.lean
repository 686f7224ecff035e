import Ebrc.Text.Glob

/-!
# What a glob matches

The items of a pattern match a text that can be taken apart among them: a star takes any text, and
every other item one character that it admits. The matcher does not search for such a division. It
keeps all the texts that the items so far can leave, the longest one first, so that a star has to
look at the longest one only. Both come to the same.
-/

namespace Ebrc

namespace Glob

/-- The items take the whole text apart among them. -/
inductive Fits : List GlobItem → Text → Prop where
  | nil : Fits [] []
  | star {items : List GlobItem} {rest : Text} (taken : Text) (later : Fits items rest) :
      Fits (.star :: items) (taken ++ rest)
  | character {item : GlobItem} {items : List GlobItem} {c : Char} {rest : Text}
      (single : item ≠ .star) (admitted : item.admits c) (later : Fits items rest) :
      Fits (item :: items) (c :: rest)

/-- The pattern matches the whole text. -/
def Matches (pattern text : Text) : Prop := Fits (items pattern) text

/-- Each text is a suffix of those before it. -/
def Shrinking (texts : List Text) : Prop := texts.Pairwise fun longer shorter => shorter <:+ longer

variable {item : GlobItem} {items : List GlobItem} {s t pattern : Text} {texts : List Text}

/-! ## What an item leaves -/

theorem shrinking_suffixes (t : Text) : Shrinking (suffixes t) := by
  induction t with
  | nil => exact List.pairwise_singleton ..
  | cons c t ih =>
      apply List.Pairwise.cons
      · intro s among
        exact (mem_suffixes.1 among).trans (List.suffix_cons c t)
      · exact ih

/-- Of texts that shrink the first one is the longest. -/
theorem mem_leave_star (shrinking : Shrinking texts) :
    s ∈ leave .star texts ↔ ∃ t ∈ texts, s <:+ t := by
  cases texts with
  | nil => simp [leave]
  | cons longest others =>
      simp only [leave, List.head?_cons, Option.elim_some, mem_suffixes]
      constructor
      · intro ends
        exact ⟨longest, List.mem_cons_self .., ends⟩
      · intro left
        obtain ⟨t, among, ends⟩ := left
        rcases List.mem_cons.1 among with rfl | among
        · exact ends
        · exact ends.trans (List.rel_of_pairwise_cons shrinking among)

theorem leave_of_ne (single : item ≠ .star) : leave item texts = texts.filterMap fun
    | [] => none
    | c :: t => if item.admits c then some t else none := by
  cases item with
  | star => contradiction
  | any | one | set => rfl

theorem mem_leave_of_ne (single : item ≠ .star) :
    s ∈ leave item texts ↔ ∃ c, item.admits c ∧ c :: s ∈ texts := by
  rw [leave_of_ne single, List.mem_filterMap]
  constructor
  · intro left
    obtain ⟨t, among, taken⟩ := left
    cases t with
    | nil => contradiction
    | cons c rest =>
        simp only [Option.ite_none_right_eq_some, Option.some.injEq] at taken
        obtain ⟨admitted, rfl⟩ := taken
        exact ⟨c, admitted, among⟩
  · intro left
    obtain ⟨c, admitted, among⟩ := left
    exact ⟨c :: s, among, by simp [admitted]⟩

theorem Shrinking.leave (shrinking : Shrinking texts) (item : GlobItem) :
    Shrinking (Glob.leave item texts) := by
  by_cases star : item = .star
  · subst star
    cases texts with
    | nil => exact .nil
    | cons longest => exact shrinking_suffixes longest
  · rw [leave_of_ne star]
    apply List.Pairwise.filterMap _ _ shrinking
    intro longer shorter ends rest left rest' left'
    cases longer with
    | nil => contradiction
    | cons c longer =>
        cases shorter with
        | nil => contradiction
        | cons d shorter =>
            simp only [Option.ite_none_right_eq_some, Option.some.injEq] at left left'
            rw [← left.2, ← left'.2]
            rcases List.suffix_cons_iff.1 ends with same | ends
            · cases same
              exact List.suffix_rfl
            · exact (List.suffix_cons d shorter).trans ends

/-! ## What the items leave of a text -/

/-- One of the texts is left with nothing by the items just if they fit one of them. -/
theorem any_foldl_leave (shrinking : Shrinking texts) :
    (items.foldl (fun texts item => leave item texts) texts).any List.isEmpty ↔
      ∃ t ∈ texts, Fits items t := by
  induction items generalizing texts with
  | nil =>
      simp only [List.foldl_nil, List.any_eq_true, List.isEmpty_iff]
      constructor
      · intro found
        obtain ⟨t, among, rfl⟩ := found
        exact ⟨[], among, .nil⟩
      · intro found
        obtain ⟨t, among, fits⟩ := found
        cases fits
        exact ⟨[], among, rfl⟩
  | cons item items ih =>
      rw [List.foldl_cons, ih (shrinking.leave item)]
      -- A star leaves all ends of a text, any other item just one of them.
      by_cases star : item = .star
      · subst star
        constructor
        · intro found
          obtain ⟨rest, left, fits⟩ := found
          obtain ⟨t, among, taken, rfl⟩ := (mem_leave_star shrinking).1 left
          exact ⟨taken ++ rest, among, .star taken fits⟩
        · intro found
          obtain ⟨t, among, fits⟩ := found
          cases fits with
          | @star _ rest taken later =>
              exact ⟨rest, (mem_leave_star shrinking).2 ⟨_, among, taken, rfl⟩, later⟩
          | character single => contradiction
      · constructor
        · intro found
          obtain ⟨rest, left, fits⟩ := found
          obtain ⟨c, admitted, among⟩ := (mem_leave_of_ne star).1 left
          exact ⟨c :: rest, among, .character star admitted fits⟩
        · intro found
          obtain ⟨t, among, fits⟩ := found
          cases fits with
          | star => contradiction
          | @character _ _ c rest _ admitted later =>
              exact ⟨rest, (mem_leave_of_ne star).2 ⟨c, admitted, among⟩, later⟩

theorem isMatch_iff : isMatch pattern t ↔ Matches pattern t := by
  have alone : Shrinking [t] := List.pairwise_singleton ..
  have found := @any_foldl_leave (Glob.items pattern) [t] alone
  simp only [List.mem_singleton, exists_eq_left] at found
  exact found

/-! ## Patterns without wildcards -/

/-- The characters that make a pattern match other texts than itself. -/
def wildcards : List Char := ['*', '?', '[']

/-- Each character of the pattern stands for itself. -/
def Plain (pattern : Text) : Prop := ∀ c ∈ pattern, c ∉ wildcards

instance (pattern : Text) : Decidable (Plain pattern) := List.decidableBAll _ pattern

theorem items_of_plain (plain : Plain pattern) : Glob.items pattern = pattern.map .one := by
  unfold Glob.items
  induction pattern with
  | nil => rfl
  | cons c rest ih =>
      have here : c ∉ wildcards := plain c (List.mem_cons_self ..)
      have later : Plain rest := fun d among => plain d (List.mem_cons_of_mem _ among)
      simp only [wildcards, List.mem_cons, List.not_mem_nil, or_false, not_or] at here
      rw [itemsFrom, if_neg here.1, if_neg here.2.1, if_neg here.2.2, ih later, List.map_cons]

theorem eq_of_fits_one (fits : Fits (pattern.map .one) t) : t = pattern := by
  induction pattern generalizing t with
  | nil =>
      cases fits
      rfl
  | cons c rest ih =>
      cases fits with
      | character _ admitted later =>
          simp only [GlobItem.admits, decide_eq_true_eq] at admitted
          rw [admitted, ih later]

/-- A pattern without wildcards matches no other text than itself. -/
theorem Matches.eq_of_plain (found : Matches pattern t) (plain : Plain pattern) : t = pattern := by
  unfold Matches at found
  rw [items_of_plain plain] at found
  exact eq_of_fits_one found

end Glob

end Ebrc
