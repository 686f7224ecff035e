import Ebrc.Text.Blank
import Mathlib.Data.List.TakeWhile

/-!
# Words

A text is made of words and of white space in front of, between and behind them. Said so, without a
reader in mind, its words are determined, and they are the ones that are read. Words that are joined
by single spaces are read back, however much white space has stood between them before, and
stripping a text takes no word from it.
-/

namespace Ebrc

namespace Text

variable {c : Char} {t word rest blanks : Text} {ws : List Text}

/-- A text is a word: there is something in it, and no white space. -/
structure IsWord (word : Text) : Prop where
  given : word ≠ []
  solid : ∀ c ∈ word, isBlank c = false

/-- A text is made of these words, with white space around them. -/
inductive Spaced : Text → List Text → Prop where
  | blank {t : Text} (blank : ∀ c ∈ t, isBlank c) : Spaced t []
  | word {blanks word rest : Text} {others : List Text} (blank : ∀ c ∈ blanks, isBlank c)
      (isWord : IsWord word) (ends : ∀ c ∈ rest.head?, isBlank c) (later : Spaced rest others) :
      Spaced (blanks ++ (word ++ rest)) (word :: others)

theorem isWord_of_mem_words (among : word ∈ words t) : IsWord word :=
  ⟨(of_mem_words among).1, (of_mem_words among).2⟩

/-! ## Reading words -/

theorem words_cons_blank (blank : isBlank c) (t : Text) : words (c :: t) = words t := by
  rw [words.eq_def]
  exact if_pos blank

theorem words_blank_append (blank : ∀ c ∈ blanks, isBlank c) (t : Text) :
    words (blanks ++ t) = words t := by
  induction blanks with
  | nil => rfl
  | cons c blanks ih =>
      rw [List.forall_mem_cons] at blank
      rw [List.cons_append, words_cons_blank blank.1, ih blank.2]

/-- A word ends where white space follows. -/
theorem words_word_append (isWord : IsWord word) (ends : ∀ c ∈ rest.head?, isBlank c) :
    words (word ++ rest) = word :: words rest := by
  obtain ⟨given, solid⟩ := isWord
  induction word with
  | nil => contradiction
  | cons c word ih =>
      rw [List.forall_mem_cons] at solid
      cases word with
      | nil =>
          cases rest with
          | nil => simp [words, solid.1]
          | cons next rest =>
              have blank : isBlank next := ends next rfl
              simp [words, solid.1, blank]
      | cons next word =>
          have next_solid : isBlank next = false := solid.2 next (List.mem_cons_self ..)
          have later := ih (List.cons_ne_nil _ _) solid.2
          rw [List.cons_append] at later
          rw [List.cons_append, List.cons_append, words, later]
          simp [solid.1, next_solid]

/-! ## Words and white space -/

namespace Spaced

theorem front (isWord : IsWord word) (ends : ∀ c ∈ rest.head?, isBlank c) (later : Spaced rest ws) :
    Spaced (word ++ rest) (word :: ws) :=
  @Spaced.word [] word rest ws (by simp) isWord ends later

theorem cons_blank (spaced : Spaced t ws) (blank : isBlank c) : Spaced (c :: t) ws := by
  cases spaced with
  | blank all => exact .blank (List.forall_mem_cons.2 ⟨blank, all⟩)
  | @word blanks word rest others all isWord ends later =>
      have longer : ∀ d ∈ c :: blanks, isBlank d := List.forall_mem_cons.2 ⟨blank, all⟩
      exact @Spaced.word (c :: blanks) word rest others longer isWord ends later

/-- A character in front of a word belongs to it. -/
theorem cons_solid (spaced : Spaced t (word :: ws)) (first : ∀ c ∈ t.head?, isBlank c = false)
    (solid : isBlank c = false) : Spaced (c :: t) ((c :: word) :: ws) := by
  cases spaced with
  | @word blanks _ rest _ all isWord ends later =>
      cases blanks with
      | nil =>
          have longer : IsWord (c :: word) :=
            ⟨List.cons_ne_nil _ _, List.forall_mem_cons.2 ⟨solid, isWord.solid⟩⟩
          exact front longer ends later
      | cons blank blanks =>
          have impossible := first blank rfl
          rw [all blank (List.mem_cons_self ..)] at impossible
          contradiction

theorem append_blank (spaced : Spaced t ws) (blank : ∀ c ∈ blanks, isBlank c) :
    Spaced (t ++ blanks) ws := by
  induction spaced with
  | blank all => exact .blank (List.forall_mem_append.2 ⟨all, blank⟩)
  | @word _ word rest _ all isWord ends _ ih =>
      rw [List.append_assoc, List.append_assoc]
      refine .word all isWord ?_ ih
      cases rest with
      | nil => exact fun c first => blank c (List.mem_of_mem_head? first)
      | cons => exact ends

theorem words_eq (spaced : Spaced t ws) : words t = ws := by
  induction spaced with
  | blank all => exact (words_eq_nil_iff _).2 all
  | word all isWord ends _ ih => rw [words_blank_append all, words_word_append isWord ends, ih]

theorem mem_of_mem (spaced : Spaced t ws) (among : word ∈ ws) (here : c ∈ word) : c ∈ t := by
  induction spaced with
  | blank => contradiction
  | word _ _ _ _ ih =>
      rw [List.mem_append, List.mem_append]
      rcases List.mem_cons.1 among with rfl | among
      · exact .inr (.inl here)
      · exact .inr (.inr (ih among))

end Spaced

/-- What is read of a text are the words that it is made of. -/
theorem spaced_words (t : Text) : Spaced t (words t) := by
  induction t with
  | nil => exact .blank (by simp)
  | cons c t ih =>
      by_cases blank : isBlank c
      · rw [words_cons_blank blank]
        exact ih.cons_blank blank
      rw [Bool.not_eq_true] at blank
      have single : IsWord [c] := ⟨List.cons_ne_nil _ _, by simpa using blank⟩
      by_cases ends : ∀ next ∈ t.head?, isBlank next
      · have first : words (c :: t) = [c] :: words t := words_word_append single ends
        rw [first]
        exact .front single ends ih
      · -- The word goes on, so the text behind the character begins with a word.
        cases t with
        | nil => simp at ends
        | cons next rest =>
            have solid : isBlank next = false := by simpa using ends
            cases later : words (next :: rest) with
            | nil =>
                have all := (words_eq_nil_iff _).1 later
                rw [all next (List.mem_cons_self ..)] at solid
                contradiction
            | cons word others =>
                have longer : words (c :: next :: rest) = (c :: word) :: others := by
                  rw [words, later]
                  simp [blank, solid]
                rw [longer]
                rw [later] at ih
                exact ih.cons_solid (by simpa using solid) blank

/-- A text is made of one list of words only. -/
theorem spaced_iff : Spaced t ws ↔ words t = ws := by
  constructor
  · exact Spaced.words_eq
  · rintro rfl
    exact spaced_words t

theorem mem_of_mem_words (among : word ∈ words t) (here : c ∈ word) : c ∈ t :=
  (spaced_words t).mem_of_mem among here

/-! ## Words joined, and words stripped -/

theorem words_word (isWord : IsWord word) : words word = [word] := by
  have alone : words (word ++ []) = word :: words [] := words_word_append isWord (by simp)
  rwa [List.append_nil] at alone

theorem unwords_cons_cons (word next : Text) (ws : List Text) :
    unwords (word :: next :: ws) = word ++ ' ' :: unwords (next :: ws) := by
  simp [unwords, List.intercalate_cons_cons]

theorem unwords_ne_nil (given : word ≠ []) : unwords (word :: ws) ≠ [] := by
  cases ws with
  | nil => simpa [unwords] using given
  | cons next ws =>
      rw [unwords_cons_cons]
      exact List.append_ne_nil_of_left_ne_nil given _

/-- Words joined by single spaces are read back. -/
theorem words_unwords (each : ∀ word ∈ ws, IsWord word) : words (unwords ws) = ws := by
  induction ws with
  | nil => rfl
  | cons word ws ih =>
      rw [List.forall_mem_cons] at each
      cases ws with
      | nil => simpa [unwords] using words_word each.1
      | cons next ws =>
          rw [unwords_cons_cons, words_word_append each.1 (by simp),
            words_cons_blank isBlank_space, ih each.2]

/-- So are a word and what is joined behind it, which may be nothing. -/
theorem words_append_unwords (isWord : IsWord word) (each : ∀ w ∈ ws, IsWord w) :
    words (word ++ ' ' :: unwords ws) = word :: ws := by
  rw [words_word_append isWord (by simp), words_cons_blank isBlank_space, words_unwords each]

theorem exists_blanks_behind (p : Char → Bool) (t : Text) :
    ∃ behind, (∀ c ∈ behind, p c) ∧ t = stripRight p t ++ behind := by
  induction t with
  | nil => exact ⟨[], by simp, rfl⟩
  | cons c t ih =>
      obtain ⟨behind, dropped, same⟩ := ih
      rw [stripRight]
      cases kept : stripRight p t with
      | nil =>
          rw [kept, List.nil_append] at same
          by_cases here : p c
          · exact ⟨c :: t, List.forall_mem_cons.2 ⟨here, same ▸ dropped⟩, by simp [here]⟩
          · exact ⟨t, same ▸ dropped, by simp [here]⟩
      | cons d rest =>
          rw [kept] at same
          exact ⟨behind, dropped, congrArg (c :: ·) same⟩

/-- Stripping white space takes no word away. -/
theorem words_strip {p : Char → Bool} (blank : ∀ c, p c → isBlank c) (t : Text) :
    words (strip p t) = words t := by
  have front : words (stripLeft p t) = words t := by
    have taken : ∀ c ∈ t.takeWhile p, isBlank c := fun c among =>
      blank c (List.mem_takeWhile_imp among)
    rw [stripLeft, ← words_blank_append taken, List.takeWhile_append_dropWhile]
  obtain ⟨behind, dropped, same⟩ := exists_blanks_behind p (stripLeft p t)
  rw [← front, strip]
  refine Eq.trans ?_ (congrArg words same.symm)
  exact ((spaced_words _).append_blank fun c among => blank c (dropped c among)).words_eq.symm

end Text

end Ebrc
