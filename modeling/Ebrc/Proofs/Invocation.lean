import Ebrc.Invocation
import Ebrc.Proofs.Text.Number
import Ebrc.Proofs.Text.Words

/-!
# Filling templates in

A template is cut at its first reference, a tilde and a decimal digit: what stands in front of it is
plain, and what stands behind it is a template again. References do not overlap, since a tilde is no
digit, so the cut is the only one, and whether a template refers to a number is a matter of its text
alone. Filling in follows the cuts from left to right and never looks at what it has put in.
-/

namespace Ebrc

namespace Invocation

variable {inv : Invocation} {n k : Nat} {c d : Char} {t template before after filled word : Text}
variable {words : List Text}

/-- The template refers to a number, behind this text and in front of that one. -/
def Refers (template before : Text) (n : Nat) (after : Text) : Prop :=
  ∃ d, Text.decimalValue? d = some n ∧ template = before ++ '~' :: d :: after

/-- The text refers to nothing. -/
def Plain (t : Text) : Prop := ∀ before n after, ¬Refers t before n after

/-- What a number stands for: 0 for all words joined by single spaces, and every other number for
the word at its place. -/
inductive StandsFor (words : List Text) : Nat → Text → Prop where
  | all : StandsFor words 0 (Text.unwords words)
  | word {n : Nat} {word : Text} : words[n]? = some word → StandsFor words (n + 1) word

/-- The number is the first one in the template for which there are not words enough. -/
def FirstMissing (words : List Text) (template : Text) (n : Nat) : Prop :=
  ∃ before after, Refers template before n after ∧ words.length < n ∧
    ∀ before' n' after', Refers template before' n' after' → before'.length < before.length →
      n' ≤ words.length

/-- A template and what becomes of it when each number gives way to what it stands for. -/
inductive Filled (words : List Text) : Text → Text → Prop where
  | plain {t : Text} (plain : Plain t) : Filled words t t
  | refers {template before after word filled : Text} {n : Nat} (plain : Plain before)
      (refers : Refers template before n after) (stands : StandsFor words n word)
      (later : Filled words after filled) : Filled words template (before ++ (word ++ filled))

/-! ## Numbers -/

theorem slot?_eq_some_iff (digit : n < 10) :
    inv.slot? n = some word ↔ StandsFor inv.arguments n word := by
  cases n with
  | zero =>
      constructor
      · intro found
        cases found
        exact .all
      · intro stands
        cases stands
        rfl
  | succ n =>
      have place : inv.slot? (n + 1) = inv.arguments[n]? :=
        List.getElem?_take_of_lt (Nat.lt_of_succ_lt_succ digit)
      rw [place]
      constructor
      · exact .word
      · intro stands
        cases stands
        assumption

theorem slot?_eq_none_iff (digit : n < 10) :
    inv.slot? n = none ↔ inv.arguments.length < n := by
  cases n with
  | zero => simp [slot?]
  | succ n =>
      have place : inv.slot? (n + 1) = inv.arguments[n]? :=
        List.getElem?_take_of_lt (Nat.lt_of_succ_lt_succ digit)
      rw [place, List.getElem?_eq_none_iff, Nat.lt_succ_iff]

/-! ## References -/

theorem Refers.digit (refers : Refers template before n after) : n < 10 := by
  obtain ⟨d, digit, -⟩ := refers
  exact Text.decimalValue_lt digit

theorem not_refers_nil : ¬Refers [] before n after := by
  rintro ⟨d, -, same⟩
  simp at same

/-- Behind a first character the same is referred to, unless that is a tilde. -/
theorem refers_cons : Refers (c :: t) before n after ↔
    (before = [] ∧ c = '~' ∧ ∃ d, Text.decimalValue? d = some n ∧ t = d :: after) ∨
      ∃ rest, before = c :: rest ∧ Refers t rest n after := by
  constructor
  · rintro ⟨d, digit, same⟩
    cases before with
    | nil =>
        cases same
        exact .inl ⟨rfl, rfl, d, digit, rfl⟩
    | cons first rest =>
        cases same
        exact .inr ⟨rest, rfl, d, digit, rfl⟩
  · rintro (⟨rfl, rfl, d, digit, rfl⟩ | ⟨rest, rfl, d, digit, rfl⟩)
    · exact ⟨d, digit, rfl⟩
    · exact ⟨d, digit, rfl⟩

/-- The references of a template that is cut at its first one: that one, and those behind it. -/
theorem refers_cut {before' after' : Text} (plain : Plain before)
    (digit : Text.decimalValue? d = some n) :
    Refers (before ++ '~' :: d :: after) before' k after' ↔
      (before' = before ∧ k = n ∧ after' = after) ∨
        ∃ rest, before' = before ++ '~' :: d :: rest ∧ Refers after rest k after' := by
  have tilde {v : Nat} : Text.decimalValue? '~' ≠ some v := by
    have none : Text.decimalValue? '~' = none := by decide
    simp [none]
  constructor
  · rintro ⟨e, digit', same⟩
    rcases List.append_eq_append_iff.1 same with ⟨more, rfl, tail⟩ | ⟨more, rfl, tail⟩
    · rcases more with _ | ⟨first, _ | ⟨second, more⟩⟩
      · cases tail
        rw [digit] at digit'
        cases digit'
        exact .inl ⟨List.append_nil _, rfl, rfl⟩
      · cases tail
        exact absurd digit tilde
      · cases tail
        exact .inr ⟨more, rfl, e, digit', rfl⟩
    · rcases more with _ | ⟨first, _ | ⟨second, more⟩⟩
      · cases tail
        rw [digit] at digit'
        cases digit'
        exact .inl ⟨(List.append_nil _).symm, rfl, rfl⟩
      · cases tail
        exact absurd digit' tilde
      · cases tail
        exact absurd ⟨_, digit', rfl⟩ (plain before' k more)
  · rintro (⟨rfl, rfl, rfl⟩ | ⟨rest, rfl, e, digit', rfl⟩)
    · exact ⟨d, digit, rfl⟩
    · exact ⟨e, digit', by simp⟩

theorem plain_cons_iff : Plain (c :: t) ↔
    Plain t ∧ ¬(c = '~' ∧ ∃ d ∈ t.head?, Text.isDecimal d) := by
  constructor
  · intro plain
    refine ⟨fun before n after refers => plain _ _ _ (refers_cons.2 (.inr ⟨before, rfl, refers⟩)),
      ?_⟩
    rintro ⟨rfl, d, first, decimal⟩
    obtain ⟨n, digit⟩ := Option.isSome_iff_exists.1 decimal
    cases t with
    | nil => contradiction
    | cons e rest =>
        cases first
        exact plain [] n rest ⟨_, digit, rfl⟩
  · rintro ⟨plain, apart⟩ before n after refers
    rcases refers_cons.1 refers with ⟨-, tilde, d, digit, rfl⟩ | ⟨rest, -, later⟩
    · exact apart ⟨tilde, d, rfl, Option.isSome_of_eq_some digit⟩
    · exact plain _ _ _ later

/-- A text is plain, or it is cut at its first reference. -/
theorem plain_or_cut (t : Text) :
    Plain t ∨ ∃ before d n after, Plain before ∧ Text.decimalValue? d = some n ∧
      t = before ++ '~' :: d :: after := by
  induction t with
  | nil => exact .inl fun _ _ _ => not_refers_nil
  | cons c t ih =>
      by_cases here : c = '~' ∧ ∃ d ∈ t.head?, Text.isDecimal d
      · obtain ⟨rfl, d, first, decimal⟩ := here
        obtain ⟨n, digit⟩ := Option.isSome_iff_exists.1 decimal
        cases t with
        | nil => contradiction
        | cons e rest =>
            cases first
            exact .inr ⟨[], _, n, rest, fun _ _ _ => not_refers_nil, digit, rfl⟩
      rcases ih with plain | ⟨before, d, n, after, plain, digit, rfl⟩
      · exact .inl (plain_cons_iff.2 ⟨plain, here⟩)
      · refine .inr ⟨c :: before, d, n, after, plain_cons_iff.2 ⟨plain, ?_⟩, digit, rfl⟩
        rintro ⟨tilde, e, first, decimal⟩
        refine here ⟨tilde, e, ?_, decimal⟩
        cases before with
        | nil => contradiction
        | cons => exact first

/-- What holds of plain texts, and of a template behind the first reference of which it holds, holds
of every template. -/
@[elab_as_elim]
theorem template_induction {motive : Text → Prop} (plain : ∀ t, Plain t → motive t)
    (cut : ∀ before d n after, Plain before → Text.decimalValue? d = some n → motive after →
      motive (before ++ '~' :: d :: after)) (t : Text) : motive t := by
  rcases plain_or_cut t with isPlain | ⟨before, d, n, after, isPlain, digit, rfl⟩
  · exact plain t isPlain
  · exact cut before d n after isPlain digit (template_induction plain cut after)
termination_by t.length
decreasing_by
  subst_vars
  rw [List.length_append, List.length_cons, List.length_cons]
  omega

/-- If there are not words enough for some number, there is a first such number. -/
theorem exists_firstMissing {before after : Text} {n : Nat}
    (refers : Refers template before n after) (missing : words.length < n) :
    ∃ k, FirstMissing words template k := by
  by_cases earlier : ∃ before' n' after', Refers template before' n' after' ∧
      before'.length < before.length ∧ words.length < n'
  · obtain ⟨before', n', after', refers', early, missing'⟩ := earlier
    exact exists_firstMissing refers' missing'
  · refine ⟨n, before, after, refers, missing, fun before' n' after' refers' early => ?_⟩
    rw [← Nat.not_lt]
    exact fun missing' => earlier ⟨before', n', after', refers', early, missing'⟩
termination_by before.length

/-! ## Filling in -/

/-- A character that does not begin a reference is kept. -/
theorem fill_cons (apart : ¬(c = '~' ∧ ∃ d ∈ t.head?, Text.isDecimal d)) :
    inv.fill (c :: t) = (inv.fill t).map (c :: ·) := by
  cases t with
  | nil => rfl
  | cons d t =>
      have none : (if c = '~' then Text.decimalValue? d else none) = none := by
        split
        · rename_i tilde
          simpa [tilde, Text.isDecimal] using apart
        · rfl
      rw [fill, none]

theorem fill_plain (plain : Plain t) : inv.fill t = .ok t := by
  induction t with
  | nil => rfl
  | cons c t ih =>
      obtain ⟨later, apart⟩ := plain_cons_iff.1 plain
      rw [fill_cons apart, ih later]
      rfl

/-- Where a template is cut, the number gives way to what it stands for, or it is the one told. -/
theorem fill_cut (plain : Plain before) (digit : Text.decimalValue? d = some n) (after : Text) :
    inv.fill (before ++ '~' :: d :: after) =
      match inv.slot? n with
      | none => .error n
      | some word => (inv.fill after).map fun filled => before ++ (word ++ filled) := by
  induction before with
  | nil => rw [List.nil_append, fill, if_pos rfl, digit]; rfl
  | cons c before ih =>
      obtain ⟨later, apart⟩ := plain_cons_iff.1 plain
      have apart' : ¬(c = '~' ∧ ∃ e ∈ (before ++ '~' :: d :: after).head?, Text.isDecimal e) := by
        cases before with
        | nil =>
            rintro ⟨-, e, first, decimal⟩
            cases first
            exact absurd decimal (by decide)
        | cons => exact apart
      rw [List.cons_append, fill_cons apart', ih later]
      cases inv.slot? n with
      | none => rfl
      | some word => cases inv.fill after <;> rfl

/-- Where a template is cut, the first number that is missing is that of the cut, or it is the first
one behind the cut. -/
theorem firstMissing_cut (plain : Plain before) (digit : Text.decimalValue? d = some n) :
    FirstMissing words (before ++ '~' :: d :: after) k ↔
      (words.length < n ∧ k = n) ∨ (n ≤ words.length ∧ FirstMissing words after k) := by
  have here : Refers (before ++ '~' :: d :: after) before n after := ⟨d, digit, rfl⟩
  constructor
  · rintro ⟨front, behind, refers, missing, first⟩
    rcases (refers_cut plain digit).1 refers with ⟨-, rfl, -⟩ | ⟨rest, rfl, inside⟩
    · exact .inl ⟨missing, rfl⟩
    · have given : n ≤ words.length := first before n after here (by simp)
      refine .inr ⟨given, rest, behind, inside, missing, ?_⟩
      intro front' k' behind' inside' early
      have refers' := (refers_cut plain digit).2 (.inr ⟨front', rfl, inside'⟩)
      exact first _ k' behind' refers' (by simpa using early)
  · rintro (⟨missing, rfl⟩ | ⟨given, front, behind, inside, missing, first⟩)
    · refine ⟨before, after, here, missing, ?_⟩
      intro front k' behind refers early
      rcases (refers_cut plain digit).1 refers with ⟨rfl, -⟩ | ⟨rest, rfl, -⟩
      · exact absurd early (Nat.lt_irrefl _)
      · rw [List.length_append] at early
        omega
    · refine ⟨_, behind, (refers_cut plain digit).2 (.inr ⟨front, rfl, inside⟩), missing, ?_⟩
      intro front' k' behind' refers early
      rcases (refers_cut plain digit).1 refers with ⟨-, rfl, -⟩ | ⟨rest, rfl, inside'⟩
      · exact given
      · exact first rest k' behind' inside' (by simpa using early)

/-- Where a template is cut, it is filled in by what the number stands for and by what becomes of
the text behind. -/
theorem filled_cut (plain : Plain before) (digit : Text.decimalValue? d = some n) :
    Filled words (before ++ '~' :: d :: after) filled ↔
      ∃ word rest, StandsFor words n word ∧ Filled words after rest ∧
        filled = before ++ (word ++ rest) := by
  have here : Refers (before ++ '~' :: d :: after) before n after := ⟨d, digit, rfl⟩
  constructor
  · intro done
    cases done with
    | plain impossible => exact absurd here (impossible _ _ _)
    | @refers _ front behind word rest k plain' refers stands later =>
        rcases (refers_cut plain digit).1 refers with ⟨rfl, rfl, rfl⟩ | ⟨inside, rfl, -⟩
        · exact ⟨word, rest, stands, later, rfl⟩
        · -- Another cut cannot come later, since its front would not be plain.
          exact absurd ⟨d, digit, rfl⟩ (plain' before n inside)
  · rintro ⟨word, rest, stands, later, rfl⟩
    exact .refers plain here stands later

/-- The number that is told is the first one for which there are not words enough. -/
theorem fill_eq_error_iff :
    inv.fill template = .error n ↔ FirstMissing inv.arguments template n := by
  induction template using template_induction with
  | plain t plain =>
      rw [fill_plain plain]
      constructor
      · intro impossible
        contradiction
      · rintro ⟨before, after, refers, -⟩
        exact absurd refers (plain _ _ _)
  | cut before d k after plain digit ih =>
      rw [fill_cut plain digit, firstMissing_cut plain digit, ← ih, ← Nat.not_lt,
        ← slot?_eq_none_iff (Text.decimalValue_lt digit)]
      cases inv.slot? k with
      | none => simp [eq_comm]
      | some word => cases inv.fill after <;> simp [Except.map]

/-- What comes of a template is the template filled in. -/
theorem fill_eq_ok_iff : inv.fill template = .ok filled ↔ Filled inv.arguments template filled := by
  induction template using template_induction generalizing filled with
  | plain t plain =>
      rw [fill_plain plain]
      constructor
      · intro same
        cases same
        exact .plain plain
      · intro done
        cases done with
        | plain => rfl
        | refers _ refers _ _ => exact absurd refers (plain _ _ _)
  | cut before d n after plain digit ih =>
      rw [fill_cut plain digit, filled_cut plain digit]
      simp only [← ih, ← slot?_eq_some_iff (Text.decimalValue_lt digit)]
      cases inv.slot? n with
      | none => simp
      | some word => cases inv.fill after <;> simp [Except.map, eq_comm]

theorem ofLine_eq (line : Text) :
    ofLine line = ⟨(Text.words line).headD [], (Text.words line).tail⟩ := by
  unfold ofLine
  cases Text.words line <;> rfl

/-- The words of a line are bound and filled in exactly. A line is made of one list of words; the
first one is the name, the others are counted from 1, and 0 is all of them. There is a result unless
the template refers to a number from 1 to 9 for which there are not words enough; then the first
such number is told. -/
theorem fill_ofLine (line template : Text) :
    ∃ words, (∀ ws, Text.Spaced line ws ↔ words = ws) ∧
      ofLine line = ⟨words.headD [], words.tail⟩ ∧
      ((∃ n, (ofLine line).fill template = .error n) ↔
        ∃ before n after, Refers template before n after ∧ 1 ≤ n ∧ n ≤ 9 ∧ words.tail.length < n) ∧
      (∀ n, (ofLine line).fill template = .error n ↔ FirstMissing words.tail template n) ∧
      ∀ filled, (ofLine line).fill template = .ok filled ↔ Filled words.tail template filled := by
  have told (n : Nat) : (ofLine line).fill template = .error n ↔
      FirstMissing (Text.words line).tail template n := by
    rw [fill_eq_error_iff, ofLine_eq]
  refine ⟨Text.words line, fun ws => Text.spaced_iff, ofLine_eq line, ?_, told, fun filled => ?_⟩
  · constructor
    · rintro ⟨n, failed⟩
      obtain ⟨before, after, refers, missing, -⟩ := (told n).1 failed
      exact ⟨before, n, after, refers, Nat.one_le_of_lt missing, Nat.le_of_lt_succ refers.digit,
        missing⟩
    · rintro ⟨before, n, after, refers, -, -, missing⟩
      obtain ⟨k, first⟩ := exists_firstMissing refers missing
      exact ⟨k, (told k).2 first⟩
  · rw [fill_eq_ok_iff, ofLine_eq]

/-- A word that looks like a reference, a tilde in front of another one, digits of another script,
and more words than have numbers. -/
example :
    let inv := ofLine "f ~2  b\t3 4 5 6 7 8 9 ten\n".toList
    inv.fill "~1~~2 ~x~\u0969 ~10 ~0~".toList =
      .ok "~2~b ~x3 ~20 ~2 b 3 4 5 6 7 8 9 ten~".toList := by
  decide +kernel

end Invocation

end Ebrc
