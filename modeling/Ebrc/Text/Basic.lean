/-!
# Text

All text of an rc file is kept as a list of code points, so that lengths, slices and
prefixes count code points and every operation below is a recursion on the list.

The operations cut text at a separator, strip characters of a class from its ends, and
write numbers in decimal. The lemmas say that cutting loses nothing.
-/

namespace Ebrc

/-- A sequence of code points. -/
abbrev Text := List Char

namespace Text

/-! ## Order -/

/-- Does the first text come before the second one, or at the same place, where texts are ordered
by the code points at which they first differ? -/
def notAfter : Text → Text → Bool
  | [], _ => true
  | _ :: _, [] => false
  | c :: s, d :: t => c.toNat < d.toNat || (c = d && notAfter s t)

/-! ## Stripping -/

/-- Drop the characters of a class from the front. -/
def stripLeft (p : Char → Bool) (t : Text) : Text := t.dropWhile p

/-- Drop the characters of a class from the back. -/
def stripRight (p : Char → Bool) : Text → Text
  | [] => []
  | c :: t =>
    match stripRight p t with
    | [] => if p c then [] else [c]
    | rest => c :: rest

/-- Drop the characters of a class from both ends. -/
def strip (p : Char → Bool) (t : Text) : Text := stripRight p (stripLeft p t)

/-- Space and tab, the blanks of an rc line. -/
def isLineBlank (c : Char) : Bool := c = ' ' || c = '\t'

/-! ## Cutting -/

/-- The pieces between the occurrences of a separator: one more than there are occurrences. -/
def split (sep : Char) : Text → List Text
  | [] => [[]]
  | c :: t =>
    if c = sep then [] :: split sep t
    else
      match split sep t with
      | [] => [[c]]
      | piece :: pieces => (c :: piece) :: pieces

/-- The text before the first occurrence of a separator and, if there is one, the text after it. -/
def cut (sep : Char) : Text → Text × Option Text
  | [] => ([], none)
  | c :: t =>
    if c = sep then ([], some t)
    else
      let (before, after) := cut sep t
      (c :: before, after)

/-- The text after the last occurrence of a separator, or all of it. -/
def afterLast (sep : Char) (t : Text) : Text :=
  (t.reverse.takeWhile (· ≠ sep)).reverse

/-- The lines of a text that ends, or need not end, in a line feed. -/
def lines (t : Text) : List Text :=
  let pieces := split '\n' t
  if pieces.getLast? = some [] then pieces.dropLast else pieces

/-- Every line followed by a line feed. -/
def unlines (ls : List Text) : Text := ls.flatMap (· ++ ['\n'])

/-- Does a text occur in another one? -/
def occursIn (needle : Text) : Text → Bool
  | [] => needle.isEmpty
  | c :: t => needle.isPrefixOf (c :: t) || occursIn needle t

/-! ## Numbers -/

/-- A natural number in decimal digits. -/
def ofNat (n : Nat) : Text := Nat.toDigits 10 n

/-- An integer in decimal digits, with a minus sign when it is negative. -/
def ofInt : Int → Text
  | .ofNat n => ofNat n
  | .negSucc n => '-' :: ofNat (n + 1)

/-! ## Laws -/

theorem split_ne_nil (sep : Char) (t : Text) : split sep t ≠ [] := by
  induction t with
  | nil => simp [split]
  | cons c t ih =>
    rw [split]
    split
    · simp
    · split <;> simp

/-- No piece holds the separator. -/
theorem not_mem_of_mem_split {sep : Char} {t piece : Text} (h : piece ∈ split sep t) :
    sep ∉ piece := by
  induction t generalizing piece with
  | nil => simp_all [split]
  | cons c t ih =>
    rw [split] at h
    split at h
    · simp only [List.mem_cons] at h
      rcases h with rfl | h
      · simp
      · exact ih h
    · next hc =>
      match hs : split sep t with
      | [] => exact absurd hs (split_ne_nil sep t)
      | first :: pieces =>
        rw [hs] at h ih
        simp only [List.mem_cons] at h
        rcases h with rfl | h
        · have := @ih first (by simp)
          simp [this, Ne.symm hc]
        · exact ih (by simp [h])

/-- Cutting loses nothing but the separator. -/
theorem append_cut (sep : Char) (t : Text) :
    (cut sep t).1 ++ ((cut sep t).2.elim [] (sep :: ·)) = t := by
  induction t with
  | nil => rfl
  | cons c t ih =>
    rw [cut]
    split
    · simp_all
    · simp [ih]

/-- Stripping adds nothing. -/
theorem mem_of_mem_stripRight {p : Char → Bool} {c : Char} {t : Text} (h : c ∈ stripRight p t) :
    c ∈ t := by
  induction t with
  | nil => exact h
  | cons first rest ih =>
    rw [stripRight] at h
    split at h
    · split at h
      · contradiction
      · simp_all
    · rcases List.mem_cons.1 h with rfl | h
      · exact List.mem_cons_self ..
      · exact List.mem_cons_of_mem _ (ih h)

theorem mem_of_mem_strip {p : Char → Bool} {c : Char} {t : Text} (h : c ∈ strip p t) : c ∈ t :=
  (List.dropWhile_suffix p).subset (mem_of_mem_stripRight h)

/-- Stripping the back leaves the first character, or nothing. -/
theorem stripRight_cons_cases (p : Char → Bool) (c : Char) (t : Text) :
    stripRight p (c :: t) = [] ∨ ∃ rest, stripRight p (c :: t) = c :: rest := by
  rw [stripRight]
  split
  · split
    · exact .inl rfl
    · exact .inr ⟨[], rfl⟩
  · exact .inr ⟨_, rfl⟩

/-- Cutting into pieces adds nothing. -/
theorem mem_of_mem_split {sep c : Char} {t piece : Text} (h : piece ∈ split sep t)
    (hc : c ∈ piece) : c ∈ t := by
  induction t generalizing piece with
  | nil => simp_all [split]
  | cons first t ih =>
    rw [split] at h
    split at h
    · rcases List.mem_cons.1 h with rfl | h
      · contradiction
      · exact List.mem_cons_of_mem _ (ih h hc)
    · match hs : split sep t with
      | [] => exact absurd hs (split_ne_nil sep t)
      | next :: pieces =>
        rw [hs] at h ih
        rcases List.mem_cons.1 h with rfl | h
        · rcases List.mem_cons.1 hc with rfl | hc
          · exact List.mem_cons_self ..
          · exact List.mem_cons_of_mem _ (ih (List.mem_cons_self ..) hc)
        · exact List.mem_cons_of_mem _ (ih (List.mem_cons_of_mem _ h) hc)

theorem mem_of_mem_lines {c : Char} {t line : Text} (h : line ∈ lines t) (hc : c ∈ line) :
    c ∈ t := by
  unfold lines at h
  dsimp only at h
  split at h
  · exact mem_of_mem_split ((List.dropLast_subset _) h) hc
  · exact mem_of_mem_split h hc

end Text

end Ebrc
