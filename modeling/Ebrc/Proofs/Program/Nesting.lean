import Ebrc.Program

/-!
# Nesting

How many blocks are open at a line of a program. In a nested program no closing line or else stands
outside of all blocks, and no block is left open at the end. There the scan for the other end of a
block always finds one, and it finds it on the level on which it starts. An if may have any number
of elses here: the scan stops at the first one.
-/

namespace Ebrc

/-- How many blocks are open behind a line, from how many are open before it. A closing line or an
else needs an open block. -/
def Instruction.nest? : Instruction → Nat → Option Nat
  | literal _, nest => some nest
  | opening _, nest => some (nest + 1)
  | closing, nest + 1 => some nest
  | between, nest + 1 => some (nest + 1)
  | closing, 0 | between, 0 => none

namespace Program

/-- How many blocks are open behind some lines, from how many are open before them. -/
def nest? (code : Program) (nest : Nat) : Option Nat :=
  code.foldlM (fun nest i => i.nest? nest) nest

/-- How many blocks are open at a position. -/
def depth? (code : Program) (position : Nat) : Option Nat := nest? (code.take position) 0

/-- Every closing line and every else stands in a block, and every block is closed. -/
def Nested (code : Program) : Prop := code.nest? 0 = some 0

instance (code : Program) : Decidable code.Nested := inferInstanceAs (Decidable (_ = _))

@[simp] theorem nest?_nil (nest : Nat) : nest? [] nest = some nest := rfl

@[simp] theorem nest?_cons (i : Instruction) (rest : Program) (nest : Nat) :
    nest? (i :: rest) nest = (i.nest? nest).bind rest.nest? := by
  simp [nest?, List.foldlM_cons]
  rfl

@[simp] theorem nest?_append (first second : Program) (nest : Nat) :
    nest? (first ++ second) nest = (first.nest? nest).bind second.nest? := by
  simp [nest?, List.foldlM_append]
  rfl

/-! ## Scans -/

/-- A forward scan inside blocks that are closed later on stops at a closing line or an else of
the level it starts on. -/
theorem scan_forward {rest : Program} {nest depth final : Nat}
    (closes : rest.nest? (depth + 1 + nest) = some final) (lower : final ≤ depth) :
    ∃ stop, scan Instruction.isOpening Instruction.isClosing nest rest = some stop ∧
      nest? (rest.take stop) (depth + 1 + nest) = some (depth + 1) ∧
      (rest[stop]? = some .closing ∨ rest[stop]? = some .between) := by
  induction rest generalizing nest with
  | nil =>
      simp only [nest?_nil, Option.some.injEq] at closes
      omega
  | cons i rest ih =>
      -- A line that does not stop the scan leaves the rest to it, one level up, down or the same.
      have further {nest' : Nat}
          (scanned : scan Instruction.isOpening Instruction.isClosing nest (i :: rest) =
            (scan Instruction.isOpening Instruction.isClosing nest' rest).map (· + 1))
          (nested : i.nest? (depth + 1 + nest) = some (depth + 1 + nest')) :
          ∃ stop, scan Instruction.isOpening Instruction.isClosing nest (i :: rest) = some stop ∧
            nest? ((i :: rest).take stop) (depth + 1 + nest) = some (depth + 1) ∧
            ((i :: rest)[stop]? = some .closing ∨ (i :: rest)[stop]? = some .between) := by
        rw [nest?_cons, nested] at closes
        obtain ⟨stop, found, level, mark⟩ := ih closes
        refine ⟨stop + 1, ?_, ?_, ?_⟩
        · rw [scanned, found]
          rfl
        · rw [List.take_succ_cons, nest?_cons, nested]
          exact level
        · simpa using mark
      cases i with
      | literal template => exact further rfl rfl
      | opening block => exact further rfl rfl
      | closing =>
          cases nest with
          | zero => exact ⟨0, rfl, rfl, .inl rfl⟩
          | succ nest => exact further rfl rfl
      | between =>
          cases nest with
          | zero => exact ⟨0, rfl, rfl, .inr rfl⟩
          | succ nest => exact further rfl rfl

/-- A backward scan, over lines of which the last comes first, stops at the opening line or else
that starts the block of the level it starts on. It does not pass over a line outside of the
block. -/
theorem scan_backward {before : Program} {nest depth : Nat}
    (level : nest? before.reverse 0 = some (depth + 1 + nest)) :
    ∃ back, scan Instruction.isClosing Instruction.isOpening nest before = some back ∧
      back < before.length ∧ nest? (before.drop back).reverse 0 = some (depth + 1) ∧
      ∀ k ≤ back, ∀ outer ≤ depth, nest? (before.drop k).reverse 0 ≠ some outer := by
  induction before generalizing nest with
  | nil =>
      simp only [List.reverse_nil, nest?_nil, Option.some.injEq] at level
      omega
  | cons i rest ih =>
      have here : ∀ outer ≤ depth, nest? (i :: rest).reverse 0 ≠ some outer := by
        intro outer shallow same
        rw [level, Option.some.injEq] at same
        omega
      have stops (scanned : scan Instruction.isClosing Instruction.isOpening nest (i :: rest) =
            some 0) (outermost : nest = 0) :
          ∃ back, scan Instruction.isClosing Instruction.isOpening nest (i :: rest) = some back ∧
            back < (i :: rest).length ∧
            nest? ((i :: rest).drop back).reverse 0 = some (depth + 1) ∧
            ∀ k ≤ back, ∀ outer ≤ depth, nest? ((i :: rest).drop k).reverse 0 ≠ some outer := by
        refine ⟨0, scanned, Nat.succ_pos _, ?_, ?_⟩
        · rw [List.drop_zero, level, outermost]
        · intro k first
          rw [Nat.le_zero.1 first]
          exact here
      -- A line that does not stop the scan leaves the rest to it, one level up, down or the same.
      have further {nest' : Nat}
          (scanned : scan Instruction.isClosing Instruction.isOpening nest (i :: rest) =
            (scan Instruction.isClosing Instruction.isOpening nest' rest).map (· + 1))
          (above : nest? rest.reverse 0 = some (depth + 1 + nest')) :
          ∃ back, scan Instruction.isClosing Instruction.isOpening nest (i :: rest) = some back ∧
            back < (i :: rest).length ∧
            nest? ((i :: rest).drop back).reverse 0 = some (depth + 1) ∧
            ∀ k ≤ back, ∀ outer ≤ depth, nest? ((i :: rest).drop k).reverse 0 ≠ some outer := by
        obtain ⟨back, found, inside, start, passed⟩ := ih above
        refine ⟨back + 1, ?_, Nat.succ_lt_succ inside, start, ?_⟩
        · rw [scanned, found]
          rfl
        · intro k near
          cases k with
          | zero => exact here
          | succ k => exact passed k (Nat.le_of_succ_le_succ near)
      rw [List.reverse_cons, nest?_append, Option.bind_eq_some_iff] at level
      obtain ⟨above, before, step⟩ := level
      rw [nest?_cons, Option.bind_eq_some_iff] at step
      obtain ⟨here', moved, same⟩ := step
      cases same
      cases i with
      | literal template =>
          cases moved
          exact further rfl before
      | opening block =>
          cases nest with
          | zero => exact stops rfl rfl
          | succ nest =>
              cases moved
              exact further rfl before
      | closing =>
          cases above with
          | zero => simp [Instruction.nest?] at moved
          | succ above =>
              cases moved
              exact further rfl before
      | between =>
          cases above with
          | zero => simp [Instruction.nest?] at moved
          | succ above =>
              simp only [Instruction.nest?, Option.some.injEq] at moved
              cases nest with
              | zero => exact stops rfl rfl
              | succ nest => exact further rfl (by rw [before, moved])

/-! ## Blocks at a position -/

variable {code : Program} {position start stop depth : Nat}

/-- The depth behind a line, from the depth before it. -/
theorem depth?_succ {i : Instruction} (line : code[position]? = some i) :
    code.depth? (position + 1) = (code.depth? position).bind i.nest? := by
  have single : nest? [i] = i.nest? := by
    funext nest
    rw [nest?_cons]
    exact Option.bind_fun_some _
  rw [depth?, List.take_add_one, line, Option.toList_some, nest?_append, single, depth?]

/-- Every position of a nested program has a depth. -/
theorem Nested.exists_depth (nested : code.Nested) (position : Nat) :
    ∃ depth, code.depth? position = some depth := by
  have whole : nest? (code.take position ++ code.drop position) 0 = some 0 := by
    rw [List.take_append_drop]
    exact nested
  rw [nest?_append, Option.bind_eq_some_iff] at whole
  obtain ⟨depth, level, -⟩ := whole
  exact ⟨depth, level⟩

/-- A line that ends a block or a branch stands in a block. -/
theorem Nested.inside {i : Instruction} (nested : code.Nested)
    (line : code[position]? = some i) (ends : i = .closing ∨ i = .between)
    {level : Nat} (here : code.depth? position = some level) : ∃ depth, level = depth + 1 := by
  obtain ⟨behind, after⟩ := nested.exists_depth (position + 1)
  rw [depth?_succ line, here] at after
  cases level with
  | zero => rcases ends with rfl | rfl <;> simp [Instruction.nest?] at after
  | succ depth => exact ⟨depth, rfl⟩

/-- Nothing is open at the end of a nested program, nor behind it. -/
theorem Nested.depth?_end (nested : code.Nested) (past : code.length ≤ position) :
    code.depth? position = some 0 := by
  rw [depth?, List.take_of_length_le past]
  exact nested

/-- The block that a position lies in has an end. -/
theorem Nested.exists_blockEnd (nested : code.Nested)
    (inside : code.depth? start = some (depth + 1)) :
    ∃ stop, code.blockEnd? start = some stop ∧ start ≤ stop ∧
      code.depth? stop = some (depth + 1) ∧
      (code[stop]? = some .closing ∨ code[stop]? = some .between) := by
  have closes : nest? (code.drop start) (depth + 1 + 0) = some 0 := by
    have whole : nest? (code.take start ++ code.drop start) 0 = some 0 := by
      rw [List.take_append_drop]
      exact nested
    rw [nest?_append] at whole
    unfold depth? at inside
    rwa [inside] at whole
  obtain ⟨length, found, level, mark⟩ := scan_forward closes (Nat.zero_le depth)
  refine ⟨start + length, ?_, Nat.le_add_right start length, ?_, ?_⟩
  · rw [blockEnd?, found]
    rfl
  · unfold depth? at inside ⊢
    rw [List.take_add, nest?_append, inside]
    exact level
  · simpa [List.getElem?_drop] using mark

/-- The block that a position lies in has a start. Everything from there on to the position lies in
it too. -/
theorem exists_blockStart (inside : code.depth? stop = some (depth + 1))
    (within : stop ≤ code.length) :
    ∃ start, code.blockStart? stop = some start ∧ start < stop ∧
      code.depth? (start + 1) = some (depth + 1) ∧
      ∀ position < stop, ∀ outer ≤ depth, code.depth? position = some outer →
        position ≤ start := by
  have length : (code.take stop).reverse.length = stop := by
    rw [List.length_reverse, List.length_take, Nat.min_eq_left within]
  have upTo (k : Nat) : nest? (((code.take stop).reverse.drop k).reverse) 0 =
      code.depth? (stop - k) := by
    rw [List.drop_reverse, List.reverse_reverse, List.take_take, List.length_take,
      Nat.min_eq_left within, Nat.min_eq_left (Nat.sub_le stop k), depth?]
  have level : nest? (code.take stop).reverse.reverse 0 = some (depth + 1 + 0) := by
    rw [List.reverse_reverse]
    exact inside
  obtain ⟨back, found, near, start, passed⟩ := scan_backward level
  rw [length] at near
  refine ⟨stop - 1 - back, ?_, by omega, ?_, ?_⟩
  · rw [blockStart?, found]
    rfl
  · rw [← start, upTo]
    congr 1
    omega
  · intro position before outer shallow there
    refine Nat.le_of_not_lt fun later => ?_
    have missed := passed (stop - position) (by omega) outer shallow
    rw [upTo, Nat.sub_sub_self (Nat.le_of_lt before)] at missed
    exact missed there

end Program

end Ebrc
