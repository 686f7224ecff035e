import Ebrc.Proofs.Program.Blocks

/-!
# The blocks around a position

Going through a program from its first line, the blocks that have been opened and not been closed
are kept in a list. In a nested program these are the blocks that the position lies in, and the
same ones are open at both ends of balanced lines. Inside of a block a scan does not fail.
-/

namespace Ebrc

namespace Program

variable {code : Program} {position start stop : Nat}

/-- The opening lines of the blocks that have been opened before a position and not been closed
there, the innermost first. -/
def openAt (code : Program) : Nat → List Nat
  | 0 => []
  | position + 1 =>
    match code[position]? with
    | some (.opening _) => position :: code.openAt position
    | some .closing => (code.openAt position).tail
    | _ => code.openAt position

theorem openAt_succ_of_opening {block : Block} (line : code[position]? = some (.opening block)) :
    code.openAt (position + 1) = position :: code.openAt position := by
  rw [openAt, line]

theorem openAt_succ_of_closing (line : code[position]? = some .closing) :
    code.openAt (position + 1) = (code.openAt position).tail := by
  rw [openAt, line]

theorem openAt_succ_of_between (line : code[position]? = some .between) :
    code.openAt (position + 1) = code.openAt position := by
  rw [openAt, line]

theorem openAt_succ_of_literal {template : Text}
    (line : code[position]? = some (.literal template)) :
    code.openAt (position + 1) = code.openAt position := by
  rw [openAt, line]

theorem openAt_succ_of_none (past : code[position]? = none) :
    code.openAt (position + 1) = code.openAt position := by
  rw [openAt, past]

/-- As many blocks are open as are counted. -/
theorem Nested.depth?_eq (nested : code.Nested) (position : Nat) :
    code.depth? position = some (code.openAt position).length := by
  induction position with
  | zero => rfl
  | succ position ih =>
      cases line : code[position]? with
      | none =>
          have past : code.length ≤ position := List.getElem?_eq_none_iff.1 line
          rw [openAt_succ_of_none line, ← ih, nested.depth?_end past,
            nested.depth?_end (Nat.le_succ_of_le past)]
      | some i =>
          rw [depth?_succ line, ih, Option.bind_some]
          cases i with
          | literal template => rw [openAt_succ_of_literal line]; rfl
          | opening block => rw [openAt_succ_of_opening line]; rfl
          | closing =>
              obtain ⟨depth, some_open⟩ := nested.inside line (.inl rfl) ih
              rw [openAt_succ_of_closing line, List.length_tail, some_open]
              rfl
          | between =>
              obtain ⟨depth, some_open⟩ := nested.inside line (.inr rfl) ih
              rw [openAt_succ_of_between line, some_open]
              rfl

/-- Lines that never close more blocks than they have opened leave those open that were open in
front of them, and some of their own. -/
theorem exists_openAt_add {n : Nat}
    (front : ∀ k ≤ n, ((code.drop position).take k).countP Instruction.isClosing ≤
      ((code.drop position).take k).countP Instruction.isOpening) :
    ∃ inner, code.openAt (position + n) = inner ++ code.openAt position ∧
      inner.length + ((code.drop position).take n).countP Instruction.isClosing =
        ((code.drop position).take n).countP Instruction.isOpening := by
  induction n with
  | zero => exact ⟨[], rfl, rfl⟩
  | succ n ih =>
      obtain ⟨inner, opened, count⟩ := ih fun k before => front k (Nat.le_succ_of_le before)
      have last := front (n + 1) (Nat.le_refl _)
      rw [List.take_add_one, List.getElem?_drop, List.countP_append, List.countP_append] at last ⊢
      rw [← Nat.add_assoc]
      cases line : code[position + n]? with
      | none =>
          refine ⟨inner, ?_, by simpa using count⟩
          rw [openAt_succ_of_none line, opened]
      | some i =>
          rw [line] at last
          cases i with
          | literal template =>
              refine ⟨inner, ?_, ?_⟩
              · rw [openAt_succ_of_literal line, opened]
              · simpa [Instruction.isClosing, Instruction.isOpening] using count
          | between =>
              refine ⟨inner, ?_, ?_⟩
              · rw [openAt_succ_of_between line, opened]
              · simpa [Instruction.isClosing, Instruction.isOpening] using count
          | opening block =>
              refine ⟨(position + n) :: inner, ?_, ?_⟩
              · rw [openAt_succ_of_opening line, opened]
                rfl
              · simp [Instruction.isClosing, Instruction.isOpening]
                omega
          | closing =>
              simp [Instruction.isClosing, Instruction.isOpening] at last
              cases inner with
              | nil =>
                  simp at count
                  omega
              | cons innermost inner =>
                  refine ⟨inner, ?_, ?_⟩
                  · rw [openAt_succ_of_closing line, opened]
                    rfl
                  · simp [Instruction.isClosing, Instruction.isOpening] at count ⊢
                    omega

/-- Between balanced lines more blocks may be open than in front of them, but not fewer. -/
theorem exists_openAt_of_balanced (behind : start < position) (before : position ≤ stop)
    (balanced : Balanced .forward (code.linesBetween start stop)) :
    ∃ inner, code.openAt position = inner ++ code.openAt (start + 1) ∧
      inner.length + (code.linesBetween start position).countP Instruction.isClosing =
        (code.linesBetween start position).countP Instruction.isOpening := by
  obtain ⟨n, rfl⟩ := Nat.exists_eq_add_of_le (Nat.succ_le_of_lt behind)
  have lines : code.linesBetween start (start + 1 + n) = (code.drop (start + 1)).take n := by
    rw [linesBetween, List.drop_take, Nat.add_sub_cancel_left]
  rw [Nat.succ_eq_add_one, lines]
  refine exists_openAt_add fun k near => ?_
  have front := balanced.front k
  rwa [linesBetween, List.drop_take, List.take_take, Nat.min_eq_left (by omega)] at front

/-- Behind balanced lines the same blocks are open as in front of them. -/
theorem openAt_eq_of_balanced (lt : start < stop)
    (balanced : Balanced .forward (code.linesBetween start stop)) :
    code.openAt stop = code.openAt (start + 1) := by
  obtain ⟨inner, opened, count⟩ := exists_openAt_of_balanced lt (Nat.le_refl stop) balanced
  have whole := balanced.whole
  have none_left : inner = [] := by
    refine List.length_eq_zero_iff.1 ?_
    simp only [Direction.enters, Direction.leaves] at whole
    omega
  rw [opened, none_left, List.nil_append]

/-- A line opens a block, or nothing is open behind it that was not open before. -/
theorem openAt_succ_cases (code : Program) (position : Nat) :
    (code.openAt (position + 1)).Sublist (code.openAt position) ∨
      ∃ block, code[position]? = some (.opening block) ∧
        code.openAt (position + 1) = position :: code.openAt position := by
  have same (stays : code.openAt (position + 1) = code.openAt position) :
      (code.openAt (position + 1)).Sublist (code.openAt position) :=
    stays ▸ .refl _
  cases line : code[position]? with
  | none => exact .inl (same (openAt_succ_of_none line))
  | some i =>
      cases i with
      | literal template => exact .inl (same (openAt_succ_of_literal line))
      | between => exact .inl (same (openAt_succ_of_between line))
      | closing =>
          rw [openAt_succ_of_closing line]
          exact .inl (List.tail_sublist _)
      | opening block => exact .inr ⟨block, rfl, openAt_succ_of_opening line⟩

theorem openAt_lt_and_opens (open_there : start ∈ code.openAt position) :
    start < position ∧ ∃ block, code[start]? = some (.opening block) := by
  induction position with
  | zero => cases open_there
  | succ position ih =>
      have earlier (open_before : start ∈ code.openAt position) :
          start < position + 1 ∧ ∃ block, code[start]? = some (.opening block) := by
        obtain ⟨lt, opens⟩ := ih open_before
        exact ⟨Nat.lt_succ_of_lt lt, opens⟩
      rcases code.openAt_succ_cases position with fewer | ⟨block, opens, opened⟩
      · exact earlier (fewer.subset open_there)
      · rw [opened, List.mem_cons] at open_there
        rcases open_there with rfl | open_before
        · exact ⟨Nat.lt_succ_self _, block, opens⟩
        · exact earlier open_before

/-- What is open has been open before or has been opened since. -/
theorem mem_openAt_of_add {n : Nat} (open_there : start ∈ code.openAt (position + n)) :
    start ∈ code.openAt position ∨ position ≤ start := by
  induction n with
  | zero => exact .inl open_there
  | succ n ih =>
      rw [← Nat.add_assoc] at open_there
      rcases code.openAt_succ_cases (position + n) with fewer | ⟨block, -, opened⟩
      · exact ih (fewer.subset open_there)
      · rw [opened, List.mem_cons] at open_there
        rcases open_there with rfl | open_before
        · exact .inr (Nat.le_add_right position n)
        · exact ih open_before

/-- The innermost block is the one opened last. -/
theorem pairwise_openAt (code : Program) (position : Nat) :
    (code.openAt position).Pairwise (· > ·) := by
  induction position with
  | zero => exact .nil
  | succ position ih =>
      rcases code.openAt_succ_cases position with fewer | ⟨block, -, opened⟩
      · exact ih.sublist fewer
      · rw [opened, List.pairwise_cons]
        exact ⟨fun start open_there => (openAt_lt_and_opens open_there).1, ih⟩

/-- A position lies in a block from behind its opening line up to its closing line. -/
structure Encloses (code : Program) (start position : Nat) : Prop where
  behind : start < position
  within : ∃ stop ≥ position, code.IsBlock start stop

theorem IsBlock.openAt_stop (block : code.IsBlock start stop) :
    code.openAt (stop + 1) = code.openAt start := by
  obtain ⟨kind, opens⟩ := block.opens
  rw [openAt_succ_of_closing block.closes, openAt_eq_of_balanced block.lt block.balanced,
    openAt_succ_of_opening opens, List.tail_cons]

theorem Encloses.mem_openAt (encloses : code.Encloses start position) :
    start ∈ code.openAt position := by
  obtain ⟨behind, stop, before, block⟩ := encloses
  obtain ⟨kind, opens⟩ := block.opens
  obtain ⟨inner, opened, -⟩ := exists_openAt_of_balanced behind before block.balanced
  rw [opened, openAt_succ_of_opening opens]
  exact List.mem_append_right inner (List.mem_cons_self ..)

/-- The blocks that are open at a position are those that it lies in. -/
theorem Nested.mem_openAt_iff (nested : code.Nested) :
    start ∈ code.openAt position ↔ code.Encloses start position := by
  constructor
  · intro open_there
    obtain ⟨behind, kind, opens⟩ := openAt_lt_and_opens open_there
    obtain ⟨stop, block⟩ := nested.exists_stop opens
    refine ⟨behind, stop, Nat.le_of_not_lt fun past => ?_, block⟩
    -- Behind its closing line a block is open no more.
    obtain ⟨n, rfl⟩ := Nat.exists_eq_add_of_le (Nat.succ_le_of_lt past)
    have lt := block.lt
    rcases mem_openAt_of_add open_there with before | since
    · rw [Nat.succ_eq_add_one, block.openAt_stop] at before
      exact Nat.lt_irrefl start (openAt_lt_and_opens before).1
    · omega
  · exact Encloses.mem_openAt

/-- Inside a block the depth is positive. -/
theorem Nested.depth?_of_encloses (nested : code.Nested) (encloses : code.Encloses start position) :
    ∃ depth, code.depth? position = some (depth + 1) := by
  have positive := List.length_pos_of_mem encloses.mem_openAt
  obtain ⟨depth, same⟩ := Nat.exists_eq_add_of_lt positive
  exact ⟨depth, by rw [nested.depth?_eq, same, Nat.zero_add]⟩

/-- Nothing is open at the end. -/
theorem Nested.openAt_end (nested : code.Nested) (past : code.length ≤ position) :
    code.openAt position = [] := by
  have outside := nested.depth?_end past
  rw [nested.depth?_eq, Option.some.injEq] at outside
  exact List.length_eq_zero_iff.1 outside

end Program

end Ebrc
