import Ebrc.Proofs.Program.Balance
import Ebrc.Proofs.Program.Nesting

/-!
# Blocks

The blocks of a program, told by the lines between which they stand. A program is well nested if all
its blocks are complete and none has a second else. There the scans find the lines of the block in
which they start: an opening line leads to the else of its block or, without one, to the closing
line, and an else leads to the closing line.
-/

namespace Ebrc

namespace Program

variable {code : Program} {position start middle stop : Nat}

/-! ## Stretches of lines -/

section Stretches

variable {way : Direction} {i : Instruction} {lines front back rest : Program}

theorem balanced_append_iff (first : Balanced way front) :
    Balanced way (front ++ back) ↔ Balanced way back := by
  have whole := first.whole
  constructor
  · intro balanced
    constructor
    · have sum := balanced.whole
      rw [List.countP_append, List.countP_append] at sum
      omega
    · intro n
      have sum := balanced.front (front.length + n)
      rw [List.take_length_add_append, List.countP_append, List.countP_append] at sum
      omega
  · intro balanced
    constructor
    · have sum := balanced.whole
      rw [List.countP_append, List.countP_append]
      omega
    · intro n
      have inFront := first.front n
      have behind := balanced.front (n - front.length)
      rw [List.take_append, List.countP_append, List.countP_append]
      omega

@[simp] theorem balanced_between_cons_iff :
    Balanced way (.between :: rest) ↔ Balanced way rest := by
  rw [← unwinds_zero_iff, ← unwinds_zero_iff]
  apply unwinds_cons_iff
  cases way <;> rfl

theorem not_balanced_cons (leaves : way.leaves i) (stays : way.enters i = false) :
    ¬Balanced way (i :: rest) := by
  intro balanced
  have first := balanced.front 1
  simp [leaves, stays] at first

/-- Lines that are balanced one way are balanced the other way. -/
theorem balanced_reverse (balanced : Balanced way lines) {other : Direction}
    (enters : other.enters = way.leaves) (leaves : other.leaves = way.enters) :
    Balanced other lines.reverse := by
  have whole := balanced.whole
  constructor
  · rw [List.countP_reverse, List.countP_reverse, enters, leaves, whole]
  · intro n
    -- What a scan the other way has passed is what is left to the first one.
    have parts (p : Instruction → Bool) :
        (lines.take (lines.length - n)).countP p + (lines.drop (lines.length - n)).countP p =
          lines.countP p := by
      rw [← List.countP_append, List.take_append_drop]
    have front := balanced.front (lines.length - n)
    have entered := parts way.enters
    have left := parts way.leaves
    rw [List.take_reverse, List.countP_reverse, List.countP_reverse, enters, leaves]
    omega

theorem balanced_reverse_iff : Balanced .backward lines.reverse ↔ Balanced .forward lines := by
  constructor
  · intro balanced
    rw [← List.reverse_reverse lines]
    exact balanced_reverse balanced rfl rfl
  · intro balanced
    exact balanced_reverse balanced rfl rfl

end Stretches

theorem linesBetween_eq_append {i : Instruction} (line : code[middle]? = some i)
    (behind : start < middle) (before : middle < stop) :
    code.linesBetween start stop =
      code.linesBetween start middle ++ i :: code.linesBetween middle stop := by
  obtain ⟨inside, here⟩ := List.getElem?_eq_some_iff.1 line
  have length : middle < (code.take stop).length := by
    rw [List.length_take]
    omega
  have parts : code.take stop = code.take middle ++ i :: code.linesBetween middle stop := by
    rw [← List.take_append_drop middle (code.take stop), List.take_take,
      Nat.min_eq_left (Nat.le_of_lt before), List.drop_eq_getElem_cons length, List.getElem_take,
      here, linesBetween]
  have front : start + 1 ≤ (code.take middle).length := by
    rw [List.length_take]
    omega
  rw [linesBetween, parts, List.drop_append_of_le_length front, ← linesBetween]

/-! ## Blocks and their elses -/

/-- A block stands between its opening line and its closing line. -/
structure IsBlock (code : Program) (start stop : Nat) : Prop where
  lt : start < stop
  opens : ∃ block, code[start]? = some (.opening block)
  closes : code[stop]? = some .closing
  balanced : Balanced .forward (code.linesBetween start stop)

theorem IsBlock.stop_lt_length (block : code.IsBlock start stop) : stop < code.length :=
  (List.getElem?_eq_some_iff.1 block.closes).1

/-- The block that starts at a line has an else. -/
structure HasElse (code : Program) (start middle : Nat) : Prop where
  lt : start < middle
  opens : ∃ block, code[start]? = some (.opening block)
  divides : code[middle]? = some .between
  balanced : Balanced .forward (code.linesBetween start middle)

theorem HasElse.lt_length (divided : code.HasElse start middle) : middle < code.length :=
  (List.getElem?_eq_some_iff.1 divided.divides).1

/-- The lines up to an else say nothing about whether those behind it are balanced. -/
theorem balanced_linesBetween_iff (divides : code[middle]? = some .between)
    (behind : start < middle) (before : middle < stop)
    (balanced : Balanced .forward (code.linesBetween start middle)) :
    Balanced .forward (code.linesBetween start stop) ↔
      Balanced .forward (code.linesBetween middle stop) := by
  rw [linesBetween_eq_append divides behind before, balanced_append_iff balanced,
    balanced_between_cons_iff]

/-- Lines are not balanced any more behind the end of their block. -/
theorem not_balanced_linesBetween (closes : code[middle]? = some .closing)
    (behind : start < middle) (before : middle < stop)
    (balanced : Balanced .forward (code.linesBetween start middle)) :
    ¬Balanced .forward (code.linesBetween start stop) := by
  rw [linesBetween_eq_append closes behind before, balanced_append_iff balanced]
  exact not_balanced_cons rfl rfl

/-- The lines in front of an else are balanced if all lines up to the end are. -/
theorem balanced_of_between (divides : code[middle]? = some .between)
    (behind : start < middle) (before : middle < stop)
    (balanced : Balanced .forward (code.linesBetween middle stop))
    (all : Balanced .forward (code.linesBetween start stop)) :
    Balanced .forward (code.linesBetween start middle) := by
  rw [linesBetween_eq_append divides behind before, ← balanced_reverse_iff, List.reverse_append,
    List.reverse_cons, List.append_assoc,
    balanced_append_iff (balanced_reverse_iff.2 balanced)] at all
  exact balanced_reverse_iff.1 (balanced_between_cons_iff.1 all)

/-- Lines are not balanced yet before the start of their block. -/
theorem not_balanced_of_opening {block : Block} (opens : code[middle]? = some (.opening block))
    (behind : start < middle) (before : middle < stop)
    (balanced : Balanced .forward (code.linesBetween middle stop)) :
    ¬Balanced .forward (code.linesBetween start stop) := by
  rw [linesBetween_eq_append opens behind before, ← balanced_reverse_iff, List.reverse_append,
    List.reverse_cons, List.append_assoc,
    balanced_append_iff (balanced_reverse_iff.2 balanced)]
  exact not_balanced_cons rfl rfl

instance (way : Direction) (lines : Program) : Decidable (Balanced way lines) :=
  decidable_of_iff (lines.countP way.enters = lines.countP way.leaves ∧
    ∀ n ≤ lines.length, (lines.take n).countP way.leaves ≤ (lines.take n).countP way.enters) <| by
    constructor
    · rintro ⟨whole, front⟩
      refine ⟨whole, fun n => ?_⟩
      rcases Nat.le_total n lines.length with within | past
      · exact front n within
      · rw [List.take_of_length_le past, whole]
    · rintro ⟨whole, front⟩
      exact ⟨whole, fun n _ => front n⟩

instance (code : Program) (start middle : Nat) : Decidable (code.HasElse start middle) :=
  decidable_of_iff (start < middle ∧ (code[start]?.any Instruction.isOpening) ∧
    code[middle]? = some .between ∧ Balanced .forward (code.linesBetween start middle)) <| by
    have opens_iff : code[start]?.any Instruction.isOpening ↔
        ∃ block, code[start]? = some (.opening block) := by
      cases code[start]? with
      | none => simp
      | some i => cases i <;> simp [Instruction.isOpening]
    rw [opens_iff]
    exact ⟨fun ⟨lt, opens, divides, balanced⟩ => ⟨lt, opens, divides, balanced⟩,
      fun ⟨lt, opens, divides, balanced⟩ => ⟨lt, opens, divides, balanced⟩⟩

/-! ## Well nested programs -/

/-- All blocks are complete, and none has a second else. -/
structure WellNested (code : Program) : Prop where
  nested : code.Nested
  oneElse : ∀ {start first second}, code.HasElse start first → code.HasElse start second →
    first = second

instance (code : Program) : Decidable code.WellNested :=
  decidable_of_iff (code.Nested ∧ ∀ start < code.length, ∀ first < code.length,
    code.HasElse start first → ∀ second < code.length, code.HasElse start second →
      first = second) <| by
    constructor
    · rintro ⟨nested, oneElse⟩
      refine ⟨nested, fun {start first second} divided divided' => ?_⟩
      exact oneElse start (Nat.lt_trans divided.lt divided.lt_length) first divided.lt_length
        divided second divided'.lt_length divided'
    · rintro ⟨nested, oneElse⟩
      exact ⟨nested, fun _ _ _ _ divided _ _ divided' => oneElse divided divided'⟩

/-- A block that is open behind a position is closed. -/
theorem Nested.exists_closing (nested : code.Nested) (position : Nat) {depth : Nat}
    (inside : code.depth? (position + 1) = some (depth + 1)) :
    ∃ stop, position < stop ∧ code[stop]? = some .closing ∧
      Balanced .forward (code.linesBetween position stop) := by
  obtain ⟨found, scanned, -, level, mark⟩ := nested.exists_blockEnd inside
  have ends := (blockEnd?_eq_some_iff.1 scanned).1
  have behind := ends.behind
  rcases mark with closes | divides
  · exact ⟨found, behind, closes, ends.balanced⟩
  · -- Behind an else the block goes on.
    have inBlock : found < code.length := (List.getElem?_eq_some_iff.1 divides).1
    have further : code.depth? (found + 1) = some (depth + 1) := by
      rw [depth?_succ divides, level]
      rfl
    obtain ⟨stop, later, closes, balanced⟩ := nested.exists_closing found further
    refine ⟨stop, Nat.lt_trans behind later, closes, ?_⟩
    exact (balanced_linesBetween_iff divides behind later ends.balanced).2 balanced
termination_by code.length - position

/-- A block that is open at a position has been opened. -/
theorem exists_opening (position : Nat) {depth : Nat}
    (inside : code.depth? position = some (depth + 1)) (within : position ≤ code.length) :
    ∃ start < position, (∃ block, code[start]? = some (.opening block)) ∧
      Balanced .forward (code.linesBetween start position) := by
  obtain ⟨found, scanned, before, level, -⟩ := exists_blockStart inside within
  have starts := ((blockStart?_eq_some_iff within).1 scanned).1
  have balanced := balanced_reverse_iff.1 starts.balanced
  rcases starts.mark with opens | divides
  · exact ⟨found, before, opens, balanced⟩
  · -- Before an else the block was open already.
    rw [depth?_succ divides, Option.bind_eq_some_iff] at level
    obtain ⟨outer, above, step⟩ := level
    have same : outer = depth + 1 := by
      cases outer with
      | zero => cases step
      | succ outer =>
          cases step
          rfl
    rw [same] at above
    obtain ⟨start, earlier, opens, front⟩ := exists_opening found above (by omega)
    refine ⟨start, Nat.lt_trans earlier before, opens, ?_⟩
    exact (balanced_linesBetween_iff divides earlier before front).2 balanced
termination_by position

/-- Every opening line opens a block. -/
theorem Nested.exists_stop (nested : code.Nested) {block : Block}
    (opens : code[start]? = some (.opening block)) : ∃ stop, code.IsBlock start stop := by
  obtain ⟨depth, level⟩ := nested.exists_depth start
  have inside : code.depth? (start + 1) = some (depth + 1) := by
    rw [depth?_succ opens, level]
    rfl
  obtain ⟨stop, lt, closes, balanced⟩ := nested.exists_closing start inside
  exact ⟨stop, lt, ⟨block, opens⟩, closes, balanced⟩

/-- Every closing line closes a block. -/
theorem Nested.exists_start (nested : code.Nested) (closes : code[stop]? = some .closing) :
    ∃ start, code.IsBlock start stop := by
  obtain ⟨level, here⟩ := nested.exists_depth stop
  obtain ⟨depth, rfl⟩ := nested.inside closes (.inl rfl) here
  have within : stop ≤ code.length := Nat.le_of_lt (List.getElem?_eq_some_iff.1 closes).1
  obtain ⟨start, lt, opens, balanced⟩ := exists_opening _ here within
  exact ⟨start, lt, opens, closes, balanced⟩

/-- Every else is that of a block. -/
theorem Nested.exists_hasElse (nested : code.Nested) (divides : code[middle]? = some .between) :
    ∃ start, code.HasElse start middle := by
  obtain ⟨level, here⟩ := nested.exists_depth middle
  obtain ⟨depth, rfl⟩ := nested.inside divides (.inr rfl) here
  have within : middle ≤ code.length := Nat.le_of_lt (List.getElem?_eq_some_iff.1 divides).1
  obtain ⟨start, lt, opens, balanced⟩ := exists_opening _ here within
  exact ⟨start, lt, opens, divides, balanced⟩

/-! ## Where scans lead from the lines of a block -/

/-- An else stands in its block. -/
theorem HasElse.lt_stop (divided : code.HasElse start middle) (block : code.IsBlock start stop) :
    middle < stop := by
  rcases Nat.lt_trichotomy middle stop with before | same | behind
  · exact before
  · have closes := block.closes
    rw [← same, divided.divides] at closes
    cases closes
  · exact absurd divided.balanced
      (not_balanced_linesBetween block.closes block.lt behind block.balanced)

/-- From an opening line a scan leads to the else of its block. -/
theorem WellNested.blockEnd?_opening (wellNested : code.WellNested)
    (divided : code.HasElse start middle) : code.blockEnd? (start + 1) = some middle := by
  rw [blockEnd?_eq_some_iff]
  refine ⟨⟨divided.lt, .inr divided.divides, divided.balanced⟩, fun other may => ?_⟩
  rcases may.mark with closes | divides
  · refine Nat.le_of_not_lt fun before => ?_
    exact not_balanced_linesBetween closes may.behind before may.balanced divided.balanced
  · have divided' : code.HasElse start other := ⟨may.behind, divided.opens, divides, may.balanced⟩
    exact Nat.le_of_eq (wellNested.oneElse divided divided')

/-- From an else a scan leads to the closing line of its block. -/
theorem WellNested.blockEnd?_else (wellNested : code.WellNested)
    (divided : code.HasElse start middle) (block : code.IsBlock start stop) :
    code.blockEnd? (middle + 1) = some stop := by
  have before := divided.lt_stop block
  have lines (other : Nat) (behind : middle < other) :=
    balanced_linesBetween_iff divided.divides divided.lt behind divided.balanced
  rw [blockEnd?_eq_some_iff]
  refine ⟨⟨before, .inl block.closes, (lines stop before).1 block.balanced⟩, fun other may => ?_⟩
  have behind := may.behind
  have balanced := (lines other behind).2 may.balanced
  have later : start < other := Nat.lt_trans divided.lt behind
  rcases may.mark with closes | divides
  · refine Nat.le_of_not_lt fun earlier => ?_
    exact not_balanced_linesBetween closes later earlier balanced block.balanced
  · have same := wellNested.oneElse divided ⟨later, divided.opens, divides, balanced⟩
    omega

/-- From the opening line of a block without an else a scan leads to its closing line. -/
theorem IsBlock.blockEnd?_opening (block : code.IsBlock start stop)
    (undivided : ∀ middle, ¬code.HasElse start middle) :
    code.blockEnd? (start + 1) = some stop := by
  rw [blockEnd?_eq_some_iff]
  refine ⟨⟨block.lt, .inl block.closes, block.balanced⟩, fun other may => ?_⟩
  rcases may.mark with closes | divides
  · refine Nat.le_of_not_lt fun earlier => ?_
    exact not_balanced_linesBetween closes may.behind earlier may.balanced block.balanced
  · exact absurd ⟨may.behind, block.opens, divides, may.balanced⟩ (undivided other)

/-- From the closing line of a block without an else a scan leads back to its opening line. -/
theorem IsBlock.blockStart?_closing (block : code.IsBlock start stop)
    (undivided : ∀ middle, ¬code.HasElse start middle) :
    code.blockStart? stop = some start := by
  rw [blockStart?_eq_some_iff (Nat.le_of_lt block.stop_lt_length)]
  refine ⟨⟨block.lt, .inl block.opens, balanced_reverse_iff.2 block.balanced⟩,
    fun other may => Nat.le_of_not_lt fun later => ?_⟩
  have balanced := balanced_reverse_iff.1 may.balanced
  rcases may.mark with ⟨inner, opens⟩ | divides
  · exact not_balanced_of_opening opens later may.before balanced block.balanced
  · have front := balanced_of_between divides later may.before balanced block.balanced
    exact undivided other ⟨later, block.opens, divides, front⟩

end Program

end Ebrc
