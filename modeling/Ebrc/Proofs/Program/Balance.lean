import Ebrc.Program
import Mathlib.Data.Nat.Find
import Mathlib.Order.Bounds.Defs

/-!
# Where a scan ends

The scan for the other end of a block counts the blocks that it goes into against those that it
comes out of, whichever way it goes. Here is what it finds, said without a counter: of the lines
that could end the scan, the nearest one with balanced lines in front of it. Lines are balanced if
every block that is gone into is come out of again, and no other block. The scan fails if there is
no such line. All this holds of any sequence of lines, whether its blocks have ends or not.
-/

namespace Ebrc

namespace Direction

/-- Does a scan that goes this way go into a block at the line? -/
def enters : Direction → Instruction → Bool
  | forward => Instruction.isOpening
  | backward => Instruction.isClosing

/-- Does a scan that goes this way come out of a block at the line? -/
def leaves : Direction → Instruction → Bool
  | forward => Instruction.isClosing
  | backward => Instruction.isOpening

/-- What a line is to a scan. -/
inductive Sees (way : Direction) (i : Instruction) : Prop where
  | between (mark : i.isBetween) (enters : way.enters i = false) (leaves : way.leaves i = false)
  | entry (mark : i.isBetween = false) (enters : way.enters i) (leaves : way.leaves i = false)
  | exit (mark : i.isBetween = false) (enters : way.enters i = false) (leaves : way.leaves i)
  | other (mark : i.isBetween = false) (enters : way.enters i = false)
      (leaves : way.leaves i = false)

theorem sees (way : Direction) (i : Instruction) : way.Sees i := by
  cases i with
  | literal template => cases way <;> exact .other rfl rfl rfl
  | between => cases way <;> exact .between rfl rfl rfl
  | opening block =>
      cases way with
      | forward => exact .entry rfl rfl rfl
      | backward => exact .exit rfl rfl rfl
  | closing =>
      cases way with
      | forward => exact .exit rfl rfl rfl
      | backward => exact .entry rfl rfl rfl

end Direction

namespace Program

variable {way : Direction} {i : Instruction} {lines rest : Program} {nest n : Nat}

/-! ## Balanced lines -/

/-- As many blocks are entered as are left, and at no point have more been left than entered. -/
structure Balanced (way : Direction) (lines : Program) : Prop where
  whole : lines.countP way.enters = lines.countP way.leaves
  front : ∀ n, (lines.take n).countP way.leaves ≤ (lines.take n).countP way.enters

/-- The same for a scan that has a number of blocks open in front of the lines, and comes out of
these on its way as well. -/
structure Unwinds (way : Direction) (nest : Nat) (lines : Program) : Prop where
  whole : nest + lines.countP way.enters = lines.countP way.leaves
  front : ∀ n, (lines.take n).countP way.leaves ≤ nest + (lines.take n).countP way.enters

theorem unwinds_zero_iff : Unwinds way 0 lines ↔ Balanced way lines := by
  constructor
  · intro unwinds
    exact ⟨by simpa using unwinds.whole, fun n => by simpa using unwinds.front n⟩
  · intro balanced
    exact ⟨by simpa using balanced.whole, fun n => by simpa using balanced.front n⟩

@[simp] theorem unwinds_nil_iff : Unwinds way nest [] ↔ nest = 0 := by
  constructor
  · intro unwinds
    simpa using unwinds.whole
  · rintro rfl
    exact ⟨rfl, by simp⟩

theorem countP_cons_eq_add (p : Instruction → Bool) (i : Instruction) (rest : Program) :
    (i :: rest).countP p = [i].countP p + rest.countP p := by
  rw [← List.countP_append]
  rfl

/-- A first line that leaves a number of blocks open. -/
theorem unwinds_cons_iff {nest' : Nat}
    (step : nest' + [i].countP way.leaves = nest + [i].countP way.enters) :
    Unwinds way nest (i :: rest) ↔ Unwinds way nest' rest := by
  constructor
  · intro unwinds
    constructor
    · have whole := unwinds.whole
      rw [countP_cons_eq_add _ i, countP_cons_eq_add way.leaves i] at whole
      omega
    · intro n
      have front := unwinds.front (n + 1)
      rw [List.take_succ_cons, countP_cons_eq_add _ i, countP_cons_eq_add way.enters i] at front
      omega
  · intro unwinds
    constructor
    · have whole := unwinds.whole
      rw [countP_cons_eq_add _ i, countP_cons_eq_add way.leaves i]
      omega
    · intro n
      cases n with
      | zero => simp
      | succ n =>
          have front := unwinds.front n
          rw [List.take_succ_cons, countP_cons_eq_add _ i, countP_cons_eq_add way.enters i]
          omega

/-! ## Scans -/

/-- A scan may end at this line. -/
structure Ends (way : Direction) (nest : Nat) (lines : Program) (n : Nat) : Prop where
  mark : ∃ i, lines[n]? = some i ∧ (i.isBetween ∨ way.leaves i)
  unwinds : Unwinds way nest (lines.take n)

theorem ends_zero_iff : Ends way nest (i :: rest) 0 ↔ (i.isBetween ∨ way.leaves i) ∧ nest = 0 := by
  constructor
  · rintro ⟨⟨i', here, mark⟩, unwinds⟩
    cases here
    exact ⟨mark, unwinds_nil_iff.1 unwinds⟩
  · rintro ⟨mark, outermost⟩
    exact ⟨⟨i, rfl, mark⟩, unwinds_nil_iff.2 outermost⟩

theorem ends_succ_iff {nest' : Nat}
    (step : nest' + [i].countP way.leaves = nest + [i].countP way.enters) :
    Ends way nest (i :: rest) (n + 1) ↔ Ends way nest' rest n := by
  constructor
  · rintro ⟨mark, unwinds⟩
    rw [List.take_succ_cons, unwinds_cons_iff step] at unwinds
    exact ⟨by simpa using mark, unwinds⟩
  · rintro ⟨mark, unwinds⟩
    refine ⟨by simpa using mark, ?_⟩
    rwa [List.take_succ_cons, unwinds_cons_iff step]

/-- A scan ends at the first line at which it may end. -/
theorem scan_eq_some_iff :
    scan way.enters way.leaves nest lines = some n ↔
      Ends way nest lines n ∧ ∀ k < n, ¬Ends way nest lines k := by
  induction lines generalizing nest n with
  | nil =>
      constructor
      · intro found
        cases found
      · rintro ⟨⟨⟨i, here, -⟩, -⟩, -⟩
        simp at here
  | cons i rest ih =>
      have stops (scanned : scan way.enters way.leaves nest (i :: rest) = some 0)
          (ends : Ends way nest (i :: rest) 0) :
          scan way.enters way.leaves nest (i :: rest) = some n ↔
            Ends way nest (i :: rest) n ∧ ∀ k < n, ¬Ends way nest (i :: rest) k := by
        rw [scanned]
        constructor
        · intro same
          cases same
          exact ⟨ends, fun k before => absurd before (Nat.not_lt_zero k)⟩
        · rintro ⟨-, first⟩
          cases n with
          | zero => rfl
          | succ n => exact absurd ends (first 0 (Nat.succ_pos n))
      -- A line that does not stop the scan leaves the rest to it, one level up, down or the same.
      have further {nest' : Nat}
          (scanned : scan way.enters way.leaves nest (i :: rest) =
            (scan way.enters way.leaves nest' rest).map (· + 1))
          (step : nest' + [i].countP way.leaves = nest + [i].countP way.enters)
          (passed : ¬Ends way nest (i :: rest) 0) :
          scan way.enters way.leaves nest (i :: rest) = some n ↔
            Ends way nest (i :: rest) n ∧ ∀ k < n, ¬Ends way nest (i :: rest) k := by
        rw [scanned, Option.map_eq_some_iff]
        constructor
        · rintro ⟨n, found, rfl⟩
          obtain ⟨ends, first⟩ := ih.1 found
          refine ⟨(ends_succ_iff step).2 ends, fun k before => ?_⟩
          cases k with
          | zero => exact passed
          | succ k =>
              rw [ends_succ_iff step]
              exact first k (Nat.lt_of_succ_lt_succ before)
        · rintro ⟨ends, first⟩
          cases n with
          | zero => exact absurd ends passed
          | succ n =>
              refine ⟨n, ih.2 ⟨(ends_succ_iff step).1 ends, fun k before => ?_⟩, rfl⟩
              rw [← ends_succ_iff step]
              exact first (k + 1) (Nat.succ_lt_succ before)
      cases way.sees i with
      | between mark enters leaves =>
          cases nest with
          | zero => exact stops (by simp [scan, mark]) (ends_zero_iff.2 ⟨.inl mark, rfl⟩)
          | succ nest =>
              apply further (by simp only [scan, mark]; rfl) (by simp [enters, leaves])
              simp [ends_zero_iff]
      | entry mark enters leaves =>
          apply further (by simp [scan, mark, enters]; rfl) (by simp [enters, leaves])
          simp [ends_zero_iff, mark, leaves]
      | exit mark enters leaves =>
          cases nest with
          | zero =>
              have ends : Ends way 0 (i :: rest) 0 := ends_zero_iff.2 ⟨.inr leaves, rfl⟩
              exact stops (by simp [scan, mark, enters, leaves]) ends
          | succ nest =>
              apply further (by simp [scan, mark, enters, leaves]; rfl) (by simp [enters, leaves])
              simp [ends_zero_iff]
      | other mark enters leaves =>
          apply further (by simp [scan, mark, enters, leaves]; rfl) (by simp [enters, leaves])
          simp [ends_zero_iff, mark, leaves]

/-- A scan fails only if there is no line at which it may end. -/
theorem exists_scan_of_ends (ends : Ends way nest lines n) :
    ∃ n, scan way.enters way.leaves nest lines = some n := by
  classical
  have some_end : ∃ n, Ends way nest lines n := ⟨n, ends⟩
  exact ⟨Nat.find some_end, scan_eq_some_iff.2 ⟨Nat.find_spec some_end,
    fun k before => Nat.find_min some_end before⟩⟩

/-! ## Positions -/

/-- The lines strictly between two positions. -/
def linesBetween (code : Program) (first last : Nat) : Program :=
  (code.take last).drop (first + 1)

variable {code : Program} {position start stop : Nat}

/-- A line behind a position that ends or divides a block, with balanced lines in between. -/
structure EndsBehind (code : Program) (position stop : Nat) : Prop where
  behind : position < stop
  mark : code[stop]? = some .closing ∨ code[stop]? = some .between
  balanced : Balanced .forward (code.linesBetween position stop)

/-- A line before a position that starts or divides a block, with balanced lines in between if
these are read backwards. -/
structure StartsBefore (code : Program) (position start : Nat) : Prop where
  before : start < position
  mark : (∃ block, code[start]? = some (.opening block)) ∨ code[start]? = some .between
  balanced : Balanced .backward (code.linesBetween start position).reverse

theorem ends_drop_iff :
    Ends .forward 0 (code.drop (position + 1)) n ↔ EndsBehind code position (position + 1 + n) := by
  have lines : (code.drop (position + 1)).take n =
      code.linesBetween position (position + 1 + n) := by
    rw [linesBetween, List.drop_take, Nat.add_sub_cancel_left]
  constructor
  · rintro ⟨⟨i, here, mark⟩, unwinds⟩
    rw [List.getElem?_drop] at here
    refine ⟨by omega, ?_, ?_⟩
    · rw [here]
      cases i <;> simp_all [Instruction.isBetween, Direction.leaves, Instruction.isClosing]
    · rwa [← lines, ← unwinds_zero_iff]
  · rintro ⟨-, mark, balanced⟩
    refine ⟨?_, ?_⟩
    · rw [List.getElem?_drop]
      rcases mark with here | here
      · exact ⟨_, here, .inr rfl⟩
      · exact ⟨_, here, .inl rfl⟩
    · rwa [unwinds_zero_iff, lines]

/-- The end that is found for a block is the nearest line that may be it. -/
theorem blockEnd?_eq_some_iff :
    code.blockEnd? (position + 1) = some stop ↔
      IsLeast {stop | code.EndsBehind position stop} stop := by
  have found : code.blockEnd? (position + 1) =
      (scan Direction.forward.enters Direction.forward.leaves 0 (code.drop (position + 1))).map
        (position + 1 + ·) := rfl
  rw [found, Option.map_eq_some_iff]
  constructor
  · rintro ⟨n, scanned, rfl⟩
    obtain ⟨ends, first⟩ := scan_eq_some_iff.1 scanned
    refine ⟨ends_drop_iff.1 ends, fun other may => Nat.le_of_not_lt fun earlier => ?_⟩
    obtain ⟨k, rfl⟩ := Nat.exists_eq_add_of_le (Nat.succ_le_of_lt may.behind)
    exact first k (by omega) (ends_drop_iff.2 may)
  · rintro ⟨may, least⟩
    obtain ⟨n, rfl⟩ := Nat.exists_eq_add_of_le (Nat.succ_le_of_lt may.behind)
    refine ⟨n, scan_eq_some_iff.2 ⟨ends_drop_iff.2 may, fun k before ends => ?_⟩, rfl⟩
    have earliest := least (ends_drop_iff.1 ends)
    omega

theorem blockEnd?_eq_none_iff :
    code.blockEnd? (position + 1) = none ↔ ∀ stop, ¬code.EndsBehind position stop := by
  constructor
  · intro missed stop may
    obtain ⟨n, rfl⟩ := Nat.exists_eq_add_of_le (Nat.succ_le_of_lt may.behind)
    obtain ⟨k, scanned⟩ := exists_scan_of_ends (ends_drop_iff.2 may)
    rw [blockEnd?, Option.map_eq_none_iff] at missed
    exact Option.some_ne_none k (scanned.symm.trans missed)
  · intro none_there
    rw [Option.eq_none_iff_forall_ne_some]
    intro stop found
    exact none_there stop (blockEnd?_eq_some_iff.1 found).1

theorem ends_reverse_iff (within : position ≤ code.length) (near : n < position) :
    Ends .backward 0 (code.take position).reverse n ↔
      StartsBefore code position (position - 1 - n) := by
  have length : (code.take position).length = position := by
    rw [List.length_take, Nat.min_eq_left within]
  have line : (code.take position).reverse[n]? = code[position - 1 - n]? := by
    rw [List.getElem?_reverse (by omega), length, List.getElem?_take_of_lt (by omega)]
  have lines : (code.take position).reverse.take n =
      (code.linesBetween (position - 1 - n) position).reverse := by
    rw [List.take_reverse, length, linesBetween]
    congr 2
    omega
  constructor
  · rintro ⟨⟨i, here, mark⟩, unwinds⟩
    rw [line] at here
    refine ⟨by omega, ?_, ?_⟩
    · rw [here]
      cases i <;> simp_all [Instruction.isBetween, Direction.leaves, Instruction.isOpening]
    · rwa [← lines, ← unwinds_zero_iff]
  · rintro ⟨-, mark, balanced⟩
    refine ⟨?_, ?_⟩
    · rw [line]
      rcases mark with ⟨block, here⟩ | here
      · exact ⟨_, here, .inr rfl⟩
      · exact ⟨_, here, .inl rfl⟩
    · rwa [unwinds_zero_iff, lines]

/-- The start that is found for a block is the nearest line that may be it. -/
theorem blockStart?_eq_some_iff (within : position ≤ code.length) :
    code.blockStart? position = some start ↔
      IsGreatest {start | code.StartsBefore position start} start := by
  have found : code.blockStart? position =
      (scan Direction.backward.enters Direction.backward.leaves 0 (code.take position).reverse).map
        (position - 1 - ·) := rfl
  rw [found, Option.map_eq_some_iff]
  constructor
  · rintro ⟨n, scanned, rfl⟩
    obtain ⟨ends, first⟩ := scan_eq_some_iff.1 scanned
    obtain ⟨i, line, -⟩ := ends.mark
    have near : n < position := by
      have inside := (List.getElem?_eq_some_iff.1 line).1
      rw [List.length_reverse, List.length_take] at inside
      omega
    refine ⟨(ends_reverse_iff within near).1 ends, fun other may => ?_⟩
    refine Nat.le_of_not_lt fun later => ?_
    have before := may.before
    have same : position - 1 - (position - 1 - other) = other := by omega
    refine first (position - 1 - other) (by omega) ((ends_reverse_iff within (by omega)).2 ?_)
    rw [same]
    exact may
  · rintro ⟨may, greatest⟩
    have before := may.before
    have same : position - 1 - (position - 1 - start) = start := by omega
    refine ⟨position - 1 - start, scan_eq_some_iff.2 ⟨?_, fun k nearer ends => ?_⟩, same⟩
    · rw [ends_reverse_iff within (by omega), same]
      exact may
    · have latest := greatest ((ends_reverse_iff within (by omega)).1 ends)
      omega

theorem blockStart?_eq_none_iff (within : position ≤ code.length) :
    code.blockStart? position = none ↔ ∀ start, ¬code.StartsBefore position start := by
  constructor
  · intro missed start may
    have before := may.before
    have same : position - 1 - (position - 1 - start) = start := by omega
    rw [← same, ← ends_reverse_iff within (by omega)] at may
    obtain ⟨k, scanned⟩ := exists_scan_of_ends may
    rw [blockStart?, Option.map_eq_none_iff] at missed
    exact Option.some_ne_none k (scanned.symm.trans missed)
  · intro none_there
    rw [Option.eq_none_iff_forall_ne_some]
    intro start found
    exact none_there start ((blockStart?_eq_some_iff within).1 found).1

/-! ## Both ways -/

theorem partner?_forward (code : Program) (position : Nat) :
    code.partner? position .forward = code.blockEnd? (position + 1) := by
  have inside : ¬(position : Int) < -1 := by omega
  simp only [partner?, if_neg inside]
  rfl

theorem partner?_backward (within : position ≤ code.length) :
    code.partner? position .backward = code.blockStart? position := by
  have inside : ¬((position : Int) < 0 ∨ (code.length : Int) < position) := by omega
  simp only [partner?, if_neg inside, Int.toNat_natCast]

end Program

end Ebrc
