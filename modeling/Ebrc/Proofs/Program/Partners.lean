import Ebrc.Proofs.Program.OpenBlocks

/-!
# The other end of a block

What the search for the other end of a block comes to. From any line of any sequence of lines it
leads to the nearest line, this way or that, that may be the other end, and fails if there is none.
In a well nested program it does not fail inside a block, and finds the lines of the block in which
it starts.
-/

namespace Ebrc

namespace Program

variable {code : Program}

/-- The search leads to the nearest line that may be the other end. -/
structure FindsNearest (code : Program) : Prop where
  forward : ∀ {position stop : Nat}, position < code.length →
    (code.partner? position .forward = some stop ↔
      IsLeast {stop | code.EndsBehind position stop} stop)
  forward_fails : ∀ {position : Nat}, position < code.length →
    (code.partner? position .forward = none ↔ ∀ stop, ¬code.EndsBehind position stop)
  backward : ∀ {position start : Nat}, position < code.length →
    (code.partner? position .backward = some start ↔
      IsGreatest {start | code.StartsBefore position start} start)
  backward_fails : ∀ {position : Nat}, position < code.length →
    (code.partner? position .backward = none ↔ ∀ start, ¬code.StartsBefore position start)

theorem findsNearest (code : Program) : code.FindsNearest where
  forward _ := by rw [partner?_forward, blockEnd?_eq_some_iff]
  forward_fails _ := by rw [partner?_forward, blockEnd?_eq_none_iff]
  backward inside := by
    rw [partner?_backward (Nat.le_of_lt inside), blockStart?_eq_some_iff (Nat.le_of_lt inside)]
  backward_fails inside := by
    rw [partner?_backward (Nat.le_of_lt inside), blockStart?_eq_none_iff (Nat.le_of_lt inside)]

/-- The search leads from one line of a block to another. -/
structure FindsBlocks (code : Program) : Prop where
  /-- Every line that opens, closes or divides a block has its block. -/
  opening : ∀ {start block}, code[start]? = some (.opening block) → ∃ stop, code.IsBlock start stop
  closing : ∀ {stop}, code[stop]? = some .closing → ∃ start, code.IsBlock start stop
  between : ∀ {middle}, code[middle]? = some .between →
    ∃ start stop, code.HasElse start middle ∧ code.IsBlock start stop
  /-- Between the first and the last line of a block the search does not fail. -/
  forward_inside : ∀ {start stop position : Nat}, code.IsBlock start stop → start ≤ position →
    position < stop → ∃ found, code.partner? position .forward = some found
  backward_inside : ∀ {start stop position : Nat}, code.IsBlock start stop → start < position →
    position ≤ stop → ∃ found, code.partner? position .backward = some found
  /-- In a block with an else. -/
  opening_to_else : ∀ {start middle : Nat}, code.HasElse start middle →
    code.partner? start .forward = some middle
  else_to_closing : ∀ {start middle stop : Nat}, code.HasElse start middle →
    code.IsBlock start stop → code.partner? middle .forward = some stop
  /-- In a block without one the search goes either way. -/
  opening_to_closing : ∀ {start stop : Nat}, code.IsBlock start stop →
    (∀ middle, ¬code.HasElse start middle) → code.partner? start .forward = some stop
  closing_to_opening : ∀ {start stop : Nat}, code.IsBlock start stop →
    (∀ middle, ¬code.HasElse start middle) → code.partner? stop .backward = some start

theorem WellNested.findsBlocks (wellNested : code.WellNested) : code.FindsBlocks where
  opening := wellNested.nested.exists_stop
  closing := wellNested.nested.exists_start
  between divides := by
    obtain ⟨start, divided⟩ := wellNested.nested.exists_hasElse divides
    obtain ⟨block, opens⟩ := divided.opens
    obtain ⟨stop, complete⟩ := wellNested.nested.exists_stop opens
    exact ⟨start, stop, divided, complete⟩
  forward_inside block behind before := by
    have encloses : code.Encloses _ _ := ⟨Nat.lt_succ_of_le behind, _, before, block⟩
    obtain ⟨depth, inside⟩ := wellNested.nested.depth?_of_encloses encloses
    obtain ⟨found, scanned, -⟩ := wellNested.nested.exists_blockEnd inside
    exact ⟨found, by rw [partner?_forward, scanned]⟩
  backward_inside block behind before := by
    have encloses : code.Encloses _ _ := ⟨behind, _, before, block⟩
    obtain ⟨depth, inside⟩ := wellNested.nested.depth?_of_encloses encloses
    have within := Nat.le_trans before (Nat.le_of_lt block.stop_lt_length)
    obtain ⟨found, scanned, -⟩ := exists_blockStart inside within
    exact ⟨found, by rw [partner?_backward within, scanned]⟩
  opening_to_else divided := by rw [partner?_forward, wellNested.blockEnd?_opening divided]
  else_to_closing divided block := by
    rw [partner?_forward, wellNested.blockEnd?_else divided block]
  opening_to_closing block undivided := by rw [partner?_forward, block.blockEnd?_opening undivided]
  closing_to_opening block undivided := by
    rw [partner?_backward (Nat.le_of_lt block.stop_lt_length), block.blockStart?_closing undivided]

/-- The search for the other end of a block leads to the nearest line that may be it, and in a well
nested program to the line that is. -/
theorem finds_partners (code : Program) :
    code.FindsNearest ∧ (code.WellNested → code.FindsBlocks) :=
  ⟨code.findsNearest, WellNested.findsBlocks⟩

/-- An if with a loop in its first branch. -/
theorem finds_partners_choice :
    let code : Program := [.opening (.branch true), .opening (.loop 2), .literal ['a'], .closing,
      .between, .literal ['b'], .closing]
    code.FindsBlocks ∧ code.HasElse 0 4 ∧ code.IsBlock 0 6 ∧ code.IsBlock 1 3 ∧
      code.partner? 0 .forward = some 4 ∧ code.partner? 4 .forward = some 6 ∧
      code.partner? 1 .forward = some 3 ∧ code.partner? 3 .backward = some 1 := by
  intro code
  have wellNested : code.WellNested := by decide
  have finds := (finds_partners code).2 wellNested
  have choice : code.HasElse 0 4 := by decide
  have outer : code.IsBlock 0 6 := ⟨by decide, ⟨_, rfl⟩, rfl, by decide⟩
  have inner : code.IsBlock 1 3 := ⟨by decide, ⟨_, rfl⟩, rfl, by decide⟩
  have nowhere : ∀ middle < 7, ¬code.HasElse 1 middle := by decide
  have undivided (middle : Nat) : ¬code.HasElse 1 middle :=
    fun divided => nowhere middle divided.lt_length divided
  exact ⟨finds, choice, outer, inner, finds.opening_to_else choice,
    finds.else_to_closing choice outer, finds.opening_to_closing inner undivided,
    finds.closing_to_opening inner undivided⟩

end Program

end Ebrc
