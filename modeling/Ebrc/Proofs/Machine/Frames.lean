import Ebrc.Proofs.Machine.Nesting
import Ebrc.Proofs.Program.OpenBlocks
import Mathlib.Data.List.Forall2

/-!
# The frames of the machine

The machine keeps the blocks that it has entered, and jumps about in the program on its own. In a
well nested program the two stay together: at every line that the machine comes to, its frames are
those of the blocks that the line stands in, and the rounds left of each loop are some of those that
its opening line asks for. A loop that asks for a negative number of rounds runs once, and one that
asks for none and has an else is entered behind it; both keep their number meanwhile.
-/

namespace Ebrc

/-- No loop has an else. -/
def Program.LoopsUndivided (code : Program) : Prop :=
  ∀ {start middle : Nat}, code.HasElse start middle →
    ∀ count, code[start]? ≠ some (.opening (.loop count))

/-- The rounds that may be left inside a loop, the one that is run included. -/
def RoundsLeft (count left : Int) : Prop :=
  if count ≤ 0 then left = count else 1 ≤ left ∧ left ≤ count

/-- A loop that goes on has one round less left. -/
theorem roundsLeft_pred {count left : Int} (rounds : RoundsLeft count left) (more : 1 < left) :
    RoundsLeft count (left - 1) := by
  unfold RoundsLeft at rounds ⊢
  split at rounds
  · omega
  · rename_i positive
    rw [if_neg positive]
    omega

/-- The frame is that of the block that starts at a line. -/
structure Frame.StandsFor (code : Program) (frame : Frame) (start : Nat) : Prop where
  opens : code[start]? = some (.opening frame.block)
  left : ∀ count, frame.block = .loop count → RoundsLeft count frame.left

/-- A frame that is made when a block is entered. -/
theorem Frame.standsFor_entered {code : Program} {block : Block} {start : Nat}
    (line : code[start]? = some (.opening block)) :
    Frame.StandsFor code ⟨block, block.count⟩ start where
  opens := line
  left count same := by
    dsimp only at same
    subst same
    change RoundsLeft count count
    unfold RoundsLeft
    split
    · rfl
    · omega

namespace Machine

variable {task : Task} {m m' : Machine}

/-! ## Lines -/

section Lines

variable {code : Program} {starts : List Nat} {frame : Frame} {rest : List Frame}

/-- The frames are those of the blocks that are open at the position. -/
def Mirrors (code : Program) (m : Machine) : Prop :=
  List.Forall₂ (Frame.StandsFor code) m.frames (code.openAt m.position)

theorem mirrors_of_openAt (opened : code.openAt m.position = starts)
    (stand : List.Forall₂ (Frame.StandsFor code) m.frames starts) : m.Mirrors code := by
  rw [Mirrors, opened]
  exact stand

/-- The innermost frame is that of the innermost block. -/
theorem Mirrors.exists_cons (mirrors : m.Mirrors code) (frames : m.frames = frame :: rest) :
    ∃ start starts, code.openAt m.position = start :: starts ∧ frame.StandsFor code start ∧
      List.Forall₂ (Frame.StandsFor code) rest starts := by
  rw [Mirrors, frames, List.forall₂_cons_left_iff] at mirrors
  obtain ⟨start, starts, stands, outer, opened⟩ := mirrors
  exact ⟨start, starts, opened, stands, outer⟩

theorem mirrors_openBlock {block : Block} (mirrors : m.Mirrors code)
    (line : code[m.position]? = some (.opening block))
    (next : m.openBlock code block = .next m') : m'.Mirrors code := by
  have opened : code.openAt (m.position + 1) = m.position :: code.openAt m.position :=
    Program.openAt_succ_of_opening line
  unfold openBlock at next
  dsimp only at next
  split at next
  · -- The block is entered.
    cases next
    exact mirrors_of_openAt opened (.cons (Frame.standsFor_entered line) mirrors)
  · unfold skip at next
    dsimp only at next
    cases scanned : code.blockEnd? (m.position + 1) with
    | none =>
        rw [scanned] at next
        cases next
    | some stop =>
        rw [scanned] at next
        cases next
        have ends := (Program.blockEnd?_eq_some_iff.1 scanned).1
        have inside : code.openAt stop = m.position :: code.openAt m.position := by
          rw [Program.openAt_eq_of_balanced ends.behind ends.balanced, opened]
        rcases ends.mark with closes | divides
        · -- It is skipped as a whole.
          refine mirrors_of_openAt (Program.openAt_succ_of_closing closes) ?_
          rw [inside, closes]
          exact mirrors
        · -- It is entered behind its else.
          refine mirrors_of_openAt (Program.openAt_succ_of_between divides) ?_
          rw [inside, divides]
          exact .cons (Frame.standsFor_entered line) mirrors

theorem mirrors_leaveBranch (wellNested : code.WellNested) (mirrors : m.Mirrors code)
    (line : code[m.position]? = some .between)
    (next : m.leaveBranch code = .next m') : m'.Mirrors code := by
  obtain ⟨start, divided⟩ := wellNested.nested.exists_hasElse line
  obtain ⟨kind, opens⟩ := divided.opens
  obtain ⟨stop, block⟩ := wellNested.nested.exists_stop opens
  have scanned := wellNested.blockEnd?_else divided block
  have ends := (Program.blockEnd?_eq_some_iff.1 scanned).1
  have behind : code.openAt (stop + 1) = (code.openAt m.position).tail := by
    rw [Program.openAt_succ_of_closing block.closes,
      Program.openAt_eq_of_balanced ends.behind ends.balanced,
      Program.openAt_succ_of_between line]
  unfold leaveBranch at next
  rw [scanned] at next
  cases frames : m.frames with
  | nil =>
      rw [frames] at next
      cases next
  | cons frame rest =>
      rw [frames] at next
      cases next
      obtain ⟨innermost, starts, opened, -, outer⟩ := mirrors.exists_cons frames
      refine mirrors_of_openAt behind ?_
      rw [opened]
      exact outer

/-- Going back to the start of a block keeps the blocks that are open. -/
theorem mirrors_repeatBlock (mirrors : m.Mirrors code) (within : m.position ≤ code.length)
    (next : m.repeatBlock code = .next m') : m'.Mirrors code := by
  unfold repeatBlock at next
  cases scanned : code.blockStart? m.position with
  | none =>
      rw [scanned] at next
      cases next
  | some start =>
      rw [scanned] at next
      cases next
      have starts := ((Program.blockStart?_eq_some_iff within).1 scanned).1
      have balanced := Program.balanced_reverse_iff.1 starts.balanced
      exact mirrors_of_openAt (Program.openAt_eq_of_balanced starts.before balanced).symm mirrors

theorem mirrors_closeBlock (mirrors : m.Mirrors task.code)
    (line : task.code[m.position]? = some .closing)
    (next : m.closeBlock task = .next m') : m'.Mirrors task.code := by
  have within : m.position ≤ task.code.length := Nat.le_of_lt (List.getElem?_eq_some_iff.1 line).1
  unfold closeBlock at next
  cases frames : m.frames with
  | nil =>
      rw [frames] at next
      cases next
  | cons frame rest =>
      rw [frames] at next
      obtain ⟨innermost, starts, opened, stands, outer⟩ := mirrors.exists_cons frames
      have leaves (ok : Bool) :
          Mirrors task.code { m with position := m.position + 1, frames := rest, ok } := by
        refine mirrors_of_openAt (Program.openAt_succ_of_closing line) ?_
        rw [opened]
        exact outer
      dsimp only at next
      split at next
      · -- A loop goes back as often as its frame says.
        split at next
        · rename_i more
          have less : Frame.StandsFor task.code { frame with left := frame.left - 1 } innermost :=
            ⟨stands.opens, fun count same => roundsLeft_pred (stands.left count same) more⟩
          refine mirrors_repeatBlock ?_ ?_ next
          · exact mirrors_of_openAt opened (.cons less outer)
          · exact within
        · cases next
          exact leaves m.ok
      · -- A block that tests at its end goes back as often as the limit allows.
        split at next
        · split at next
          · cases next
          · refine mirrors_repeatBlock ?_ ?_ next
            · exact mirrors_of_openAt opened (.cons stands outer)
            · exact within
        · cases next
          exact leaves true
      · cases next
        exact leaves m.ok

/-- A line leads from frames that mirror the program to such frames. -/
theorem mirrors_step (wellNested : task.code.WellNested) (mirrors : m.Mirrors task.code)
    (next : m.step task = .next m') : m'.Mirrors task.code := by
  unfold step at next
  cases line : task.code[m.position]? with
  | none =>
      rw [line] at next
      cases next
  | some i =>
      rw [line] at next
      cases i with
      | literal template =>
          dsimp only at next
          cases filled : task.invocation.fill template with
          | error index =>
              rw [filled] at next
              cases next
          | ok command =>
              rw [filled] at next
              cases next
      | opening block => exact mirrors_openBlock mirrors line next
      | closing => exact mirrors_closeBlock mirrors line next
      | between => exact mirrors_leaveBranch wellNested mirrors line next

end Lines

/-! ## Runs -/

section Runs

variable {σ : Type} {steering : Steering σ} {s s' : σ}

theorem Mirrors.lacks (nested : task.code.Nested) (mirrors : m.Mirrors task.code) :
    m.Lacks task.code 0 := by
  rw [Lacks, nested.depth?_eq, ← mirrors.length_eq, Nat.add_zero]

theorem Moves.mirrors (wellNested : task.code.WellNested)
    (move : Moves task steering m s m' s') (mirrors : m.Mirrors task.code) :
    m'.Mirrors task.code := by
  cases move with
  | jump _ _ step => exact mirrors_step wellNested mirrors step
  | command _ _ step _ =>
      have outcome := outcome_step wellNested.nested (mirrors.lacks wellNested.nested)
      rw [step] at outcome
      cases outcome with
      | command _ here =>
          obtain ⟨template, line⟩ := here
          exact mirrors_of_openAt (Program.openAt_succ_of_literal line) mirrors

theorem Steps.mirrors (wellNested : task.code.WellNested) {n : Nat}
    (steps : Steps task steering n {} s m s') : m.Mirrors task.code :=
  steps.invariant (fun m _ => m.Mirrors task.code)
    (fun move mirrors => move.mirrors wellNested mirrors) .nil

/-- At the end of the program no frame is left. -/
theorem Mirrors.frames_finished (nested : task.code.Nested) (mirrors : m.Mirrors task.code)
    {soft : Bool} (stop : Stops task steering m s (.finished soft) s') : m.frames = [] := by
  have none_open (past : task.code.length ≤ m.position) : m.frames = [] := by
    rw [Mirrors, nested.openAt_end past, List.forall₂_nil_right_iff] at mirrors
    exact mirrors
  cases stop with
  | finished past => exact none_open past
  | stopped _ _ step =>
      have outcome := outcome_step nested (mirrors.lacks nested)
      rw [step] at outcome
      cases outcome with
      | finished _ _ outside _ => exact outside

end Runs

/-! ## The two stacks -/

/-- The kinds of the blocks that the machine has entered, the outermost first. -/
def kinds (m : Machine) : List (Option Char) := (m.frames.map (·.block.letter)).reverse

/-- The rounds left in these blocks. -/
def counts (m : Machine) : List Int := (m.frames.map (·.left)).reverse

/-- The stacks of the machine mirror the nesting of the program: there are the lines that open the
blocks in which the position lies, in their order, and the kind of each of them, and the rounds that
are left in it are of some sort if it is a loop. -/
structure MirrorsNesting (rounds : Int → Int → Prop) (code : Program) (m : Machine) : Prop where
  alike : m.kinds.length = m.counts.length
  blocks : ∃ starts : List Nat, starts.Pairwise (· < ·) ∧
    (∀ start, start ∈ starts ↔ code.Encloses start m.position) ∧
    List.Forall₂ (fun start kind => ∃ block, code[start]? = some (.opening block) ∧
      kind = block.letter) starts m.kinds ∧
    List.Forall₂ (fun start left => ∀ count, code[start]? = some (.opening (.loop count)) →
      rounds count left) starts m.counts

theorem Mirrors.mirrorsNesting {code : Program} (nested : code.Nested) (mirrors : m.Mirrors code) :
    m.MirrorsNesting RoundsLeft code where
  alike := by simp [kinds, counts]
  blocks := by
    refine ⟨(code.openAt m.position).reverse, ?_, fun start => ?_, ?_, ?_⟩
    · exact List.pairwise_reverse.2 (code.pairwise_openAt m.position)
    · rw [List.mem_reverse, nested.mem_openAt_iff]
    · refine List.rel_reverse (List.forall₂_map_right_iff.2 (mirrors.flip.imp ?_))
      exact fun start frame stands => ⟨_, stands.opens, rfl⟩
    · refine List.rel_reverse (List.forall₂_map_right_iff.2 (mirrors.flip.imp ?_))
      intro start frame stands count opens
      have same := stands.opens
      rw [opens, Option.some.injEq, Instruction.opening.injEq] at same
      exact stands.left count same.symm

/-- In a well nested program the stacks of a run mirror the nesting of the program at every line
that the run comes to, and they are empty when it comes to the end. -/
theorem frames_mirror_nesting {σ : Type} (wellNested : task.code.WellNested)
    (steering : Steering σ) (s : σ) :
    (∀ {n m s'}, Steps task steering n {} s m s' → m.MirrorsNesting RoundsLeft task.code) ∧
    ∀ {fuel m soft s'}, run task steering fuel {} s = some (m, .finished soft, s') →
      m.kinds = [] ∧ m.counts = [] := by
  constructor
  · intro n m s' steps
    exact (steps.mirrors wellNested).mirrorsNesting wellNested.nested
  · intro fuel m soft s' ran
    obtain ⟨n, s₁, -, steps, stop⟩ := run_eq_some_iff.1 ran
    have none_left := (steps.mirrors wellNested).frames_finished wellNested.nested stop
    constructor
    · rw [kinds, none_left]
      rfl
    · rw [counts, none_left]
      rfl

/-- The second round of a loop, in the second branch of an if. -/
theorem frames_mirror_nesting_secondRound :
    let task : Task := ⟨[.opening (.loop 2), .opening (.branch true), .literal ['a'], .between,
      .literal ['b'], .closing, .closing], false, .ofLine [], 0⟩
    let steering : Steering Nat := ⟨fun polled => (polled == 6, polled + 1),
      fun _ polled => some (false, polled)⟩
    let m : Machine := ⟨4, true, false, [⟨.branch true, 0⟩, ⟨.loop 2, 1⟩], 0, 1⟩
    task.code.WellNested ∧ (∃ n s', Steps task steering n {} 0 m s') ∧
      m.MirrorsNesting RoundsLeft task.code := by
  intro task steering m
  have wellNested : task.code.WellNested := by decide
  have ran : run task steering 10 {} 0 = some (m, .failed .interrupted, 7) := by rfl
  obtain ⟨n, s', -, steps, -⟩ := run_eq_some_iff.1 ran
  have mirrors := (frames_mirror_nesting wellNested steering 0).1 steps
  exact ⟨wellNested, ⟨n, s', steps⟩, mirrors⟩

/-- A loop with a negative number of rounds is entered, and no number lies between one and its. -/
theorem negativeLoop_not_mirrored :
    let task : Task := ⟨[.opening (.loop (-2)), .literal ['x'], .closing, .literal ['y']], false,
      .ofLine [], 0⟩
    let steering : Steering Unit := ⟨fun _ => (false, ()), fun _ _ => some (true, ())⟩
    task.code.WellNested ∧ task.code.LoopsUndivided ∧
      ∃ m, Steps task steering 1 {} () m () ∧ m.position < task.code.length ∧
        ¬m.MirrorsNesting (fun count left => 1 ≤ left ∧ left ≤ count) task.code := by
  intro task steering
  have unbroken : ∀ middle < 4, task.code[middle]? ≠ some .between := by decide
  refine ⟨by decide, ?_, { position := 1, frames := [⟨.loop (-2), -2⟩] }, ?_, by decide, ?_⟩
  · intro start middle divided
    exact absurd divided.divides (unbroken middle divided.lt_length)
  · exact .single (.jump (by decide) rfl rfl)
  · rintro ⟨-, starts, -, enclosing, -, rounds⟩
    obtain ⟨start, rest, within, -, rfl⟩ := List.forall₂_cons_right_iff.1 rounds
    have behind := ((enclosing start).1 (List.mem_cons_self ..)).behind
    have first : start = 0 := by
      dsimp only at behind
      omega
    rw [first] at within
    have impossible := within (-2) rfl
    omega

end Machine

end Ebrc
