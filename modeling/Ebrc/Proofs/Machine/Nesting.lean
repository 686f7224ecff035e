import Ebrc.Proofs.Machine.Trace
import Ebrc.Proofs.Program.Nesting

/-!
# The machine in nested programs

In a nested program the blocks that the machine has entered match the blocks that are open at its
position, as long as every if has at most one else. An if with several elses is where the two part
ways: behind its first branch the scan stops at the second else, and the machine takes the if for
left although its lines go on. From then on it lacks a frame, and it never makes up for it. So it
cannot come to its end any more: a block that is open at the position is missing from its frames
until the position is outside of all blocks, and before that, a line asks for a frame where there
is none.

In a program that is nested the machine never crashes in any other way, however the commands are
answered.
-/

namespace Ebrc

/-- The else at a position is followed by another one of the same if. -/
def Program.ElseFollows (code : Program) (position : Nat) : Prop :=
  code[position]? = some .between ∧
    ∃ stop, code.blockEnd? (position + 1) = some stop ∧ code[stop]? = some .between

namespace Machine

variable {task : Task} {m : Machine} {missing : Nat}

/-- Of the blocks open at the position a number are missing from the frames. -/
def Lacks (code : Program) (missing : Nat) (m : Machine) : Prop :=
  code.depth? m.position = some (m.frames.length + missing)

/-- How a line changes the position and the frames, and what it does to repetitions. Going back, the
machine stays in the blocks that are open where it was. -/
inductive Turn (task : Task) (m m' : Machine) : Prop where
  /-- Go on in the same block. -/
  | onward (frames : m'.frames = m.frames) (further : m.position < m'.position)
      (repetitions : m'.repetitions = m.repetitions)
  /-- Go into a block. -/
  | into (frame : Frame) (frames : m'.frames = frame :: m.frames) (further : m.position < m'.position)
      (repetitions : m'.repetitions = m.repetitions)
  /-- Leave the innermost block. -/
  | out (frame : Frame) (frames : m.frames = frame :: m'.frames) (further : m.position < m'.position)
      (repetitions : m'.repetitions = m.repetitions)
  /-- Go back to the start of a loop. -/
  | loops (frame : Frame) (rest : List Frame) (here : m.frames = frame :: rest)
      (frames : m'.frames = { frame with left := frame.left - 1 } :: rest) (left : 1 < frame.left)
      (back : ∀ position < m.position, ∀ {depth outer : Nat},
        task.code.depth? m.position = some depth → task.code.depth? position = some outer →
        outer < depth → position < m'.position)
      (repetitions : m'.repetitions = m.repetitions)
  /-- Go back to the start of a block that tests at its end. -/
  | repeats (frame : Frame) (rest : List Frame) (here : m.frames = frame :: rest)
      (frames : m'.frames = m.frames)
      (back : ∀ position < m.position, ∀ {depth outer : Nat},
        task.code.depth? m.position = some depth → task.code.depth? position = some outer →
        outer < depth → position < m'.position)
      (repetitions : m'.repetitions = m.repetitions + 1)
      (within : task.limit ≠ 0 → m.repetitions < task.limit)

/-- What comes of a line. -/
inductive Outcome (task : Task) (missing : Nat) (m : Machine) : Step → Prop where
  /-- The end is reached, outside of all blocks. -/
  | finished (soft : Bool) (past : task.code.length ≤ m.position) (outside : m.frames = [])
      (complete : missing = 0) : Outcome task missing m (.stop (.finished soft))
  | failed (fault : FunctionFault) : Outcome task missing m (.stop (.failed fault))
  /-- A frame is asked for where one is missing. -/
  | crashed (outside : m.frames = []) (incomplete : 0 < missing) :
      Outcome task missing m (.stop (.crashed .noOpenBlock))
  | command (line : Text) (here : ∃ template, task.code[m.position]? = some (.literal template)) :
      Outcome task missing m (.command line)
  | next {m' : Machine} (turn : Turn task m m') (lacks : m'.Lacks task.code missing)
      (usual : ¬task.code.ElseFollows m.position) : Outcome task missing m (.next m')
  /-- Behind the first of several branches one more frame is missing. -/
  | astray {m' : Machine} (turn : Turn task m m') (lacks : m'.Lacks task.code (missing + 1))
      (elseFollows : task.code.ElseFollows m.position) : Outcome task missing m (.next m')

section Lines

theorem not_elseFollows {i : Instruction} (line : task.code[m.position]? = some i)
    (other : i ≠ .between) : ¬task.code.ElseFollows m.position := by
  rintro ⟨here, -⟩
  rw [line, Option.some.injEq] at here
  exact other here

/-- An opening line leads into its block, or past it. -/
theorem outcome_opening {block : Block} (nested : task.code.Nested)
    (lacks : m.Lacks task.code missing) (line : task.code[m.position]? = some (.opening block)) :
    Outcome task missing m (m.openBlock task.code block) := by
  have inside : task.code.depth? (m.position + 1) = some (m.frames.length + missing + 1) := by
    rw [Program.depth?_succ line, lacks]
    rfl
  have usual : ¬task.code.ElseFollows m.position := not_elseFollows line (by simp)
  unfold openBlock
  dsimp only
  by_cases entered : block.isEntered m.ok
  · rw [if_pos entered]
    refine .next (.into _ rfl (Nat.lt_succ_self _) rfl) ?_ usual
    unfold Lacks
    simp only [advance, inside, List.length_cons, Option.some.injEq]
    omega
  · rw [if_neg entered]
    obtain ⟨stop, found, behind, level, mark⟩ := nested.exists_blockEnd inside
    simp only [skip, found]
    rcases mark with closes | divides
    · rw [closes]
      refine .next (.onward rfl (by simp only; omega) rfl) ?_ usual
      unfold Lacks
      rw [Program.depth?_succ closes, level]
      rfl
    · rw [divides]
      refine .next (.into _ rfl (by simp only; omega) rfl) ?_ usual
      unfold Lacks
      rw [Program.depth?_succ divides, level]
      simp [Instruction.nest?, Instruction.isClosing]
      omega

/-- An else, reached at the end of a branch, leads behind its if. If another else follows, the if
goes on there. -/
theorem outcome_between (nested : task.code.Nested) (lacks : m.Lacks task.code missing)
    (line : task.code[m.position]? = some .between) :
    Outcome task missing m (m.leaveBranch task.code) := by
  obtain ⟨depth, around⟩ := nested.inside line (.inr rfl) lacks
  have here : task.code.depth? (m.position + 1) = some (depth + 1) := by
    rw [Program.depth?_succ line, lacks, around]
    rfl
  obtain ⟨stop, found, behind, level, mark⟩ := nested.exists_blockEnd here
  unfold leaveBranch
  rw [found]
  cases frames : m.frames with
  | nil =>
      refine .crashed frames ?_
      rw [frames, List.length_nil] at around
      omega
  | cons frame rest =>
      have out : Turn task m { m with position := stop + 1, frames := rest } :=
        .out frame frames (by simp only; omega) rfl
      rw [frames, List.length_cons] at around
      rcases mark with closes | divides
      · refine .next out ?_ ?_
        · unfold Lacks
          rw [Program.depth?_succ closes, level]
          simp only [Instruction.nest?, Option.bind_some, Option.some.injEq]
          omega
        · rintro ⟨-, stop', found', divides⟩
          rw [found, Option.some.injEq] at found'
          rw [← found', closes] at divides
          contradiction
      · refine .astray out ?_ ⟨line, stop, found, divides⟩
        unfold Lacks
        rw [Program.depth?_succ divides, level]
        simp only [Instruction.nest?, Option.bind_some, Option.some.injEq]
        omega

/-- A closing line leads behind its block or back to the start of it. -/
theorem outcome_closing (nested : task.code.Nested) (lacks : m.Lacks task.code missing)
    (line : task.code[m.position]? = some .closing) :
    Outcome task missing m (m.closeBlock task) := by
  obtain ⟨depth, around⟩ := nested.inside line (.inl rfl) lacks
  have usual : ¬task.code.ElseFollows m.position := not_elseFollows line (by simp)
  unfold closeBlock
  cases frames : m.frames with
  | nil =>
      refine .crashed frames ?_
      rw [frames, List.length_nil] at around
      omega
  | cons frame rest =>
      rw [frames, List.length_cons] at around
      have level : task.code.depth? m.position = some (depth + 1) := by
        rw [lacks, frames, List.length_cons, around]
      have leaves (ok : Bool) : Outcome task missing m
          (.next { m with position := m.position + 1, frames := rest, ok }) := by
        refine .next (.out frame frames (Nat.lt_succ_self _) rfl) ?_ usual
        unfold Lacks
        rw [Program.depth?_succ line, level]
        simp only [Instruction.nest?, Option.bind_some, Option.some.injEq]
        omega
      obtain ⟨start, found, before, inside, stays⟩ :=
        Program.exists_blockStart level (Nat.le_of_lt (List.getElem?_eq_some_iff.1 line).1)
      have back : ∀ position < m.position, ∀ {depth outer : Nat},
          task.code.depth? m.position = some depth → task.code.depth? position = some outer →
          outer < depth → position < start + 1 := by
        intro position earlier depth' outer here there shallow
        rw [level, Option.some.injEq] at here
        exact Nat.lt_succ_of_le (stays position earlier outer (by omega) there)
      dsimp only
      split
      · -- A loop goes back as often as its frame says.
        split
        · rename_i more
          simp only [repeatBlock, found]
          refine .next (.loops frame rest frames rfl more back rfl) ?_ usual
          unfold Lacks
          simp only [inside, List.length_cons, Option.some.injEq]
          omega
        · exact leaves m.ok
      · -- A block that tests at its end goes back as often as the limit allows.
        split
        · split
          · exact .failed _
          · rename_i within
            simp only [repeatBlock, found]
            refine .next (.repeats frame rest frames frames.symm back rfl ?_) ?_ usual
            · intro limited
              omega
            · unfold Lacks
              simp only [inside, List.length_cons, Option.some.injEq]
              omega
        · exact leaves true
      · exact leaves m.ok

/-- What comes of the next line in a nested program. -/
theorem outcome_step (nested : task.code.Nested) (lacks : m.Lacks task.code missing) :
    Outcome task missing m (m.step task) := by
  unfold step
  cases line : task.code[m.position]? with
  | none =>
      have past : task.code.length ≤ m.position := List.getElem?_eq_none_iff.1 line
      have none_open := nested.depth?_end past
      rw [lacks, Option.some.injEq] at none_open
      refine .finished _ past ?_ (by omega)
      exact List.length_eq_zero_iff.1 (by omega)
  | some i =>
      cases i with
      | literal template =>
          dsimp only
          cases filled : task.invocation.fill template with
          | error index => exact .failed _
          | ok command => exact .command _ ⟨template, line⟩
      | opening block => exact outcome_opening nested lacks line
      | closing => exact outcome_closing nested lacks line
      | between => exact outcome_between nested lacks line

end Lines

/-- A command that has been carried out leads to the next line. -/
theorem turn_answer {template : Text} (lacks : m.Lacks task.code missing)
    (line : task.code[m.position]? = some (.literal template)) (ok : Bool) :
    Turn task m (m.answer task ok) ∧ (m.answer task ok).Lacks task.code missing := by
  constructor
  · exact .onward rfl (Nat.lt_succ_self _) rfl
  · unfold Lacks
    have behind : task.code.depth? (m.position + 1) = some (m.frames.length + missing) := by
      rw [Program.depth?_succ line, lacks]
      rfl
    exact behind

/-! ## Runs -/

variable {σ : Type} {steering : Steering σ} {m' : Machine} {s s' : σ} {ending : Ending}

/-- What moving on does to the frames. -/
theorem Moves.lacks (nested : task.code.Nested) (move : Moves task steering m s m' s')
    (lacks : m.Lacks task.code missing) :
    (m'.Lacks task.code missing ∧ ¬task.code.ElseFollows m.position) ∨
      (m'.Lacks task.code (missing + 1) ∧ task.code.ElseFollows m.position) := by
  have outcome := outcome_step nested lacks
  cases move with
  | jump inside polled step =>
      rw [step] at outcome
      cases outcome with
      | next turn lacks usual => exact .inl ⟨lacks, usual⟩
      | astray turn lacks elseFollows => exact .inr ⟨lacks, elseFollows⟩
  | @command _ _ _ _ ok inside polled step answered =>
      rw [step] at outcome
      cases outcome with
      | command _ here =>
          obtain ⟨template, line⟩ := here
          exact .inl ⟨(turn_answer lacks line ok).2, not_elseFollows line (by simp)⟩

/-- How a run can stop, by the frames that are missing. -/
theorem Stops.ending_cases (nested : task.code.Nested) (stop : Stops task steering m s ending s')
    (lacks : m.Lacks task.code missing) :
    (∃ fault, ending = .failed fault) ∨ (missing = 0 ∧ ∃ soft, ending = .finished soft) ∨
      (0 < missing ∧ ending = .crashed .noOpenBlock) := by
  have outcome := outcome_step nested lacks
  cases stop with
  | finished past =>
      have step : m.step task = .stop (.finished (m.softAfter task)) := by
        unfold step
        rw [List.getElem?_eq_none past]
      rw [step] at outcome
      cases outcome with
      | finished _ _ _ complete => exact .inr (.inl ⟨complete, _, rfl⟩)
  | interrupted => exact .inl ⟨.interrupted, rfl⟩
  | stopped inside polled step =>
      rw [step] at outcome
      cases outcome with
      | finished _ _ _ complete => exact .inr (.inl ⟨complete, _, rfl⟩)
      | failed fault => exact .inl ⟨fault, rfl⟩
      | crashed outside incomplete => exact .inr (.inr ⟨incomplete, rfl⟩)

/-- A run takes an else for the end of an if that goes on with another else. -/
def GoesAstray (task : Task) (steering : Steering σ) (m : Machine) (s : σ) : Prop :=
  ∃ n m₁ s₁ m₂ s₂, Steps task steering n m s m₁ s₁ ∧ Moves task steering m₁ s₁ m₂ s₂ ∧
    task.code.ElseFollows m₁.position

/-- A machine that has entered nothing lacks nothing. -/
theorem lacks_start (code : Program) : ({} : Machine).Lacks code 0 := rfl

/-- Frames that are missing stay missing. -/
theorem Steps.lacks (nested : task.code.Nested) {n : Nat} (steps : Steps task steering n m s m' s')
    (lacks : m.Lacks task.code missing) : ∃ more ≥ missing, m'.Lacks task.code more := by
  refine steps.invariant (fun m' _ => ∃ more ≥ missing, m'.Lacks task.code more) ?_
    ⟨missing, Nat.le_refl _, lacks⟩
  rintro m₁ m₂ s₁ s₂ move ⟨more, enough, lacks⟩
  rcases move.lacks nested lacks with ⟨same, -⟩ | ⟨further, -⟩
  · exact ⟨more, enough, same⟩
  · exact ⟨more + 1, Nat.le_succ_of_le enough, further⟩

/-- As long as a run does not go astray, no frame is missing. -/
theorem Steps.lacks_zero (nested : task.code.Nested) {n : Nat}
    (steps : Steps task steering n {} s m' s') :
    m'.Lacks task.code 0 ∨ GoesAstray task steering {} s := by
  have reached : (∃ n, Steps task steering n {} s m' s') ∧
      (m'.Lacks task.code 0 ∨ GoesAstray task steering {} s) := by
    refine steps.invariant (fun m' s' => (∃ n, Steps task steering n {} s m' s') ∧
      (m'.Lacks task.code 0 ∨ GoesAstray task steering {} s)) ?_
      ⟨⟨0, .refl _ s⟩, .inl (lacks_start _)⟩
    rintro m₁ m₂ s₁ s₂ move ⟨⟨n, steps⟩, lacks | astray⟩
    · refine ⟨⟨n + 1, steps.snoc move⟩, ?_⟩
      rcases move.lacks nested lacks with ⟨same, -⟩ | ⟨-, elseFollows⟩
      · exact .inl same
      · exact .inr ⟨n, m₁, s₁, m₂, s₂, steps, move, elseFollows⟩
    · exact ⟨⟨n + 1, steps.snoc move⟩, .inr astray⟩
  exact reached.2

/-- A run of a nested program crashes only where a frame is missing, and so only after it has gone
astray. -/
theorem crash_of_run (nested : task.code.Nested) {fuel : Nat} {crash : Crash}
    (ran : run task steering fuel {} s = some (m', .crashed crash, s')) :
    crash = .noOpenBlock ∧ GoesAstray task steering {} s := by
  obtain ⟨n, s₁, -, steps, stop⟩ := run_eq_some_iff.1 ran
  obtain ⟨missing, -, lacks⟩ := steps.lacks nested (lacks_start _)
  rcases stop.ending_cases nested lacks with ⟨_, impossible⟩ | ⟨_, _, impossible⟩ | ⟨positive, same⟩
  · contradiction
  · contradiction
  · cases same
    refine ⟨rfl, ?_⟩
    rcases steps.lacks_zero nested with complete | astray
    · rw [Lacks, lacks, Option.some.injEq] at complete
      omega
    · exact astray

/-- A run of a nested program that has gone astray does not come to the end of the program. Where no
failure stops it before, it crashes. -/
theorem ending_of_astray (nested : task.code.Nested) {fuel : Nat}
    (ran : run task steering fuel {} s = some (m', ending, s'))
    (astray : GoesAstray task steering {} s) :
    (∃ fault, ending = .failed fault) ∨ ending = .crashed .noOpenBlock := by
  obtain ⟨n, m₁, s₁, m₂, s₂, steps, move, elseFollows⟩ := astray
  obtain ⟨missing, -, lacks⟩ := steps.lacks nested (lacks_start _)
  rw [run_of_steps fuel (steps.snoc move)] at ran
  obtain ⟨k, s₃, -, rest, stop⟩ := run_eq_some_iff.1 ran
  rcases move.lacks nested lacks with ⟨-, usual⟩ | ⟨short, -⟩
  · contradiction
  · obtain ⟨more, enough, lacks⟩ := rest.lacks nested short
    rcases stop.ending_cases nested lacks with failed | ⟨complete, -⟩ | ⟨-, crashed⟩
    · exact .inl failed
    · omega
    · exact .inr crashed

/-- A run of a nested program crashes exactly if it goes astray and no failure stops it. -/
theorem crashed_iff_goesAstray (nested : task.code.Nested) {fuel : Nat}
    (ran : run task steering fuel {} s = some (m', ending, s')) :
    (∃ crash, ending = .crashed crash) ↔
      GoesAstray task steering {} s ∧ ¬∃ fault, ending = .failed fault := by
  constructor
  · rintro ⟨crash, rfl⟩
    refine ⟨(crash_of_run nested ran).2, ?_⟩
    rintro ⟨fault, impossible⟩
    contradiction
  · rintro ⟨astray, notFailed⟩
    rcases ending_of_astray nested ran astray with failed | crashed
    · exact absurd failed notFailed
    · exact ⟨_, crashed⟩

end Machine

end Ebrc
