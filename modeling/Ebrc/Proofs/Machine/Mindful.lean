import Ebrc.Proofs.Machine.Trace

/-!
# Functions that mind their commands

Whether a function minds a command that fails shows in the ending of its run only. A plain function
runs, line by line, as a mindful one does once what that one has minded is forgotten.

What a mindful function minds is read off the marks that the run leaves, which are the answers to
its commands and the tests of its blocks. A failure is pending as long as its answer is the last
mark. The next answer makes the function mind it, and so does the end, while a test settles it.
All other lines leave no mark, and they neither settle a failure nor mind it.
-/

namespace Ebrc

/-! ## Plain functions -/

/-- The function, run as one that does not mind its commands. -/
def Task.plain (task : Task) : Task := { task with mindful := false }

/-- The function, run as one that minds its commands. -/
def Task.minding (task : Task) : Task := { task with mindful := true }

/-- The ending, with what the function has minded forgotten. -/
def Ending.plain : Ending → Ending
  | finished _ => finished false
  | ending => ending

/-- The machine, with what the function has minded forgotten. -/
def Machine.plain (m : Machine) : Machine := { m with soft := false }

/-- What comes of a line, with what the function has minded forgotten. -/
def Step.plain : Step → Step
  | next m => next m.plain
  | command line => command line
  | stop ending => stop ending.plain

namespace Machine

variable {σ : Type} {task : Task} {steering : Steering σ}
variable {m m' next : Machine} {s s' : σ}

theorem plain_skip (code : Program) (m : Machine) : m.plain.skip code = (m.skip code).plain := by
  unfold skip
  simp only [plain]
  cases code.blockEnd? (m.position + 1) <;> rfl

theorem plain_openBlock (code : Program) (block : Block) (m : Machine) :
    m.plain.openBlock code block = (m.openBlock code block).plain := by
  unfold openBlock
  rw [apply_ite Step.plain]
  exact ite_congr rfl (fun _ => rfl) fun _ => plain_skip code
    { m with ok := block.okInside m.ok, frames := ⟨block, block.count⟩ :: m.frames }

theorem plain_leaveBranch (code : Program) (m : Machine) :
    m.plain.leaveBranch code = (m.leaveBranch code).plain := by
  unfold leaveBranch
  simp only [plain]
  cases code.blockEnd? (m.position + 1) with
  | none => rfl
  | some stop => cases m.frames <;> rfl

theorem plain_repeatBlock (code : Program) (m : Machine) :
    m.plain.repeatBlock code = (m.repeatBlock code).plain := by
  unfold repeatBlock
  simp only [plain]
  cases code.blockStart? m.position <;> rfl

theorem plain_closeBlock (task : Task) (m : Machine) :
    m.plain.closeBlock task.plain = (m.closeBlock task).plain := by
  unfold closeBlock
  simp only [plain, Task.plain]
  cases m.frames with
  | nil => rfl
  | cons frame frames =>
      dsimp only
      split
      · rw [apply_ite Step.plain]
        exact ite_congr rfl (fun _ => plain_repeatBlock task.code
          { m with frames := { frame with left := frame.left - 1 } :: frames }) fun _ => rfl
      · rw [apply_ite Step.plain, apply_ite Step.plain]
        refine ite_congr rfl (fun _ => ite_congr rfl (fun _ => rfl) fun _ => ?_) fun _ => rfl
        exact plain_repeatBlock task.code
          { m with ok := true, frames := frame :: frames, repetitions := m.repetitions + 1 }
      · rfl

/-- A plain function comes from a line where a mindful one does. -/
theorem plain_step (task : Task) (m : Machine) : m.plain.step task.plain = (m.step task).plain := by
  unfold step
  cases line : task.code[m.position]? with
  | none => simp [plain, Task.plain, line, softAfter, Step.plain, Ending.plain]
  | some i =>
      simp only [show task.plain.code[m.plain.position]? = some i from line]
      cases i with
      | literal template =>
          simp only [Task.plain]
          cases task.invocation.fill template <;> rfl
      | opening block => exact plain_openBlock task.code block m
      | closing => exact plain_closeBlock task m
      | between => exact plain_leaveBranch task.code m

theorem plain_answer (task : Task) (ok : Bool) (m : Machine) :
    m.plain.answer task.plain ok = (m.answer task ok).plain := rfl

/-- The run of a plain function is the run of a mindful one with what has been minded forgotten. -/
theorem plain_run (task : Task) (steering : Steering σ) (fuel : Nat) (m : Machine) (s : σ) :
    run task.plain steering fuel m.plain s =
      (run task steering fuel m s).map fun (m, ending, s) => (m.plain, ending.plain, s) := by
  induction fuel generalizing m s with
  | zero => rfl
  | succ fuel ih =>
      unfold run
      by_cases inside : m.position < task.code.length
      · rw [if_pos inside, if_pos (show m.plain.position < task.plain.code.length from inside),
          plain_step]
        cases steering.interrupted s with
        | mk stopped s₁ =>
            cases stopped with
            | true => rfl
            | false =>
                cases m.step task with
                | stop ending => rfl
                | next next => exact ih next s₁
                | command line =>
                    simp only [Step.plain, Bool.false_eq_true, if_false, plain_answer]
                    cases steering.carryOut line s₁ with
                    | none => rfl
                    | some answer => exact ih _ _
      · rw [if_neg inside, if_neg (show ¬m.plain.position < task.plain.code.length from inside)]
        rfl

end Machine

/-! ## Marks -/

/-- What a line does about failures. -/
inductive Mark where
  /-- A command has been answered. -/
  | answered (ok : Bool)
  /-- A block has tested the last answer. -/
  | tested
  deriving Repr, DecidableEq

/-- A command that failed is followed by another command, with no test in between, or by the end. -/
def PassesOver (marks : List Mark) : Prop :=
  (∃ ok, [.answered false, .answered ok] <:+: marks) ∨ marks.getLast? = some (.answered false)

theorem pair_infix_concat {α : Type} {a b last : α} {l : List α} :
    [a, b] <:+: l ++ [last] ↔ (b = last ∧ l.getLast? = some a) ∨ [a, b] <:+: l := by
  rw [List.infix_concat_iff]
  refine or_congr_left ⟨?_, ?_⟩
  · rintro ⟨front, same⟩
    rw [List.append_cons, List.append_singleton_inj] at same
    exact ⟨same.2, List.getLast?_eq_some_iff.2 ⟨front, same.1.symm⟩⟩
  · rintro ⟨rfl, ends⟩
    obtain ⟨front, rfl⟩ := List.getLast?_eq_some_iff.1 ends
    exact ⟨front, List.append_cons front a [b]⟩

namespace Machine

variable {σ : Type} {task : Task} {steering : Steering σ}
variable {m m' next : Machine} {s s' : σ} {marks before : List Mark} {ending : Ending}

/-- Does the next line test the last answer? An if and a while do so on entry, a while and an until
at their end. -/
def tests (code : Program) (m : Machine) : Bool :=
  match code[m.position]? with
  | some (.opening block) => block.entryTest.isSome
  | some .closing => m.frames.head?.any (·.block.repeatTest.isSome)
  | _ => false

/-- The mark that a line leaves, from the machine before it and the one after it. -/
def mark? (code : Program) (m next : Machine) : Option Mark :=
  match code[m.position]? with
  | some (.literal _) => some (.answered next.ok)
  | _ => if m.tests code then some .tested else none

/-- A run to its end, and the marks that it leaves. -/
inductive Trail (task : Task) (steering : Steering σ) :
    Machine → σ → List Mark → Machine → Ending → σ → Prop where
  | stop {m : Machine} {s s' : σ} {ending : Ending} :
      Stops task steering m s ending s' → Trail task steering m s [] m ending s'
  | move {m m₁ m' : Machine} {s s₁ s' : σ} {ending : Ending} {marks : List Mark} :
      Moves task steering m s m₁ s₁ → Trail task steering m₁ s₁ marks m' ending s' →
      Trail task steering m s ((m.mark? task.code m₁).toList ++ marks) m' ending s'

theorem exists_trail {fuel : Nat} (ran : run task steering fuel m s = some (m', ending, s')) :
    ∃ marks, Trail task steering m s marks m' ending s' := by
  obtain ⟨n, s₁, -, steps, stop⟩ := run_eq_some_iff.1 ran
  clear ran
  induction steps with
  | refl => exact ⟨[], .stop stop⟩
  | head move _ ih =>
      obtain ⟨marks, trail⟩ := ih stop
      exact ⟨_, .move move trail⟩

/-- The marks of a run are determined. -/
theorem Trail.unique {marks' : List Mark} {m₂ : Machine} {ending₂ : Ending} {s₂ : σ}
    (left : Trail task steering m s marks m' ending s')
    (right : Trail task steering m s marks' m₂ ending₂ s₂) : marks = marks' := by
  induction left generalizing marks' with
  | stop stop =>
      cases right with
      | stop _ => rfl
      | move move _ => exact absurd stop move.not_stops
  | move move _ ih =>
      cases right with
      | stop stop => exact absurd stop move.not_stops
      | move move' rest =>
          obtain ⟨rfl, rfl⟩ := move.unique move'
          rw [ih rest]

/-! ## What is minded -/

/-- What comes of a line, as far as failures are concerned. -/
inductive Heeds (task : Task) (m : Machine) : Step → Prop where
  /-- The line minds nothing, and a test takes the last answer as dealt with. -/
  | next {next : Machine} (soft : next.soft = m.soft) (ok : next.ok = (m.tests task.code || m.ok))
      (mark : m.mark? task.code next = if m.tests task.code then some .tested else none) :
      Heeds task m (.next next)
  | command (line : Text) (mark : ∀ next, m.mark? task.code next = some (.answered next.ok)) :
      Heeds task m (.command line)
  | finished : Heeds task m (.stop (.finished (m.softAfter task)))
  | failed (fault : FunctionFault) : Heeds task m (.stop (.failed fault))
  | crashed (crash : Crash) : Heeds task m (.stop (.crashed crash))

theorem heeds_openBlock {block : Block} (line : task.code[m.position]? = some (.opening block)) :
    Heeds task m (m.openBlock task.code block) := by
  have goesOn {next : Machine} (soft : next.soft = m.soft) (ok : next.ok = block.okInside m.ok) :
      Heeds task m (.next next) :=
    .next soft (by simpa [tests, line, Block.okInside] using ok) (by simp [mark?, line])
  unfold openBlock
  dsimp only
  split
  · exact goesOn rfl rfl
  · unfold skip
    split
    · exact .crashed _
    · exact goesOn rfl rfl

theorem heeds_leaveBranch (line : task.code[m.position]? = some .between) :
    Heeds task m (m.leaveBranch task.code) := by
  unfold leaveBranch
  split
  · exact .crashed _
  · exact .crashed _
  · exact .next rfl (by simp [tests, line]) (by simp [mark?, line])

theorem heeds_closeBlock (line : task.code[m.position]? = some .closing) :
    Heeds task m (m.closeBlock task) := by
  unfold closeBlock
  cases frames : m.frames with
  | nil => exact .crashed _
  | cons frame rest =>
      have goesOn {next : Machine} (soft : next.soft = m.soft)
          (ok : next.ok = (frame.block.repeatTest.isSome || m.ok)) : Heeds task m (.next next) :=
        .next soft (by simpa [tests, line, frames] using ok) (by simp [mark?, line])
      have goesBack {again : Machine} (soft : again.soft = m.soft)
          (ok : again.ok = (frame.block.repeatTest.isSome || m.ok)) :
          Heeds task m (again.repeatBlock task.code) := by
        unfold repeatBlock
        split
        · exact .crashed _
        · exact goesOn soft ok
      dsimp only
      -- A loop tests nothing. A while and an until do, whether they repeat or not.
      split
      · rename_i loop
        split
        · exact goesBack rfl (by rw [loop]; rfl)
        · exact goesOn rfl (by rw [loop]; rfl)
      · rename_i test _
        split
        · split
          · exact .failed _
          · exact goesBack rfl (by rw [test]; rfl)
        · exact goesOn rfl (by rw [test]; rfl)
      · rename_i untested _
        exact goesOn rfl (by rw [untested]; rfl)

theorem heeds_step (task : Task) (m : Machine) : Heeds task m (m.step task) := by
  unfold step
  cases line : task.code[m.position]? with
  | none => exact .finished
  | some i =>
      cases i with
      | literal template =>
          dsimp only
          split
          · exact .failed _
          · exact .command _ fun next => by simp [mark?, line]
      | opening block => exact heeds_openBlock line
      | closing => exact heeds_closeBlock line
      | between => exact heeds_leaveBranch line

/-- What the marks so far say about the machine: a failure is pending if it is the last mark, and
the function has minded one if another answer has followed it. -/
structure Minds (marks : List Mark) (m : Machine) : Prop where
  pending : m.ok = false ↔ marks.getLast? = some (.answered false)
  soft : m.soft = true ↔ ∃ ok, [.answered false, .answered ok] <:+: marks

theorem minds_start : Minds [] {} where
  pending := by simp
  soft := by simp

/-- One more answer: a failure that was pending is minded. -/
theorem Minds.answer (mindful : task.mindful = true) (minds : Minds marks m) (ok : Bool) :
    Minds (marks ++ [.answered ok]) (m.answer task ok) where
  pending := by simp [Machine.answer]
  soft := by
    simp only [Machine.answer, softAfter, mindful, pair_infix_concat, exists_or,
      Mark.answered.injEq, exists_eq_left, Bool.or_eq_true, Bool.true_and, Bool.not_eq_true',
      minds.pending, minds.soft]
    exact or_comm

/-- A test settles a failure that was pending. -/
theorem Minds.test (minds : Minds marks m) (soft : next.soft = m.soft) (ok : next.ok = true) :
    Minds (marks ++ [.tested]) next where
  pending := by simp [ok]
  soft := by simp [soft, minds.soft, pair_infix_concat]

/-- A line keeps what the marks say about the machine. -/
theorem Minds.move (mindful : task.mindful = true) (minds : Minds marks m)
    (move : Moves task steering m s m' s') :
    Minds (marks ++ (m.mark? task.code m').toList) m' := by
  have heeds := heeds_step task m
  cases move with
  | jump inside polled step =>
      rw [step] at heeds
      cases heeds with
      | next soft ok mark =>
          rw [mark]
          cases tested : m.tests task.code with
          | true =>
              rw [tested, Bool.true_or] at ok
              exact minds.test soft ok
          | false =>
              rw [tested, Bool.false_or] at ok
              exact ⟨by simpa [ok] using minds.pending, by simpa [soft] using minds.soft⟩
  | command inside polled step answered =>
      rw [step] at heeds
      cases heeds with
      | command _ mark =>
          rw [mark]
          exact minds.answer mindful _

/-- A mindful function that comes to its end has minded a failure exactly if its run has passed one
over. -/
theorem Trail.soft_iff (mindful : task.mindful = true)
    (trail : Trail task steering m s marks m' ending s') (minds : Minds before m) {soft : Bool}
    (finished : ending = .finished soft) : soft = true ↔ PassesOver (before ++ marks) := by
  -- The marks left so far grow as those to come are used up; the end reads them off the machine.
  induction trail generalizing before with
  | @stop m s s' ending stop =>
      have atEnd : soft = m.softAfter task := by
        cases stop with
        | finished past => exact (Ending.finished.inj finished).symm
        | interrupted => contradiction
        | stopped inside polled step =>
            have heeds := heeds_step task m
            rw [step, finished] at heeds
            cases heeds
            rfl
      rw [atEnd, List.append_nil]
      simp only [softAfter, mindful, Bool.or_eq_true, Bool.true_and, Bool.not_eq_true',
        minds.pending, minds.soft, PassesOver]
  | move move _ ih =>
      rw [← List.append_assoc]
      exact ih (minds.move mindful move) finished

/-- A failure stays pending behind the opening line of a loop, and an if settles it. -/
example :
    let steering : Steering Unit := ⟨fun s => (false, s), fun line s => some (line ≠ ['a'], s)⟩
    let ending (block : Block) :=
      (run ⟨[.literal ['a'], .opening block, .literal ['b'], .closing], true, ⟨['f'], []⟩, 0⟩
        steering 5 {} ()).map (·.2.1)
    ending (.loop 1) = some (.finished true) ∧
      ending (.branch false) = some (.finished false) := by
  decide

end Machine

end Ebrc
