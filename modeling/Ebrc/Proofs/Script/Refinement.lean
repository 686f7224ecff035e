import Ebrc.Proofs.Machine.Trace
import Ebrc.Proofs.Script.Layout

/-!
# The machine runs scripts

The machine works on the flat lines of a body: it looks for the other end of a block by a scan,
and keeps a stack of the blocks it has entered. Here its runs on the lines of a script are shown to
be the runs of the script. The parts of a script are followed one by one: where a part has been
through, the machine stands behind its lines with the same tally and the same stack as before it;
where the run ends inside the part, the machine stops in the same way; and where the part has no
outcome within a number of repetitions, neither has the machine within that number of lines.
-/

namespace Ebrc

/-- The machine with a tally, at a position and inside some blocks. -/
def Tally.machineAt (tally : Tally) (position : Nat) (frames : List Frame) : Machine :=
  ⟨position, tally.ok, tally.soft, frames, tally.repetitions, tally.commands⟩

namespace Machine

variable {σ : Type} {task : Task} {steering : Steering σ}

/-- The machine does what a part of a body comes to. Behind the part it is as `arrive` says. -/
def Follows (task : Task) (steering : Steering σ) (fuel : Nat) (m : Machine) (s : σ)
    (arrive : Tally → Machine) : Option (Passage σ) → Prop
  | some (.through tally s') => ∃ n, Steps task steering n m s (arrive tally) s'
  | some (.ended tally ending s') => ∃ n m' s₁, Steps task steering n m s m' s₁ ∧
      Stops task steering m' s₁ ending s' ∧ m'.commands = tally.commands
  | none => ∀ f ≤ fuel, run task steering f m s = none

namespace Follows

variable {fuel : Nat} {m m' : Machine} {s s' : σ} {arrive : Tally → Machine}
variable {outcome : Option (Passage σ)} {tally : Tally}

/-- What is followed within a number of lines is followed within fewer. -/
theorem mono {less : Nat} (le : less ≤ fuel) (follows : Follows task steering fuel m s arrive outcome) :
    Follows task steering less m s arrive outcome := by
  match outcome with
  | some (.through _ _) | some (.ended _ _ _) => exact follows
  | none => exact fun f bound => follows f (Nat.le_trans bound le)

/-- Lines in front of a part only add to the lines that it takes. -/
theorem after_steps {n : Nat} (steps : Steps task steering n m s m' s')
    (follows : Follows task steering fuel m' s' arrive outcome) :
    Follows task steering (fuel + n) m s arrive outcome := by
  match outcome with
  | some (.through _ _) =>
      obtain ⟨k, rest⟩ := follows
      exact ⟨n + k, steps.trans rest⟩
  | some (.ended _ _ _) =>
      obtain ⟨k, last, s₁, rest, stop⟩ := follows
      exact ⟨n + k, last, s₁, steps.trans rest, stop⟩
  | none =>
      intro f bound
      rw [run_of_steps f steps]
      exact follows (f - n) (by omega)

/-- A line in front of a part. -/
theorem after_move (move : Moves task steering m s m' s')
    (follows : Follows task steering fuel m' s' arrive outcome) :
    Follows task steering (fuel + 1) m s arrive outcome :=
  after_steps (.single move) follows

/-- One part after another. -/
theorem andThen {first second : Course σ} (between : Tally → Machine)
    (before : Follows task steering fuel m s between (first tally s))
    (after : ∀ tally s', Follows task steering fuel (between tally) s' arrive (second tally s')) :
    Follows task steering fuel m s arrive (first.andThen second tally s) := by
  unfold Course.andThen
  match first tally s, before with
  | some (.through tally s'), ⟨n, steps⟩ =>
      exact (after_steps steps (after tally s')).mono (Nat.le_add_right fuel n)
  | some (.ended _ _ _), before => exact before
  | none, before => exact before

/-- The run ends at the line where the machine stands. -/
theorem stopped {ending : Ending} (stop : Stops task steering m s ending s')
    (counted : m.commands = tally.commands) :
    Follows task steering fuel m s arrive (some (.ended tally ending s')) :=
  ⟨0, m, s, .refl m s, stop, counted⟩

/-- A line: the interrupt flag is looked at first. -/
theorem line {course : Course σ} (inside : m.position < task.code.length)
    (counted : m.commands = tally.commands)
    (next : ∀ s', steering.interrupted s = (false, s') →
      Follows task steering fuel m s arrive (course tally s')) :
    Follows task steering fuel m s arrive (Course.line steering course tally s) := by
  unfold Course.line
  match polled : steering.interrupted s with
  | (true, s') => exact stopped (.interrupted inside polled) counted
  | (false, s') => exact next s' polled

/-- Nothing to run takes no line. -/
theorem skip (here : m = arrive tally) :
    Follows task steering fuel m s arrive (Course.skip tally s) :=
  ⟨0, here ▸ .refl m s⟩

/-- A line that leads to the next one. -/
theorem jump {next : Machine} (inside : m.position < task.code.length)
    (polled : steering.interrupted s = (false, s')) (step : m.step task = .next next)
    (follows : Follows task steering fuel next s' arrive outcome) :
    Follows task steering fuel m s arrive outcome :=
  (after_move (.jump inside polled step) follows).mono (Nat.le_succ fuel)

/-- A line that only ends a body. -/
theorem endLine (inside : m.position < task.code.length) (counted : m.commands = tally.commands)
    (step : m.step task = .next (arrive tally)) :
    Follows task steering fuel m s arrive (Course.endLine steering tally s) :=
  line inside counted fun _ polled => jump inside polled step (skip rfl)

end Follows

/-! ## Lines of blocks

How the machine behaves at each line that is no command. The facts about the lines, where they
stand and where the scans lead, are left to the places where these lemmas are used. -/

section Lines

variable {position stop : Nat} {frames : List Frame} {tally : Tally} {block : Block}

theorem lt_of_line {i : Instruction} (line : task.code[position]? = some i) :
    position < task.code.length :=
  (List.getElem?_eq_some_iff.1 line).1

/-- An opening line whose block is entered. -/
theorem step_enter (line : task.code[position]? = some (.opening block))
    (enters : block.isEntered tally.ok = true) :
    (tally.machineAt position frames).step task = .next
      ({ tally with ok := block.okInside tally.ok }.machineAt (position + 1)
        (⟨block, block.count⟩ :: frames)) := by
  simp [step, openBlock, Tally.machineAt, line, enters, advance]

/-- An opening line whose block is skipped as a whole. -/
theorem step_skip (line : task.code[position]? = some (.opening block))
    (skips : block.isEntered tally.ok = false)
    (scan : task.code.blockEnd? (position + 1) = some stop)
    (ends : task.code[stop]? = some .closing) :
    (tally.machineAt position frames).step task = .next
      ({ tally with ok := block.okInside tally.ok }.machineAt (stop + 1) frames) := by
  simp [step, openBlock, Tally.machineAt, line, skips, skip, scan, ends, Instruction.isClosing]

/-- An opening line whose block is skipped up to its else. -/
theorem step_skip_to_else (line : task.code[position]? = some (.opening block))
    (skips : block.isEntered tally.ok = false)
    (scan : task.code.blockEnd? (position + 1) = some stop)
    (ends : task.code[stop]? = some .between) :
    (tally.machineAt position frames).step task = .next
      ({ tally with ok := block.okInside tally.ok }.machineAt (stop + 1)
        (⟨block, block.count⟩ :: frames)) := by
  simp [step, openBlock, Tally.machineAt, line, skips, skip, scan, ends, Instruction.isClosing]

/-- The closing line of a block that does not test at its end. -/
theorem step_leave {onOk : Bool} {left : Int} (line : task.code[position]? = some .closing) :
    (tally.machineAt position (⟨.branch onOk, left⟩ :: frames)).step task =
      .next (tally.machineAt (position + 1) frames) := by
  simp [step, closeBlock, Tally.machineAt, line, Block.repeatTest, advance]

/-- The else at the end of a first branch. -/
theorem step_else {frame : Frame} (line : task.code[position]? = some .between)
    (scan : task.code.blockEnd? (position + 1) = some stop) :
    (tally.machineAt position (frame :: frames)).step task =
      .next (tally.machineAt (stop + 1) frames) := by
  simp [step, leaveBranch, Tally.machineAt, line, scan]

/-- The closing line of a loop in its last round. -/
theorem step_loop_leave {count : Int} (line : task.code[position]? = some .closing) :
    (tally.machineAt position (⟨.loop count, 1⟩ :: frames)).step task =
      .next (tally.machineAt (position + 1) frames) := by
  simp [step, closeBlock, Tally.machineAt, line, advance]

/-- The closing line of a loop in an earlier round. -/
theorem step_loop_again {count left : Int} (line : task.code[position]? = some .closing)
    (scan : task.code.blockStart? position = some stop) (more : 1 < left) :
    (tally.machineAt position (⟨.loop count, left⟩ :: frames)).step task =
      .next (tally.machineAt (stop + 1) (⟨.loop count, left - 1⟩ :: frames)) := by
  simp [step, closeBlock, repeatBlock, Tally.machineAt, line, scan, more]

/-- The closing line of a block whose test asks for one more repetition. -/
theorem step_repeat {again : Bool} {left : Int} (line : task.code[position]? = some .closing)
    (scan : task.code.blockStart? position = some stop) (tests : block.repeatTest = some again)
    (meets : tally.ok = again) (within : ¬(task.limit ≠ 0 ∧ task.limit < tally.repetitions + 1)) :
    (tally.machineAt position (⟨block, left⟩ :: frames)).step task =
      .next (tally.repeated.machineAt (stop + 1) (⟨block, left⟩ :: frames)) := by
  cases block <;> simp only [Block.repeatTest, reduceCtorEq, Option.some.injEq] at tests <;>
    simp only [step, Tally.machineAt, Tally.repeated, line, closeBlock, Block.repeatTest, tests,
      meets, within, if_true, if_false, repeatBlock, scan]

/-- The closing line of a block whose test asks for more repetitions than the limit allows. -/
theorem step_over {again : Bool} {left : Int} (line : task.code[position]? = some .closing)
    (tests : block.repeatTest = some again) (meets : tally.ok = again)
    (exceeds : task.limit ≠ 0 ∧ task.limit < tally.repetitions + 1) :
    (tally.machineAt position (⟨block, left⟩ :: frames)).step task =
      .stop (.failed (.tooManyRepetitions task.limit)) := by
  cases block <;> simp only [Block.repeatTest, reduceCtorEq, Option.some.injEq] at tests <;>
    simp only [step, Tally.machineAt, line, closeBlock, Block.repeatTest, tests, meets, if_true] <;>
    exact if_pos exceeds

/-- The closing line of a block whose test lets the machine pass. -/
theorem step_pass {again : Bool} {left : Int} (line : task.code[position]? = some .closing)
    (tests : block.repeatTest = some again) (fails : tally.ok ≠ again) :
    (tally.machineAt position (⟨block, left⟩ :: frames)).step task =
      .next (tally.tested.machineAt (position + 1) frames) := by
  cases block <;> simp only [Block.repeatTest, reduceCtorEq, Option.some.injEq] at tests <;>
    simp only [step, Tally.machineAt, Tally.tested, line, closeBlock, Block.repeatTest, tests,
      fails, if_false, advance]

end Lines

/-! ## Parts of a body -/

section Parts

variable {terms : Terms} {code : Program} {fuel position stop : Nat}
variable {frames : List Frame} {tally : Tally} {s : σ}

/-- A command is filled in and carried out. -/
theorem follows_command {template : Text} (line : code[position]? = some (.literal template)) :
    Follows (terms.task code) steering fuel (tally.machineAt position frames) s
      (·.machineAt (position + 1) frames)
      (Course.command terms steering template tally s) := by
  have inside : position < code.length := (List.getElem?_eq_some_iff.1 line).1
  refine Follows.line inside rfl fun s' polled => ?_
  cases filled : terms.invocation.fill template with
  | error index =>
      have step : (tally.machineAt position frames).step (terms.task code) =
          .stop (.failed (.noArgument index)) := by
        simp [step, Tally.machineAt, Terms.task, line, filled]
      exact .stopped (.stopped inside polled step) rfl
  | ok command =>
      have step : (tally.machineAt position frames).step (terms.task code) =
          .command command := by
        simp [step, Tally.machineAt, Terms.task, line, filled]
      cases answered : steering.carryOut command s' with
      | none =>
          simp only [answered, Option.map_none]
          intro f _
          cases f with
          | zero => rfl
          | succ f =>
              have here : (tally.machineAt position frames).position <
                  (terms.task code).code.length := inside
              simp only [run, here, polled, step, answered, if_true, Bool.false_eq_true,
                if_false]
      | some answer =>
          obtain ⟨ok, s₁⟩ := answer
          simp only [answered, Option.map_some]
          exact ⟨1, .single (.command inside polled step answered)⟩

/-- The rounds of a loop. -/
theorem follows_times {body : Course σ} (ends : code[stop]? = some .closing)
    (scan : code.blockStart? stop = some position)
    (follows : ∀ tally s frames, Follows (terms.task code) steering fuel
      (tally.machineAt (position + 1) frames) s (·.machineAt stop frames) (body tally s))
    (total : Int) (count : Nat) (tally : Tally) (s : σ) :
    Follows (terms.task code) steering fuel
      (tally.machineAt (position + 1) (⟨.loop total, count + 1⟩ :: frames)) s
      (·.machineAt (stop + 1) frames) (Course.times steering body (count + 1) tally s) := by
  have inside : stop < code.length := (List.getElem?_eq_some_iff.1 ends).1
  induction count generalizing tally s with
  | zero =>
      refine .andThen _ (follows tally s _) fun tally s' => ?_
      refine .andThen (·.machineAt (stop + 1) frames) (.endLine inside rfl ?_)
        fun tally s' => .skip rfl
      exact step_loop_leave ends
  | succ count ih =>
      refine .andThen _ (follows tally s _) fun tally s' => ?_
      refine .andThen (·.machineAt (position + 1) (⟨.loop total, count + 1⟩ :: frames))
        (.endLine inside rfl ?_) fun tally s' => ih tally s'
      have more : (1 : Int) < (count + 1 : Nat) + 1 := by omega
      have left : ((count + 1 : Nat) + 1 : Int) - 1 = count + 1 := by omega
      rw [← left]
      exact step_loop_again ends scan more

/-- The rounds of a block that tests at its end. -/
theorem follows_repeating {body : Course σ} {block : Block} {again : Bool} {left : Int}
    (tests : block.repeatTest = some again)
    (ends : code[stop]? = some .closing) (scan : code.blockStart? stop = some position)
    (follows : ∀ tally s frames, Follows (terms.task code) steering fuel
      (tally.machineAt (position + 1) frames) s (·.machineAt stop frames) (body tally s))
    (rounds : Nat) (le : rounds ≤ fuel) (tally : Tally) (s : σ) :
    Follows (terms.task code) steering rounds
      (tally.machineAt (position + 1) (⟨block, left⟩ :: frames)) s
      (·.machineAt (stop + 1) frames)
      (Course.repeating terms steering again body rounds tally s) := by
  have inside : stop < code.length := (List.getElem?_eq_some_iff.1 ends).1
  induction rounds generalizing tally s with
  | zero =>
      intro f bound
      obtain rfl : f = 0 := Nat.le_zero.1 bound
      rfl
  | succ rounds ih =>
      refine .andThen _ ((follows tally s _).mono le) fun tally s' => ?_
      refine .line inside rfl fun s' polled => ?_
      by_cases meets : tally.ok = again
      · rw [if_pos meets]
        by_cases exceeds : terms.limit ≠ 0 ∧ terms.limit < tally.repetitions + 1
        · rw [if_pos exceeds]
          exact .stopped (.stopped inside polled (step_over ends tests meets exceeds)) rfl
        · rw [if_neg exceeds]
          exact .after_move (.jump inside polled (step_repeat ends scan tests meets exceeds))
            (ih (Nat.le_of_succ_le le) tally.repeated s')
      · rw [if_neg meets]
        exact .jump inside polled (step_pass ends tests meets) (.skip rfl)

end Parts

end Machine

/-! ## Scripts -/

namespace Script

open Machine

variable {σ : Type} {steering : Steering σ} {terms : Terms} {fuel : Nat}
variable {code : Program} {position middle stop : Nat} {frames : List Frame}
variable {body otherwise : Course σ} {tally : Tally} {s : σ} {onOk : Bool}

/-- The machine follows a part of a body that starts and ends between two lines, whatever blocks
it stands in. -/
def FollowedBetween (terms : Terms) (steering : Steering σ) (fuel : Nat) (code : Program)
    (position stop : Nat) (course : Course σ) : Prop :=
  ∀ (frames : List Frame) (tally : Tally) (s : σ),
    Follows (terms.task code) steering fuel (tally.machineAt position frames) s
      (·.machineAt stop frames) (course tally s)

theorem FollowedBetween.andThen {first second : Course σ}
    (before : FollowedBetween terms steering fuel code position middle first)
    (after : FollowedBetween terms steering fuel code middle stop second) :
    FollowedBetween terms steering fuel code position stop (first.andThen second) :=
  fun frames tally s =>
    .andThen _ (before frames tally s) fun tally s' => after frames tally s'

section Blocks

variable {total : Nat}

theorem followed_loop (block : BlockAt code (.loop total) position stop)
    (follows : FollowedBetween terms steering fuel code (position + 1) stop body) :
    FollowedBetween terms steering fuel code position (stop + 1)
      (Course.line steering (Course.times steering body total)) := by
  intro frames tally s
  refine .line (lt_of_line block.opens) rfl fun s' polled => ?_
  cases total with
  | zero =>
      have skips : (Block.loop (0 : Nat)).isEntered tally.ok = false := by simp [Block.isEntered]
      exact .jump (lt_of_line block.opens) polled
        (step_skip block.opens skips block.finds_end block.ends) (.skip rfl)
  | succ count =>
      have enters : (Block.loop (count + 1 : Nat)).isEntered tally.ok = true := by
        simp [Block.isEntered]
        omega
      exact .jump (lt_of_line block.opens) polled (step_enter block.opens enters)
        (follows_times block.ends block.finds_start (fun tally s frames => follows frames tally s)
          _ count tally s')

theorem followed_branch (block : BlockAt code (.branch onOk) position stop)
    (follows : FollowedBetween terms steering fuel code (position + 1) stop body) :
    FollowedBetween terms steering fuel code position (stop + 1)
      (Course.line steering
        (Course.test onOk (body.andThen (Course.endLine steering)) Course.skip)) := by
  intro frames tally s
  refine .line (lt_of_line block.opens) rfl fun s' polled => ?_
  unfold Course.test
  by_cases meets : tally.ok = onOk
  · rw [if_pos meets]
    have enters : (Block.branch onOk).isEntered tally.ok = true := by
      simp [Block.isEntered, Block.entryTest, meets]
    refine .jump (lt_of_line block.opens) polled (step_enter block.opens enters) ?_
    refine .andThen _ (follows _ tally.tested s') fun tally s' => ?_
    exact .endLine (lt_of_line block.ends) rfl (step_leave block.ends)
  · rw [if_neg meets]
    have skips : (Block.branch onOk).isEntered tally.ok = false := by
      simp [Block.isEntered, Block.entryTest, meets]
    exact .jump (lt_of_line block.opens) polled
      (step_skip block.opens skips block.finds_end block.ends) (.skip rfl)

theorem followed_choice (choice : ChoiceAt code onOk position middle stop)
    (follows : FollowedBetween terms steering fuel code (position + 1) middle body)
    (follows_else : FollowedBetween terms steering fuel code (middle + 1) stop otherwise) :
    FollowedBetween terms steering fuel code position (stop + 1)
      (Course.line steering (Course.test onOk (body.andThen (Course.endLine steering))
        (otherwise.andThen (Course.endLine steering)))) := by
  intro frames tally s
  refine .line (lt_of_line choice.opens) rfl fun s' polled => ?_
  unfold Course.test
  by_cases meets : tally.ok = onOk
  · rw [if_pos meets]
    have enters : (Block.branch onOk).isEntered tally.ok = true := by
      simp [Block.isEntered, Block.entryTest, meets]
    refine .jump (lt_of_line choice.opens) polled (step_enter choice.opens enters) ?_
    refine .andThen _ (follows _ tally.tested s') fun tally s' => ?_
    exact .endLine (lt_of_line choice.divides) rfl (step_else choice.divides choice.finds_end)
  · rw [if_neg meets]
    have skips : (Block.branch onOk).isEntered tally.ok = false := by
      simp [Block.isEntered, Block.entryTest, meets]
    refine .jump (lt_of_line choice.opens) polled
      (step_skip_to_else choice.opens skips choice.finds_else choice.divides) ?_
    refine .andThen _ (follows_else _ tally.tested s') fun tally s' => ?_
    exact .endLine (lt_of_line choice.ends) rfl (step_leave choice.ends)

theorem followed_while (block : BlockAt code (.whileBlock onOk) position stop)
    (follows : FollowedBetween terms steering fuel code (position + 1) stop body) :
    FollowedBetween terms steering fuel code position (stop + 1)
      (Course.line steering
        (Course.test onOk (Course.repeating terms steering onOk body fuel) Course.skip)) := by
  intro frames tally s
  refine .line (lt_of_line block.opens) rfl fun s' polled => ?_
  unfold Course.test
  by_cases meets : tally.ok = onOk
  · rw [if_pos meets]
    have enters : (Block.whileBlock onOk).isEntered tally.ok = true := by
      simp [Block.isEntered, Block.entryTest, meets]
    exact .jump (lt_of_line block.opens) polled (step_enter block.opens enters)
      (follows_repeating rfl block.ends block.finds_start
        (fun tally s frames => follows frames tally s) fuel (Nat.le_refl fuel) tally.tested s')
  · rw [if_neg meets]
    have skips : (Block.whileBlock onOk).isEntered tally.ok = false := by
      simp [Block.isEntered, Block.entryTest, meets]
    exact .jump (lt_of_line block.opens) polled
      (step_skip block.opens skips block.finds_end block.ends) (.skip rfl)

theorem followed_until (block : BlockAt code (.untilBlock onOk) position stop)
    (follows : FollowedBetween terms steering fuel code (position + 1) stop body) :
    FollowedBetween terms steering fuel code position (stop + 1)
      (Course.line steering (Course.repeating terms steering (!onOk) body fuel)) := by
  intro frames tally s
  refine .line (lt_of_line block.opens) rfl fun s' polled => ?_
  have enters : (Block.untilBlock onOk).isEntered tally.ok = true := rfl
  exact .jump (lt_of_line block.opens) polled (step_enter block.opens enters)
    (follows_repeating rfl block.ends block.finds_start
      (fun tally s frames => follows frames tally s) fuel (Nat.le_refl fuel) tally s')

end Blocks

/-- The machine follows a script on its lines, wherever they stand in a body. -/
def Followed (terms : Terms) (steering : Steering σ) (fuel : Nat) (code : Program)
    (script : Script) : Prop :=
  ∀ {before after : Program}, code = before ++ (script.toProgram ++ after) →
    FollowedBetween terms steering fuel code before.length
      (before.length + script.toProgram.length) (script.run terms steering fuel)

/-- A block with one body, and what comes after it. The block itself may be of any kind. -/
theorem followed_block {block : Block} {item : Course σ} {body rest : Script}
    {before after : Program}
    (layout : code = before ++
      ((.opening block :: (body.toProgram ++ .closing :: rest.toProgram)) ++ after))
    (follows : Followed terms steering fuel code body)
    (follows_rest : Followed terms steering fuel code rest)
    (follows_item : ∀ {position stop : Nat}, BlockAt code block position stop →
      FollowedBetween terms steering fuel code (position + 1) stop
        (body.run terms steering fuel) →
      FollowedBetween terms steering fuel code position (stop + 1) item) :
    FollowedBetween terms steering fuel code before.length
      (before.length +
        (Instruction.opening block :: (body.toProgram ++ .closing :: rest.toProgram)).length)
      (item.andThen (rest.run terms steering fuel)) := by
  have around : code = before ++
      .opening block :: (body.toProgram ++ .closing :: (rest.toProgram ++ after)) := by
    simp [layout]
  have inside : code = (before ++ [.opening block]) ++
      (body.toProgram ++ .closing :: (rest.toProgram ++ after)) := by
    simp [layout]
  have behind : code = (before ++ .opening block :: (body.toProgram ++ [.closing])) ++
      (rest.toProgram ++ after) := by
    simp [layout]
  have arrival : before.length +
      (Instruction.opening block :: (body.toProgram ++ .closing :: rest.toProgram)).length =
        before.length + 1 + body.toProgram.length + 1 + rest.toProgram.length := by
    simp only [List.length_append, List.length_cons]
    omega
  have departure : (before ++ Instruction.opening block ::
      (body.toProgram ++ [.closing])).length = before.length + 1 + body.toProgram.length + 1 := by
    simp only [List.length_append, List.length_cons, List.length_nil]
    omega
  have body_followed := follows inside
  have rest_followed := follows_rest behind
  rw [List.length_append, List.length_singleton] at body_followed
  rw [departure] at rest_followed
  rw [arrival]
  exact (follows_item (blockAt_of_eq body around) body_followed).andThen rest_followed

/-- A block with two bodies, and what comes after it. -/
theorem followed_blocks {body otherwise rest : Script} {before after : Program}
    (layout : code = before ++ ((choice onOk body otherwise rest).toProgram ++ after))
    (follows : Followed terms steering fuel code body)
    (follows_else : Followed terms steering fuel code otherwise)
    (follows_rest : Followed terms steering fuel code rest) :
    FollowedBetween terms steering fuel code before.length
      (before.length + (choice onOk body otherwise rest).toProgram.length)
      ((choice onOk body otherwise rest).run terms steering fuel) := by
  have around : code = before ++ .opening (.branch onOk) :: (body.toProgram ++
      .between :: (otherwise.toProgram ++ .closing :: (rest.toProgram ++ after))) := by
    simp [layout, toProgram]
  have inside : code = (before ++ [.opening (.branch onOk)]) ++ (body.toProgram ++
      .between :: (otherwise.toProgram ++ .closing :: (rest.toProgram ++ after))) := by
    simp [layout, toProgram]
  have inside_else : code = (before ++ .opening (.branch onOk) ::
      (body.toProgram ++ [.between])) ++
        (otherwise.toProgram ++ .closing :: (rest.toProgram ++ after)) := by
    simp [layout, toProgram]
  have behind : code = (before ++ .opening (.branch onOk) :: (body.toProgram ++
      .between :: (otherwise.toProgram ++ [.closing]))) ++ (rest.toProgram ++ after) := by
    simp [layout, toProgram]
  have start_else : (before ++ Instruction.opening (.branch onOk) ::
      (body.toProgram ++ [.between])).length = before.length + 1 + body.toProgram.length + 1 := by
    simp only [List.length_append, List.length_cons, List.length_nil]
    omega
  have departure : (before ++ Instruction.opening (.branch onOk) :: (body.toProgram ++
      .between :: (otherwise.toProgram ++ [.closing]))).length =
        before.length + 1 + body.toProgram.length + 1 + otherwise.toProgram.length + 1 := by
    simp only [List.length_append, List.length_cons, List.length_nil]
    omega
  have arrival : before.length + (choice onOk body otherwise rest).toProgram.length =
      before.length + 1 + body.toProgram.length + 1 + otherwise.toProgram.length + 1 +
        rest.toProgram.length := by
    simp only [toProgram, List.length_append, List.length_cons]
    omega
  have body_followed := follows inside
  have otherwise_followed := follows_else inside_else
  have rest_followed := follows_rest behind
  rw [List.length_append, List.length_singleton] at body_followed
  rw [start_else] at otherwise_followed
  rw [departure] at rest_followed
  rw [arrival]
  exact (followed_choice (choiceAt_of_eq body otherwise around) body_followed
    otherwise_followed).andThen rest_followed

/-- A command, and what comes after it. -/
theorem followed_template {template : Text} {rest : Script} {before after : Program}
    (layout : code = before ++ ((command template rest).toProgram ++ after))
    (follows_rest : Followed terms steering fuel code rest) :
    FollowedBetween terms steering fuel code before.length
      (before.length + (command template rest).toProgram.length)
      ((command template rest).run terms steering fuel) := by
  have line : code[before.length]? = some (.literal template) := line_of_eq layout rfl
  have behind : code = (before ++ [.literal template]) ++ (rest.toProgram ++ after) := by
    simp [layout, toProgram]
  have first : FollowedBetween terms steering fuel code before.length (before.length + 1)
      (Course.command terms steering template) :=
    fun frames tally s => follows_command line
  have follows := follows_rest behind
  simp only [List.length_append, List.length_cons, List.length_nil, Nat.zero_add] at follows
  rw [toProgram, List.length_cons, Nat.add_comm rest.toProgram.length, ← Nat.add_assoc]
  exact first.andThen follows

theorem run_followed (script : Script) : Followed terms steering fuel code script := by
  induction script with
  | done => exact fun _ frames tally s => .skip rfl
  | command template rest restIH => exact fun layout => followed_template layout restIH
  | loop count body rest bodyIH restIH =>
      exact fun layout => followed_block layout bodyIH restIH followed_loop
  | branch onOk body rest bodyIH restIH =>
      exact fun layout => followed_block layout bodyIH restIH followed_branch
  | choice onOk body otherwise rest bodyIH otherwiseIH restIH =>
      exact fun layout => followed_blocks layout bodyIH otherwiseIH restIH
  | whileBlock onOk body rest bodyIH restIH =>
      exact fun layout => followed_block layout bodyIH restIH followed_while
  | untilBlock onOk body rest bodyIH restIH =>
      exact fun layout => followed_block layout bodyIH restIH followed_until

end Script

end Ebrc
