import Ebrc.Call
import Ebrc.Proofs.Machine.Mindful
import Ebrc.Proofs.Machine.Nesting
import Ebrc.Proofs.Script.Execution

/-!
# Verdicts on plain and mindful functions

A body does the same whether its function minds the commands that fail or not. The one difference
is the verdict on a run that comes to its end, which is a success of a plain function always, and of
a mindful one if every failure was settled by a test.
-/

namespace Ebrc

/-- The result of a body that is run by a plain function, against the result by a mindful one, where
the run leaves these marks. -/
inductive SameButVerdict (code : Program) (marks : List Mark) :
    Except Crash CallResult → Except Crash CallResult → Prop where
  | failed (name : Text) (error : FunctionError) (commands : Nat) :
      SameButVerdict code marks (.ok ⟨name, .failed error, commands⟩)
        (.ok ⟨name, .failed error, commands⟩)
  | settled (name : Text) (commands : Nat) (all : ¬PassesOver marks) :
      SameButVerdict code marks (.ok ⟨name, .success, commands⟩) (.ok ⟨name, .success, commands⟩)
  | passedOver (name : Text) (commands : Nat) (one : PassesOver marks) :
      SameButVerdict code marks (.ok ⟨name, .success, commands⟩)
        (.ok ⟨name, .softFailure, commands⟩)
  /-- Blocks that do not nest, or several elses in one if, can make the body crash. -/
  | crashed (crash : Crash) (ill : ¬(code.Nested ∧ ∀ position, ¬code.ElseFollows position)) :
      SameButVerdict code marks (.error crash) (.error crash)

/-- Whether a function minds the commands that fail changes its verdict only. Whoever carries
commands out and whenever a stop is asked for, the body of a plain function and that of a mindful
one hand over the same commands, as many of them, and leave the same state; they fail alike, or both
come to the end. There the plain function is a success, and so is the mindful one unless its run
passes over a failure. This holds of the run as a whole, and of the run that is stopped after any
number of lines, so runs without an end agree line by line. -/
theorem mindful_changes_verdict {η : Type} (task : Task) (name : Text)
    (steering : Steering (RunState η)) (s : RunState η) (lines : Option Nat) (fuel : Nat) :
    let start : Watch (RunState η) := { state := s, lines }
    Option.Rel
      (fun (plain, ending, w) (minding, ending', w') => w' = w ∧
        ∃ marks, (∀ marks', Machine.Trail task.minding steering.watched {} start marks' minding
            ending' w' ↔ marks' = marks) ∧
          SameButVerdict task.code marks
            (CallContext.conclude name s.settings plain ending w.state).1
            (CallContext.conclude name s.settings minding ending' w'.state).1)
      (Machine.run task.plain steering.watched fuel {} start)
      (Machine.run task.minding steering.watched fuel {} start) := by
  intro start
  have plain : Machine.run task.plain steering.watched fuel {} start =
      (Machine.run task.minding steering.watched fuel {} start).map
        fun (m, ending, w) => (m.plain, ending.plain, w) :=
    Machine.plain_run task.minding steering.watched fuel {} start
  rw [plain]
  cases ran : Machine.run task.minding steering.watched fuel {} start with
  | none => exact .none
  | some outcome =>
      obtain ⟨m, ending, w⟩ := outcome
      obtain ⟨marks, trail⟩ := Machine.exists_trail ran
      refine .some ⟨rfl, marks, fun marks' => ⟨(·.unique trail), (· ▸ trail)⟩, ?_⟩
      cases ending with
      | finished soft =>
          have minded := trail.soft_iff rfl Machine.minds_start rfl
          cases soft with
          | false => exact .settled name m.commands fun passed => by simpa using minded.2 passed
          | true => exact .passedOver name m.commands (minded.1 rfl)
      | failed fault => exact .failed name ⟨fault, some name⟩ m.commands
      | crashed crash =>
          refine .crashed crash ?_
          rintro ⟨(nested : task.minding.code.Nested), single⟩
          obtain ⟨-, n, m₁, s₁, m₂, s₂, -, -, elseFollows⟩ := Machine.crash_of_run nested ran
          exact single m₁.position elseFollows

end Ebrc
