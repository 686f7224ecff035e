import Ebrc.Proofs.Load.Unseen

/-!
# The log of a load

A load tells events and never looks at those that were told before. So what it does from a state
with a longer log is what it does from the same state with an empty one, but for the events in
front.
-/

namespace Ebrc

/-- How far a load has come if these events had been told earlier. -/
def Progress.after (earlier : EventLog) (p : Progress) : Progress :=
  { p with log := earlier ++ p.log }

/-- An outcome of a load if these events had been told earlier. -/
def Except.after {α : Type} (earlier : EventLog) (view : α → α) : Except Stop α → Except Stop α
  | .ok a => .ok (view a)
  | .error stop => .error { stop with progress := stop.progress.after earlier }

/-- These events have been told earlier. -/
def Unseen.earlier (earlier : EventLog) : Unseen :=
  { nothing with
    Logs := fun log log' => log' = earlier ++ log
    push := fun event same => by rw [same, Array.append_push] }

namespace Progress

variable {around : Surroundings} {p q : Progress} {earlier : EventLog} {r r' : Except Stop Progress}

@[simp] theorem after_tell (event : Event) :
    (p.after earlier).tell event = (p.tell event).after earlier := by
  simp only [after, tell, Array.append_push]

theorem beside_after : p.Beside (.earlier earlier) (p.after earlier) := .intro rfl rfl

theorem after_of_beside (beside : p.Beside (.earlier earlier) q) : q = p.after earlier := by
  cases beside with
  | intro told added =>
      cases told
      cases added
      rfl

theorem after_of_inStep (inStep : InStep (.earlier earlier) (Beside (.earlier earlier)) r r') :
    r' = Except.after earlier (after earlier) r := by
  cases inStep with
  | ok beside => exact congrArg Except.ok (after_of_beside beside)
  | stop beside =>
      rw [after_of_beside beside]
      rfl

/-- Whatever has been told, a file does the same. -/
theorem readFile_after {depth : Nat} {file : Text} {lines : List Line} :
    readFile around depth file lines (p.after earlier) >>= (·.finish file) =
      Except.after earlier (after earlier)
        (readFile around depth file lines p >>= (·.finish file)) :=
  after_of_inStep (beside_after.readFile.bind fun _ _ beside => beside.finish)

end Progress

end Ebrc
