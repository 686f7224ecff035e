import Ebrc.Machine

/-!
# Scripts

The body of a function as the tree that its blocks make up. A script says what a function does
without positions, scans for the other end of a block, or a stack of entered blocks: a loop runs
its body a number of times, a test chooses between two bodies, and a block that tests at its end
repeats its body until the test says otherwise.

The interrupt flag is looked at once for every line that is reached, closing lines and elses
included, so every block has its opening line and the line that ends the body just run.
-/

namespace Ebrc

/-- The body of a function: a sequence of commands and blocks. Every form but the empty one has
an item and the items after it. -/
inductive Script where
  | done
  | command (template : Text) (rest : Script)
  /-- A body that runs a number of times. -/
  | loop (count : Nat) (body rest : Script)
  /-- A body that runs after this success or failure. -/
  | branch (onOk : Bool) (body rest : Script)
  /-- Two bodies, of which the first runs after this success or failure, else the second. -/
  | choice (onOk : Bool) (body otherwise rest : Script)
  /-- A body that runs while this success or failure is met, on entry and at its end. -/
  | whileBlock (onOk : Bool) (body rest : Script)
  /-- A body that runs until its end meets this success or failure. -/
  | untilBlock (onOk : Bool) (body rest : Script)
  deriving Repr, DecidableEq

namespace Script

/-- The lines of a script, one for each command and for each end of a block or of a branch. -/
def toProgram : Script → Program
  | done => []
  | command template rest => .literal template :: rest.toProgram
  | loop count body rest =>
      .opening (.loop count) :: (body.toProgram ++ .closing :: rest.toProgram)
  | branch onOk body rest =>
      .opening (.branch onOk) :: (body.toProgram ++ .closing :: rest.toProgram)
  | choice onOk body otherwise rest =>
      .opening (.branch onOk) ::
        (body.toProgram ++ .between :: (otherwise.toProgram ++ .closing :: rest.toProgram))
  | whileBlock onOk body rest =>
      .opening (.whileBlock onOk) :: (body.toProgram ++ .closing :: rest.toProgram)
  | untilBlock onOk body rest =>
      .opening (.untilBlock onOk) :: (body.toProgram ++ .closing :: rest.toProgram)

end Script

/-- What a body is run with. -/
structure Terms where
  /-- Does the function mind when its commands fail? -/
  mindful : Bool
  invocation : Invocation
  /-- How often blocks that test at their end may repeat; 0 for any number of times. -/
  limit : Nat
  deriving Repr, DecidableEq

/-- A body together with what it is run with. -/
def Terms.task (terms : Terms) (code : Program) : Task :=
  ⟨code, terms.mindful, terms.invocation, terms.limit⟩

/-- What a running body remembers of the commands and repetitions so far. -/
structure Tally where
  /-- Did the last command succeed? A test sets this anew. -/
  ok : Bool := true
  /-- Has the function minded a command that failed? -/
  soft : Bool := false
  /-- How often blocks that test at their end have repeated. -/
  repetitions : Nat := 0
  /-- How many commands have been carried out. -/
  commands : Nat := 0
  deriving Repr, DecidableEq

namespace Tally

/-- The tally after a test, which takes the last success or failure as dealt with. -/
def tested (tally : Tally) : Tally := { tally with ok := true }

/-- Would a function that minds its commands mind the last one now? -/
def softAfter (terms : Terms) (tally : Tally) : Bool :=
  tally.soft || (terms.mindful && !tally.ok)

/-- The tally after a command was carried out. A failure that no test has dealt with is minded
as soon as another command follows. -/
def answered (terms : Terms) (ok : Bool) (tally : Tally) : Tally :=
  { tally with ok, soft := tally.softAfter terms, commands := tally.commands + 1 }

/-- The tally after one more repetition. -/
def repeated (tally : Tally) : Tally :=
  { tally with ok := true, repetitions := tally.repetitions + 1 }

end Tally

/-! ## Courses -/

/-- What running a part of a body comes to. -/
inductive Passage (σ : Type) where
  /-- The part has been run to its end. -/
  | through (tally : Tally) (s : σ)
  /-- The run of the whole body has ended inside the part. -/
  | ended (tally : Tally) (ending : Ending) (s : σ)
  deriving Repr, DecidableEq

/-- The run of a part of a body, from a tally and a state of who steers. It has no outcome where a
command does not come to an end, or where repetitions outnumber a bound. -/
abbrev Course (σ : Type) := Tally → σ → Option (Passage σ)

namespace Course

variable {σ : Type}

/-- Nothing to run. -/
def skip : Course σ := fun tally s => some (.through tally s)

/-- One part after another. -/
def andThen (first second : Course σ) : Course σ := fun tally s =>
  match first tally s with
  | some (.through tally s) => second tally s
  | outcome => outcome

/-- What a line does, once the interrupt flag has been looked at. -/
def line (steering : Steering σ) (course : Course σ) : Course σ := fun tally s =>
  match steering.interrupted s with
  | (true, s) => some (.ended tally (.failed .interrupted) s)
  | (false, s) => course tally s

/-- A line that only ends a body. -/
def endLine (steering : Steering σ) : Course σ := line steering skip

/-- The first part after this success or failure, else the second. -/
def test (onOk : Bool) (yes no : Course σ) : Course σ := fun tally s =>
  if tally.ok = onOk then yes tally.tested s else no tally.tested s

/-- Fill in a template, and have the command carried out. -/
def command (terms : Terms) (steering : Steering σ) (template : Text) : Course σ :=
  line steering fun tally s =>
    match terms.invocation.fill template with
    | .error index => some (.ended tally (.failed (.noArgument index)) s)
    | .ok command =>
      (steering.carryOut command s).map fun (ok, s) => .through (tally.answered terms ok) s

/-- A body and the line that ends it, a number of times. -/
def times (steering : Steering σ) (body : Course σ) : Nat → Course σ
  | 0 => skip
  | count + 1 => body.andThen ((endLine steering).andThen (times steering body count))

/-- A body, and again as long as its end meets this success or failure. More repetitions than the
limit end the run. -/
def repeating (terms : Terms) (steering : Steering σ) (again : Bool) (body : Course σ) :
    Nat → Course σ
  | 0 => fun _ _ => none
  | fuel + 1 => body.andThen (line steering fun tally s =>
      if tally.ok = again then
        if terms.limit ≠ 0 ∧ terms.limit < tally.repetitions + 1 then
          some (.ended tally (.failed (.tooManyRepetitions terms.limit)) s)
        else repeating terms steering again body fuel tally.repeated s
      else skip tally.tested s)

end Course

namespace Script

variable {σ : Type} (terms : Terms) (steering : Steering σ)

open Course in
/-- Run a script whose blocks repeat no more than a number of times each time they are entered. -/
def run (fuel : Nat) : Script → Course σ
  | done => skip
  | command template rest => (Course.command terms steering template).andThen (rest.run fuel)
  | loop count body rest =>
      (line steering (times steering (body.run fuel) count)).andThen (rest.run fuel)
  | branch onOk body rest =>
      (line steering (test onOk ((body.run fuel).andThen (endLine steering)) skip)).andThen
        (rest.run fuel)
  | choice onOk body otherwise rest =>
      (line steering (test onOk ((body.run fuel).andThen (endLine steering))
        ((otherwise.run fuel).andThen (endLine steering)))).andThen (rest.run fuel)
  | whileBlock onOk body rest =>
      (line steering (test onOk (repeating terms steering onOk (body.run fuel) fuel) skip)).andThen
        (rest.run fuel)
  | untilBlock onOk body rest =>
      (line steering (repeating terms steering (!onOk) (body.run fuel) fuel)).andThen
        (rest.run fuel)

/-- Run a script as the body of a function: the commands carried out, how the run ends, and the
state that it leaves. -/
def execute (fuel : Nat) (script : Script) (s : σ) : Option (Nat × Ending × σ) :=
  (script.run terms steering fuel {} s).map fun
    | .through tally s => (tally.commands, .finished (tally.softAfter terms), s)
    | .ended tally ending s => (tally.commands, ending, s)

end Script

end Ebrc
