import Ebrc.Proofs.Call.Safety
import Ebrc.Proofs.Call.Settings

/-!
# The commands that calls hand out

Each command is told of before it is carried out, on whatever level of nested calls. So the log
tells the commands that have been handed out, and how many. What is told of a call itself, at its
beginning and at its end, is no command. A call that runs no body does nothing else.
-/

namespace Ebrc

/-- Is a command told of? -/
def Event.isCommand : Event → Bool
  | .command _ _ => true
  | _ => false

/-- Is it told by a command that calls no function? -/
def Event.isPlain : Event → Bool
  | .echo _ | .unknownCommand _ | .crashedCommand _ => true
  | _ => false

theorem Event.not_command_of_plain {event : Event} (plain : event.isPlain) : ¬event.isCommand := by
  cases event <;> simp_all [isPlain, isCommand]

namespace RunState

variable {η : Type} {s s₁ s' : RunState η}

@[simp] theorem toList_log_tell (s : RunState η) (event : Event) :
    (s.tell event).log.toList = s.log.toList ++ [event] := by
  simp [tell]

@[simp] theorem interrupted_tell (s : RunState η) (event : Event) :
    (s.tell event).interrupted = s.interrupted := rfl

@[simp] theorem host_tell (s : RunState η) (event : Event) : (s.tell event).host = s.host := rfl

@[simp] theorem settings_tell (s : RunState η) (event : Event) :
    (s.tell event).settings = s.settings := rfl

/-- How many commands have been told of. -/
def commandsTold (s : RunState η) : Nat := s.log.toList.countP Event.isCommand

@[simp] theorem commandsTold_tell (s : RunState η) (event : Event) :
    (s.tell event).commandsTold = s.commandsTold + if event.isCommand then 1 else 0 := by
  simp [commandsTold]

/-- Nothing but these events comes between two states, and settings that are put back. -/
structure Tells (events : List Event) (s s' : RunState η) : Prop where
  log : s'.log.toList = s.log.toList ++ events
  host : s'.host = s.host
  interrupted : s'.interrupted = s.interrupted

namespace Tells

variable {events more : List Event}

theorem refl (s : RunState η) : Tells [] s s := ⟨(List.append_nil _).symm, rfl, rfl⟩

theorem single (s : RunState η) (event : Event) : Tells [event] s (s.tell event) :=
  ⟨toList_log_tell s event, rfl, rfl⟩

theorem trans (first : Tells events s s₁) (second : Tells more s₁ s') :
    Tells (events ++ more) s s' where
  log := by rw [second.log, first.log, List.append_assoc]
  host := second.host.trans first.host
  interrupted := second.interrupted.trans first.interrupted

/-- Where no command is told of, none is counted. -/
theorem commandsTold (tells : Tells events s s')
    (others : ∀ event ∈ events, ¬event.isCommand) : s'.commandsTold = s.commandsTold := by
  unfold RunState.commandsTold
  rw [tells.log, List.countP_append, List.countP_eq_zero.2 others, Nat.add_zero]

end Tells

end RunState

namespace CallContext

open RunState

variable {η : Type} {context : CallContext η} {line : Text} {evaluate? : Option (Evaluator η)}
variable {s : RunState η}

/-- What is told at the beginning of a call is no command. -/
theorem exists_tellExtra (invocation : Invocation) (s : RunState η) :
    ∃ events, Tells events s (tellExtra invocation s) ∧ ∀ event ∈ events, ¬event.isCommand := by
  unfold tellExtra
  split
  · exact ⟨_, .single s _, by simp [Event.isCommand]⟩
  · exact ⟨[], .refl s, by simp⟩

/-- What is told at the end of a call is no command. -/
theorem exists_conclude (name : Text) (before : Settings) (m : Machine) (ending : Ending)
    (s : RunState η) :
    ∃ events, Tells events s (conclude name before m ending s).2 ∧
      ∀ event ∈ events, ¬event.isCommand := by
  cases ending with
  | finished soft =>
      exact ⟨[.finished name soft m.commands], ⟨by simp [conclude], rfl, rfl⟩,
        by simp [Event.isCommand]⟩
  | failed fault =>
      exact ⟨[.failed name ⟨fault, some name⟩], ⟨by simp [conclude], rfl, rfl⟩,
        by simp [Event.isCommand]⟩
  | crashed crash => exact ⟨[], ⟨by simp [conclude], rfl, rfl⟩, by simp⟩

/-- An editor tells nothing itself. It is told of a command that crashes, or that nobody takes. -/
theorem exists_askHost (context : CallContext η) (line : Text) (s : RunState η) :
    ∃ events, (context.askHost line s).2.log.toList = s.log.toList ++ events ∧
      ∀ event ∈ events, event.isPlain := by
  unfold askHost
  split
  · exact ⟨_, toList_log_tell .., by simp [Event.isPlain]⟩
  · dsimp only
    split
    · exact ⟨[], by simp, by simp⟩
    · exact ⟨_, toList_log_tell .., by simp [Event.isPlain]⟩

/-- What carries a command out: the editor, the command itself, or a call. A crash of the call is
told. -/
theorem carryOut_cases {call : Text → RunState η → CallOutcome η} {s' : RunState η} {ok : Bool}
    (carried : context.carryOut call line s = some (ok, s')) :
    (Command.ofLine? line = none ∧ context.askHost line s = (ok, s')) ∨
      (∃ command events, Command.ofLine? line = some command ∧
        (∀ invocation, command ≠ .call invocation) ∧ Tells events s s' ∧
          ∀ event ∈ events, event.isPlain) ∨
      ∃ invocation, Command.ofLine? line = some (.call invocation) ∧
        ((∃ r, call invocation s = some (.ok r, s') ∧ ok = r.ok) ∨
          ∃ crash s₁, call invocation s = some (.error crash, s₁) ∧ ok = false ∧
            s' = s₁.tell (.crashedCommand line)) := by
  unfold carryOut at carried
  cases named : Command.ofLine? line with
  | none =>
      rw [named] at carried
      exact .inl ⟨rfl, Option.some.inj carried⟩
  | some command =>
      rw [named] at carried
      right
      cases command with
      | echo text =>
          cases carried
          exact .inl ⟨_, _, rfl, by simp, .single s _, by simp [Event.isPlain]⟩
      | noop =>
          cases carried
          exact .inl ⟨_, _, rfl, by simp, .refl s, by simp⟩
      | settings command =>
          have changes : ∃ events, Tells events s (context.changeSettings command line s).2 ∧
              ∀ event ∈ events, event.isPlain := by
            unfold changeSettings
            split
            · exact ⟨[], ⟨by simp, rfl, rfl⟩, by simp⟩
            · exact ⟨[], .refl s, by simp⟩
            · exact ⟨_, .single s _, by simp [Event.isPlain]⟩
          rw [Option.some.inj carried] at changes
          obtain ⟨events, tells, plain⟩ := changes
          exact .inl ⟨_, events, rfl, by simp, tells, plain⟩
      | call invocation =>
          obtain ⟨⟨result, s₁⟩, called, after⟩ := Option.map_eq_some_iff.1 carried
          refine .inr ⟨invocation, rfl, ?_⟩
          cases result with
          | ok r =>
              cases after
              exact .inl ⟨r, called, rfl⟩
          | error crash =>
              cases after
              exact .inr ⟨crash, s₁, called, rfl, rfl⟩

/-- Carrying a command out only adds to the log, if calls only do that. -/
theorem exists_carryOut {call : Text → RunState η → CallOutcome η} {s' : RunState η} {ok : Bool}
    (calls : ∀ {line s result s'}, call line s = some (result, s') →
      ∃ events, s'.log.toList = s.log.toList ++ events)
    (carried : context.carryOut call line s = some (ok, s')) :
    ∃ events, s'.log.toList = s.log.toList ++ events := by
  rcases carryOut_cases carried with
    ⟨-, asked⟩ | ⟨_, events, -, -, tells, -⟩ | ⟨invocation, -, ended⟩
  · obtain ⟨events, log, -⟩ := exists_askHost context line s
    rw [asked] at log
    exact ⟨events, log⟩
  · exact ⟨events, tells.log⟩
  · rcases ended with ⟨r, called, -⟩ | ⟨crash, t, called, -, rfl⟩
    · exact calls called
    · obtain ⟨events, log⟩ := calls called
      exact ⟨events ++ [.crashedCommand line], by simp [log]⟩

/-- Looking at the flag changes nothing, so a body stops in the state it has come to. -/
theorem stops_steering {task : Task} {evaluate : Evaluator η} {name : Text} {m : Machine}
    {s s' : RunState η} {ending : Ending}
    (stop : Machine.Stops task (steering evaluate name) m s ending s') : s' = s := by
  cases stop with
  | finished => rfl
  | interrupted _ poll => exact (congrArg Prod.snd poll).symm
  | stopped _ poll _ => exact (congrArg Prod.snd poll).symm

/-- A call that carries nothing out: it hands out no command, and the editor stays as it is. -/
def RunsNothing (s : RunState η) (outcome : Except Crash CallResult × RunState η) : Prop :=
  (∃ events, Tells events s outcome.2 ∧ ∀ event ∈ events, ¬event.isCommand) ∧
    ∀ r, outcome.1 = .ok r → r.commands = 0

/-- A call that carries nothing out leaves the flag as it is. -/
theorem RunsNothing.interrupted {outcome : Except Crash CallResult × RunState η}
    (nothing : RunsNothing s outcome) : outcome.2.interrupted = s.interrupted := by
  obtain ⟨⟨events, tells, -⟩, -⟩ := nothing
  exact tells.interrupted

theorem runsNothing_tellExtra {invocation : Invocation} {result : Except Crash CallResult}
    (counts : ∀ r, result = .ok r → r.commands = 0) {s' : RunState η} {events : List Event}
    (tells : Tells events (tellExtra invocation s) s')
    (others : ∀ event ∈ events, ¬event.isCommand) : RunsNothing s (result, s') := by
  obtain ⟨first, extra, plain⟩ := exists_tellExtra invocation s
  refine ⟨⟨first ++ events, extra.trans tells, fun event among => ?_⟩, counts⟩
  rcases List.mem_append.1 among with early | late
  · exact plain event early
  · exact others event late

/-- A call of a function that has a body is the run of the body. -/
theorem invoke_of_task {task : Task} (evaluate : Evaluator η)
    (runs : context.task? line = some task) (s : RunState η) :
    context.invoke (some evaluate) line s =
      (Machine.run task (steering evaluate (context.calledFunction line)) context.patience {}
        (tellExtra (Invocation.ofLine line) s)).map fun (m, ending, s₁) =>
          conclude (context.calledFunction line) s.settings m ending s₁ := by
  unfold task? at runs
  split at runs
  · rename_i rule found
    split at runs
    · rename_i code sealed
      cases runs
      simp only [invoke, runBody, calledFunction, found, sealed, tellExtra_settings]
      rfl
    · contradiction
  · contradiction

/-- Whatever bounds it, a call runs no body, or it is the run of the body of the function called. -/
theorem invoke_runs (context : CallContext η) (evaluate? : Option (Evaluator η)) (line : Text)
    (s : RunState η) :
    (∃ outcome, RunsNothing s outcome ∧ ∀ host? patience,
      CallContext.invoke { context with host?, patience } evaluate? line s = some outcome) ∨
      ∃ evaluate task, evaluate? = some evaluate ∧ context.task? line = some task ∧
        ∀ host? patience, CallContext.invoke { context with host?, patience } evaluate? line s =
          (Machine.run task (steering evaluate (context.calledFunction line)) patience {}
            (tellExtra (Invocation.ofLine line) s)).map fun (m, ending, s₁) =>
              conclude (context.calledFunction line) s.settings m ending s₁ := by
  have failing (event : Event) (other : ¬event.isCommand) (r : CallResult) (none : r.commands = 0) :
      RunsNothing s
        (.ok r, (tellExtra (Invocation.ofLine line) s).tell event) := by
    refine runsNothing_tellExtra ?_ (.single _ event) (by simpa using other)
    rintro _ ⟨⟩
    exact none
  have crashing (crash : Crash) :
      RunsNothing s (.error crash, tellExtra (Invocation.ofLine line) s) :=
    runsNothing_tellExtra (by simp) (.refl _) (by simp)
  unfold invoke
  cases resolved : context.rules.resolve (Invocation.ofLine line).name with
  | crashed crash =>
      simp only [resolved]
      exact .inl ⟨_, crashing crash, fun _ _ => rfl⟩
  | refused error =>
      simp only [resolved]
      exact .inl ⟨_, failing _ (by simp [Event.isCommand]) _ rfl, fun _ _ => rfl⟩
  | found rule =>
      cases evaluate? with
      | none =>
          simp only [resolved]
          exact .inl ⟨_, failing _ (by simp [Event.isCommand]) _ rfl, fun _ _ => rfl⟩
      | some evaluate =>
          simp only [runBody, calledFunction, task?, resolved, tellExtra_settings]
          cases rule.body with
          | none => exact .inl ⟨_, crashing .noFunction, fun _ _ => rfl⟩
          | some body =>
              cases body with
              | unsealed => exact .inl ⟨_, crashing .bodyNotSealed, fun _ _ => rfl⟩
              | sealed code => exact .inr ⟨evaluate, _, rfl, rfl, fun _ _ => rfl⟩

end CallContext

end Ebrc
