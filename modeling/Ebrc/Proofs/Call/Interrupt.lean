import Ebrc.Proofs.Call.Commands

/-!
# Interrupts

A moment of a call is a line of a function that is being run, with the functions that have called
it, each of which waits for a command. A moment at which the interrupt flag is up is the last one at
which anything is carried out: the function that is being run fails or is at its end, and so do the
functions that wait for it, from the inside out. To each of them the one inside it is a command that
has been answered. That makes its end a matter of whether it has a further line.

Only a command that the editor carries out puts the flag up.
-/

namespace Ebrc

/-- A function that is being run. -/
structure Activation where
  name : Text
  task : Task
  machine : Machine

namespace Activation

/-- Has the function come to its end? -/
def atEnd (a : Activation) : Bool := a.task.code.length ≤ a.machine.position

/-- How the run of the function ends when the flag is up. -/
def ending (a : Activation) : Ending :=
  if a.atEnd then .finished (a.machine.softAfter a.task) else .failed .interrupted

/-- What is told of the end of the function when the flag is up: that it has failed because of the
interrupt, or, if it has no further line, what its commands make of it. -/
def event (a : Activation) : Event :=
  if a.atEnd then .finished a.name (a.machine.softAfter a.task) a.machine.commands
  else .failed a.name ⟨.interrupted, some a.name⟩

/-- What comes of the function when the flag is up. -/
def result (a : Activation) : CallResult where
  function := a.name
  verdict :=
    if a.atEnd then if a.machine.softAfter a.task then .softFailure else .success
    else .failed ⟨.interrupted, some a.name⟩
  commands := a.machine.commands

/-- The function when the one that it has called has ended. -/
def answered (a : Activation) (ok : Bool) : Activation :=
  { a with machine := a.machine.answer a.task ok }

theorem event_not_command (a : Activation) : ¬a.event.isCommand := by
  unfold event
  split <;> simp [Event.isCommand]

/-- Functions that end one after the other, each as it is when the one inside it has ended. -/
def endings (a : Activation) : List Activation → List Activation
  | [] => [a]
  | waiting :: outer => a :: endings (waiting.answered a.result.ok) outer

/-- The function that is the last one to end, as it is when the others have ended. -/
def outermost (a : Activation) : List Activation → Activation
  | [] => a
  | waiting :: outer => outermost (waiting.answered a.result.ok) outer

theorem endings_snoc (a waiting : Activation) (outer : List Activation) :
    a.endings (outer ++ [waiting]) =
      a.endings outer ++ [waiting.answered (a.outermost outer).result.ok] := by
  induction outer generalizing a with
  | nil => rfl
  | cons next outer ih => exact congrArg (a :: ·) (ih (next.answered a.result.ok))

theorem outermost_snoc (a waiting : Activation) (outer : List Activation) :
    a.outermost (outer ++ [waiting]) = waiting.answered (a.outermost outer).result.ok := by
  induction outer generalizing a with
  | nil => rfl
  | cons next outer ih => exact ih (next.answered a.result.ok)

end Activation

namespace Machine

variable {σ : Type} {task : Task} {steering : Steering σ} {m m' : Machine} {s s' : σ}

/-- The last line of a chain. -/
theorem Steps.exists_last {n : Nat} (steps : Steps task steering (n + 1) m s m' s') :
    ∃ m₁ s₁, Steps task steering n m s m₁ s₁ ∧ Moves task steering m₁ s₁ m' s' := by
  induction n generalizing m s with
  | zero =>
      cases steps with
      | head move rest =>
          cases rest
          exact ⟨m, s, .refl m s, move⟩
  | succ n ih =>
      cases steps with
      | head move rest =>
          obtain ⟨m₁, s₁, first, last⟩ := ih rest
          exact ⟨m₁, s₁, .head move first, last⟩

end Machine

namespace CallContext

open RunState Activation

variable {η : Type} {context : CallContext η} {depth : Nat} {line : Text} {s t : RunState η}
variable {a : Activation} {outer : List Activation}

/-- A moment of a call: the function that is being run, those that wait for it, the innermost one
first, and the state. -/
inductive Reaches (context : CallContext η) :
    Nat → Text → RunState η → Activation → List Activation → RunState η → Prop where
  /-- The function called is being run itself. -/
  | here {depth n : Nat} {line : Text} {s t : RunState η} {task : Task} {m : Machine} :
      context.task? line = some task → n < context.patience →
      Machine.Steps task
        (steering (context.carryOut (context.call depth)) (context.calledFunction line)) n
        {} (tellExtra (Invocation.ofLine line) s) m t →
      Reaches context (depth + 1) line s ⟨context.calledFunction line, task, m⟩ [] t
  /-- The function called waits for one that a command of it calls. -/
  | inside {depth n : Nat} {line command invocation : Text} {s t u : RunState η} {task : Task}
      {m : Machine} {a : Activation} {outer : List Activation} :
      context.task? line = some task → n + 1 < context.patience →
      Machine.Steps task
        (steering (context.carryOut (context.call depth)) (context.calledFunction line)) n
        {} (tellExtra (Invocation.ofLine line) s) m t →
      m.position < task.code.length → t.interrupted = false → m.step task = .command command →
      Command.ofLine? command = some (.call invocation) →
      Reaches context depth invocation (t.tell (.command (context.calledFunction line) command))
        a outer u →
      Reaches context (depth + 1) line s a (outer ++ [⟨context.calledFunction line, task, m⟩]) u

/-! ## With the flag up -/

/-- A function at one of its lines, or at its end, ends there if the flag is up. -/
theorem stops_of_interrupted {evaluate : Evaluator η} (up : t.interrupted) :
    Machine.Stops a.task (steering evaluate a.name) a.machine t a.ending t := by
  unfold ending
  by_cases past : a.task.code.length ≤ a.machine.position
  · rw [if_pos (by simpa [atEnd] using past)]
    exact .finished past
  · rw [if_neg (by simpa [atEnd] using past)]
    exact .interrupted (Nat.not_le.1 past) (by simp [steering, up])

/-- The end of a function that the flag makes end. -/
theorem conclude_ending (a : Activation) (before : Settings) (t : RunState η) :
    (conclude a.name before a.machine a.ending t).1 = .ok a.result ∧
      Tells [a.event] t (conclude a.name before a.machine a.ending t).2 := by
  unfold ending result event
  by_cases past : a.atEnd
  · simp only [past, if_true]
    exact ⟨rfl, ⟨by simp [conclude], rfl, rfl⟩⟩
  · simp only [past]
    exact ⟨rfl, ⟨by simp [conclude], rfl, rfl⟩⟩

/-- A call whose function is at one of its lines, or at its end, ends there if the flag is up. -/
theorem call_of_interrupted {n : Nat} (runs : context.task? line = some a.task)
    (named : context.calledFunction line = a.name) (patient : n < context.patience)
    (steps : Machine.Steps a.task (steering (context.carryOut (context.call depth)) a.name) n
      {} (tellExtra (Invocation.ofLine line) s) a.machine t) (up : t.interrupted) :
    ∃ s', context.call (depth + 1) line s = some (.ok a.result, s') ∧ Tells [a.event] t s' := by
  have ran : Machine.run a.task (steering (context.carryOut (context.call depth)) a.name)
      context.patience {} (tellExtra (Invocation.ofLine line) s) = some (a.machine, a.ending, t) :=
    Machine.run_eq_some_iff.2 ⟨n, t, patient, steps, stops_of_interrupted up⟩
  obtain ⟨returned, told⟩ := conclude_ending a s.settings t
  refine ⟨(conclude a.name s.settings a.machine a.ending t).2, ?_, told⟩
  have invoked := invoke_of_task (context.carryOut (context.call depth)) runs s
  rw [named, ran] at invoked
  rw [call, invoked, ← returned]
  rfl

/-- From a moment at which the flag is up, a call goes on to its end, and all that is told until
then is how the functions that are active have ended. -/
theorem Reaches.ends (reaches : context.Reaches depth line s a outer t) (up : t.interrupted) :
    ∃ s', context.call depth line s = some (.ok (a.outermost outer).result, s') ∧
      Tells ((a.endings outer).map Activation.event) t s' := by
  induction reaches with
  | here runs patient steps =>
      exact call_of_interrupted (a := ⟨_, _, _⟩) runs rfl patient steps up
  | @inside depth n line command invocation s t u task m a outer runs patient steps position down
      step calls _ ih =>
      obtain ⟨u', called, told⟩ := ih up
      have answer : (steering (context.carryOut (context.call depth))
          (context.calledFunction line)).carryOut command t =
            some ((a.outermost outer).result.ok, u') := by
        simp only [steering, carryOut, calls, called]
        rfl
      have move : Machine.Moves task
          (steering (context.carryOut (context.call depth)) (context.calledFunction line)) m t
          (m.answer task (a.outermost outer).result.ok) u' :=
        .command position (by simp only [steering, down]) step answer
      obtain ⟨s', ended, last⟩ := call_of_interrupted
        (a := answered ⟨context.calledFunction line, task, m⟩ (a.outermost outer).result.ok)
        runs rfl patient (steps.snoc move) (by rw [told.interrupted, up])
      refine ⟨s', ?_, ?_⟩
      · rw [outermost_snoc]
        exact ended
      · rw [endings_snoc, List.map_append]
        exact told.trans last

/-- A call with the flag up from the start runs no command. -/
theorem call_of_interrupted_start (patient : 0 < context.patience) (up : s.interrupted) :
    ∃ outcome, context.call depth line s = some outcome ∧ RunsNothing s outcome := by
  have invoked (evaluate? : Option (Evaluator η)) :
      ∃ outcome, context.invoke evaluate? line s = some outcome ∧ RunsNothing s outcome := by
    rcases invoke_runs context evaluate? line s with
      ⟨outcome, nothing, same⟩ | ⟨evaluate, task, rfl, runs, same⟩
    · exact ⟨outcome, same context.host? context.patience, nothing⟩
    · let a : Activation := ⟨context.calledFunction line, task, {}⟩
      obtain ⟨events, extra, plain⟩ := exists_tellExtra (Invocation.ofLine line) s
      have stop : Machine.Stops task (steering evaluate a.name) {}
          (tellExtra (Invocation.ofLine line) s) a.ending (tellExtra (Invocation.ofLine line) s) :=
        stops_of_interrupted (a := a) (by rw [extra.interrupted, up])
      have ran := Machine.run_eq_some_iff.2 ⟨0, _, patient, .refl _ _, stop⟩
      obtain ⟨returned, told⟩ :=
        conclude_ending a s.settings (tellExtra (Invocation.ofLine line) s)
      refine ⟨conclude a.name s.settings {} a.ending (tellExtra (Invocation.ofLine line) s), ?_, ?_⟩
      · rw [same context.host? context.patience, ran]
        rfl
      · refine runsNothing_tellExtra ?_ told ?_
        · intro r same
          have result : Except.ok a.result = Except.ok r := returned.symm.trans same
          cases result
          rfl
        · simpa using a.event_not_command
  cases depth with
  | zero => exact invoked none
  | succ depth => exact invoked (some _)

/-! ## What puts the flag up -/

/-- The editor carries a command out and puts the flag up. -/
structure Raises (context : CallContext η) (a : Activation) (t : RunState η) (ok : Bool)
    (t' : RunState η) : Prop where
  down : t.interrupted = false
  command : ∃ line, a.machine.step a.task = .command line ∧ Command.ofLine? line = none ∧
    context.askHost line (t.tell (.command a.name line)) = (ok, t')
  up : t'.interrupted = true

/-- A command that puts the flag up is one for the editor, or a call that does so. -/
theorem carryOut_raises {call : Text → RunState η → CallOutcome η} {s' : RunState η} {ok : Bool}
    (carried : context.carryOut call line s = some (ok, s')) (down : s.interrupted = false)
    (up : s'.interrupted = true) :
    (Command.ofLine? line = none ∧ context.askHost line s = (ok, s')) ∨
      ∃ invocation result s₁, Command.ofLine? line = some (.call invocation) ∧
        call invocation s = some (result, s₁) ∧ s₁.interrupted = true := by
  rcases carryOut_cases carried with
    editor | ⟨command, events, -, -, tells, -⟩ | ⟨invocation, named, ended⟩
  · exact .inl editor
  · rw [tells.interrupted, down] at up
    contradiction
  · rcases ended with ⟨r, called, -⟩ | ⟨crash, s₁, called, -, rfl⟩
    · exact .inr ⟨invocation, _, s', named, called, up⟩
    · exact .inr ⟨invocation, _, s₁, named, called, up⟩

/-- A chain of lines that begins with the flag down and ends with the flag up is one that puts it up
with its last line, a command. -/
theorem exists_raising {evaluate : Evaluator η} {name : Text} {task : Task} {n : Nat}
    {m m' : Machine} {s s' : RunState η}
    (steps : Machine.Steps task (steering evaluate name) n m s m' s')
    (down : s.interrupted = false) (up : s'.interrupted = true) :
    ∃ k m₁ s₁ line ok, n = k + 1 ∧ Machine.Steps task (steering evaluate name) k m s m₁ s₁ ∧
      m₁.position < task.code.length ∧ s₁.interrupted = false ∧ m₁.step task = .command line ∧
      evaluate line (s₁.tell (.command name line)) = some (ok, s') ∧ m' = m₁.answer task ok := by
  cases n with
  | zero =>
      cases steps
      rw [down] at up
      contradiction
  | succ n =>
      obtain ⟨m₁, s₁, first, last⟩ := steps.exists_last
      cases last with
      | jump _ poll _ =>
          cases poll' : s₁.interrupted with
          | true => simp [steering, poll'] at poll
          | false =>
              simp only [steering, Prod.mk.injEq] at poll
              rw [← poll.2, poll'] at up
              contradiction
      | command position poll step answer =>
          rename_i s₂ line ok
          simp only [steering, Prod.mk.injEq] at poll
          obtain ⟨down₁, rfl⟩ := poll
          exact ⟨n, m₁, s₁, line, ok, rfl, first, position, down₁, step, answer, rfl⟩

/-- If the flag is up after a call and was down before it, then there is a moment of the call at
which the editor puts it up. -/
theorem exists_raises {result : Except Crash CallResult} {s' : RunState η}
    (ended : context.call depth line s = some (result, s')) (down : s.interrupted = false)
    (up : s'.interrupted = true) :
    ∃ a outer t ok t', context.Reaches depth line s a outer t ∧ context.Raises a t ok t' ∧
      context.Reaches depth line s (a.answered ok) outer t' := by
  induction depth generalizing line s s' result with
  | zero =>
      rcases invoke_runs context none line s with ⟨outcome, nothing, same⟩ | ⟨_, _, impossible, -⟩
      · cases (same context.host? context.patience).symm.trans ended
        rw [nothing.interrupted, down] at up
        contradiction
      · contradiction
  | succ depth ih =>
      let evaluate := context.carryOut (context.call depth)
      rcases invoke_runs context (some evaluate) line s with
        ⟨outcome, nothing, same⟩ | ⟨_, task, ⟨⟩, runs, same⟩
      · cases (same context.host? context.patience).symm.trans ended
        rw [nothing.interrupted, down] at up
        contradiction
      · have mapped := (same context.host? context.patience).symm.trans ended
        obtain ⟨⟨m, ending, s₁⟩, ran, concluded⟩ := Option.map_eq_some_iff.1 mapped
        obtain ⟨events, told, -⟩ :=
          exists_conclude (context.calledFunction line) s.settings m ending s₁
        obtain ⟨n, s₂, patient, steps, stop⟩ := Machine.run_eq_some_iff.1 ran
        cases stops_steering stop
        have down₀ : (tellExtra (Invocation.ofLine line) s).interrupted = false := by
          rw [(exists_tellExtra (Invocation.ofLine line) s).choose_spec.1.interrupted, down]
        have up₁ : s₁.interrupted = true := by
          rw [← told.interrupted]
          exact (congrArg (·.2.interrupted) concluded).trans up
        obtain ⟨k, m₁, s₂, command, ok, rfl, first, position, down₁, step, answer, rfl⟩ :=
          exists_raising steps down₀ up₁
        rcases carryOut_raises answer down₁ up₁ with
          ⟨editor, asked⟩ | ⟨invocation, result', s₃, calls, called, up₂⟩
        · exact ⟨⟨_, task, m₁⟩, [], s₂, ok, s₁,
            .here runs (Nat.lt_of_succ_lt patient) first,
            ⟨down₁, ⟨command, step, editor, asked⟩, up₁⟩, .here runs patient steps⟩
        · obtain ⟨a, outer, t, ok', t', before, raises, after⟩ := ih called down₁ up₂
          exact ⟨a, outer ++ [⟨_, task, m₁⟩], t, ok', t',
            .inside runs patient first position down₁ step calls before, raises,
            .inside runs patient first position down₁ step calls after⟩

/-! ## Every active function -/

/-- From a moment at which the flag is up, at whatever level of calls, no command is carried out any
more. The functions that are active end one after the other, from the inside out: each of them fails
because of the interrupt at its next line, or is at its end, and ends as its commands have it. The
call comes to what the outermost one comes to. If the flag is up after a call and was down before
it, there is such a moment, right after a command with which the editor puts it up. With the flag up
from the start, a call runs no command. -/
theorem interrupt_stops (context : CallContext η) (depth : Nat) (line : Text) (s : RunState η) :
    (∀ a outer t, context.Reaches depth line s a outer t → t.interrupted →
      ∃ s', context.call depth line s = some (.ok (a.outermost outer).result, s') ∧
        Tells ((a.endings outer).map Activation.event) t s' ∧ s'.commandsTold = t.commandsTold) ∧
      (∀ result s', context.call depth line s = some (result, s') → s.interrupted = false →
        s'.interrupted →
          ∃ a outer t ok t', context.Reaches depth line s a outer t ∧ context.Raises a t ok t' ∧
            context.Reaches depth line s (a.answered ok) outer t') ∧
      (s.interrupted → 0 < context.patience →
        ∃ outcome, context.call depth line s = some outcome ∧ RunsNothing s outcome) := by
  refine ⟨fun a outer t reaches up => ?_, fun result s' ended down up => ?_, fun up patient => ?_⟩
  · obtain ⟨s', called, told⟩ := reaches.ends up
    refine ⟨s', called, told, told.commandsTold ?_⟩
    intro event among
    obtain ⟨ending, -, rfl⟩ := List.mem_map.1 among
    exact ending.event_not_command
  · exact exists_raises ended down up
  · exact call_of_interrupted_start patient up

end CallContext

namespace Session

open CallContext RunState

/-- Functions the innermost of which has the editor halt with its last line. -/
def halting : Text :=
  ("function:a{
loop(2){
<b
unseen
}
}
" ++
    "function:b{
if(*){
<c
}
}
" ++ "function:c{
seen
halt
}
").toList

/-- A session with an editor that counts the commands it carries out, and puts the flag up at one of
them. -/
def haltingSession (loaded : Loaded) (interrupted : Bool) : Session Nat where
  config := {}
  environment := {}
  files := {}
  host? := some fun line n => ⟨some true, line = "halt".toList, n + 1⟩
  host := 0
  loaded
  interrupted

/-- What comes of a load of these functions. -/
def loadHalting : LoadResult := (Loaded.fresh []).loadText ⟨{}, {}⟩ halting [] {} #[]

theorem interrupt_stops_halting :
    let session := haltingSession loadHalting.loaded false
    let stopped := haltingSession loadHalting.loaded true
    (∃ a outer t, session.context.Reaches 10 "a".toList session.runState a outer t ∧ t.interrupted ∧
      ∃ s', session.context.call 10 "a".toList session.runState =
          some (.ok (a.outermost outer).result, s') ∧
        Tells ((a.endings outer).map Activation.event) t s' ∧ s'.commandsTold = t.commandsTold) ∧
      stopped.runState.interrupted ∧ 0 < stopped.context.patience ∧
      ∃ outcome, stopped.context.call 10 "a".toList stopped.runState = some outcome ∧
        RunsNothing stopped.runState outcome := by
  intro session stopped
  obtain ⟨moments, raised, -⟩ := interrupt_stops session.context 10 "a".toList session.runState
  obtain ⟨-, -, start⟩ := interrupt_stops stopped.context 10 "a".toList stopped.runState
  have ended : (session.context.call 10 "a".toList session.runState).any (·.2.interrupted) := by
    decide +kernel
  obtain ⟨⟨result, s'⟩, called, up⟩ := (Option.any_eq_true ..).1 ended
  obtain ⟨a, outer, t, ok, t', -, raises, reaches⟩ := raised result s' called rfl up
  have patient : 0 < stopped.context.patience := Nat.pow_pos (by decide)
  exact ⟨⟨_, outer, t', reaches, raises.up, moments _ _ _ reaches raises.up⟩, rfl, patient,
    start rfl patient⟩

example : ((haltingSession loadHalting.loaded false).call "a".toList).map (·.2.log.toList) =
    some [.command ['a'] "<b".toList, .command ['b'] "<c".toList, .command ['c'] "seen".toList,
      .command ['c'] "halt".toList, .finished ['c'] false 2,
      .failed ['b'] ⟨.interrupted, some ['b']⟩, .failed ['a'] ⟨.interrupted, some ['a']⟩] := by
  decide +kernel

end Session

end Ebrc
