import Ebrc.Proofs.Call.Commands
import Ebrc.Proofs.Invocation

/-!
# Every call comes to an end

Where all bodies are nested and repetitions have a limit, a call comes to an end, functions that
call themselves or one another included. How often the commands of a body are carried out is bounded
by the lines in which the machine stops, and how deep calls lie in one another by the depth. Each
nested call starts with repetitions of its own, so the bounds multiply from level to level.

The bounds do not depend on the invocation, on the editor or on the state before the call.
-/

namespace Ebrc

/-! ## Whatever the arguments -/

/-- An invocation in which every number refers to something. -/
def Invocation.complete : Invocation := ⟨[], List.replicate maxWords []⟩

theorem Invocation.exists_fill_complete (template : Text) :
    ∃ line, complete.fill template = .ok line := by
  cases result : complete.fill template with
  | ok line => exact ⟨line, rfl⟩
  | error n =>
      obtain ⟨before, after, refers, missing, -⟩ := fill_eq_error_iff.1 result
      have digit := refers.digit
      have nine : complete.arguments.length = 9 := List.length_replicate
      omega

namespace Machine

variable {task : Task} {m : Machine} {n : Nat}

/-- Arguments only decide whether a command can be told, and which one. Where none is missing, it
can be told. -/
theorem step_complete (task : Task) (m : Machine) :
    m.step { task with invocation := .complete } = m.step task ∨
      (∃ line, m.step { task with invocation := .complete } = .command line) ∧
        ((∃ ending, m.step task = .stop ending) ∨ ∃ line, m.step task = .command line) := by
  unfold step
  cases task.code[m.position]? with
  | none => exact .inl rfl
  | some i =>
      cases i with
      | literal template =>
          obtain ⟨filled, complete⟩ := Invocation.exists_fill_complete template
          simp only [complete]
          right
          refine ⟨⟨_, rfl⟩, ?_⟩
          cases task.invocation.fill template with
          | error index => exact .inl ⟨_, rfl⟩
          | ok line => exact .inr ⟨_, rfl⟩
      | _ => exact .inl rfl

/-- The machine stops whatever its arguments are, if it does so when none is missing. -/
theorem StopsWithin.of_complete
    (stops : StopsWithin { task with invocation := .complete } n m) : StopsWithin task n m := by
  induction stops with
  | @stop n m ending step =>
      rcases step_complete task m with same | ⟨⟨line, command⟩, -⟩
      · exact .stop (same ▸ step)
      · rw [command] at step
        contradiction
  | @next n m m' step _ ih =>
      rcases step_complete task m with same | ⟨⟨line, command⟩, -⟩
      · exact .next (same ▸ step) ih
      · rw [command] at step
        contradiction
  | @command n m line step _ ih =>
      rcases step_complete task m with same | ⟨-, ⟨ending, stops⟩ | ⟨line', command⟩⟩
      · exact .command (same ▸ step) fun ok => ih ok
      · exact .stop stops
      · exact .command command fun ok => ih ok

/-- Moves and what they cost: where polling costs nothing and each answered command no more than a
number, neither does the chain but for as many times as it has lines. -/
theorem Steps.cost_le {σ : Type} {steering : Steering σ} {cost : σ → Nat} {most : Nat}
    (polled : ∀ s, cost (steering.interrupted s).2 = cost s)
    (answered : ∀ {line s ok s'}, steering.carryOut line s = some (ok, s') →
      cost s' ≤ cost s + most) {m' : Machine} {s s' : σ}
    (steps : Steps task steering n m s m' s') : cost s' ≤ cost s + n * most := by
  induction steps with
  | refl => omega
  | @head n m m₁ m' s s₁ s' move _ ih =>
      have first : cost s₁ ≤ cost s + most := by
        cases move with
        | jump _ poll _ =>
            have same := polled s
            simp only [poll] at same
            omega
        | command _ poll _ answer =>
            have same := polled s
            have bound := answered answer
            simp only [poll] at same
            omega
      rw [Nat.succ_mul]
      omega

end Machine

/-! ## All bodies -/

theorem RuleTable.search_mem {rules : List Rule} {name : Text} {rule : Rule}
    (found : findFunction.search name rules = .ok (some rule)) : rule ∈ rules := by
  induction rules with
  | nil => cases found
  | cons first rest ih =>
      unfold findFunction.search at found
      split at found
      · contradiction
      · split at found
        · cases found
          exact List.mem_cons_self ..
        · exact List.mem_cons_of_mem _ (ih found)

/-- What is found is a function of the table. -/
theorem RuleTable.resolve_mem {rules : RuleTable} {name : Text} {rule : Rule}
    (found : rules.resolve name = .found rule) : rule ∈ rules ∧ rule.kind = .function := by
  unfold resolve at found
  split at found
  · contradiction
  split at found
  · contradiction
  cases searched : rules.findFunction name with
  | error crash =>
      rw [searched] at found
      contradiction
  | ok rule? =>
      rw [searched] at found
      cases rule? with
      | none => contradiction
      | some rule =>
          cases found
          obtain ⟨among, kind⟩ := List.mem_filter.1 (search_mem searched)
          exact ⟨among, by simpa using kind⟩

namespace CallContext

open RunState

variable {η : Type} {context : CallContext η} {line : Text} {task : Task} {n most : Nat}

/-- What a call runs is the body of a rule of the table. -/
theorem exists_rule_of_task (runs : context.task? line = some task) :
    ∃ rule ∈ context.rules, rule.kind = .function ∧ rule.body = some (.sealed task.code) ∧
      task = ⟨task.code, rule.mindful, Invocation.ofLine line, context.repetitions⟩ := by
  unfold task? at runs
  split at runs
  · rename_i rule found
    obtain ⟨among, kind⟩ := RuleTable.resolve_mem found
    split at runs
    · rename_i code body
      cases runs
      exact ⟨rule, among, kind, body, rfl⟩
    · contradiction
  · contradiction

/-- A number that is enough for a rule of a list is, if it is large, enough for all. -/
theorem exists_common_bound {Enough : Rule → Nat → Prop}
    (mono : ∀ {rule n more}, n ≤ more → Enough rule n → Enough rule more) {rules : List Rule}
    (each : ∀ rule ∈ rules, ∃ n, Enough rule n) : ∃ n, ∀ rule ∈ rules, Enough rule n := by
  induction rules with
  | nil => exact ⟨0, by simp⟩
  | cons rule rest ih =>
      obtain ⟨n, first⟩ := each rule (List.mem_cons_self ..)
      obtain ⟨k, others⟩ := ih fun rule among => each rule (List.mem_cons_of_mem _ among)
      refine ⟨max n k, fun rule' among => ?_⟩
      rcases List.mem_cons.1 among with rfl | later
      · exact mono (Nat.le_max_left n k) first
      · exact mono (Nat.le_max_right n k) (others rule' later)

/-- All bodies stop within a number of lines, whatever they are called with. -/
theorem exists_stopsWithin (callable : ∀ rule ∈ context.rules, rule.Callable)
    (limited : context.repetitions ≠ 0) :
    ∃ n, ∀ line, ∀ task ∈ context.task? line, Machine.StopsWithin task n {} := by
  have bound : ∃ n, ∀ rule ∈ context.rules, rule.kind = .function →
      ∀ code, rule.body = some (.sealed code) → ∀ invocation,
        Machine.StopsWithin ⟨code, rule.mindful, invocation, context.repetitions⟩ n {} := by
    refine exists_common_bound ?_ fun rule among => ?_
    · intro rule n more le enough kind code body invocation
      exact (enough kind code body invocation).mono le
    · by_cases function : rule.kind = .function
      · obtain ⟨name, code, -, body, nested⟩ := callable rule among function
        have stops : ∃ n, Machine.StopsWithin
            ⟨code, rule.mindful, .complete, context.repetitions⟩ n {} :=
          Machine.exists_stopsWithin_start nested limited
        obtain ⟨n, stops⟩ := stops
        refine ⟨n, fun _ code' body' invocation => ?_⟩
        cases body.symm.trans body'
        exact Machine.StopsWithin.of_complete stops
      · exact ⟨0, fun impossible => absurd impossible function⟩
  obtain ⟨n, stops⟩ := bound
  refine ⟨n, fun line task runs => ?_⟩
  obtain ⟨rule, among, kind, body, same⟩ := exists_rule_of_task runs
  rw [same]
  exact stops rule among kind task.code body _

/-! ## Levels of calls -/

/-- Whoever deals with lines comes to an end each time, and no more than a number of commands are
handed out. -/
def EndsWith {α : Type} (most : Nat) (act : Text → RunState η → Option (α × RunState η)) : Prop :=
  ∀ line s, ∃ a s', act line s = some (a, s') ∧ s'.commandsTold ≤ s.commandsTold + most

/-- An editor hands out no command. -/
theorem commandsTold_askHost (context : CallContext η) (line : Text) (s : RunState η) :
    (context.askHost line s).2.commandsTold = s.commandsTold := by
  unfold askHost
  split
  · simp [Event.isCommand]
  · dsimp only
    split
    · rfl
    · rw [commandsTold_tell]
      rfl

theorem commandsTold_changeSettings (context : CallContext η) (command : SettingsCommand)
    (line : Text) (s : RunState η) :
    (context.changeSettings command line s).2.commandsTold = s.commandsTold := by
  unfold changeSettings
  split
  · rfl
  · rfl
  · simp [Event.isCommand]

theorem EndsWith.carryOut {call : Text → RunState η → CallOutcome η} (ends : EndsWith most call) :
    EndsWith most (context.carryOut call) := by
  intro line s
  unfold CallContext.carryOut
  cases Command.ofLine? line with
  | none =>
      refine ⟨(context.askHost line s).1, (context.askHost line s).2, rfl, ?_⟩
      rw [commandsTold_askHost]
      exact Nat.le_add_right ..
  | some command =>
      cases command with
      | echo text => exact ⟨_, _, rfl, by simp [Event.isCommand]⟩
      | noop => exact ⟨_, _, rfl, Nat.le_add_right ..⟩
      | settings command =>
          refine ⟨(context.changeSettings command line s).1,
            (context.changeSettings command line s).2, rfl, ?_⟩
          rw [commandsTold_changeSettings]
          exact Nat.le_add_right ..
      | call invocation =>
          obtain ⟨result, s', called, bound⟩ := ends invocation s
          cases result with
          | ok result => exact ⟨result.ok, s', by simp [called], bound⟩
          | error crash =>
              exact ⟨false, s'.tell (.crashedCommand line), by simp [called],
                by simpa [Event.isCommand] using bound⟩

/-- A body comes to an end if its commands do. Each line hands out one command at most, and whatever
is handed out by that. -/
theorem exists_run_told {evaluate : Evaluator η} (stops : Machine.StopsWithin task n {})
    (ends : EndsWith most evaluate) (name : Text) (s : RunState η) :
    ∃ m ending s', Machine.run task (steering evaluate name) n {} s = some (m, ending, s') ∧
      s'.commandsTold ≤ s.commandsTold + n * (most + 1) := by
  have answers (line : Text) (s : RunState η) :
      ∃ answer, (steering evaluate name).carryOut line s = some answer := by
    obtain ⟨ok, s', answered, -⟩ := ends line (s.tell (.command name line))
    exact ⟨_, answered⟩
  have answered {line : Text} {s s' : RunState η} {ok : Bool}
      (answer : (steering evaluate name).carryOut line s = some (ok, s')) :
      s'.commandsTold ≤ s.commandsTold + (most + 1) := by
    obtain ⟨ok', s'', told, bound⟩ := ends line (s.tell (.command name line))
    cases told.symm.trans answer
    simp only [commandsTold_tell, Event.isCommand, if_true] at bound
    omega
  obtain ⟨⟨m, ending, s'⟩, ran⟩ := stops.exists_run rfl (fun _ => rfl) answers
  refine ⟨m, ending, s', ran, ?_⟩
  obtain ⟨k, s₁, fewer, steps, stop⟩ := Machine.run_eq_some_iff.1 ran
  have reached : s₁.commandsTold ≤ s.commandsTold + k * (most + 1) :=
    steps.cost_le (fun _ => rfl) answered
  calc s'.commandsTold
    _ = s₁.commandsTold := by rw [stops_steering stop]
    _ ≤ s.commandsTold + k * (most + 1) := reached
    _ ≤ s.commandsTold + n * (most + 1) :=
        Nat.add_le_add_left (Nat.mul_le_mul_right _ (Nat.le_of_lt fewer)) _

/-- A call comes to an end if its commands do. -/
theorem ends_invoke {evaluate? : Option (Evaluator η)}
    (stops : ∀ line, ∀ task ∈ context.task? line, Machine.StopsWithin task n {})
    (ends : ∀ evaluate ∈ evaluate?, EndsWith most evaluate) (host? : Option (Host η))
    {patience : Nat} (enough : n ≤ patience) :
    EndsWith (n * (most + 1)) (CallContext.invoke { context with host?, patience } evaluate?) := by
  intro line s
  rcases invoke_runs context evaluate? line s with
    ⟨⟨result, s'⟩, ⟨⟨events, tells, others⟩, -⟩, invoked⟩ | ⟨evaluate, task, rfl, runs, invoked⟩
  · refine ⟨result, s', invoked host? patience, ?_⟩
    rw [tells.commandsTold others]
    exact Nat.le_add_right ..
  · obtain ⟨m, ending, s₁, ran, bound⟩ := exists_run_told (stops line task runs)
      (ends evaluate rfl) (context.calledFunction line) (tellExtra (Invocation.ofLine line) s)
    let outcome := conclude (context.calledFunction line) s.settings m ending s₁
    refine ⟨outcome.1, outcome.2, ?_, ?_⟩
    · rw [invoked, Machine.run_mono enough ran]
      rfl
    · obtain ⟨events, told, others⟩ :=
        exists_conclude (context.calledFunction line) s.settings m ending s₁
      obtain ⟨first, extra, plain⟩ := exists_tellExtra (Invocation.ofLine line) s
      rw [told.commandsTold others, ← extra.commandsTold plain]
      exact bound

/-- How many commands a call hands out at most, where each body stops within a number of lines and
calls lie no deeper in one another than this. -/
def allowance (lines : Nat) : Nat → Nat
  | 0 => 0
  | depth + 1 => lines * (allowance lines depth + 1)

/-- Every call comes to an end, if all bodies stop within a number of lines. -/
theorem ends_call (stops : ∀ line, ∀ task ∈ context.task? line, Machine.StopsWithin task n {})
    (host? : Option (Host η)) {patience : Nat} (enough : n ≤ patience) (depth : Nat) :
    EndsWith (allowance n depth) (CallContext.call { context with host?, patience } depth) := by
  induction depth with
  | zero =>
      intro line s
      rcases invoke_runs context none line s with
        ⟨⟨result, s'⟩, ⟨⟨events, tells, others⟩, -⟩, invoked⟩ | ⟨_, _, impossible, -⟩
      · exact ⟨result, s', invoked host? patience, (tells.commandsTold others).le⟩
      · contradiction
  | succ depth ih =>
      refine ends_invoke stops ?_ host? enough
      rintro _ ⟨⟩
      exact EndsWith.carryOut ih

end CallContext

/-! ## Calls of a session -/

/-- Every if of the body has one else at most. -/
def Rule.SingleElses (rule : Rule) : Prop :=
  ∀ code, rule.body = some (.sealed code) → ∀ position, ¬code.ElseFollows position

/-- What has been loaded from texts without marks can be run. -/
theorem Loaded.callable_of_loadText {around : Surroundings} {text file : Text} {before : Loaded}
    {files : FileSystem} {log : EventLog}
    (succeeded : (before.loadText around text file files log).fault = none)
    (unmarked : ∀ sight ∈ before.trail around text file files log, sight.Unmarked) :
    ∀ rule ∈ (before.loadText around text file files log).loaded.rules, rule.Callable := by
  intro rule among
  refine functions_of_loadText succeeded ?_ rule among
  intro there opened inTrail
  exact unmarked _ inTrail

/-- A call that comes to an end returns a result, if every if has one else at most. -/
theorem CallContext.ok_of_call {η : Type} {context : CallContext η} {depth : Nat} {line : Text}
    {s s' : RunState η} {result : Except Crash CallResult}
    (ended : context.call depth line s = some (result, s'))
    (callable : ∀ rule ∈ context.rules, rule.Callable)
    (single : ∀ rule ∈ context.rules, rule.SingleElses) : ∃ r, result = .ok r := by
  have elses : ∀ task ∈ context.task? line, ∀ position, ¬task.code.ElseFollows position := by
    intro task runs
    obtain ⟨rule, among, -, body, -⟩ := exists_rule_of_task runs
    exact single rule among task.code body
  cases depth with
  | zero => exact ok_of_single_elses callable elses ended
  | succ depth => exact ok_of_single_elses callable elses ended

namespace Session

open CallContext

variable {η : Type}

/-- Where the functions of a session are nested and repetitions have a limit, every call comes to an
end, in a number of lines for each body that depends on the functions and the limits alone. It hands
out no more commands, on all levels, than these lines and the depth of calls allow. If every if has
one else at most, the call returns a result, and does not crash. -/
theorem calls_end (session : Session η)
    (callable : ∀ rule ∈ session.loaded.rules, rule.Callable)
    (limited : 1 ≤ session.config.safety.repetitions) :
    ∃ n, ∀ (host? : Option (Host η)), ∀ patience ≥ n, ∀ line s, ∃ result s',
      CallContext.call { session.context with host?, patience } session.config.safety.callDepth
          line s = some (result, s') ∧
        s'.commandsTold ≤ s.commandsTold + allowance n session.config.safety.callDepth ∧
        ((∀ rule ∈ session.loaded.rules, rule.SingleElses) → ∃ r, result = .ok r) := by
  obtain ⟨n, stops⟩ : ∃ n, ∀ line, ∀ task ∈ session.context.task? line,
      Machine.StopsWithin task n {} :=
    exists_stopsWithin callable (Nat.ne_zero_of_lt limited)
  refine ⟨n, fun host? patience enough line s => ?_⟩
  obtain ⟨result, s', ended, bound⟩ :=
    ends_call stops host? enough session.config.safety.callDepth line s
  exact ⟨result, s', ended, bound, fun single => ok_of_call ended callable single⟩

/-- A session without an editor in which something has been loaded. -/
def withLoaded (loaded : Loaded) : Session Unit :=
  { config := {}, environment := {}, files := {}, host? := none, host := (), loaded }

@[simp] theorem withLoaded_loaded (loaded : Loaded) : (withLoaded loaded).loaded = loaded := rfl

@[simp] theorem withLoaded_safety (loaded : Loaded) : (withLoaded loaded).config.safety = {} := rfl

/-- Two functions that call each other, one of them while the other succeeds. -/
def inTurn : Text :=
  ("function:a\x7b\nwhile(*)\x7b\n<b\n\x7d\n\x7d\n" ++
    "function:b\x7b\nloop(2)\x7b\n<a\n\x7d\n\x7d\n").toList

/-- What comes of a load of them. -/
def loadInTurn : LoadResult := (Loaded.fresh []).loadText ⟨{}, {}⟩ inTurn [] {} #[]

theorem calls_end_inTurn :
    let session := withLoaded loadInTurn.loaded
    (∀ rule ∈ session.loaded.rules, rule.Callable) ∧ 1 ≤ session.config.safety.repetitions ∧
      ∃ n, ∀ (host? : Option (Host Unit)), ∀ patience ≥ n, ∀ line s, ∃ result s',
        CallContext.call { session.context with host?, patience } session.config.safety.callDepth
            line s = some (result, s') ∧
          s'.commandsTold ≤ s.commandsTold + allowance n session.config.safety.callDepth ∧
          ((∀ rule ∈ session.loaded.rules, rule.SingleElses) → ∃ r, result = .ok r) := by
  have succeeded : ((Loaded.fresh []).loadText ⟨{}, {}⟩ inTurn [] {} #[]).fault = none := by
    decide +kernel
  have unmarked : ∀ sight ∈ (Loaded.fresh []).trail ⟨{}, {}⟩ inTurn [] {} #[],
      sight.Unmarked := by decide +kernel
  have callable : ∀ rule ∈ (withLoaded loadInTurn.loaded).loaded.rules, rule.Callable := by
    rw [withLoaded_loaded, loadInTurn]
    exact Loaded.callable_of_loadText succeeded unmarked
  have limited : 1 ≤ (withLoaded loadInTurn.loaded).config.safety.repetitions := by
    rw [withLoaded_safety]
    decide
  exact ⟨callable, limited, calls_end (withLoaded loadInTurn.loaded) callable limited⟩

end Session

end Ebrc
