import Ebrc.Proofs.Call.History
import Ebrc.Proofs.Load.Functions
import Ebrc.Proofs.Machine.Termination

/-!
# Calls of functions that have been loaded

The loader sees to it that the functions it loads are nested, and a nested body can be run without a
crash, with one exception. The loader lets an if have several elses, and the machine takes the
second one for the end of the if. A run that goes on behind it lacks a block from then on: it cannot
come to its end any more, and unless a failure stops it, it crashes. The loader was meant to refuse
such an else.
-/

namespace Ebrc

/-- A rule that is no function, or that of a function with a name and a nested body. -/
def Rule.Callable (rule : Rule) : Prop :=
  rule.kind = .function →
    ∃ name code, rule.pattern = some name ∧ rule.body = some (.sealed code) ∧ code.Nested

theorem RuleTable.search_of_callable {rules : List Rule} (name : Text)
    (callable : ∀ rule ∈ rules, rule.kind = .function ∧ rule.Callable) :
    findFunction.search name rules = .ok none ∨
      ∃ rule ∈ rules, findFunction.search name rules = .ok (some rule) := by
  induction rules with
  | nil => exact .inl rfl
  | cons rule rest ih =>
      obtain ⟨function, complete⟩ := callable rule (List.mem_cons_self ..)
      obtain ⟨pattern, code, named, -⟩ := complete function
      unfold findFunction.search
      simp only [named]
      by_cases here : Text.lower pattern = name
      · rw [if_pos here]
        exact .inr ⟨rule, List.mem_cons_self .., rfl⟩
      · rw [if_neg here]
        rcases ih fun rule among => callable rule (List.mem_cons_of_mem _ among) with
          missing | ⟨found, among, same⟩
        · exact .inl missing
        · exact .inr ⟨found, List.mem_cons_of_mem _ among, same⟩

/-- Looking a function up does not crash, and what is found can be run. -/
theorem RuleTable.resolve_of_callable {rules : RuleTable} (name : Text)
    (callable : ∀ rule ∈ rules, rule.Callable) :
    (∃ error, rules.resolve name = .refused error) ∨
      ∃ rule code, rules.resolve name = .found rule ∧ rule.body = some (.sealed code) ∧
        code.Nested := by
  unfold resolve
  by_cases unnamed : name = []
  · rw [if_pos unnamed]
    exact .inl ⟨_, rfl⟩
  rw [if_neg unnamed]
  by_cases bad : !isFunctionName name
  · rw [if_pos bad]
    exact .inl ⟨_, rfl⟩
  rw [if_neg bad]
  have functions : ∀ rule ∈ rules.ofKinds [.function], rule.kind = .function ∧ rule.Callable := by
    intro rule among
    obtain ⟨here, kind⟩ := List.mem_filter.1 among
    exact ⟨by simpa using kind, callable rule here⟩
  unfold findFunction
  rcases search_of_callable (Text.lower name) functions with
    missing | ⟨rule, among, found⟩
  · rw [missing]
    exact .inl ⟨_, rfl⟩
  · rw [found]
    obtain ⟨function, complete⟩ := functions rule among
    obtain ⟨pattern, code, -, body, nested⟩ := complete function
    exact .inr ⟨rule, code, rfl, body, nested⟩

namespace CallContext

variable {η : Type} {context : CallContext η} {line : Text} {evaluate? : Option (Evaluator η)}

/-- What is run by a call: the body of the function that the invocation leads to. -/
def task? (context : CallContext η) (line : Text) : Option Task :=
  match context.rules.resolve (Invocation.ofLine line).name with
  | .found rule =>
    match rule.body with
    | some (.sealed code) =>
      some ⟨code, rule.mindful, Invocation.ofLine line, context.repetitions⟩
    | _ => none
  | _ => none

/-- A call runs a body, of which something holds. -/
def Runs (context : CallContext η) (evaluate? : Option (Evaluator η)) (line : Text)
    (s : RunState η) (Holds : Task → Steering (RunState η) → RunState η → Prop) : Prop :=
  ∃ evaluate task, evaluate? = some evaluate ∧ context.task? line = some task ∧
    Holds task (steering evaluate (context.calledFunction line))
      (tellExtra (Invocation.ofLine line) s)

/-- The body of the function called takes an else for the end of an if that goes on with another
else. -/
def GoesAstray (context : CallContext η) (evaluate? : Option (Evaluator η)) (line : Text)
    (s : RunState η) : Prop :=
  context.Runs evaluate? line s fun task steering s => Machine.GoesAstray task steering {} s

/-- Blocks of the function called that test at their end repeat without end. -/
def Repeats (context : CallContext η) (evaluate? : Option (Evaluator η)) (line : Text)
    (s : RunState η) : Prop :=
  context.Runs evaluate? line s fun task steering s =>
    ∀ k, ∃ n m s', Machine.Steps task steering n {} s m s' ∧ k ≤ m.repetitions

/-- Where all functions can be run, a call comes to nothing but a failure, or it runs a nested
body. -/
theorem invoke_of_callable (callable : ∀ rule ∈ context.rules, rule.Callable)
    (evaluate? : Option (Evaluator η)) (line : Text) (s : RunState η) :
    ((∀ Holds, ¬context.Runs evaluate? line s Holds) ∧ ∃ r s', ∀ patience,
      CallContext.invoke { context with patience } evaluate? line s = some (.ok r, s')) ∨
      ∃ evaluate task, evaluate? = some evaluate ∧ context.task? line = some task ∧
        task.code.Nested ∧ task.limit = context.repetitions ∧ ∀ patience,
          CallContext.invoke { context with patience } evaluate? line s =
            (Machine.run task (steering evaluate (context.calledFunction line)) patience {}
              (tellExtra (Invocation.ofLine line) s)).map fun (m, ending, s₁) =>
                conclude (context.calledFunction line)
                  (tellExtra (Invocation.ofLine line) s).settings m ending s₁ := by
  unfold invoke
  rcases RuleTable.resolve_of_callable (Invocation.ofLine line).name callable with
    ⟨error, refused⟩ | ⟨rule, code, found, body, nested⟩
  · left
    constructor
    · rintro Holds ⟨evaluate, task, -, runs, -⟩
      simp only [task?, refused] at runs
      contradiction
    · simp only [refused]
      exact ⟨_, _, fun _ => rfl⟩
  · have task : context.task? line =
        some ⟨code, rule.mindful, Invocation.ofLine line, context.repetitions⟩ := by
      simp only [task?, found, body]
    cases evaluate? with
    | none =>
        left
        constructor
        · rintro Holds ⟨evaluate, task, impossible, -⟩
          contradiction
        · simp only [found]
          exact ⟨_, _, fun _ => rfl⟩
    | some evaluate =>
        right
        refine ⟨evaluate, _, rfl, task, nested, rfl, fun patience => ?_⟩
        simp only [found, runBody, body, calledFunction]
        rfl

/-- A call has failed. It has an outcome all the same, which tells of the failure. -/
def Fails (result : Except Crash CallResult) : Prop :=
  ∃ r error, result = .ok r ∧ r.verdict = .failed error

section Conclude

variable {name : Text} {before : Settings} {m : Machine} {ending : Ending} {s s' : RunState η}
variable {result : Except Crash CallResult}

theorem conclude_crashed_iff (concluded : conclude name before m ending s = (result, s'))
    (crash : Crash) : result = .error crash ↔ ending = .crashed crash := by
  cases ending with
  | finished soft =>
      cases concluded
      simp
  | failed fault =>
      cases concluded
      simp
  | crashed crash =>
      cases concluded
      simp

theorem conclude_fails_iff (concluded : conclude name before m ending s = (result, s')) :
    Fails result ↔ ∃ fault, ending = .failed fault := by
  cases ending with
  | finished soft =>
      cases concluded
      cases soft <;> simp [Fails]
  | failed fault =>
      cases concluded
      simp [Fails]
  | crashed crash =>
      cases concluded
      simp [Fails]

end Conclude

/-- A call that runs a nested body crashes exactly if the body goes astray and no failure stops
it. -/
theorem crash_of_concluded {task : Task} {steering : Steering (RunState η)} {patience : Nat}
    {start s₁ s' : RunState η} {m : Machine} {ending : Ending} {name : Text} {before : Settings}
    {result : Except Crash CallResult} (nested : task.code.Nested)
    (ran : Machine.run task steering patience {} start = some (m, ending, s₁))
    (concluded : conclude name before m ending s₁ = (result, s')) :
    (∀ crash, result = .error crash → crash = .noOpenBlock) ∧
      ((∃ crash, result = .error crash) ↔
        Machine.GoesAstray task steering {} start ∧ ¬Fails result) := by
  constructor
  · intro crash crashed
    rw [conclude_crashed_iff concluded] at crashed
    rw [crashed] at ran
    exact (Machine.crash_of_run nested ran).1
  · rw [conclude_fails_iff concluded, ← Machine.crashed_iff_goesAstray nested ran]
    exact exists_congr (conclude_crashed_iff concluded)

/-! ## Calls where all functions can be run -/

section Callable

variable {s s' : RunState η} {result : Except Crash CallResult}

/-- A call crashes exactly if the body goes astray and no failure stops it. -/
theorem crash_of_callable (callable : ∀ rule ∈ context.rules, rule.Callable)
    (ended : context.invoke evaluate? line s = some (result, s')) :
    (∀ crash, result = .error crash → crash = .noOpenBlock) ∧
      ((∃ crash, result = .error crash) ↔
        context.GoesAstray evaluate? line s ∧ ¬Fails result) := by
  rcases invoke_of_callable callable evaluate? line s with
    ⟨runsNothing, r, s₁, invoked⟩ | ⟨evaluate, task, rfl, runs, nested, limit, invoked⟩
  · cases (invoked context.patience).symm.trans ended
    refine ⟨fun crash impossible => by contradiction, ?_, ?_⟩
    · rintro ⟨crash, impossible⟩
      contradiction
    · rintro ⟨astray, -⟩
      exact absurd astray (runsNothing _)
  · have ended' := (invoked context.patience).symm.trans ended
    obtain ⟨⟨m, ending, s₁⟩, ran, concluded⟩ := Option.map_eq_some_iff.1 ended'
    have astray : context.GoesAstray (some evaluate) line s ↔ Machine.GoesAstray task
        (steering evaluate (context.calledFunction line)) {}
        (tellExtra (Invocation.ofLine line) s) := by
      constructor
      · rintro ⟨evaluate', task', given, runs', astray⟩
        cases given
        cases runs.symm.trans runs'
        exact astray
      · intro astray
        exact ⟨evaluate, task, rfl, runs, astray⟩
    rw [astray]
    exact crash_of_concluded nested ran concluded

/-- A call does not crash where every if of the body has one else at most. -/
theorem ok_of_single_elses (callable : ∀ rule ∈ context.rules, rule.Callable)
    (single : ∀ task ∈ context.task? line, ∀ position, ¬task.code.ElseFollows position)
    (ended : context.invoke evaluate? line s = some (result, s')) : ∃ r, result = .ok r := by
  cases result with
  | ok r => exact ⟨r, rfl⟩
  | error crash =>
      obtain ⟨astray, -⟩ := (crash_of_callable callable ended).2.1 ⟨crash, rfl⟩
      obtain ⟨evaluate, task, -, runs, n, m, s₁, m', s₂, -, -, elseFollows⟩ := astray
      exact absurd elseFollows (single task runs m.position)

/-- A call whose commands are all answered comes to an end, unless its blocks repeat without end. -/
theorem ends_of_callable (callable : ∀ rule ∈ context.rules, rule.Callable)
    (answers : ∀ evaluate ∈ evaluate?, ∀ line s, ∃ answer, evaluate line s = some answer)
    (line : Text) (s : RunState η) :
    (∃ enough, ∀ patience ≥ enough, ∃ outcome,
      CallContext.invoke { context with patience } evaluate? line s = some outcome) ∨
      context.repetitions = 0 ∧ context.Repeats evaluate? line s := by
  rcases invoke_of_callable callable evaluate? line s with
    ⟨runsNothing, r, s₁, invoked⟩ | ⟨evaluate, task, rfl, runs, nested, limit, invoked⟩
  · exact .inl ⟨0, fun patience _ => ⟨_, invoked patience⟩⟩
  · have carriesOut : ∀ command s, ∃ answer,
        (steering evaluate (context.calledFunction line)).carryOut command s = some answer :=
      fun command s => answers evaluate rfl command _
    rcases Machine.exists_run_or_repeats nested carriesOut
        (tellExtra (Invocation.ofLine line) s) with
      ⟨enough, ends⟩ | ⟨unlimited, repeats⟩
    · refine .inl ⟨enough, fun patience le => ?_⟩
      obtain ⟨outcome, ran⟩ := ends patience le
      rw [invoked patience, ran]
      exact ⟨_, rfl⟩
    · exact .inr ⟨limit.symm.trans unlimited, evaluate, task, rfl, runs, repeats⟩

end Callable

/-! ## Calls after a load -/

section Loaded

variable {around : Surroundings} {text file : Text} {before : Loaded} {files : FileSystem}
variable {log : EventLog}

/-- A call of a function that has been loaded from texts without marks never crashes, with one
exception. It crashes exactly if the body takes an else for the end of an if that goes on with
another else, and no failure stops it behind that; then a block is asked for where there is none. A
call whose commands are all answered comes to an end, unless repetitions have no limit and there
are more and more of them. -/
theorem crash_iff_goesAstray
    (succeeded : (before.loadText around text file files log).fault = none)
    (unmarked : ∀ sight ∈ before.trail around text file files log, sight.Unmarked)
    (rules : context.rules = (before.loadText around text file files log).loaded.rules)
    (evaluate? : Option (Evaluator η)) (line : Text) (s : RunState η) :
    (∀ result s', context.invoke evaluate? line s = some (result, s') →
      (∀ crash, result = .error crash → crash = .noOpenBlock) ∧
        ((∃ crash, result = .error crash) ↔
          context.GoesAstray evaluate? line s ∧ ¬Fails result)) ∧
      ((∀ evaluate ∈ evaluate?, ∀ line s, ∃ answer, evaluate line s = some answer) →
        (∃ enough, ∀ patience ≥ enough, ∃ outcome,
          CallContext.invoke { context with patience } evaluate? line s = some outcome) ∨
          context.repetitions = 0 ∧ context.Repeats evaluate? line s) := by
  have callable : ∀ rule ∈ context.rules, rule.Callable := by
    intro rule among
    rw [rules] at among
    refine Loaded.functions_of_loadText succeeded ?_ rule among
    intro there opened inTrail
    exact unmarked _ inTrail
  constructor
  · intro result s' ended
    exact crash_of_callable callable ended
  · intro answers
    exact ends_of_callable callable answers line s

/-- A function with an if that has two elses. -/
def twoElses : Text :=
  "function:f\x7b\nif(*)\x7b\n\x7delse\x7b\nnoop\n\x7delse\x7b\n\x7d\n\x7d\n".toList

/-- What comes of a load of it. -/
def loadTwoElses : LoadResult :=
  (Loaded.fresh []).loadText ⟨{}, {}⟩ twoElses [] {} #[]

/-- What calls go by after that. -/
def withTwoElses : CallContext Unit := ⟨loadTwoElses.loaded.rules, [], 100, none, 100⟩

/-- The loader takes a second else, and the machine crashes behind it. -/
theorem twoElses_crash :
    loadTwoElses.fault = none ∧
      (∀ sight ∈ (Loaded.fresh []).trail ⟨{}, {}⟩ twoElses [] {} #[], sight.Unmarked) ∧
      ∃ s', withTwoElses.invoke (some fun _ s => some (true, s)) ['f'] ⟨{}, false, (), #[]⟩ =
        some (.error .noOpenBlock, s') := by
  have crashes : (withTwoElses.invoke (some fun _ s => some (true, s)) ['f']
      ⟨{}, false, (), #[]⟩).any (·.1 matches .error .noOpenBlock) := by decide +kernel
  rw [Option.any_eq_true] at crashes
  obtain ⟨⟨result, s'⟩, ended, crashed⟩ := crashes
  refine ⟨by decide +kernel, by decide +kernel, s', ?_⟩
  rw [ended]
  cases result with
  | ok r => exact absurd crashed Bool.false_ne_true
  | error crash =>
      cases crash with
      | noOpenBlock => rfl
      | _ => exact absurd crashed Bool.false_ne_true

theorem crash_iff_goesAstray_twoElses :
    let evaluate : Evaluator Unit := fun _ s => some (true, s)
    let s : RunState Unit := ⟨{}, false, (), #[]⟩
    (∀ result s', withTwoElses.invoke (some evaluate) ['f'] s = some (result, s') →
      (∀ crash, result = .error crash → crash = .noOpenBlock) ∧
        ((∃ crash, result = .error crash) ↔
          withTwoElses.GoesAstray (some evaluate) ['f'] s ∧ ¬Fails result)) ∧
      ∃ enough, ∀ patience ≥ enough, ∃ outcome,
        CallContext.invoke { withTwoElses with patience } (some evaluate) ['f'] s =
          some outcome := by
  intro evaluate s
  have loaded : ((Loaded.fresh []).loadText ⟨{}, {}⟩ twoElses [] {} #[]).fault = none := by
    decide +kernel
  have unmarked : ∀ sight ∈ (Loaded.fresh []).trail ⟨{}, {}⟩ twoElses [] {} #[],
      sight.Unmarked := by decide +kernel
  have rules : withTwoElses.rules =
      ((Loaded.fresh []).loadText ⟨{}, {}⟩ twoElses [] {} #[]).loaded.rules := by
    simp only [withTwoElses, loadTwoElses]
  obtain ⟨crashes, ends⟩ := crash_iff_goesAstray loaded unmarked rules (some evaluate) ['f'] s
  refine ⟨crashes, ?_⟩
  rcases ends (by rintro _ ⟨⟩ line s; exact ⟨_, rfl⟩) with ends | ⟨unlimited, -⟩
  · exact ends
  · exact absurd unlimited (by decide)

end Loaded

end CallContext

end Ebrc
