import Ebrc.Proofs.Call.Brackets
import Ebrc.Proofs.Call.Interrupt

/-!
# How deep calls lie

A call knows how many further calls may lie inside it. One may as well count the bodies that are
being run: the count goes up when a body is entered, goes down when it is left, however that comes
about, and no body is entered any more when the count has reached its bound. This module keeps such
a count beside the editor. Every call gives back what it has counted, so a call that keeps count is
the call that is told how deep it may go, and a later call does not see the count of an earlier one.
-/

namespace Ebrc

variable {η : Type}

namespace RunState

/-- How many bodies are being run. -/
def running (s : RunState (η × Nat)) : Nat := s.host.2

/-- A body is entered. -/
def enter (s : RunState (η × Nat)) : RunState (η × Nat) :=
  { s with host := (s.host.1, s.host.2 + 1) }

/-- A body is left. -/
def leave (s : RunState (η × Nat)) : RunState (η × Nat) :=
  { s with host := (s.host.1, s.host.2 - 1) }

@[simp] theorem running_tell (s : RunState (η × Nat)) (event : Event) :
    (s.tell event).running = s.running := rfl

@[simp] theorem running_beside (s : RunState η) (c : Nat) :
    (s.beside c : RunState (η × Nat)).running = c := rfl

@[simp] theorem running_enter (s : RunState (η × Nat)) : s.enter.running = s.running + 1 := rfl

end RunState

namespace CallContext

open RunState

/-! ## Keeping count -/

/-- The same context with a count beside the editor. -/
def counted (context : CallContext η) : CallContext (η × Nat) where
  rules := context.rules
  agents := context.agents
  repetitions := context.repetitions
  host? := context.host?.map Host.beside
  patience := context.patience

/-- Call a function and keep count. First it is looked up, then the count is looked at, and then the
body is run. -/
def countedInvoke (context : CallContext (η × Nat)) (most : Nat) (evaluate : Evaluator (η × Nat))
    (line : Text) (s : RunState (η × Nat)) : CallOutcome (η × Nat) :=
  match context.rules.resolve (Invocation.ofLine line).name with
  | .found rule =>
    if most ≤ s.running then context.invoke none line s
    else
      let invocation := Invocation.ofLine line
      (context.runBody evaluate (rule.pattern.getD []) rule invocation
        (tellExtra invocation s).enter).map fun (result, s) => (result, s.leave)
  | _ => context.invoke none line s

/-- Call a function with no more than `most` bodies being run. There are levels enough for all calls
that the count lets in. -/
def countedCall (context : CallContext (η × Nat)) (most : Nat) :
    Nat → Text → RunState (η × Nat) → CallOutcome (η × Nat)
  | 0 => fun _ _ => none
  | levels + 1 => context.countedInvoke most (context.carryOut (context.countedCall most levels))

/-! ## Giving the count back -/

variable {context : CallContext η} {most levels c : Nat} {line : Text}

theorem seen_counted (context : CallContext η) (c : Nat) : Seen (·, c) context.counted context where
  rules := rfl
  agents := rfl
  repetitions := rfl
  patience := rfl
  host := askHost_mapHost <| by
    unfold counted
    cases context.host? with
    | none => exact .none
    | some host => exact .some fun _ _ => rfl

/-- Where no function is found, it does not matter how deep the call may go. -/
theorem call_of_unfound
    (unfound : ∀ rule, context.rules.resolve (Invocation.ofLine line).name ≠ .found rule)
    (depth : Nat) (s : RunState η) : context.call depth line s = context.invoke none line s := by
  cases depth with
  | zero => rfl
  | succ depth =>
      unfold call invoke
      cases resolved : context.rules.resolve (Invocation.ofLine line).name with
      | crashed crash => simp only [resolved]
      | refused error => simp only [resolved]
      | found rule => exact absurd resolved (unfound rule)

/-- A call that keeps count is the call that may go as deep as the count allows, and it gives the
count back. -/
theorem countedCall_seen (context : CallContext η) (enough : most - c < levels) :
    SeenThrough (·, c) (context.counted.countedCall most levels) (context.call (most - c)) := by
  induction levels generalizing c with
  | zero => exact absurd enough (Nat.not_lt_zero _)
  | succ levels ih =>
      intro line s
      unfold countedCall countedInvoke
      have uncounted : context.counted.invoke none line (s.mapHost (·, c)) = _ :=
        (seen_counted context c).invoke .none line s
      cases resolved : context.rules.resolve (Invocation.ofLine line).name with
      | crashed crash =>
          rw [call_of_unfound (by simp [resolved])]
          simp only [counted, resolved] at uncounted ⊢
          exact uncounted
      | refused error =>
          rw [call_of_unfound (by simp [resolved])]
          simp only [counted, resolved] at uncounted ⊢
          exact uncounted
      | found rule =>
          have found : context.counted.rules.resolve (Invocation.ofLine line).name = .found rule :=
            resolved
          simp only [found]
          by_cases full : most ≤ c
          · rw [if_pos (show most ≤ (s.mapHost (·, c)).running from full),
              Nat.sub_eq_zero_of_le full]
            exact uncounted
          · have deeper : most - c = most - (c + 1) + 1 := by omega
            have body := (seen_counted context (c + 1)).runBody
              ((seen_counted context (c + 1)).carryOut (ih (by omega))) (rule.pattern.getD []) rule
              (Invocation.ofLine line) (tellExtra (Invocation.ofLine line) s)
            rw [if_neg (show ¬most ≤ (s.mapHost (·, c)).running from full), deeper,
              tellExtra_mapHost]
            unfold call invoke
            simp only [resolved]
            refine (congrArg (Option.map _) body).trans ?_
            rw [Option.map_map]
            rfl

/-- Whoever is seen with the same count before and after keeps the count. -/
theorem SeenThrough.running {α : Type} {act : Text → RunState (η × Nat) → Option (α × _)}
    {act' : Text → RunState η → Option (α × RunState η)} (seen : SeenThrough (·, c) act act')
    {s s' : RunState (η × Nat)} {a : α} (ended : act line s = some (a, s'))
    (count : s.running = c) : s'.running = c := by
  subst count
  have same : act line s = _ := seen line (s.mapHost Prod.fst)
  rw [ended, eq_comm, Option.map_eq_some_iff] at same
  obtain ⟨⟨a', t⟩, -, ends⟩ := same
  cases ends
  rfl

/-- In a body the count is the same at each line. -/
theorem running_of_steps (enough : most - c < levels) {task : Task} {name : Text} {n : Nat}
    {m m' : Machine} {s s' : RunState (η × Nat)}
    (steps : Machine.Steps task
      (steering (context.counted.carryOut (context.counted.countedCall most levels)) name) n
      m s m' s') (count : s.running = c) : s'.running = c := by
  refine steps.invariant (fun _ s => s.running = c) ?_ count
  intro m m' s s' move count
  cases move with
  | jump _ poll _ =>
      obtain ⟨-, rfl⟩ := Prod.mk.inj poll
      exact count
  | command _ poll _ answer =>
      obtain ⟨-, rfl⟩ := Prod.mk.inj poll
      exact ((seen_counted context c).carryOut (countedCall_seen context enough)).running answer
        count

@[simp] theorem tellExtra_running (invocation : Invocation) (s : RunState (η × Nat)) :
    (tellExtra invocation s).running = s.running := by
  unfold running
  rw [tellExtra_host]

/-! ## The bound -/

/-- A call fails because calls lie too deep. It runs no command, and it leaves the settings, the
editor and the count as they are. -/
structure Refuses (context : CallContext (η × Nat)) (most : Nat) (line : Text)
    (s s' : RunState (η × Nat)) : Prop where
  call : ∀ levels, context.countedCall most (levels + 1) line s =
    some (.ok ⟨context.calledFunction line,
      .failed ⟨.tooDeep, some (context.calledFunction line)⟩, 0⟩, s')
  tells : ∃ events, (∀ event ∈ events, event.isExtra) ∧
    Tells (events ++ [.failed (context.calledFunction line)
      ⟨.tooDeep, some (context.calledFunction line)⟩]) s s'
  settings : s'.settings = s.settings

/-- The next line of a function that is being run is a command that calls a function which there
is. -/
structure CallsNext {κ : Type} (context : CallContext κ) (a : Activation) (t : RunState κ)
    (command invocation : Text) : Prop where
  inside : a.machine.position < a.task.code.length
  down : t.interrupted = false
  step : a.machine.step a.task = .command command
  calls : Command.ofLine? command = some (.call invocation)
  found : ∃ rule, context.rules.resolve (Invocation.ofLine invocation).name = .found rule

theorem exists_found_of_task {κ : Type} {context : CallContext κ} {task : Task}
    (runs : context.task? line = some task) :
    ∃ rule, context.rules.resolve (Invocation.ofLine line).name = .found rule := by
  unfold task? at runs
  split at runs
  · exact ⟨_, by assumption⟩
  · contradiction

/-- A call of a function that there is fails if the count has reached its bound. -/
theorem exists_refuses {context : CallContext (η × Nat)} {s : RunState (η × Nat)}
    (exists_rule : ∃ rule, context.rules.resolve (Invocation.ofLine line).name = .found rule)
    (full : s.running = most) : ∃ s', context.Refuses most line s s' := by
  obtain ⟨rule, found⟩ := exists_rule
  obtain ⟨events, extra, plain⟩ := exists_extra (Invocation.ofLine line) s
  have named : rule.pattern.getD [] = context.calledFunction line := by
    unfold calledFunction
    rw [found]
  refine ⟨_, ⟨fun levels => ?_, ⟨events, plain, extra.trans (.single _ _)⟩, by simp⟩⟩
  unfold countedCall countedInvoke invoke
  simp only [found, full, Nat.le_refl, if_true, named]

/-! ## Moments -/

/-- A moment of a call that keeps count: the function whose body is being run, those that wait for
it, the innermost one first, and the state. -/
inductive Moment (context : CallContext (η × Nat)) (most : Nat) :
    Nat → Text → RunState (η × Nat) → Activation → List Activation → RunState (η × Nat) → Prop where
  /-- The function called is being run itself. -/
  | here {levels n : Nat} {line : Text} {s t : RunState (η × Nat)} {task : Task} {m : Machine} :
      context.task? line = some task → s.running < most →
      Machine.Steps task
        (steering (context.carryOut (context.countedCall most levels)) (context.calledFunction line))
        n {} (tellExtra (Invocation.ofLine line) s).enter m t →
      Moment context most (levels + 1) line s ⟨context.calledFunction line, task, m⟩ [] t
  /-- The function called waits for one that a command of it calls. -/
  | inside {levels n : Nat} {line command invocation : Text} {s t u : RunState (η × Nat)}
      {task : Task} {m : Machine} {a : Activation} {outer : List Activation} :
      context.task? line = some task → s.running < most →
      Machine.Steps task
        (steering (context.carryOut (context.countedCall most levels)) (context.calledFunction line))
        n {} (tellExtra (Invocation.ofLine line) s).enter m t →
      m.position < task.code.length → t.interrupted = false → m.step task = .command command →
      Command.ofLine? command = some (.call invocation) →
      Moment context most levels invocation
        (t.tell (.command (context.calledFunction line) command)) a outer u →
      Moment context most (levels + 1) line s a
        (outer ++ [⟨context.calledFunction line, task, m⟩]) u

namespace Moment

variable {s t : RunState (η × Nat)} {a : Activation} {outer : List Activation}

/-- At each moment the count tells how many bodies are being run, and it has not gone beyond its
bound. -/
theorem running (moment : context.counted.Moment most levels line s a outer t)
    (enough : most - s.running < levels) :
    t.running = s.running + (a :: outer).length ∧ t.running ≤ most := by
  induction moment with
  | @here levels n line s t task m runs below steps =>
      have count : t.running = s.running + 1 :=
        running_of_steps (by omega) steps (by simp)
      exact ⟨count, count ▸ below⟩
  | @inside levels n line command invocation s t u task m a outer runs below steps _ _ _ _ _ ih =>
      have count : t.running = s.running + 1 :=
        running_of_steps (by omega) steps (by simp)
      obtain ⟨inside, within⟩ := ih (by rw [running_tell]; omega)
      refine ⟨?_, within⟩
      rw [inside, running_tell, count, List.length_cons, List.length_cons, List.length_append,
        List.length_singleton]
      omega

/-- What comes next depends on the function that is being run alone. Those that wait for it go on
waiting. -/
theorem goesOn (moment : context.counted.Moment most levels line s a outer t)
    (enough : most - s.running < levels) {a' : Activation} (inner : List Activation)
    {t' : RunState (η × Nat)}
    (goes : ∀ {levels n line s task m}, a = ⟨context.counted.calledFunction line, task, m⟩ →
      context.counted.task? line = some task → s.running < most → most - s.running < levels + 1 →
      Machine.Steps task
        (steering (context.counted.carryOut (context.counted.countedCall most levels)) a.name)
        n {} (tellExtra (Invocation.ofLine line) s).enter m t →
      context.counted.Moment most (levels + 1) line s a' inner t') :
    context.counted.Moment most levels line s a' (inner ++ outer) t' := by
  induction moment with
  | here runs below steps =>
      rw [List.append_nil]
      exact goes rfl runs below enough steps
  | @inside levels n line command invocation s t u task m a outer runs below steps position up first
      called _ ih =>
      have count : t.running = s.running + 1 :=
        running_of_steps (by omega) steps (by simp)
      rw [← List.append_assoc]
      exact .inside runs below steps position up first called
        (ih (by rw [running_tell]; omega) goes)

/-- At a moment at which the count has not reached its bound, a command that calls a function which
there is leads into the body of the function. -/
theorem enters (moment : context.counted.Moment most levels line s a outer t)
    (enough : most - s.running < levels) (below : t.running < most) {command invocation : Text}
    {task : Task} (next : context.counted.CallsNext a t command invocation)
    (runs : context.counted.task? invocation = some task) :
    context.counted.Moment most levels line s
      ⟨context.counted.calledFunction invocation, task, {}⟩ (a :: outer)
      (tellExtra (Invocation.ofLine invocation) (t.tell (.command a.name command))).enter := by
  refine moment.goesOn enough [a] ?_
  rintro levels n line s task' m rfl runs' below' enough steps
  have count : t.running = s.running + 1 :=
    running_of_steps (by omega) steps (by simp)
  obtain ⟨levels, rfl⟩ : ∃ more, levels = more + 1 := ⟨levels - 1, by omega⟩
  exact .inside runs' below' steps next.inside next.down next.step next.calls
    (.here runs below (.refl _ _))

/-- At a moment at which the count has reached its bound, a command that calls a function which there
is fails, and this is all that comes of it. -/
theorem refuses (moment : context.counted.Moment most levels line s a outer t)
    (enough : most - s.running < levels) (full : t.running = most) {command invocation : Text}
    (next : context.counted.CallsNext a t command invocation) :
    ∃ t', context.counted.Refuses most invocation (t.tell (.command a.name command)) t' ∧
      context.counted.Moment most levels line s (a.answered false) outer t' := by
  obtain ⟨t', refused⟩ := exists_refuses (s := t.tell (.command a.name command)) next.found full
  refine ⟨t', refused, moment.goesOn enough [] ?_⟩
  rintro levels n line s task m rfl runs below enough steps
  have count : t.running = s.running + 1 :=
    running_of_steps (by omega) steps (by simp)
  obtain ⟨levels, rfl⟩ : ∃ more, levels = more + 1 := ⟨levels - 1, by omega⟩
  have answer : context.counted.carryOut (context.counted.countedCall most (levels + 1)) command
      (t.tell (.command (context.counted.calledFunction line) command)) = some (false, t') := by
    unfold carryOut
    simp only [next.calls, refused.call levels]
    rfl
  exact .here runs below
    (steps.snoc (.command next.inside (by simp only [steering, next.down]) next.step answer))

end Moment

end CallContext

namespace Session

open CallContext

/-! ## One run after the other -/

/-- The same session with a count beside the editor. -/
def counted (session : Session η) (c : Nat) : Session (η × Nat) where
  config := session.config
  environment := session.environment
  files := session.files
  host? := session.host?.map Host.beside
  host := (session.host, c)
  loaded := session.loaded
  settings := session.settings
  interrupted := session.interrupted
  replacements := session.replacements
  log := session.log

/-- Call a function and keep count. -/
def countedCall (line : Text) (session : Session (η × Nat)) :
    Option (Except Crash CallResult × Session (η × Nat)) :=
  let most := session.config.safety.callDepth
  (session.context.countedCall most (most + 1) line session.runState).map fun (result, r) =>
    (result, session.afterRun r)

/-- A run that a session is asked for, with the interrupt flag as it is or down at first. -/
structure Request where
  line : Text
  lowers : Bool

/-- The session right before a run. -/
def atRequest (session : Session η) (request : Request) : Session η :=
  if request.lowers then { session with interrupted := false } else session

/-- Calls one after the other, and what comes of each of them. -/
def serve (call : Text → Session η → Option (Except Crash CallResult × Session η)) :
    List Request → Session η → Option (List (Except Crash CallResult) × Session η)
  | [], session => some ([], session)
  | request :: requests, session =>
    (call request.line (session.atRequest request)).bind fun (result, session) =>
      (serve call requests session).map fun (results, session) => (result :: results, session)

theorem countedCall_counted (line : Text) (session : Session η) (c : Nat) :
    (session.counted c).countedCall line =
      (session.context.call (session.config.safety.callDepth - c) line session.runState).map
        fun (result, r) => (result, (session.afterRun r).counted c) := by
  have enough : session.config.safety.callDepth - c < session.config.safety.callDepth + 1 := by
    omega
  have seen : session.context.counted.countedCall session.config.safety.callDepth _ line
      (session.runState.mapHost (·, c)) = _ := countedCall_seen session.context enough line _
  refine (congrArg (Option.map _) seen).trans ?_
  rw [Option.map_map]
  rfl

/-- The count is the same after each of a number of runs, so that later runs do as if nobody had
counted. -/
theorem serve_counted (requests : List Request) (session : Session η) :
    (session.counted 0).serve countedCall requests =
      (session.serve call requests).map fun (results, after) => (results, after.counted 0) := by
  induction requests generalizing session with
  | nil => rfl
  | cons request requests ih =>
      have lowered : (session.counted 0).atRequest request =
          (session.atRequest request).counted 0 := by
        unfold atRequest
        split <;> rfl
      have here : ((session.atRequest request).counted 0).countedCall request.line =
          ((session.atRequest request).call request.line).map
            fun (result, after) => (result, after.counted 0) := by
        rw [countedCall_counted, Nat.sub_zero, call, Option.map_map]
        rfl
      unfold serve
      rw [lowered, here]
      cases (session.atRequest request).call request.line with
      | none => rfl
      | some outcome =>
          simp only [Option.map_some, Option.bind_some, ih, Option.map_map]
          rfl

/-- At each moment of a call no more bodies are being run than the configuration allows, and the
count tells how many. Where it has reached its bound, a call of a function that there is fails, and
this is all that comes of it. However a call ends, it gives back what it has counted, and it is the
call that is told how deep it may go. So of a number of runs each does as if nobody had counted: it
goes by what the runs before it have made of the session alone. -/
theorem depth_is_given_back (session : Session η) :
    let context := session.context.counted
    let most := session.config.safety.callDepth
    (∀ line c a outer t, context.Moment most (most + 1) line (session.runState.beside c) a outer t →
      t.running = c + (a :: outer).length ∧ t.running ≤ most ∧
        ∀ command invocation, t.running = most → context.CallsNext a t command invocation →
          ∃ t', context.Refuses most invocation (t.tell (.command a.name command)) t' ∧
            context.Moment most (most + 1) line (session.runState.beside c) (a.answered false)
              outer t') ∧
      (∀ line c, (session.counted c).countedCall line =
        (session.context.call (most - c) line session.runState).map
          fun (result, r) => (result, (session.afterRun r).counted c)) ∧
      ∀ requests, (session.counted 0).serve countedCall requests =
        (session.serve call requests).map fun (results, after) => (results, after.counted 0) := by
  intro context most
  refine ⟨fun line c a outer t moment => ?_, fun line c => countedCall_counted line session c,
    fun requests => serve_counted requests session⟩
  have enough : most - (session.runState.beside c).running < most + 1 := by omega
  obtain ⟨count, within⟩ := moment.running enough
  exact ⟨count, within, fun command invocation full next => moment.refuses enough full next⟩

/-- A session with a function that calls itself, no more than two calls inside one another being
allowed. -/
def selfCalling : Session Unit :=
  let config : AppConfig := { safety := { callDepth := 2 } }
  ((Session.start config {} {} none ()).loadText "function:a\x7b\n<a\n\x7d\n".toList
    "<text>".toList).2

theorem depth_is_given_back_selfCalling :
    ∃ a outer t, selfCalling.context.counted.Moment 2 3 ['a'] (selfCalling.runState.beside 0)
        a outer t ∧
      t.running = 2 ∧ selfCalling.context.counted.CallsNext a t ['<', 'a'] ['a'] ∧
      t.running = 0 + (a :: outer).length ∧
      ∃ t', selfCalling.context.counted.Refuses 2 ['a'] (t.tell (.command a.name ['<', 'a'])) t' ∧
        selfCalling.context.counted.Moment 2 3 ['a'] (selfCalling.runState.beside 0)
          (a.answered false) outer t' := by
  let a : Activation :=
    ⟨selfCalling.context.counted.calledFunction ['a'], ⟨[.literal ['<', 'a']], false, ⟨['a'], []⟩,
      100000⟩, {}⟩
  have allowed : selfCalling.config.safety.callDepth = 2 := by decide +kernel
  have runs : selfCalling.context.counted.task? ['a'] = some a.task := by decide +kernel
  have next {t : RunState (Unit × Nat)} (down : t.interrupted = false) :
      selfCalling.context.counted.CallsNext a t ['<', 'a'] ['a'] :=
    ⟨by decide, down, by decide +kernel, by decide +kernel, exists_found_of_task runs⟩
  have once : selfCalling.context.counted.Moment 2 3 ['a'] (selfCalling.runState.beside 0) a [] _ :=
    .here runs Nat.two_pos (.refl _ _)
  obtain ⟨t, twice, down⟩ : ∃ t, selfCalling.context.counted.Moment 2 3 ['a']
      (selfCalling.runState.beside 0) a [a] t ∧ t.interrupted = false :=
    ⟨_, once.enters (by simp) (by simp) (next (by decide +kernel)) runs, by decide +kernel⟩
  obtain ⟨moments, -⟩ := depth_is_given_back selfCalling
  rw [allowed] at moments
  obtain ⟨count, -, refuses⟩ := moments _ _ _ _ _ twice
  exact ⟨a, [a], t, twice, count, next down, count, refuses _ _ count (next down)⟩

example : (selfCalling.call ['a']).map (fun (_, after) => after.log.toList.drop 1) =
    some [.command ['a'] ['<', 'a'], .command ['a'] ['<', 'a'],
      .failed ['a'] ⟨.tooDeep, some ['a']⟩, .finished ['a'] false 1, .finished ['a'] false 1] := by
  decide +kernel

end Session

end Ebrc
