import Ebrc.Proofs.Call.Editor

/-!
# What is told in a call

The log of a call is well bracketed. It tells of words that cannot be referred to, then of each
command of the function, right behind it of all that the command leads to, and at last of how the
call has ended. What a command leads to is the whole log of a call, if it calls a function, and
otherwise nothing but an echo, or that the command has crashed or is not known. So each call that
returns a result tells so once, and counts the commands that it has told of itself. A call that
crashes tells no end, and its caller tells of the crash.
-/

namespace Ebrc

/-- Is it told of words that cannot be referred to? -/
def Event.isExtra : Event → Bool
  | .extraArguments _ _ => true
  | _ => false

namespace Machine

variable {task : Task} {m m' : Machine}

/-- Going on to another line counts no command. -/
theorem commands_of_next (stepped : m.step task = .next m') : m'.commands = m.commands := by
  unfold step leaveBranch closeBlock openBlock skip repeatBlock at stepped
  grind [advance]

end Machine

namespace CallContext

open RunState

variable {η : Type} {context : CallContext η} {depth : Nat} {line : Text}
variable {s s' : RunState η} {result : Except Crash CallResult}

/-! ## Traces -/

mutual

/-- These events are told in a call, from one state to another: what is told at its beginning, what
its commands tell, and how it has ended. A result counts the commands. -/
inductive CallTrace (context : CallContext η) :
    Nat → Text → RunState η → List Event → Except Crash CallResult → RunState η → Prop where
  | call {depth n : Nat} {line : Text} {s t u s' : RunState η} {first inner : List Event}
      {result : Except Crash CallResult}
      (called : context.call depth line s = some (result, s'))
      (opens : Tells first s t) (extra : ∀ event ∈ first, event.isExtra)
      (commands : CommandTrace context depth (context.calledFunction line) n t inner u)
      (closes : Tells (callEnd result) u s') (counts : ∀ r, result = .ok r → r.commands = n) :
      CallTrace context depth line s (first ++ inner ++ callEnd result) result s'

/-- These events are told by a number of commands of a function, from one state to another: each
command is told of, and then comes what it leads to. Calls lie no deeper in one another than this. -/
inductive CommandTrace (context : CallContext η) :
    Nat → Text → Nat → RunState η → List Event → RunState η → Prop where
  | none {depth : Nat} {function : Text} (s : RunState η) :
      CommandTrace context depth function 0 s [] s
  /-- A command that calls no function. -/
  | plain {depth n : Nat} {function command : Text} {ok : Bool} {s s₁ s' : RunState η}
      {told later : List Event}
      (other : ∀ invocation, Command.ofLine? command ≠ some (.call invocation))
      (carried : context.carryOut (context.call depth) command
        (s.tell (.command function command)) = some (ok, s₁))
      (log : s₁.log.toList = s.log.toList ++ .command function command :: told)
      (plain : ∀ event ∈ told, event.isPlain)
      (rest : CommandTrace context (depth + 1) function n s₁ later s') :
      CommandTrace context (depth + 1) function (n + 1) s
        (.command function command :: told ++ later) s'
  /-- A command that calls a function, and a call that returns a result. -/
  | call {depth n : Nat} {function command invocation : Text} {r : CallResult}
      {s s₁ s' : RunState η} {told later : List Event}
      (calls : Command.ofLine? command = some (.call invocation))
      (trace : CallTrace context depth invocation (s.tell (.command function command)) told
        (.ok r) s₁)
      (rest : CommandTrace context (depth + 1) function n s₁ later s') :
      CommandTrace context (depth + 1) function (n + 1) s
        (.command function command :: told ++ later) s'
  /-- A command that calls a function, and a call that crashes. -/
  | crash {depth n : Nat} {function command invocation : Text} {crash : Crash}
      {s s₁ s' : RunState η} {told later : List Event}
      (calls : Command.ofLine? command = some (.call invocation))
      (trace : CallTrace context depth invocation (s.tell (.command function command)) told
        (.error crash) s₁)
      (rest : CommandTrace context (depth + 1) function n (s₁.tell (.crashedCommand command))
        later s') :
      CommandTrace context (depth + 1) function (n + 1) s
        (.command function command :: told ++ .crashedCommand command :: later) s'

end

/-! ## The beginning and the end of a call -/

/-- At the beginning of a call nothing is told but words that cannot be referred to. -/
theorem exists_extra (invocation : Invocation) (s : RunState η) :
    ∃ first, Tells first s (tellExtra invocation s) ∧ ∀ event ∈ first, event.isExtra := by
  unfold tellExtra
  split
  · exact ⟨_, .single s _, by simp [Event.isExtra]⟩
  · exact ⟨[], .refl s, by simp⟩

/-- The end of a call whose body has been run. -/
theorem conclude_closes {name : Text} {before : Settings} {m : Machine} {ending : Ending}
    (concluded : conclude name before m ending s = (result, s')) :
    Tells (callEnd result) s s' ∧ ∀ r, result = .ok r → r.commands = m.commands := by
  cases ending with
  | finished soft =>
      cases concluded
      refine ⟨⟨?_, rfl, rfl⟩, by rintro _ ⟨⟩; rfl⟩
      cases soft <;> simp [callEnd, CallResult.event]
  | failed fault =>
      cases concluded
      exact ⟨⟨by simp [callEnd, CallResult.event], rfl, rfl⟩, by rintro _ ⟨⟩; rfl⟩
  | crashed crash =>
      cases concluded
      exact ⟨⟨by simp [callEnd], rfl, rfl⟩, by simp⟩

/-- A call ends right behind its beginning, without a command, or behind the commands of the body of
the function called. -/
theorem invoke_closes {evaluate? : Option (Evaluator η)}
    (ended : context.invoke evaluate? line s = some (result, s')) :
    ∃ n u, ((n = 0 ∧ u = tellExtra (Invocation.ofLine line) s) ∨
        ∃ evaluate task k m, evaluate? = some evaluate ∧ n = m.commands ∧
          Machine.Steps task (steering evaluate (context.calledFunction line)) k {}
            (tellExtra (Invocation.ofLine line) s) m u) ∧
      Tells (callEnd result) u s' ∧ ∀ r, result = .ok r → r.commands = n := by
  rcases invoke_cases ended with
    ⟨rfl, none⟩ | ⟨evaluate, task, m, ending, u, here, ran, concluded⟩
  · have closes : Tells (callEnd result) (tellExtra (Invocation.ofLine line) s)
        ((callEnd result).foldl tell (tellExtra (Invocation.ofLine line) s)) := by
      cases result with
      | ok r => exact .single _ _
      | error crash => exact .refl _
    exact ⟨0, _, .inl ⟨rfl, rfl⟩, closes, none⟩
  · obtain ⟨k, u', -, steps, stop⟩ := Machine.run_eq_some_iff.1 ran
    cases stops_steering stop
    exact ⟨m.commands, u, .inr ⟨evaluate, task, k, m, here, rfl, steps⟩, conclude_closes concluded⟩

/-! ## Calls leave traces -/

/-- Calls of this depth leave traces. -/
def Traced (context : CallContext η) (depth : Nat) : Prop :=
  ∀ line s result s', context.call depth line s = some (result, s') →
    ∃ events, context.CallTrace depth line s events result s' ∧
      s'.log.toList = s.log.toList ++ events

/-- One command leaves a trace in front of that of the commands behind it. -/
theorem Traced.cons (traced : context.Traced depth) {function command : Text} {ok : Bool} {n : Nat}
    {s₁ : RunState η} {later : List Event}
    (carried : context.carryOut (context.call depth) command
      (s.tell (.command function command)) = some (ok, s₁))
    (rest : context.CommandTrace (depth + 1) function n s₁ later s')
    (log : s'.log.toList = s₁.log.toList ++ later) :
    ∃ events, context.CommandTrace (depth + 1) function (n + 1) s events s' ∧
      s'.log.toList = s.log.toList ++ events := by
  have alone {command' : Option Command} (named : Command.ofLine? command = command')
      (other : ∀ invocation, command' ≠ some (.call invocation)) {told : List Event}
      (logHere : s₁.log.toList = (s.tell (.command function command)).log.toList ++ told)
      (plain : ∀ event ∈ told, event.isPlain) :
      ∃ events, context.CommandTrace (depth + 1) function (n + 1) s events s' ∧
        s'.log.toList = s.log.toList ++ events := by
    rw [toList_log_tell, List.append_assoc] at logHere
    exact ⟨_, .plain (by rwa [named]) carried logHere plain rest, by simp [log, logHere]⟩
  rcases carryOut_cases carried with
    ⟨unnamed, asked⟩ | ⟨known, told, named, other, tells, plain⟩ | ⟨invocation, named, ended⟩
  · obtain ⟨told, logHere, plain⟩ :=
      exists_askHost context command (s.tell (.command function command))
    rw [asked] at logHere
    exact alone unnamed (by simp) logHere plain
  · exact alone named (by simpa using other) tells.log plain
  · rcases ended with ⟨r, called, -⟩ | ⟨crash, t, called, -, rfl⟩
    · obtain ⟨told, trace, logHere⟩ := traced _ _ _ _ called
      exact ⟨_, .call named trace rest, by simp [log, logHere]⟩
    · obtain ⟨told, trace, logHere⟩ := traced _ _ _ _ called
      exact ⟨_, .crash named trace rest, by simp [log, logHere]⟩

/-- The commands that a body has run leave a trace. -/
theorem Traced.steps (traced : context.Traced depth) {task : Task} {function : Text} {k : Nat}
    {m m' : Machine}
    (steps : Machine.Steps task (steering (context.carryOut (context.call depth)) function) k
      m s m' s') :
    ∃ n events, m'.commands = m.commands + n ∧
      context.CommandTrace (depth + 1) function n s events s' ∧
        s'.log.toList = s.log.toList ++ events := by
  induction steps with
  | refl m s => exact ⟨0, [], rfl, .none s, by simp⟩
  | head move _ ih =>
      obtain ⟨n, later, count, rest, log⟩ := ih
      cases move with
      | jump _ poll step =>
          obtain ⟨-, rfl⟩ := Prod.mk.inj poll
          rw [Machine.commands_of_next step] at count
          exact ⟨n, later, count, rest, log⟩
      | command _ poll _ answer =>
          obtain ⟨-, rfl⟩ := Prod.mk.inj poll
          obtain ⟨events, trace, whole⟩ := traced.cons answer rest log
          exact ⟨n + 1, events, by rw [count]; simp only [Machine.answer]; omega, trace, whole⟩

/-- Every call leaves a trace. -/
theorem traced (context : CallContext η) (depth : Nat) : context.Traced depth := by
  induction depth with
  | zero =>
      intro line s result s' ended
      obtain ⟨n, u, ⟨rfl, rfl⟩ | ⟨_, _, _, _, impossible, -⟩, closes, counts⟩ :=
        invoke_closes (show context.invoke none line s = some (result, s') from ended)
      · obtain ⟨first, opens, extra⟩ := exists_extra (Invocation.ofLine line) s
        exact ⟨_, .call ended opens extra (.none _) closes counts,
          by simp [closes.log, opens.log]⟩
      · contradiction
  | succ depth ih =>
      intro line s result s' ended
      obtain ⟨first, opens, extra⟩ := exists_extra (Invocation.ofLine line) s
      obtain ⟨n, u, inside, closes, counts⟩ :=
        invoke_closes (show context.invoke (some (context.carryOut (context.call depth))) line s =
          some (result, s') from ended)
      have commands : ∃ inner, context.CommandTrace (depth + 1) (context.calledFunction line) n
          (tellExtra (Invocation.ofLine line) s) inner u ∧
            u.log.toList = (tellExtra (Invocation.ofLine line) s).log.toList ++ inner := by
        rcases inside with ⟨rfl, rfl⟩ | ⟨_, task, k, m, ⟨⟩, rfl, steps⟩
        · exact ⟨[], .none _, by simp⟩
        · obtain ⟨n, inner, count, trace, log⟩ := Traced.steps ih steps
          rw [show m.commands = n by simpa using count]
          exact ⟨inner, trace, log⟩
      obtain ⟨inner, trace, log⟩ := commands
      exact ⟨_, .call ended opens extra trace closes counts,
        by simp [closes.log, log, opens.log]⟩

/-- A call leaves a trace, and the trace is all that the call adds to the log. On every level, each
call that returns a result tells so once, behind everything that its commands lead to, and counts the
commands that it has told of itself. An editor is handed, in their order and as they are, the
commands told of on all levels whose words it alone knows. -/
theorem call_leaves_trace (ended : context.call depth line s = some (result, s')) :
    ∃ events, context.CallTrace depth line s events result s' ∧
      s'.log.toList = s.log.toList ++ events ∧
        (context.host?.isSome → ∀ heard,
          context.listening.call depth line (s.beside heard) =
            some (result, s'.beside (heard ++ events.filterMap Event.heard?))) := by
  obtain ⟨events, trace, log⟩ := traced context depth line s result s' ended
  exact ⟨events, trace, log, fun editor => listening_call editor ended log⟩

end CallContext

namespace Session

/-- A session with a function that calls another one with too few words, and that hands the editor a
command which crashes. -/
def talking : Session Unit :=
  let text := "function:a\x7b\n<b 1\nx\n\x7d\nfunction:b\x7b\ny ~1\nz ~2\n\x7d\n"
  let host : Host Unit := fun line _ => ⟨if line = ['x'] then none else some true, false, ()⟩
  ((Session.start {} {} {} (some host) ()).loadText text.toList "<text>".toList).2

theorem call_leaves_trace_talking :
    ∃ result s', talking.context.call 2 ['a'] talking.runState = some (result, s') ∧
      talking.context.host?.isSome ∧
      ∃ events, talking.context.CallTrace 2 ['a'] talking.runState events result s' ∧
        s'.log.toList = talking.runState.log.toList ++ events ∧
          ∀ heard, talking.context.listening.call 2 ['a'] (talking.runState.beside heard) =
            some (result, s'.beside (heard ++ events.filterMap Event.heard?)) := by
  have ends : (talking.context.call 2 ['a'] talking.runState).isSome := by decide +kernel
  obtain ⟨⟨result, s'⟩, ended⟩ := Option.isSome_iff_exists.1 ends
  have editor : talking.context.host?.isSome := by decide +kernel
  obtain ⟨events, trace, log, heard⟩ := CallContext.call_leaves_trace ended
  exact ⟨result, s', ended, editor, events, trace, log, heard editor⟩

example : (talking.call ['a']).map (fun (_, after) => after.log.toList.drop 1) =
    some [.command ['a'] "<b 1".toList, .command ['b'] "y 1".toList,
      .failed ['b'] ⟨.noArgument 2, some ['b']⟩, .command ['a'] ['x'], .crashedCommand ['x'],
      .finished ['a'] false 2] := by decide +kernel

end Session

end Ebrc
