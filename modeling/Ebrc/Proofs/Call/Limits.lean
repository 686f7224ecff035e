import Ebrc.Proofs.Call.Brackets

/-!
# Limits only stop

How often blocks may repeat and how deep calls may lie in one another decides nothing but whether a
function fails for that reason. Where none fails for it, on any level of a call, looser limits
change nothing about the call: each line does the same, and so does each command. To its caller, a
function that fails because of a limit is a command that has failed, so a single one is enough to
make everything behind it different.
-/

namespace Ebrc

/-- Is it a limit that makes the function fail? -/
def FunctionFault.isLimit : FunctionFault → Bool
  | .tooManyRepetitions _ | .tooDeep => true
  | _ => false

/-- Is it told that a function fails because of a limit? -/
def Event.isLimit : Event → Bool
  | .failed _ error => error.fault.isLimit
  | _ => false

/-- A limit on repetitions is no tighter than another one. No limit is the loosest. -/
def Looser (limit limit' : Nat) : Prop := limit' = 0 ∨ limit ≠ 0 ∧ limit ≤ limit'

namespace Machine

variable {task : Task} {m m' : Machine} {limit : Nat}

/-- Under a looser limit a block that ends does the same, unless it is stopped by the limit. -/
theorem closeBlock_of_looser (looser : Looser task.limit limit) (m : Machine) :
    m.closeBlock { task with limit } = m.closeBlock task ∨
      m.closeBlock task = .stop (.failed (.tooManyRepetitions task.limit)) := by
  have within (within : ¬(task.limit ≠ 0 ∧ task.limit < m.repetitions + 1)) :
      ¬(limit ≠ 0 ∧ limit < m.repetitions + 1) := by
    unfold Looser at looser
    omega
  unfold closeBlock
  cases m.frames with
  | nil => exact .inl rfl
  | cons frame frames =>
      obtain ⟨block, left⟩ := frame
      cases block with
      | loop n => exact .inl rfl
      | branch onOk => exact .inl rfl
      | other letter => exact .inl rfl
      | whileBlock onOk | untilBlock onOk =>
          simp only [Block.repeatTest]
          split
          · by_cases stops : task.limit ≠ 0 ∧ task.limit < m.repetitions + 1
            · exact .inr (if_pos stops)
            · rw [if_neg stops, if_neg (within stops)]
              exact .inl rfl
          · exact .inl rfl

/-- Under a looser limit a line does the same, unless it is stopped by the limit. -/
theorem step_of_looser (looser : Looser task.limit limit) (m : Machine) :
    m.step { task with limit } = m.step task ∨
      m.step task = .stop (.failed (.tooManyRepetitions task.limit)) := by
  unfold step
  cases task.code[m.position]? with
  | none => exact .inl rfl
  | some i =>
      cases i with
      | closing => exact closeBlock_of_looser looser m
      | _ => exact .inl rfl

/-- Does the next line repeat a block because of the test at its end? -/
def repeats (task : Task) (m : Machine) : Bool :=
  task.code[m.position]? = some .closing &&
    m.frames.head?.any fun frame => frame.block.repeatTest = some m.ok

/-- A loop has no test at its end. -/
theorem not_repeats_of_loop {frame : Frame} {n : Int} (innermost : m.frames.head? = some frame)
    (loop : frame.block = .loop n) : ¬m.repeats task := by
  simp [repeats, innermost, loop, Block.repeatTest]

/-- Each repetition because of a test counts once, and nothing else does. -/
theorem repetitions_of_next (stepped : m.step task = .next m') :
    m'.repetitions = m.repetitions + if m.repeats task then 1 else 0 := by
  unfold step at stepped
  unfold repeats
  cases here : task.code[m.position]? with
  | none => simp [here] at stepped
  | some i =>
      rw [here] at stepped
      cases i with
      | literal template => grind
      | between => grind [leaveBranch]
      | opening block => grind [openBlock, skip, advance]
      | closing =>
          unfold closeBlock repeatBlock at stepped
          cases frames : m.frames with
          | nil => simp [frames] at stepped
          | cons frame outer =>
              cases block : frame.block with
              | loop n => grind [Block.repeatTest, advance]
              | _ => grind [Block.repeatTest, advance]

/-- A line counts as a repetition if it repeats a block because of a test. -/
theorem repetitions_of_moves {σ : Type} {steering : Steering σ} {s s' : σ}
    (move : Moves task steering m s m' s') :
    m'.repetitions = m.repetitions + if m.repeats task then 1 else 0 := by
  cases move with
  | jump _ _ step => exact repetitions_of_next step
  | command _ _ step _ =>
      have literal : ¬m.repeats task := by
        unfold repeats
        intro closes
        unfold Machine.step closeBlock repeatBlock at step
        grind
      simp [answer, literal]

end Machine

variable {η : Type}

/-- The log goes on from one state to another, and tells of no function that fails because of a
limit. -/
def RunState.Unlimited (s s' : RunState η) : Prop :=
  ∃ events, s'.log.toList = s.log.toList ++ events ∧ ∀ event ∈ events, ¬event.isLimit

theorem RunState.unlimited_iff {s s' : RunState η} :
    s.Unlimited s' ↔ s.log.toList <+: s'.log.toList ∧
      ∀ event ∈ s'.log.toList.drop s.log.toList.length, ¬event.isLimit := by
  constructor
  · rintro ⟨events, log, free⟩
    rw [log, List.drop_left]
    exact ⟨List.prefix_append .., free⟩
  · rintro ⟨⟨events, log⟩, free⟩
    rw [← log, List.drop_left] at free
    exact ⟨events, log.symm, free⟩

instance {s s' : RunState η} : Decidable (s.Unlimited s') :=
  decidable_of_iff' _ RunState.unlimited_iff

theorem RunState.Unlimited.split {s s₁ s' : RunState η} {first second : List Event}
    (unlimited : s.Unlimited s') (early : s₁.log.toList = s.log.toList ++ first)
    (late : s'.log.toList = s₁.log.toList ++ second) : s.Unlimited s₁ ∧ s₁.Unlimited s' := by
  obtain ⟨events, log, free⟩ := unlimited
  have same : events = first ++ second := by
    rw [late, early, List.append_assoc] at log
    exact (List.append_cancel_left log).symm
  subst same
  exact ⟨⟨first, early, fun event among => free event (List.mem_append_left _ among)⟩,
    ⟨second, late, fun event among => free event (List.mem_append_right _ among)⟩⟩

namespace CallContext

open RunState

variable {context : CallContext η} {depth more limit : Nat} {line : Text}
variable {s s' : RunState η} {result : Except Crash CallResult}

/-- A call may stand in for another one in a command, if it does the same where no limit makes a
function fail. -/
theorem carryOut_of_unlimited {call : Text → RunState η → CallOutcome η}
    (calls : ∀ {line s result s'}, context.call depth line s = some (result, s') →
      s.Unlimited s' → call line s = some (result, s'))
    {ok : Bool} (carried : context.carryOut (context.call depth) line s = some (ok, s'))
    (unlimited : s.Unlimited s') : context.carryOut call line s = some (ok, s') := by
  unfold carryOut at carried ⊢
  cases named : Command.ofLine? line with
  | none =>
      rw [named] at carried
      exact carried
  | some command =>
      rw [named] at carried
      cases command with
      | call invocation =>
          obtain ⟨⟨result, s₁⟩, called, after⟩ := Option.map_eq_some_iff.1 carried
          obtain ⟨told, -, log⟩ := traced context depth _ _ _ _ called
          cases result with
          | ok r =>
              cases after
              simp only [calls called unlimited, Option.map_some]
          | error crash =>
              cases after
              have early := (unlimited.split log (toList_log_tell ..)).1
              simp only [calls called early, Option.map_some]
      | _ => exact carried

/-- Lines do the same under looser limits where no limit makes a function fail. -/
theorem steps_of_unlimited {task : Task} (looser : Looser task.limit limit)
    {evaluate : Evaluator η}
    (evaluates : ∀ {line s ok s'}, context.carryOut (context.call depth) line s = some (ok, s') →
      s.Unlimited s' → evaluate line s = some (ok, s'))
    {name : Text} {n : Nat} {m m' : Machine}
    (steps : Machine.Steps task (steering (context.carryOut (context.call depth)) name) n
      m s m' s') (unlimited : s.Unlimited s') :
    Machine.Steps { task with limit } (steering evaluate name) n m s m' s' := by
  induction steps with
  | refl m s => exact .refl m s
  | @head n m m₁ m' s s₁ s' move rest ih =>
      obtain ⟨-, first, -, -, early⟩ := (traced context depth).steps (.single move)
      obtain ⟨-, second, -, -, late⟩ := (traced context depth).steps rest
      obtain ⟨here, later⟩ := unlimited.split early late
      refine .head ?_ (ih later)
      cases move with
      | jump position poll step =>
          rcases Machine.step_of_looser looser m with same | stops
          · exact .jump position poll (same.trans step)
          · rw [stops] at step
            contradiction
      | command position poll step answer =>
          obtain ⟨-, rfl⟩ := Prod.mk.inj poll
          rcases Machine.step_of_looser looser m with same | stops
          · obtain ⟨told, carried⟩ := exists_carryOut
              (fun called => (traced context depth _ _ _ _ called).imp fun _ => And.right) answer
            have inside := (here.split (toList_log_tell ..) carried).2
            exact .command position poll (same.trans step) (evaluates answer inside)
          · rw [stops] at step
            contradiction

/-- A body stops in the same way under a looser limit, unless it is stopped by the limit. -/
theorem stops_of_looser {task : Task} (looser : Looser task.limit limit)
    {evaluate : Evaluator η} (evaluate' : Evaluator η) {name : Text} {m : Machine} {ending : Ending}
    (stop : Machine.Stops task (steering evaluate name) m s ending s') :
    Machine.Stops { task with limit } (steering evaluate' name) m s ending s' ∨
      ending = .failed (.tooManyRepetitions task.limit) := by
  cases stop with
  | finished past => exact .inl (.finished past)
  | interrupted position poll => exact .inl (.interrupted position poll)
  | stopped position poll step =>
      rcases Machine.step_of_looser looser m with same | stops
      · exact .inl (.stopped position poll (same.trans step))
      · cases stops.symm.trans step
        exact .inr rfl

/-- A function does the same under looser limits where no limit makes a function fail. -/
theorem runBody_of_unlimited (looser : Looser context.repetitions limit)
    {evaluate : Evaluator η}
    (evaluates : ∀ {line s ok s'}, context.carryOut (context.call depth) line s = some (ok, s') →
      s.Unlimited s' → evaluate line s = some (ok, s'))
    {name : Text} {rule : Rule} {invocation : Invocation} {before : RunState η} {first : List Event}
    (ended : context.runBody (context.carryOut (context.call depth)) name rule invocation s =
      some (result, s')) (early : s.log.toList = before.log.toList ++ first)
    (unlimited : before.Unlimited s') :
    CallContext.runBody { context with repetitions := limit } evaluate name rule invocation s =
      some (result, s') := by
  unfold runBody at ended ⊢
  cases body : rule.body.elim (.error .noFunction) Body.program with
  | error crash => simpa only [body] using ended
  | ok code =>
      simp only [body, Option.map_eq_some_iff] at ended ⊢
      obtain ⟨⟨m, ending, u⟩, ran, concluded⟩ := ended
      obtain ⟨k, u', patient, steps, stop⟩ := Machine.run_eq_some_iff.1 ran
      cases stops_steering stop
      obtain ⟨-, inner, -, -, log⟩ := (traced context depth).steps steps
      have closes := (conclude_closes concluded).1
      have here := (unlimited.split early (by rw [closes.log, log, List.append_assoc])).2
      obtain ⟨inside, last⟩ := here.split log closes.log
      rcases stops_of_looser looser evaluate stop with same | rfl
      · have again := steps_of_unlimited looser evaluates steps inside
        exact ⟨_, Machine.run_eq_some_iff.2 ⟨k, u, patient, again, same⟩, concluded⟩
      · cases concluded
        obtain ⟨events, told, free⟩ := last
        rw [toList_log_tell] at told
        cases List.append_cancel_left told
        exact absurd rfl (free _ (List.mem_cons_self ..))

/-- A call that finds no function, or calls lie too deep already, depends on no limit. -/
theorem invoke_of_unlimited {evaluate? evaluate?' : Option (Evaluator η)}
    (ended : context.invoke evaluate? line s = some (result, s')) (unlimited : s.Unlimited s')
    (bodies : ∀ evaluate ∈ evaluate?, ∃ evaluate', evaluate?' = some evaluate' ∧
      ∀ name rule, context.runBody evaluate name rule (Invocation.ofLine line)
          (tellExtra (Invocation.ofLine line) s) = some (result, s') →
        CallContext.runBody { context with repetitions := limit } evaluate' name rule
          (Invocation.ofLine line) (tellExtra (Invocation.ofLine line) s) = some (result, s')) :
    CallContext.invoke { context with repetitions := limit } evaluate?' line s =
      some (result, s') := by
  unfold invoke at ended ⊢
  cases resolved : context.rules.resolve (Invocation.ofLine line).name with
  | crashed crash => simpa only [resolved] using ended
  | refused error => simpa only [resolved] using ended
  | found rule =>
      simp only [resolved] at ended ⊢
      cases evaluate? with
      | none =>
          cases ended
          obtain ⟨first, extra, -⟩ := exists_extra (Invocation.ofLine line) s
          obtain ⟨events, told, free⟩ := (unlimited.split extra.log (toList_log_tell ..)).2
          rw [toList_log_tell] at told
          cases List.append_cancel_left told
          exact absurd rfl (free _ (List.mem_cons_self ..))
      | some evaluate =>
          obtain ⟨evaluate', rfl, same⟩ := bodies evaluate rfl
          exact same _ rule ended

/-- A call is the same under looser limits where no limit makes a function fail. -/
theorem call_of_unlimited (looser : Looser context.repetitions limit) (deeper : depth ≤ more)
    (ended : context.call depth line s = some (result, s')) (unlimited : s.Unlimited s') :
    CallContext.call { context with repetitions := limit } more line s = some (result, s') := by
  induction depth generalizing more line s s' result with
  | zero =>
      have refused : context.invoke none line s = some (result, s') := ended
      cases more with
      | zero => exact invoke_of_unlimited refused unlimited (by simp)
      | succ more => exact invoke_of_unlimited refused unlimited (by simp)
  | succ depth ih =>
      obtain ⟨more, rfl⟩ := Nat.exists_eq_add_of_le' (Nat.le_trans (Nat.succ_pos depth) deeper)
      obtain ⟨first, extra, -⟩ := exists_extra (Invocation.ofLine line) s
      have evaluates {line : Text} {s s' : RunState η} {ok : Bool}
          (carried : context.carryOut (context.call depth) line s = some (ok, s'))
          (unlimited : s.Unlimited s') :=
        carryOut_of_unlimited (ih (show depth ≤ more by omega)) carried unlimited
      refine invoke_of_unlimited ended unlimited ?_
      rintro _ ⟨⟩
      exact ⟨_, rfl, fun name rule ended =>
        runBody_of_unlimited looser evaluates ended extra.log unlimited⟩

/-- Where no function fails because of a limit, on any level of a call, looser limits change
nothing: the call returns or crashes with the same, the log, the settings and the editor are the same
after it, and the editor has been handed the same lines. A line that ends a turn of a counted loop
does not count as a repetition, whatever runs the function. -/
theorem limits_only_stop (looser : Looser context.repetitions limit) (deeper : depth ≤ more)
    (ended : context.call depth line s = some (result, s')) (unlimited : s.Unlimited s') :
    CallContext.call { context with repetitions := limit } more line s = some (result, s') ∧
      (context.host?.isSome → ∃ lines, ∀ heard,
        context.listening.call depth line (s.beside heard) =
            some (result, s'.beside (heard ++ lines)) ∧
          CallContext.call { context.listening with repetitions := limit } more line
            (s.beside heard) = some (result, s'.beside (heard ++ lines))) ∧
      ∀ (task : Task) (evaluate : Evaluator η) (name : Text) (m m' : Machine) (t t' : RunState η),
        Machine.Moves task (steering evaluate name) m t m' t' →
          (∃ frame n, m.frames.head? = some frame ∧ frame.block = .loop n) →
            m'.repetitions = m.repetitions := by
  have same := call_of_unlimited looser deeper ended unlimited
  obtain ⟨events, log, -⟩ := unlimited
  refine ⟨same, fun editor => ⟨events.filterMap Event.heard?, fun heard => ⟨?_, ?_⟩⟩, ?_⟩
  · exact listening_call editor ended log heard
  · have editor' : ({ context with repetitions := limit } : CallContext η).host?.isSome := editor
    exact listening_call editor' same log heard
  · rintro task evaluate name m m' t t' move ⟨frame, n, innermost, loop⟩
    rw [Machine.repetitions_of_moves move, if_neg (Machine.not_repeats_of_loop innermost loop)]
    rfl

end CallContext

namespace Session

/-- A session with a function that repeats a block for as long as the editor takes a command, and
calls another one each time. Two repetitions are all that is allowed. -/
def repeating : Session Int :=
  let text := "function:a\x7b\nwhile(*)\x7b\n<b\nx\n\x7d\n\x7d\n" ++
    "function:b\x7b\nloop(2)\x7b\ny\n\x7d\n\x7d\n"
  let host : Host Int := fun line n =>
    if line = ['x'] then ⟨some (n < 2), false, n + 1⟩ else ⟨some true, false, n⟩
  let config : AppConfig := { safety := { repetitions := 2 } }
  ((Session.start config {} {} (some host) 0).loadText text.toList "<text>".toList).2

theorem limits_only_stop_repeating :
    ∃ result s', Looser repeating.context.repetitions 0 ∧ 2 ≤ 3 ∧
      repeating.context.call 2 ['a'] repeating.runState = some (result, s') ∧
      repeating.runState.Unlimited s' ∧
      CallContext.call { repeating.context with repetitions := 0 } 3 ['a'] repeating.runState =
          some (result, s') ∧
        (repeating.context.host?.isSome → ∃ lines, ∀ heard,
          repeating.context.listening.call 2 ['a'] (repeating.runState.beside heard) =
              some (result, s'.beside (heard ++ lines)) ∧
            CallContext.call { repeating.context.listening with repetitions := 0 } 3 ['a']
              (repeating.runState.beside heard) = some (result, s'.beside (heard ++ lines))) := by
  have ends : (repeating.context.call 2 ['a'] repeating.runState).any fun outcome =>
      repeating.runState.Unlimited outcome.2 := by decide +kernel
  obtain ⟨⟨result, s'⟩, ended, free⟩ := (Option.any_eq_true ..).1 ends
  have looser : Looser repeating.context.repetitions 0 := .inl rfl
  have unlimited := of_decide_eq_true free
  obtain ⟨same, lines, -⟩ := CallContext.limits_only_stop looser (Nat.le_succ 2) ended unlimited
  exact ⟨result, s', looser, Nat.le_succ 2, ended, unlimited, same, lines⟩

example : (repeating.context.call 2 ['a'] { repeating.runState with host := -1 }).map
    (fun (result, _) => result.toOption.map CallResult.verdict) =
      some (some (.failed ⟨.tooManyRepetitions 2, some ['a']⟩)) := by decide +kernel

end Session

end Ebrc
