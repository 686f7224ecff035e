import Ebrc.Proofs.Machine.Nesting

/-!
# The machine stops

In a nested program, with a limit on repetitions, the machine stops within a number of lines that
does not depend on how its commands are answered. Going forward it runs out of lines, a loop runs
out of rounds, and blocks that test at their end run out of repetitions. A block is entered again
and again when it stands in another one that repeats, so what happens inside a block is only
compared with what happens after it at the same place: the machine comes out of a block behind the
line at which it went in.
-/

namespace Ebrc

namespace Machine

variable {task : Task} {m m' : Machine} {missing : Nat}

/-- However its commands are answered, the machine stops within a number of lines. -/
inductive StopsWithin (task : Task) : Nat → Machine → Prop where
  | stop {n : Nat} {m : Machine} {ending : Ending} (step : m.step task = .stop ending) :
      StopsWithin task (n + 1) m
  | next {n : Nat} {m m' : Machine} (step : m.step task = .next m')
      (stops : StopsWithin task n m') : StopsWithin task (n + 1) m
  | command {n : Nat} {m : Machine} {line : Text} (step : m.step task = .command line)
      (stops : ∀ ok, StopsWithin task n (m.answer task ok)) : StopsWithin task (n + 1) m

theorem StopsWithin.mono {n more : Nat} (stops : StopsWithin task n m) (le : n ≤ more) :
    StopsWithin task more m := by
  induction stops generalizing more with
  | stop step =>
      obtain ⟨more, rfl⟩ := Nat.exists_eq_add_one_of_ne_zero (Nat.ne_zero_of_lt le)
      exact .stop step
  | next step _ ih =>
      obtain ⟨more, rfl⟩ := Nat.exists_eq_add_one_of_ne_zero (Nat.ne_zero_of_lt le)
      exact .next step (ih (Nat.le_of_succ_le_succ le))
  | command step _ ih =>
      obtain ⟨more, rfl⟩ := Nat.exists_eq_add_one_of_ne_zero (Nat.ne_zero_of_lt le)
      exact .command step fun ok => ih ok (Nat.le_of_succ_le_succ le)

/-- Where every command is answered, a run has an outcome within the lines in which the machine
stops. It may be another task in which the machine stops, if the run does not tell the two apart. -/
theorem StopsWithin.exists_run {σ : Type} {steering : Steering σ} {task' : Task} {n : Nat} {s : σ}
    (stops : StopsWithin task' n m) (mindful : task'.mindful = task.mindful)
    (alike : ∀ {k m' s'}, Steps task steering k m s m' s' → m'.step task' = m'.step task)
    (answers : ∀ line s, ∃ answer, steering.carryOut line s = some answer) :
    ∃ outcome, run task steering n m s = some outcome := by
  induction stops generalizing s with
  | @stop n m ending step =>
      rw [alike (.refl m s)] at step
      by_cases inside : m.position < task.code.length
      · cases polled : steering.interrupted s with
        | mk stopped s₁ =>
            cases stopped with
            | true => exact ⟨_, run_of_stops n (.interrupted inside polled)⟩
            | false => exact ⟨_, run_of_stops n (.stopped inside polled step)⟩
      · exact ⟨_, run_of_stops n (.finished (Nat.not_lt.1 inside))⟩
  | @next n m m' step stops ih =>
      rw [alike (.refl m s)] at step
      by_cases inside : m.position < task.code.length
      · cases polled : steering.interrupted s with
        | mk stopped s₁ =>
            cases stopped with
            | true => exact ⟨_, run_of_stops n (.interrupted inside polled)⟩
            | false =>
                have move : Moves task steering m s m' s₁ := .jump inside polled step
                rw [run_of_moves n move]
                exact ih fun steps => alike (.head move steps)
      · exact ⟨_, run_of_stops n (.finished (Nat.not_lt.1 inside))⟩
  | @command n m line step stops ih =>
      rw [alike (.refl m s)] at step
      by_cases inside : m.position < task.code.length
      · cases polled : steering.interrupted s with
        | mk stopped s₁ =>
            cases stopped with
            | true => exact ⟨_, run_of_stops n (.interrupted inside polled)⟩
            | false =>
                obtain ⟨⟨ok, s₂⟩, answered⟩ := answers line s₁
                have move : Moves task steering m s (m.answer task ok) s₂ :=
                  .command inside polled step answered
                have same : m.answer task' ok = m.answer task ok := by
                  simp only [answer, softAfter, mindful]
                rw [run_of_moves n move, ← same]
                exact ih ok fun steps => alike (.head move (same ▸ steps))
      · exact ⟨_, run_of_stops n (.finished (Nat.not_lt.1 inside))⟩

/-- The machine stops if it does so after every line that it can go on to. -/
theorem exists_stopsWithin_of_turns (nested : task.code.Nested)
    (lacks : m.Lacks task.code missing)
    (after : ∀ m' more, m.position < task.code.length → Turn task m m' → missing ≤ more →
      m'.Lacks task.code more → ∃ n, StopsWithin task n m') :
    ∃ n, StopsWithin task n m := by
  have outcome := outcome_step nested lacks
  by_cases inside : m.position < task.code.length
  · cases step : m.step task with
    | stop ending => exact ⟨1, .stop step⟩
    | next m' =>
        rw [step] at outcome
        obtain ⟨n, stops⟩ : ∃ n, StopsWithin task n m' := by
          cases outcome with
          | next turn lacks _ => exact after m' missing inside turn (Nat.le_refl _) lacks
          | astray turn lacks _ => exact after m' (missing + 1) inside turn (Nat.le_succ _) lacks
        exact ⟨n + 1, .next step stops⟩
    | command line =>
        rw [step] at outcome
        cases outcome with
        | command _ here =>
            obtain ⟨template, line⟩ := here
            have answered (ok : Bool) : ∃ n, StopsWithin task n (m.answer task ok) := by
              obtain ⟨turn, lacks⟩ := turn_answer lacks line ok
              exact after _ missing inside turn (Nat.le_refl _) lacks
            obtain ⟨n, stops⟩ := answered true
            obtain ⟨k, stops'⟩ := answered false
            refine ⟨max n k + 1, .command step fun ok => ?_⟩
            cases ok with
            | true => exact stops.mono (Nat.le_max_left n k)
            | false => exact stops'.mono (Nat.le_max_right n k)
  · have step : m.step task = .stop (.finished (m.softAfter task)) := by
      unfold step
      rw [List.getElem?_eq_none (Nat.not_lt.1 inside)]
    exact ⟨1, .stop step⟩

/-- Four numbers that decrease as a whole: an earlier one counts more than a later one. -/
theorem lex_of_lt {a b c d a' b' c' d' : Nat} (le : a' ≤ a)
    (less : a' < a ∨ b' < b ∨ (b' = b ∧ (c' < c ∨ (c' = c ∧ d' < d)))) :
    Prod.Lex (· < ·) (Prod.Lex (· < ·) (Prod.Lex (· < ·) (· < ·))) (a', b', c', d')
      (a, b, c, d) := by
  rcases Nat.lt_or_eq_of_le le with first | rfl
  · exact .left _ _ first
  · rcases less with first | second | ⟨rfl, third | ⟨rfl, fourth⟩⟩
    · exact .left _ _ first
    · exact .right _ (.left _ _ second)
    · exact .right _ (.right _ (.left _ _ third))
    · exact .right _ (.right _ (.right _ fourth))

/-- The machine stops inside a block that it has entered at a position, if it stops wherever it
comes out of the block behind this position. -/
theorem exists_stopsWithin_inside (nested : task.code.Nested) (limited : task.limit ≠ 0)
    {position short : Nat} {rest : List Frame}
    (entered : task.code.depth? position = some (rest.length + short))
    (frame : Frame) (m : Machine) (missing : Nat) (lacks : m.Lacks task.code missing)
    (enough : short ≤ missing) (here : m.frames = frame :: rest) (later : position < m.position)
    (outside : ∀ m' more, m'.Lacks task.code more → short ≤ more → m'.frames = rest →
      position < m'.position → m.repetitions ≤ m'.repetitions → ∃ n, StopsWithin task n m') :
    ∃ n, StopsWithin task n m := by
  apply exists_stopsWithin_of_turns nested lacks
  intro m' more inside turn grown lacks'
  have shallow : rest.length + short < m.frames.length + missing := by
    rw [here, List.length_cons]
    omega
  cases turn with
  | onward frames further repetitions =>
      apply exists_stopsWithin_inside nested limited entered frame m' more lacks' (by omega)
        (by rw [frames, here]) (by omega)
      intro m'' more' lacks'' enough' frames' later' counted
      exact outside m'' more' lacks'' enough' frames' later' (by omega)
  | into frame' frames further repetitions =>
      have around : task.code.depth? m.position = some ((frame :: rest).length + missing) := by
        rw [← here]
        exact lacks
      apply exists_stopsWithin_inside nested limited around frame' m' more lacks' grown
        (by rw [frames, here]) further
      intro m'' more' lacks'' enough' frames' later' counted
      apply exists_stopsWithin_inside nested limited entered frame m'' more' lacks'' (by omega)
        frames' (by omega)
      intro m₃ more₃ lacks₃ enough₃ frames₃ later₃ counted₃
      exact outside m₃ more₃ lacks₃ enough₃ frames₃ later₃ (by omega)
  | out frame' frames further repetitions =>
      have left : m'.frames = rest := by
        rw [here] at frames
        exact (List.cons.inj frames).2.symm
      exact outside m' more lacks' (by omega) left (by omega) (by omega)
  | loops frame' rest' here' frames left back repetitions =>
      rw [here] at here'
      obtain ⟨rfl, rfl⟩ := List.cons.inj here'
      apply exists_stopsWithin_inside nested limited entered _ m' more lacks' (by omega) frames
        (back position later lacks entered shallow)
      intro m'' more' lacks'' enough' frames' later' counted
      exact outside m'' more' lacks'' enough' frames' later' (by omega)
  | repeats frame' rest' here' frames back repetitions within =>
      have stillWithin := within limited
      apply exists_stopsWithin_inside nested limited entered frame m' more lacks' (by omega)
        (by rw [frames, here]) (back position later lacks entered shallow)
      intro m'' more' lacks'' enough' frames' later' counted
      exact outside m'' more' lacks'' enough' frames' later' (by omega)
termination_by (task.limit - m.repetitions, task.code.length - position, frame.left.toNat,
  task.code.length - m.position)
decreasing_by
  all_goals
    apply lex_of_lt
    · omega
    · omega

/-- Outside of all blocks the machine stops. -/
theorem exists_stopsWithin_outside (nested : task.code.Nested) (limited : task.limit ≠ 0)
    (m : Machine) (missing : Nat) (lacks : m.Lacks task.code missing) (outside : m.frames = []) :
    ∃ n, StopsWithin task n m := by
  apply exists_stopsWithin_of_turns nested lacks
  intro m' more inside turn grown lacks'
  cases turn with
  | onward frames further repetitions =>
      exact exists_stopsWithin_outside nested limited m' more lacks' (by rw [frames, outside])
  | into frame frames further repetitions =>
      have around : task.code.depth? m.position = some (([] : List Frame).length + missing) := by
        rw [← outside]
        exact lacks
      rw [outside] at frames
      apply exists_stopsWithin_inside nested limited around frame m' more lacks' grown frames
        further
      intro m'' more' lacks'' enough'' frames'' later counted
      exact exists_stopsWithin_outside nested limited m'' more' lacks'' frames''
  | out frame frames further repetitions =>
      rw [outside] at frames
      contradiction
  | loops frame rest here frames left back repetitions =>
      rw [outside] at here
      contradiction
  | repeats frame rest here frames back repetitions within =>
      rw [outside] at here
      contradiction
termination_by task.code.length - m.position

/-- The run of a nested program with a limit on repetitions stops within a number of lines. -/
theorem exists_stopsWithin_start (nested : task.code.Nested) (limited : task.limit ≠ 0) :
    ∃ n, StopsWithin task n {} :=
  exists_stopsWithin_outside nested limited {} 0 (lacks_start _) rfl

/-! ## Runs without a limit -/

/-- A limit that is not reached yet changes nothing about a line. -/
theorem step_limited {limit : Nat} (unlimited : task.limit = 0) (short : m.repetitions < limit) :
    m.step { task with limit } = m.step task := by
  have closes : m.closeBlock { task with limit } = m.closeBlock task := by
    unfold closeBlock
    have within : ¬(limit ≠ 0 ∧ limit < m.repetitions + 1) := by omega
    have free : ¬(task.limit ≠ 0 ∧ task.limit < m.repetitions + 1) := by omega
    simp only [if_neg within, if_neg free]
  unfold step
  simp only [closes, softAfter]

/-- The run of a nested program whose commands are all answered has an outcome, unless there is no
limit and its blocks repeat without end. -/
theorem exists_run_or_repeats {σ : Type} {steering : Steering σ} (nested : task.code.Nested)
    (answers : ∀ line s, ∃ answer, steering.carryOut line s = some answer) (s : σ) :
    (∃ n, ∀ fuel ≥ n, ∃ outcome, run task steering fuel {} s = some outcome) ∨
      task.limit = 0 ∧ ∀ k, ∃ n m s', Steps task steering n {} s m s' ∧ k ≤ m.repetitions := by
  by_cases limited : task.limit = 0
  · by_cases repeats : ∀ k, ∃ n m s', Steps task steering n {} s m s' ∧ k ≤ m.repetitions
    · exact .inr ⟨limited, repeats⟩
    · -- The run is that with a limit which it does not reach.
      obtain ⟨limit, bounded⟩ := Classical.not_forall.1 repeats
      have short {n : Nat} {m : Machine} {s' : σ} (steps : Steps task steering n {} s m s') :
          m.repetitions < limit := by
        refine Nat.lt_of_not_le fun reached => bounded ?_
        exact ⟨n, m, s', steps, reached⟩
      have positive : limit ≠ 0 := Nat.ne_zero_of_lt (short (.refl {} s))
      have stops : ∃ n, StopsWithin { task with limit } n {} :=
        exists_stopsWithin_start nested positive
      obtain ⟨n, stops⟩ := stops
      refine .inl ⟨n, fun fuel enough => ?_⟩
      exact (stops.mono enough).exists_run rfl
        (fun steps => step_limited limited (short steps)) answers
  · obtain ⟨n, stops⟩ := exists_stopsWithin_start nested limited
    refine .inl ⟨n, fun fuel enough => ?_⟩
    exact (stops.mono enough).exists_run rfl (fun _ => rfl) answers

end Machine

end Ebrc
