import Ebrc.Machine

/-!
# Runs, line by line

A run is bounded by a number of lines, which says nothing about the function that is run. This
module takes a run apart into single lines: at each of them the machine moves on or stops. Moving
and stopping are determined by the line and by who steers, and a run that ends is a chain of moves
and a stop, whatever its bound.
-/

namespace Ebrc

namespace Machine

variable {σ : Type} {task : Task} {steering : Steering σ}
variable {m m' m₁ : Machine} {s s' s₁ : σ}

/-- One line leads from a machine to the next one. -/
inductive Moves (task : Task) (steering : Steering σ) : Machine → σ → Machine → σ → Prop where
  | jump {m next : Machine} {s s' : σ} :
      m.position < task.code.length → steering.interrupted s = (false, s') →
      m.step task = .next next → Moves task steering m s next s'
  | command {m : Machine} {s s₁ s' : σ} {line : Text} {ok : Bool} :
      m.position < task.code.length → steering.interrupted s = (false, s₁) →
      m.step task = .command line → steering.carryOut line s₁ = some (ok, s') →
      Moves task steering m s (m.answer task ok) s'

/-- The run ends where the machine stands. -/
inductive Stops (task : Task) (steering : Steering σ) : Machine → σ → Ending → σ → Prop where
  | finished {m : Machine} {s : σ} :
      task.code.length ≤ m.position →
      Stops task steering m s (.finished (m.softAfter task)) s
  | interrupted {m : Machine} {s s' : σ} :
      m.position < task.code.length → steering.interrupted s = (true, s') →
      Stops task steering m s (.failed .interrupted) s'
  | stopped {m : Machine} {s s' : σ} {ending : Ending} :
      m.position < task.code.length → steering.interrupted s = (false, s') →
      m.step task = .stop ending → Stops task steering m s ending s'

/-- A number of lines leads from a machine to a later one. -/
inductive Steps (task : Task) (steering : Steering σ) : Nat → Machine → σ → Machine → σ → Prop where
  | refl (m : Machine) (s : σ) : Steps task steering 0 m s m s
  | head {n : Nat} {m m₁ m' : Machine} {s s₁ s' : σ} :
      Moves task steering m s m₁ s₁ → Steps task steering n m₁ s₁ m' s' →
      Steps task steering (n + 1) m s m' s'

namespace Steps

theorem single (move : Moves task steering m s m' s') : Steps task steering 1 m s m' s' :=
  .head move (.refl m' s')

theorem trans {n k : Nat} (first : Steps task steering n m s m₁ s₁)
    (second : Steps task steering k m₁ s₁ m' s') :
    Steps task steering (n + k) m s m' s' := by
  induction first with
  | refl => simpa using second
  | head move _ ih =>
      rw [Nat.add_right_comm]
      exact .head move (ih second)

theorem snoc {n : Nat} (steps : Steps task steering n m s m₁ s₁)
    (move : Moves task steering m₁ s₁ m' s') : Steps task steering (n + 1) m s m' s' :=
  steps.trans (single move)

/-- What every line keeps, a chain of lines keeps. -/
theorem invariant (Holds : Machine → σ → Prop)
    (keeps : ∀ {m m' : Machine} {s s' : σ}, Moves task steering m s m' s' →
      Holds m s → Holds m' s')
    {n : Nat} (steps : Steps task steering n m s m' s') (start : Holds m s) : Holds m' s' := by
  induction steps with
  | refl => exact start
  | head move _ ih => exact ih (keeps move start)

end Steps

/-! ## Determinacy -/

theorem Moves.unique {m₂ : Machine} {s₂ : σ} (left : Moves task steering m s m₁ s₁)
    (right : Moves task steering m s m₂ s₂) : m₁ = m₂ ∧ s₁ = s₂ := by
  cases left <;> cases right <;> simp_all

theorem Moves.not_stops {ending : Ending} (move : Moves task steering m s m₁ s₁) :
    ¬Stops task steering m s ending s' := by
  intro stop
  cases move <;> cases stop <;> first | omega | simp_all

theorem Stops.unique {ending ending' : Ending} (left : Stops task steering m s ending s')
    (right : Stops task steering m s ending' s₁) : ending = ending' ∧ s' = s₁ := by
  cases left <;> cases right <;> first | omega | simp_all

/-! ## Runs as chains -/

theorem run_of_moves (fuel : Nat) (move : Moves task steering m s m' s') :
    run task steering (fuel + 1) m s = run task steering fuel m' s' := by
  cases move with
  | jump inside polled step => simp [run, inside, polled, step]
  | command inside polled step answered => simp [run, inside, polled, step, answered]

theorem run_of_stops {ending : Ending} (fuel : Nat) (stop : Stops task steering m s ending s') :
    run task steering (fuel + 1) m s = some (m, ending, s') := by
  cases stop with
  | finished past => simp [run, Nat.not_lt.2 past]
  | interrupted inside polled => simp [run, inside, polled]
  | stopped inside polled step => simp [run, inside, polled, step]

/-- A run that has been through some lines is the run from there on. Its bound may be used up by
then, and then it has no outcome. -/
theorem run_of_steps {n : Nat} (fuel : Nat) (steps : Steps task steering n m s m' s') :
    run task steering fuel m s = run task steering (fuel - n) m' s' := by
  induction steps generalizing fuel with
  | refl => rfl
  | head move _ ih =>
      cases fuel with
      | zero => simp only [Nat.zero_sub, run]
      | succ fuel =>
          rw [run_of_moves fuel move, ih fuel, Nat.add_sub_add_right]

/-- A run that ends is a chain of moves and a stop. -/
theorem run_eq_some_iff {fuel : Nat} {ending : Ending} :
    run task steering fuel m s = some (m', ending, s') ↔
      ∃ n s₁, n < fuel ∧ Steps task steering n m s m' s₁ ∧
        Stops task steering m' s₁ ending s' := by
  constructor
  · intro ran
    induction fuel generalizing m s with
    | zero => simp [run] at ran
    | succ fuel ih =>
        have further {m₁ : Machine} {s₁ : σ} (move : Moves task steering m s m₁ s₁) :
            ∃ n s₁, n < fuel + 1 ∧ Steps task steering n m s m' s₁ ∧
              Stops task steering m' s₁ ending s' := by
          rw [run_of_moves fuel move] at ran
          obtain ⟨n, s₂, bound, steps, stop⟩ := ih ran
          exact ⟨n + 1, s₂, Nat.succ_lt_succ bound, .head move steps, stop⟩
        have here {ending' : Ending} {s₁ : σ} (stop : Stops task steering m s ending' s₁) :
            ∃ n s₁, n < fuel + 1 ∧ Steps task steering n m s m' s₁ ∧
              Stops task steering m' s₁ ending s' := by
          rw [run_of_stops fuel stop] at ran
          cases ran
          exact ⟨0, s, Nat.succ_pos fuel, .refl _ s, stop⟩
        by_cases inside : m.position < task.code.length
        · cases polled : steering.interrupted s with
          | mk stopped s₁ =>
              cases stopped with
              | true => exact here (.interrupted inside polled)
              | false =>
                  cases step : m.step task with
                  | stop ending' => exact here (.stopped inside polled step)
                  | next next => exact further (.jump inside polled step)
                  | command line =>
                      cases answered : steering.carryOut line s₁ with
                      | none => simp [run, inside, polled, step, answered] at ran
                      | some answer =>
                          obtain ⟨ok, s₂⟩ := answer
                          exact further (.command inside polled step answered)
        · exact here (.finished (Nat.not_lt.1 inside))
  · rintro ⟨n, s₁, bound, steps, stop⟩
    rw [run_of_steps fuel steps]
    obtain ⟨rest, enough⟩ := Nat.exists_eq_add_of_lt bound
    have left : fuel - n = rest + 1 := by omega
    rw [left, run_of_stops rest stop]

/-- A larger bound changes nothing about a run that ends. -/
theorem run_mono {fuel more : Nat} {ending : Ending} (le : fuel ≤ more)
    (ran : run task steering fuel m s = some (m', ending, s')) :
    run task steering more m s = some (m', ending, s') := by
  obtain ⟨n, s₁, bound, steps, stop⟩ := run_eq_some_iff.1 ran
  exact run_eq_some_iff.2 ⟨n, s₁, Nat.lt_of_lt_of_le bound le, steps, stop⟩

/-- Two bounds under which a run ends give it the same end. -/
theorem run_unique {fuel fuel' : Nat} {m₂ : Machine} {s₂ : σ} {ending ending' : Ending}
    (left : run task steering fuel m s = some (m₁, ending, s₁))
    (right : run task steering fuel' m s = some (m₂, ending', s₂)) :
    m₁ = m₂ ∧ ending = ending' ∧ s₁ = s₂ := by
  have left_more := run_mono (Nat.le_max_left fuel fuel') left
  have right_more := run_mono (Nat.le_max_right fuel fuel') right
  rw [left_more] at right_more
  simpa using right_more

/-! ## Who steers -/

/-- What polling and every answered command keep, a run keeps. -/
theorem run_invariant (Holds : σ → Prop)
    (polled : ∀ s, Holds s → Holds (steering.interrupted s).2)
    (answered : ∀ {line s ok s'}, steering.carryOut line s = some (ok, s') → Holds s → Holds s')
    {fuel : Nat} {ending : Ending}
    (ran : run task steering fuel m s = some (m', ending, s')) (start : Holds s) : Holds s' := by
  have polls {s s₁ : σ} {stopped : Bool} (poll : steering.interrupted s = (stopped, s₁))
      (holds : Holds s) : Holds s₁ := by
    have kept := polled s holds
    rwa [poll] at kept
  obtain ⟨n, s₁, -, steps, stop⟩ := run_eq_some_iff.1 ran
  have moves {m m' : Machine} {s s' : σ} (move : Moves task steering m s m' s') (holds : Holds s) :
      Holds s' := by
    cases move with
    | jump _ poll _ => exact polls poll holds
    | command _ poll _ answer => exact answered answer (polls poll holds)
  have reached : Holds s₁ := steps.invariant (fun _ => Holds) moves start
  cases stop with
  | finished => exact reached
  | interrupted _ poll => exact polls poll reached
  | stopped _ poll _ => exact polls poll reached

/-- Two who steer alike, up to a view of the state of one of them, lead to the same run. -/
theorem run_view {τ : Type} {steering' : Steering τ} (view : σ → τ)
    (polled : ∀ s, steering'.interrupted (view s) =
      ((steering.interrupted s).1, view (steering.interrupted s).2))
    (answered : ∀ line s, steering'.carryOut line (view s) =
      (steering.carryOut line s).map fun (ok, s) => (ok, view s)) (fuel : Nat) :
    run task steering' fuel m (view s) =
      (run task steering fuel m s).map fun (m, ending, s) => (m, ending, view s) := by
  induction fuel generalizing m s with
  | zero => rfl
  | succ fuel ih =>
      unfold run
      by_cases inside : m.position < task.code.length
      · rw [if_pos inside, if_pos inside, polled s]
        cases steering.interrupted s with
        | mk stopped s₁ =>
            cases stopped with
            | true => rfl
            | false =>
                cases m.step task with
                | stop ending => rfl
                | next next => exact ih
                | command line =>
                    simp only [Bool.false_eq_true, if_false, answered line s₁]
                    cases steering.carryOut line s₁ with
                    | none => rfl
                    | some answer => exact ih
      · rw [if_neg inside, if_neg inside]
        rfl

end Machine

end Ebrc
