import Ebrc.Proofs.Script.Refinement

/-!
# Runs of scripts are runs of the machine

A body that is a script can be run in two ways: as a tree, and by the machine on its lines. Both
ways hand over the same commands in the same order, look at the interrupt flag equally often, and
come to the same end. The main statement also covers runs that never end, of which any number of
first lines is compared.
-/

namespace Ebrc

variable {σ : Type}

namespace Script

open Machine

variable {steering : Steering σ} {terms : Terms}

/-- The machine follows a script that is a whole body, from its first line on. -/
theorem start_followed (script : Script) (terms : Terms) (steering : Steering σ) (fuel : Nat)
    (s : σ) :
    Follows (terms.task script.toProgram) steering fuel {} s
      (·.machineAt script.toProgram.length []) (script.run terms steering fuel {} s) := by
  have layout : script.toProgram = [] ++ (script.toProgram ++ []) := by simp
  have follows : Follows (terms.task script.toProgram) steering fuel (Tally.machineAt {} 0 []) s
      (·.machineAt (0 + script.toProgram.length) []) (script.run terms steering fuel {} s) :=
    run_followed script layout [] {} s
  rwa [Nat.zero_add] at follows

/-- Where the run of a script has an outcome, the machine has the same. -/
theorem run_of_execute {script : Script} {fuel n : Nat} {ending : Ending} {s s' : σ}
    (executed : script.execute terms steering fuel s = some (n, ending, s')) :
    ∃ bound m, Machine.run (terms.task script.toProgram) steering bound {} s =
      some (m, ending, s') ∧ m.commands = n := by
  have follows := start_followed script terms steering fuel s
  unfold execute at executed
  cases outcome : script.run terms steering fuel {} s with
  | none => simp [outcome] at executed
  | some passage =>
      rw [outcome] at follows executed
      cases passage with
      | through tally s₁ =>
          obtain ⟨steps, travelled⟩ := follows
          simp only [Option.map_some, Option.some.injEq, Prod.mk.injEq] at executed
          obtain ⟨rfl, rfl, rfl⟩ := executed
          have past : (terms.task script.toProgram).code.length ≤
              (tally.machineAt script.toProgram.length []).position := Nat.le_refl _
          exact ⟨steps + 1, _, run_eq_some_iff.2 ⟨steps, _, Nat.lt_succ_self steps, travelled,
            .finished past⟩, rfl⟩
      | ended tally ending' s₁ =>
          obtain ⟨steps, m, s₂, travelled, stop, counted⟩ := follows
          simp only [Option.map_some, Option.some.injEq, Prod.mk.injEq] at executed
          obtain ⟨rfl, rfl, rfl⟩ := executed
          exact ⟨steps + 1, m, run_eq_some_iff.2 ⟨steps, s₂, Nat.lt_succ_self steps, travelled,
            stop⟩, counted⟩

/-- Where the machine comes to an end, so does the run of the script, within as many
repetitions. -/
theorem exists_execute_of_run {script : Script} {fuel : Nat} {m : Machine} {ending : Ending}
    {s s' : σ}
    (ran : Machine.run (terms.task script.toProgram) steering fuel {} s = some (m, ending, s')) :
    ∃ outcome, script.execute terms steering fuel s = some outcome := by
  have follows := start_followed script terms steering fuel s
  cases outcome : script.run terms steering fuel {} s with
  | none =>
      rw [outcome] at follows
      have silent := follows fuel (Nat.le_refl fuel)
      rw [ran] at silent
      contradiction
  | some passage => exact ⟨_, by rw [execute, outcome]; rfl⟩

/-- The machine on the lines of a script and the script as a tree have the same outcomes. -/
theorem run_toProgram_iff_execute (script : Script) {n : Nat} {ending : Ending} {s s' : σ} :
    (∃ fuel m, Machine.run (terms.task script.toProgram) steering fuel {} s =
        some (m, ending, s') ∧ m.commands = n) ↔
      ∃ fuel, script.execute terms steering fuel s = some (n, ending, s') := by
  constructor
  · rintro ⟨fuel, m, ran, counted⟩
    obtain ⟨⟨n', ending', s₁⟩, executed⟩ := exists_execute_of_run ran
    obtain ⟨bound, m', ran', counted'⟩ := run_of_execute executed
    obtain ⟨rfl, rfl, rfl⟩ := run_unique ran ran'
    exact ⟨fuel, by rw [executed, ← counted', counted]⟩
  · rintro ⟨fuel, executed⟩
    exact run_of_execute executed

end Script

/-! ## Runs that are watched -/

/-- What is seen of a run from outside: the state of who steers, the commands handed over so far,
and how many more lines may be run before a stop is asked for, if there is a bound to them. -/
structure Watch (σ : Type) where
  state : σ
  calls : List Text := []
  lines : Option Nat := none

/-- Who steers a run that is watched. Every line counts against the bound, and every command is
written down as it is handed over. -/
def Steering.watched (steering : Steering σ) : Steering (Watch σ) where
  interrupted w :=
    match w.lines with
    | some 0 => (true, w)
    | lines =>
      let (stopped, state) := steering.interrupted w.state
      (stopped, { w with state, lines := lines.map (· - 1) })
  carryOut line w :=
    (steering.carryOut line w.state).map fun (ok, state) =>
      (ok, { w with state, calls := w.calls ++ [line] })

/-- Who steers when every command is answered. -/
def Steering.ofEvaluator (interrupted : σ → Bool × σ) (evaluate : Text → σ → Bool × σ) :
    Steering σ where
  interrupted
  carryOut line s := some (evaluate line s)

namespace Machine

/-- A run that is stopped after a number of lines has an outcome, if every command is answered. -/
theorem exists_run_watched (task : Task) (interrupted : σ → Bool × σ)
    (evaluate : Text → σ → Bool × σ) (lines : Nat) (m : Machine) (s : σ) (calls : List Text) :
    ∃ m' ending w, run task (Steering.ofEvaluator interrupted evaluate).watched (lines + 1) m
      ⟨s, calls, some lines⟩ = some (m', ending, w) := by
  induction lines generalizing m s calls with
  | zero =>
      by_cases inside : m.position < task.code.length
      · exact ⟨m, _, _, run_of_stops 0 (.interrupted inside rfl)⟩
      · exact ⟨m, _, _, run_of_stops 0 (.finished (Nat.not_lt.1 inside))⟩
  | succ lines ih =>
      by_cases inside : m.position < task.code.length
      · obtain ⟨stopped, s', polled⟩ : ∃ stopped s', interrupted s = (stopped, s') := ⟨_, _, rfl⟩
        have watched : (Steering.ofEvaluator interrupted evaluate).watched.interrupted
            ⟨s, calls, some (lines + 1)⟩ = (stopped, ⟨s', calls, some lines⟩) := by
          simp [Steering.watched, Steering.ofEvaluator, polled]
        cases stopped with
        | true => exact ⟨m, _, _, run_of_stops _ (.interrupted inside watched)⟩
        | false =>
            cases step : m.step task with
            | stop ending => exact ⟨m, _, _, run_of_stops _ (.stopped inside watched step)⟩
            | next next =>
                rw [run_of_moves _ (.jump inside watched step)]
                exact ih next s' calls
            | command line =>
                have answered : (Steering.ofEvaluator interrupted evaluate).watched.carryOut line
                    ⟨s', calls, some lines⟩ = some ((evaluate line s').1,
                      ⟨(evaluate line s').2, calls ++ [line], some lines⟩) := rfl
                rw [run_of_moves _ (.command inside watched step answered)]
                exact ih _ _ _
      · exact ⟨m, _, _, run_of_stops _ (.finished (Nat.not_lt.1 inside))⟩

end Machine

/-- The machine runs a body as the tree semantics of its script says. Whoever carries the commands
out, whenever the interrupt flag goes up and however often blocks may repeat, the run of the machine
and the run of the tree have the same outcome: the same commands handed over in the same order, as
many of them, the same ending and the same state left. This holds of the run as a whole, and of the
run that is stopped after any number of lines, which always has an outcome. So runs without an end
agree line by line. -/
theorem machine_runs_tree (script : Script) (terms : Terms) (interrupted : σ → Bool × σ)
    (evaluate : Text → σ → Bool × σ) (s : σ) :
    let steering := (Steering.ofEvaluator interrupted evaluate).watched
    (∀ (lines : Option Nat) (n : Nat) (ending : Ending) (w : Watch σ),
      (∃ fuel m, Machine.run (terms.task script.toProgram) steering fuel {} { state := s, lines } =
          some (m, ending, w) ∧ m.commands = n) ↔
        ∃ fuel, script.execute terms steering fuel { state := s, lines } =
          some (n, ending, w)) ∧
    ∀ lines : Nat, ∃ fuel outcome,
      script.execute terms steering fuel { state := s, lines := some lines } = some outcome := by
  intro steering
  constructor
  · intro lines n ending w
    exact Script.run_toProgram_iff_execute script
  · intro lines
    obtain ⟨m, ending, w, ran⟩ := Machine.exists_run_watched (terms.task script.toProgram)
      interrupted evaluate lines {} s []
    obtain ⟨outcome, executed⟩ := Script.exists_execute_of_run ran
    exact ⟨lines + 1, outcome, executed⟩

end Ebrc
