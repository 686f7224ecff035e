import Ebrc.Call
import Ebrc.Proofs.Machine.Trace

/-!
# Calls that keep a history

A call can be made to write down every command that changes settings, as it is carried out, with
the functions that are being run then. The history is kept beside the state of the editor, which
neither the machine nor any command looks at. So a call that keeps a history is the call that keeps
none, but for the history.
-/

namespace Ebrc

/-- A command that changes settings, and the functions that were being run when it was carried out,
the innermost one first. -/
structure Change where
  command : SettingsCommand
  active : List Text
  deriving Repr, DecidableEq

namespace Change

/-- Does a change outlast all the functions around it? -/
def lasts (change : Change) : Bool := change.active.all keepsChanges

/-- The settings after a change. A command that is refused or crashes changes nothing. -/
def apply (agents : List Text) (settings : Settings) (change : Change) : Settings :=
  match change.command.apply agents settings with
  | .ok (some settings) => settings
  | _ => settings

end Change

/-- The settings after several changes, one after the other. -/
def Settings.replay (agents : List Text) (settings : Settings) (changes : List Change) : Settings :=
  changes.foldl (Change.apply agents) settings

@[simp] theorem Settings.replay_nil (agents : List Text) (settings : Settings) :
    settings.replay agents [] = settings := rfl

theorem Settings.replay_append (agents : List Text) (settings : Settings)
    (first second : List Change) :
    settings.replay agents (first ++ second) =
      (settings.replay agents first).replay agents second := by
  simp [Settings.replay, List.foldl_append]

variable {η κ : Type}

/-- The same state with an editor that is seen in another way. -/
def RunState.mapHost (view : κ → η) (s : RunState κ) : RunState η :=
  ⟨s.settings, s.interrupted, view s.host, s.log⟩

/-- The same state with something beside the editor. -/
def RunState.beside (s : RunState η) (other : κ) : RunState (η × κ) := s.mapHost (·, other)

/-- The same state with one more change in the history. -/
def RunState.note (s : RunState (η × List Change)) (change : Change) :
    RunState (η × List Change) :=
  { s with host := (s.host.1, s.host.2 ++ [change]) }

@[simp] theorem RunState.mapHost_tell (view : κ → η) (s : RunState κ) (event : Event) :
    (s.tell event).mapHost view = (s.mapHost view).tell event := rfl

/-- An editor that does not see what is beside it. -/
def Host.beside (host : Host η) : Host (η × κ) := fun line s =>
  let reply := host line s.1
  ⟨reply.answer, reply.interrupts, (reply.host, s.2)⟩

/-- One editor is another one, for whoever sees it through a view. -/
def Host.SeenThrough (view : κ → η) (host : Host η) (host' : Host κ) : Prop :=
  ∀ line s, host line (view s) =
    ⟨(host' line s).answer, (host' line s).interrupts, view (host' line s).host⟩

theorem Host.seen_map {view : κ → η} {change : Host η → Host κ}
    (seen : ∀ host, SeenThrough view host (change host)) (host? : Option (Host η)) :
    Option.Rel (SeenThrough view) host? (host?.map change) := by
  cases host? with
  | none => exact .none
  | some host => exact .some (seen host)

namespace CallContext

/-! ## Keeping the history -/

/-- The same context with a history beside the editor. -/
def recorded (context : CallContext η) : CallContext (η × List Change) where
  rules := context.rules
  agents := context.agents
  repetitions := context.repetitions
  host? := context.host?.map Host.beside
  patience := context.patience

/-- The function that an invocation leads to. -/
def calledFunction (context : CallContext η) (line : Text) : Text :=
  match context.rules.resolve (Invocation.ofLine line).name with
  | .found rule => rule.pattern.getD []
  | _ => []

/-- Who carries commands out and writes down those that change settings. -/
def noting (active : List Text) (evaluate : Evaluator (η × List Change)) :
    Evaluator (η × List Change) := fun line s =>
  match Command.ofLine? line with
  | some (.settings command) => evaluate line (s.note ⟨command, active⟩)
  | _ => evaluate line s

/-- Call a function and keep the history; `active` are the functions that are being run. -/
def recordedCall (context : CallContext (η × List Change)) :
    Nat → List Text → Text → RunState (η × List Change) → CallOutcome (η × List Change)
  | 0, _ => context.invoke none
  | depth + 1, active => fun line =>
    let active := context.calledFunction line :: active
    let evaluate := context.carryOut (context.recordedCall depth active)
    context.invoke (some (noting active evaluate)) line

/-! ## Forgetting the history -/

/-- One way to deal with lines is another one, for whoever sees the editor through a view. -/
def SeenThrough {α : Type} (view : κ → η) (act : Text → RunState η → Option (α × RunState η))
    (act' : Text → RunState κ → Option (α × RunState κ)) : Prop :=
  ∀ line s, act line (s.mapHost view) = (act' line s).map fun (a, s) => (a, s.mapHost view)

/-- One context is another one, for whoever sees the editor through a view. -/
structure Seen (view : κ → η) (context : CallContext η) (context' : CallContext κ) : Prop where
  rules : context.rules = context'.rules
  agents : context.agents = context'.agents
  repetitions : context.repetitions = context'.repetitions
  patience : context.patience = context'.patience
  host : ∀ line s, context.askHost line (s.mapHost view) =
    ((context'.askHost line s).1, (context'.askHost line s).2.mapHost view)

variable {view : κ → η} {context : CallContext η} {context' : CallContext κ}

/-- Editors that go with one another through a view are asked alike. -/
theorem askHost_mapHost (hosts : Option.Rel (Host.SeenThrough view) context.host? context'.host?)
    (line : Text) (s : RunState κ) :
    context.askHost line (s.mapHost view) =
      ((context'.askHost line s).1, (context'.askHost line s).2.mapHost view) := by
  unfold askHost
  generalize context.host? = host?, context'.host? = host?' at hosts
  cases hosts with
  | none => rfl
  | @some host host' seen =>
      simp only [RunState.mapHost, seen line s.host]
      cases (host' line s.host).answer with
      | none => rfl
      | some ok => rfl

theorem seen_recorded (context : CallContext η) : Seen Prod.fst context context.recorded where
  rules := rfl
  agents := rfl
  repetitions := rfl
  patience := rfl
  host := askHost_mapHost (Host.seen_map (fun _ _ _ => rfl) context.host?)

theorem Seen.carryOut (seen : Seen view context context')
    {call : Text → RunState η → CallOutcome η} {call' : Text → RunState κ → CallOutcome κ}
    (calls : SeenThrough view call call') :
    SeenThrough view (context.carryOut call) (context'.carryOut call') := by
  intro line s
  unfold CallContext.carryOut
  cases Command.ofLine? line with
  | none => simp [seen.host line s]
  | some command =>
      cases command with
      | echo text => rfl
      | noop => rfl
      | settings command =>
          simp only [changeSettings, ← seen.agents, RunState.mapHost]
          cases command.apply context.agents s.settings with
          | error crash => rfl
          | ok changed =>
              cases changed with
              | none => rfl
              | some settings => rfl
      | call invocation =>
          simp only [calls invocation s]
          cases call' invocation s with
          | none => rfl
          | some outcome =>
              obtain ⟨result, s'⟩ := outcome
              cases result with
              | ok result => rfl
              | error crash => rfl

theorem SeenThrough.noting {evaluate : Evaluator η} {evaluate' : Evaluator (η × List Change)}
    (evaluates : SeenThrough Prod.fst evaluate evaluate') (active : List Text) :
    SeenThrough Prod.fst evaluate (noting active evaluate') := by
  intro line s
  unfold CallContext.noting
  split
  · exact evaluates line (s.note ⟨_, active⟩)
  · exact evaluates line s

theorem conclude_mapHost (view : κ → η) (name : Text) (before : Settings) (m : Machine)
    (ending : Ending) (s : RunState κ) :
    conclude name before m ending (s.mapHost view) =
      ((conclude name before m ending s).1, (conclude name before m ending s).2.mapHost view) := by
  cases ending with
  | finished soft => rfl
  | failed fault => rfl
  | crashed crash => rfl

theorem tellExtra_mapHost (view : κ → η) (invocation : Invocation) (s : RunState κ) :
    tellExtra invocation (s.mapHost view) = (tellExtra invocation s).mapHost view := by
  unfold tellExtra
  split
  · rfl
  · rfl

theorem Seen.runBody (seen : Seen view context context') {evaluate : Evaluator η}
    {evaluate' : Evaluator κ} (evaluates : SeenThrough view evaluate evaluate') (name : Text)
    (rule : Rule) (invocation : Invocation) (s : RunState κ) :
    context.runBody evaluate name rule invocation (s.mapHost view) =
      (context'.runBody evaluate' name rule invocation s).map
        fun (result, s) => (result, s.mapHost view) := by
  unfold CallContext.runBody
  cases rule.body.elim (.error .noFunction) Body.program with
  | error crash => rfl
  | ok code =>
      have runs : Machine.run ⟨code, rule.mindful, invocation, context.repetitions⟩
          (steering evaluate name) context.patience {} (s.mapHost view) =
            (Machine.run ⟨code, rule.mindful, invocation, context'.repetitions⟩
              (steering evaluate' name) context'.patience {} s).map
                fun stopped => (stopped.1, stopped.2.1, stopped.2.2.mapHost view) := by
        rw [seen.repetitions, seen.patience]
        exact Machine.run_view (RunState.mapHost view) (fun s => rfl)
          (fun line s => evaluates line (s.tell (.command name line))) context'.patience
      simp only [runs]
      cases Machine.run _ (steering evaluate' name) context'.patience {} s with
      | none => rfl
      | some outcome =>
          simp only [Option.map_some, conclude_mapHost]
          rfl

theorem Seen.invoke (seen : Seen view context context') {evaluate? : Option (Evaluator η)}
    {evaluate?' : Option (Evaluator κ)}
    (evaluates : Option.Rel (SeenThrough view) evaluate? evaluate?') :
    SeenThrough view (context.invoke evaluate?) (context'.invoke evaluate?') := by
  intro line s
  unfold CallContext.invoke
  simp only [tellExtra_mapHost, seen.rules]
  cases context'.rules.resolve (Invocation.ofLine line).name with
  | crashed crash => rfl
  | refused error => rfl
  | found rule =>
      cases evaluates with
      | none => rfl
      | some evaluates => exact seen.runBody evaluates _ rule _ _

/-- A call that keeps a history is the call that keeps none, but for the history. -/
theorem recordedCall_seen (context : CallContext η) (depth : Nat) (active : List Text) :
    SeenThrough Prod.fst (context.call depth) (context.recorded.recordedCall depth active) := by
  have seen := seen_recorded context
  induction depth generalizing active with
  | zero => exact seen.invoke .none
  | succ depth ih =>
      intro line s
      have evaluates := (seen.carryOut (ih (context.recorded.calledFunction line :: active))).noting
        (context.recorded.calledFunction line :: active)
      exact seen.invoke (.some evaluates) line s

end CallContext

end Ebrc
