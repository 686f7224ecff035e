import Ebrc.Proofs.Call.Commands

/-!
# What the editor is handed

An editor can be made to write down the lines it is handed. Nothing that is run looks at what it has
written, so a call with such an editor is the call with the plain one, but for the lines. They are
the commands that have been told of meanwhile, on all levels of calls, without those that are carried
out without an editor.
-/

namespace Ebrc

namespace Command

/-- The words of the commands that are carried out without an editor. -/
def words : List Text :=
  ["echo", "noop", "<", "js", "vs", "rd", "ci", "sg", "db", "ua"].map String.toList

theorem ofWord?_eq_none_iff {word : String} {argument : Text} :
    ofWord? word argument = none ↔ word.toList ∉ words := by
  unfold ofWord?
  split <;> simp_all [words, ← String.toList_inj]

/-- A line is left to the editor if its word is none of them. -/
theorem ofLine?_eq_none_iff {line : Text} : ofLine? line = none ↔ (split line).1 ∉ words := by
  unfold ofLine?
  rw [ofWord?_eq_none_iff, String.toList_ofList]

end Command

/-- The line that an editor is handed when this is told: that of a command whose word is none of
those that are carried out without an editor. -/
def Event.heard? : Event → Option Text
  | .command _ line => if Command.words.contains (Command.split line).1 then none else some line
  | _ => none

theorem Event.heard?_of_not_command {event : Event} (other : ¬event.isCommand) :
    event.heard? = none := by
  cases event with
  | command function line => exact absurd rfl other
  | _ => rfl

variable {η κ : Type}

/-- An editor that writes down the lines it is handed. -/
def Host.listening (host : Host η) : Host (η × List Text) := fun line s =>
  let reply := host line s.1
  ⟨reply.answer, reply.interrupts, (reply.host, s.2 ++ [line])⟩

namespace CallContext

/-- The same context with an editor that writes down the lines it is handed. -/
def listening (context : CallContext η) : CallContext (η × List Text) where
  rules := context.rules
  agents := context.agents
  repetitions := context.repetitions
  host? := context.host?.map Host.listening
  patience := context.patience

theorem seen_listening (context : CallContext η) : Seen Prod.fst context context.listening where
  rules := rfl
  agents := rfl
  repetitions := rfl
  patience := rfl
  host := askHost_mapHost (Host.seen_map (fun _ _ _ => rfl) context.host?)

/-- Whoever sees the editor through a view sees the same calls. -/
theorem Seen.call {view : κ → η} {context : CallContext η} {context' : CallContext κ}
    (seen : Seen view context context') (depth : Nat) :
    SeenThrough view (context.call depth) (context'.call depth) := by
  induction depth with
  | zero => exact seen.invoke .none
  | succ depth ih => exact seen.invoke (.some (seen.carryOut ih))

/-! ## Lines and events -/

/-- These are the events between two states, and what the editor is handed meanwhile goes with
them. -/
structure Hears (events : List Event) (s s' : RunState (η × List Text)) : Prop where
  log : s'.log.toList = s.log.toList ++ events
  heard : s'.host.2 = s.host.2 ++ events.filterMap Event.heard?

namespace Hears

variable {events more : List Event} {s s₁ s' : RunState (η × List Text)}

theorem trans (first : Hears events s s₁) (second : Hears more s₁ s') :
    Hears (events ++ more) s s' where
  log := by rw [second.log, first.log, List.append_assoc]
  heard := by rw [second.heard, first.heard, List.filterMap_append, List.append_assoc]

/-- Where no command is told of, nothing is handed to the editor. -/
theorem of_tells (tells : RunState.Tells events s s')
    (others : ∀ event ∈ events, ¬event.isCommand) : Hears events s s' where
  log := tells.log
  heard := by
    have nothing : events.filterMap Event.heard? = [] :=
      List.filterMap_eq_nil_iff.2 fun event among => Event.heard?_of_not_command (others event among)
    rw [tells.host, nothing, List.append_nil]

/-- A command that is carried out without an editor. -/
theorem of_command {name line : Text} (known : (Command.split line).1 ∈ Command.words)
    (hears : Hears events (s.tell (.command name line)) s') :
    Hears (.command name line :: events) s s' where
  log := by simp [hears.log]
  heard := by simpa [Event.heard?, known] using hears.heard

end Hears

open RunState

variable {context : CallContext η} {depth : Nat} {line : Text}
variable {s s' : RunState (η × List Text)}

/-- The editor is handed a command whose word is not known, as it is. -/
theorem hears_askHost (editor : context.host?.isSome) (name : Text)
    (unknown : (Command.split line).1 ∉ Command.words) (s : RunState (η × List Text)) :
    ∃ events, Hears events s (context.listening.askHost line (s.tell (.command name line))).2 := by
  obtain ⟨host, here⟩ := Option.isSome_iff_exists.1 editor
  unfold askHost listening
  simp only [here, Option.map_some, Host.listening]
  split
  · exact ⟨[.command name line], by simp, by simp [Event.heard?, unknown]⟩
  · exact ⟨[.command name line, .crashedCommand line], by simp, by simp [Event.heard?, unknown]⟩

/-- A command, and what it leads to, if a call is known to go with what the editor is handed. -/
theorem hears_carryOut (editor : context.host?.isSome)
    {call : Text → RunState (η × List Text) → CallOutcome (η × List Text)}
    (calls : ∀ {line s result s'}, call line s = some (result, s') → ∃ events, Hears events s s')
    {name : Text} {ok : Bool}
    (carried : context.listening.carryOut call line (s.tell (.command name line)) = some (ok, s')) :
    ∃ events, Hears events s s' := by
  have known {command : Command} (named : Command.ofLine? line = some command) :
      (Command.split line).1 ∈ Command.words := by
    by_contra unknown
    rw [Command.ofLine?_eq_none_iff.2 unknown] at named
    contradiction
  rcases carryOut_cases carried with
    ⟨unnamed, asked⟩ | ⟨command, events, named, -, tells, plain⟩ | ⟨invocation, named, ended⟩
  · obtain ⟨events, hears⟩ := hears_askHost editor name (Command.ofLine?_eq_none_iff.1 unnamed) s
    rw [asked] at hears
    exact ⟨events, hears⟩
  · have others : ∀ event ∈ events, ¬event.isCommand :=
      fun event among => Event.not_command_of_plain (plain event among)
    exact ⟨_, (Hears.of_tells tells others).of_command (known named)⟩
  · rcases ended with ⟨r, called, -⟩ | ⟨crash, s₁, called, -, rfl⟩
    · obtain ⟨events, hears⟩ := calls called
      exact ⟨_, hears.of_command (known named)⟩
    · obtain ⟨events, hears⟩ := calls called
      have told : Hears [.crashedCommand line] s₁ (s₁.tell (.crashedCommand line)) :=
        .of_tells (.single _ _) (by simp [Event.isCommand])
      exact ⟨_, (hears.trans told).of_command (known named)⟩

/-- What the editor is handed in a call goes with what is told in it. -/
theorem hears_call (editor : context.host?.isSome) {result : Except Crash CallResult}
    (ended : context.listening.call depth line s = some (result, s')) :
    ∃ events, Hears events s s' := by
  have invoked {evaluate? : Option (Evaluator (η × List Text))} {line : Text}
      {s s' : RunState (η × List Text)} {result : Except Crash CallResult}
      (evaluates : ∀ evaluate ∈ evaluate?, ∀ {name line s ok s'},
        evaluate line (s.tell (.command name line)) = some (ok, s') → ∃ events, Hears events s s')
      (ended : context.listening.invoke evaluate? line s = some (result, s')) :
      ∃ events, Hears events s s' := by
    rcases invoke_runs context.listening evaluate? line s with
      ⟨outcome, nothing, same⟩ | ⟨evaluate, task, here, -, same⟩
    · cases (same context.listening.host? context.listening.patience).symm.trans ended
      obtain ⟨⟨events, tells, others⟩, -⟩ := nothing
      exact ⟨events, .of_tells tells others⟩
    · have mapped := (same context.listening.host? context.listening.patience).symm.trans ended
      obtain ⟨⟨m, ending, s₁⟩, ran, concluded⟩ := Option.map_eq_some_iff.1 mapped
      obtain ⟨first, extra, plain⟩ := exists_tellExtra (Invocation.ofLine line) s
      obtain ⟨last, told, others⟩ :=
        exists_conclude (context.listening.calledFunction line) s.settings m ending s₁
      have inside : ∃ events, Hears events s s₁ := by
        refine Machine.run_invariant (fun t => ∃ events, Hears events s t) ?_ ?_ ran ?_
        · intro t hears
          exact hears
        · rintro line t ok u answered ⟨events, hears⟩
          obtain ⟨later, hearsLater⟩ := evaluates evaluate here answered
          exact ⟨_, hears.trans hearsLater⟩
        · exact ⟨first, .of_tells extra plain⟩
      obtain ⟨events, hears⟩ := inside
      have ends : (conclude (context.listening.calledFunction line) s.settings m ending s₁).2 = s' :=
        congrArg Prod.snd concluded
      rw [ends] at told
      exact ⟨_, hears.trans (.of_tells told others)⟩
  induction depth generalizing line s s' result with
  | zero => exact invoked (by simp) ended
  | succ depth ih =>
      refine invoked ?_ ended
      rintro _ ⟨⟩ name line s ok s' carried
      exact hears_carryOut editor (fun called => ih called) carried

/-- A call with an editor that writes down what it is handed is the same call. What is written are
the commands told of meanwhile, without those that are carried out without an editor. -/
theorem listening_call (editor : context.host?.isSome) {result : Except Crash CallResult}
    {s s' : RunState η} {events : List Event}
    (ended : context.call depth line s = some (result, s'))
    (log : s'.log.toList = s.log.toList ++ events) (heard : List Text) :
    context.listening.call depth line (s.beside heard) =
      some (result, s'.beside (heard ++ events.filterMap Event.heard?)) := by
  have seen : context.call depth line s = _ :=
    (seen_listening context).call depth line (s.beside heard)
  rw [ended, eq_comm, Option.map_eq_some_iff] at seen
  obtain ⟨⟨result', t⟩, listened, forgotten⟩ := seen
  simp only [Prod.mk.injEq] at forgotten
  obtain ⟨rfl, rfl⟩ := forgotten
  obtain ⟨events', hears⟩ := hears_call editor listened
  have same : events' = events := List.append_cancel_left (hears.log.symm.trans log)
  have written : t.host.2 = heard ++ events.filterMap Event.heard? := by
    rw [hears.heard, same]
    rfl
  rw [listened, ← written]
  rfl

end CallContext

end Ebrc
