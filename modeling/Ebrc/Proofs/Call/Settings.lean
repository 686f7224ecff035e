import Ebrc.Proofs.Call.History
import Ebrc.Session

/-!
# Settings after a call

Settings that a function changes are put back when it ends, with the exception of functions that
exist to change them. Calls are nested, so whether a change outlasts a call depends on all the
functions around it: one of them that puts settings back is enough to undo it. What is kept is the
settings before the call with the changes that outlast every function around them made again, in
their order.
-/

namespace Ebrc

open CallContext

variable {η : Type}

/-! ## The end of a call -/

/-- What is told of the end of a call that returns a result. -/
def CallResult.event (r : CallResult) : Event :=
  match r.verdict with
  | .success => .finished r.function false r.commands
  | .softFailure => .finished r.function true r.commands
  | .failed error => .failed r.function error
  | .notFound error => .notFound r.function error

/-- What is told of the end of a call: nothing, if it crashes. -/
def callEnd : Except Crash CallResult → List Event
  | .ok r => [r.event]
  | .error _ => []

theorem RunState.foldl_tell (events : List Event) (s : RunState η) :
    (events.foldl tell s).settings = s.settings ∧ (events.foldl tell s).host = s.host := by
  induction events generalizing s with
  | nil => exact ⟨rfl, rfl⟩
  | cons event _ ih => exact ih (s.tell event)

/-! ## The state inside nested functions -/

/-- What has come of a state while some functions are being run. The history has grown by changes
made inside these functions. The settings can be told from the changes as long as all the functions
keep what they change; otherwise they are put back sooner or later, and nothing is said of them. -/
structure Grown (agents active : List Text) (new : List Change)
    (before s : RunState (η × List Change)) : Prop where
  history : s.host.2 = before.host.2 ++ new
  inside : ∀ change ∈ new, active <:+ change.active
  settings : active.all keepsChanges →
    s.settings = before.settings.replay agents (new.filter Change.lasts)

namespace Grown

variable {agents active : List Text} {new later : List Change}
variable {before s s' : RunState (η × List Change)}

/-- Where neither the settings nor the history change, nothing is added. -/
theorem unchanged (settings : s.settings = before.settings) (history : s.host.2 = before.host.2) :
    Grown agents active [] before s where
  history := by rw [history, List.append_nil]
  inside := by simp
  settings _ := by simpa using settings

theorem trans (first : Grown agents active new before s) (second : Grown agents active later s s') :
    Grown agents active (new ++ later) before s' where
  history := by rw [second.history, first.history, List.append_assoc]
  inside change made := by
    rcases List.mem_append.1 made with early | late
    · exact first.inside change early
    · exact second.inside change late
  settings keep := by
    rw [second.settings keep, first.settings keep, List.filter_append, Settings.replay_append]

/-- What is told does not matter. -/
theorem told (grown : Grown agents active new before s) {before' : RunState (η × List Change)}
    (settings : before'.settings = before.settings) (host : before'.host = before.host) :
    Grown agents active new before' s where
  history := by rw [host, grown.history]
  inside := grown.inside
  settings keep := by rw [settings, grown.settings keep]

/-- A command that changes settings and is written down. -/
theorem change (context : CallContext (η × List Change)) (command : SettingsCommand) (line : Text)
    (s : RunState (η × List Change)) :
    Grown context.agents active [⟨command, active⟩] s
      (context.changeSettings command line (s.note ⟨command, active⟩)).2 := by
  have kept : (context.changeSettings command line (s.note ⟨command, active⟩)).2.host =
      (s.note ⟨command, active⟩).host := by
    unfold changeSettings
    split <;> rfl
  have changed : (context.changeSettings command line (s.note ⟨command, active⟩)).2.settings =
      Change.apply context.agents s.settings ⟨command, active⟩ := by
    unfold changeSettings Change.apply
    simp only [RunState.note]
    cases command.apply context.agents s.settings with
    | error crash => rfl
    | ok settings? =>
        cases settings? with
        | none => rfl
        | some settings => rfl
  constructor
  · rw [kept]
    rfl
  · intro change made
    cases List.mem_singleton.1 made
    exact List.suffix_refl active
  · intro keep
    rw [changed]
    simp [Change.lasts, keep, Settings.replay]

/-- When a function ends, its settings are put back or kept, and what was done in it was done
inside the functions around it. -/
theorem leave {name : Text} (grown : Grown agents (name :: active) new before s)
    (history : s'.host.2 = s.host.2)
    (settings : s'.settings = if keepsChanges name then s.settings else before.settings) :
    Grown agents active new before s' where
  history := by rw [history, grown.history]
  inside change made := (List.suffix_cons name active).trans (grown.inside change made)
  settings keep := by
    rw [settings]
    by_cases lasting : keepsChanges name
    · rw [if_pos lasting]
      apply grown.settings
      rw [List.all_cons, lasting, keep, Bool.and_self]
    · have undone : new.filter Change.lasts = [] := by
        rw [List.filter_eq_nil_iff]
        intro change made lasts
        have around : name ∈ change.active :=
          (grown.inside change made).subset (List.mem_cons_self ..)
        exact lasting (List.all_eq_true.1 lasts name around)
      rw [if_neg lasting, undone, Settings.replay_nil]

end Grown

namespace CallContext

/-! ## Calls put settings back -/

/-- The settings at the end of a call. -/
theorem conclude_settings (name : Text) (before : Settings) (m : Machine) (ending : Ending)
    (s : RunState η) : (conclude name before m ending s).2.settings =
      if keepsChanges name then s.settings else before := by
  cases ending with
  | finished soft => rfl
  | failed fault => rfl
  | crashed crash => rfl

theorem conclude_host (name : Text) (before : Settings) (m : Machine) (ending : Ending)
    (s : RunState η) : (conclude name before m ending s).2.host = s.host := by
  cases ending with
  | finished soft => rfl
  | failed fault => rfl
  | crashed crash => rfl

@[simp] theorem tellExtra_settings (invocation : Invocation) (s : RunState η) :
    (tellExtra invocation s).settings = s.settings := by
  unfold tellExtra
  split <;> rfl

@[simp] theorem tellExtra_host (invocation : Invocation) (s : RunState η) :
    (tellExtra invocation s).host = s.host := by
  unfold tellExtra
  split <;> rfl

/-- A call comes to nothing but what is told at its beginning and at its end, or to a run of the body
of the function called. -/
theorem invoke_cases {context : CallContext η} {evaluate? : Option (Evaluator η)} {line : Text}
    {s s' : RunState η} {result : Except Crash CallResult}
    (ended : context.invoke evaluate? line s = some (result, s')) :
    (s' = (callEnd result).foldl RunState.tell (tellExtra (Invocation.ofLine line) s) ∧
        ∀ r, result = .ok r → r.commands = 0) ∨
      ∃ evaluate task m ending s₁, evaluate? = some evaluate ∧
        Machine.run task (steering evaluate (context.calledFunction line)) context.patience {}
          (tellExtra (Invocation.ofLine line) s) = some (m, ending, s₁) ∧
        conclude (context.calledFunction line) s.settings m ending s₁ = (result, s') := by
  unfold invoke at ended
  unfold calledFunction
  cases resolved : context.rules.resolve (Invocation.ofLine line).name with
  | crashed crash =>
      simp only [resolved] at ended
      cases ended
      exact .inl ⟨rfl, by simp⟩
  | refused error =>
      simp only [resolved] at ended
      cases ended
      exact .inl ⟨rfl, by rintro _ ⟨⟩; rfl⟩
  | found rule =>
      simp only [resolved] at ended
      cases evaluate? with
      | none =>
          cases ended
          exact .inl ⟨rfl, by rintro _ ⟨⟩; rfl⟩
      | some evaluate =>
          simp only [runBody] at ended
          cases body : rule.body.elim (.error .noFunction) Body.program with
          | error crash =>
              simp only [body] at ended
              cases ended
              exact .inl ⟨rfl, by simp⟩
          | ok code =>
              simp only [body, Option.map_eq_some_iff, tellExtra_settings] at ended
              obtain ⟨⟨m, ending, s₁⟩, ran, concluded⟩ := ended
              exact .inr ⟨evaluate, _, m, ending, s₁, rfl, ran, concluded⟩

/-- A function that is not there to change settings leaves all of them as they were, whatever
carries its commands out. -/
theorem invoke_restores {context : CallContext η} {evaluate? : Option (Evaluator η)} {line : Text}
    {s s' : RunState η} {result : Except Crash CallResult}
    (ended : context.invoke evaluate? line s = some (result, s'))
    (ordinary : ¬keepsChanges (context.calledFunction line)) : s'.settings = s.settings := by
  rcases invoke_cases ended with ⟨rfl, -⟩ | ⟨evaluate, task, m, ending, s₁, -, -, concluded⟩
  · rw [(RunState.foldl_tell _ _).1, tellExtra_settings]
  · have restored := conclude_settings (context.calledFunction line) s.settings m ending s₁
    rwa [concluded, if_neg ordinary] at restored

/-! ## The history tells the settings -/

variable {context : CallContext (η × List Change)}

/-- Whoever carries commands out inside some functions makes the history grow. -/
def Grows (agents active : List Text) {α : Type}
    (act : Text → RunState (η × List Change) → Option (α × RunState (η × List Change))) : Prop :=
  ∀ line s a s', act line s = some (a, s') → ∃ new, Grown agents active new s s'

/-- An editor with a history beside it changes neither the settings nor the history. -/
theorem recorded_asks (context : CallContext η) (line : Text) (s : RunState (η × List Change)) :
    (context.recorded.askHost line s).2.settings = s.settings ∧
      (context.recorded.askHost line s).2.host.2 = s.host.2 := by
  cases context with
  | mk rules agents repetitions host? patience =>
      cases host? with
      | none => exact ⟨rfl, rfl⟩
      | some host =>
          simp only [askHost, recorded, Option.map_some, Host.beside]
          cases (host line s.host.1).answer with
          | none => exact ⟨rfl, rfl⟩
          | some ok => exact ⟨rfl, rfl⟩

theorem grows_noting {active : List Text}
    {call : Text → RunState (η × List Change) → CallOutcome (η × List Change)}
    (calls : Grows context.agents active call)
    (asked : ∀ line s, (context.askHost line s).2.settings = s.settings ∧
      (context.askHost line s).2.host.2 = s.host.2) :
    Grows context.agents active (noting active (context.carryOut call)) := by
  intro line s ok s' answered
  unfold noting carryOut at answered
  cases command : Command.ofLine? line with
  | none =>
      simp only [command, Option.some.injEq] at answered
      obtain ⟨settings, history⟩ := asked line s
      rw [answered] at settings history
      exact ⟨[], .unchanged settings history⟩
  | some command? =>
      cases command? with
      | echo text =>
          simp only [command, Option.some.injEq, Prod.mk.injEq] at answered
          obtain ⟨-, rfl⟩ := answered
          exact ⟨[], .unchanged rfl rfl⟩
      | noop =>
          simp only [command, Option.some.injEq, Prod.mk.injEq] at answered
          obtain ⟨-, rfl⟩ := answered
          exact ⟨[], .unchanged rfl rfl⟩
      | settings change =>
          simp only [command, Option.some.injEq] at answered
          have grown : Grown context.agents active _ s _ := .change context change line s
          rw [answered] at grown
          exact ⟨_, grown⟩
      | call invocation =>
          simp only [command, Option.map_eq_some_iff] at answered
          obtain ⟨⟨result, s₁⟩, called, concluded⟩ := answered
          obtain ⟨new, grown⟩ := calls _ _ _ _ called
          cases result with
          | ok result =>
              simp only [Prod.mk.injEq] at concluded
              obtain ⟨-, rfl⟩ := concluded
              exact ⟨new, grown⟩
          | error crash =>
              simp only [Prod.mk.injEq] at concluded
              obtain ⟨-, rfl⟩ := concluded
              exact ⟨new, grown.history, grown.inside, grown.settings⟩

/-- A call whose commands make the history grow inside the function called makes it grow inside
the functions around the call. -/
theorem grows_invoke {active : List Text} {line : Text}
    {evaluate? : Option (Evaluator (η × List Change))}
    (evaluates : ∀ evaluate ∈ evaluate?,
      Grows context.agents (context.calledFunction line :: active) evaluate)
    {s s' : RunState (η × List Change)} {result : Except Crash CallResult}
    (ended : context.invoke evaluate? line s = some (result, s')) :
    ∃ new, Grown context.agents active new s s' := by
  rcases invoke_cases ended with
    ⟨rfl, -⟩ | ⟨evaluate, task, m, ending, s₁, here, ran, concluded⟩
  · obtain ⟨settings, host⟩ :=
      RunState.foldl_tell (callEnd result) (tellExtra (Invocation.ofLine line) s)
    rw [tellExtra_settings] at settings
    rw [tellExtra_host] at host
    exact ⟨[], .unchanged settings (by rw [host])⟩
  · have grows := evaluates evaluate here
    have inside : ∃ new, Grown context.agents (context.calledFunction line :: active) new s s₁ := by
      refine Machine.run_invariant
        (fun s₁ => ∃ new, Grown context.agents (context.calledFunction line :: active) new s s₁)
        ?_ ?_ ran ?_
      · intro s₁ grown
        exact grown
      · rintro line s₁ ok s₂ answered ⟨new, grown⟩
        obtain ⟨later, grownLater⟩ := grows _ _ _ _ answered
        exact ⟨new ++ later, grown.trans (grownLater.told rfl rfl)⟩
      · exact ⟨[], .unchanged (tellExtra_settings _ s) (by rw [tellExtra_host])⟩
    obtain ⟨new, grown⟩ := inside
    have settings := conclude_settings (context.calledFunction line) s.settings m ending s₁
    have host := conclude_host (context.calledFunction line) s.settings m ending s₁
    rw [concluded] at settings host
    exact ⟨new, grown.leave (by rw [host]) settings⟩

theorem grows_recordedCall (context : CallContext η) (depth : Nat) (active : List Text) :
    Grows context.agents active (context.recorded.recordedCall depth active) := by
  induction depth generalizing active with
  | zero =>
      intro line s result s' ended
      have refused : context.recorded.invoke none line s = some (result, s') := ended
      exact grows_invoke (by simp) refused
  | succ depth ih =>
      intro line s result s' ended
      have invoked : context.recorded.invoke (some (noting
          (context.recorded.calledFunction line :: active) (context.recorded.carryOut
            (context.recorded.recordedCall depth (context.recorded.calledFunction line :: active)))))
          line s = some (result, s') := ended
      refine grows_invoke ?_ invoked
      intro evaluate here
      cases here
      exact grows_noting (ih _) context.recorded_asks

/-- A call of a function that is not there to change settings leaves all of them as they were. -/
theorem call_restores {context : CallContext η} {depth : Nat} {line : Text} {s s' : RunState η}
    {result : Except Crash CallResult} (ended : context.call depth line s = some (result, s'))
    (ordinary : ¬keepsChanges (context.calledFunction line)) : s'.settings = s.settings := by
  cases depth with
  | zero => exact invoke_restores ended ordinary
  | succ depth => exact invoke_restores ended ordinary

/-- A call has a history, and the history tells what the settings are after it. -/
theorem call_history {context : CallContext η} {depth : Nat} {line : Text} {s s' : RunState η}
    {result : Except Crash CallResult} (ended : context.call depth line s = some (result, s')) :
    ∃ changes,
      context.recorded.recordedCall depth [] line (s.beside []) =
          some (result, s'.beside changes) ∧
        s'.settings = s.settings.replay context.agents (changes.filter Change.lasts) := by
  have seen : context.call depth line s = _ := recordedCall_seen context depth [] line (s.beside [])
  rw [ended, eq_comm, Option.map_eq_some_iff] at seen
  obtain ⟨⟨result', s₁⟩, recorded, forgotten⟩ := seen
  simp only [Prod.mk.injEq] at forgotten
  obtain ⟨rfl, rfl⟩ := forgotten
  obtain ⟨new, grown⟩ := grows_recordedCall context depth [] _ _ _ _ recorded
  have changes : s₁.host.2 = new := grown.history
  refine ⟨s₁.host.2, recorded, ?_⟩
  rw [changes]
  exact grown.settings rfl

end CallContext

namespace Session

/-- The settings after a call are the settings before it with those changes made again, in their
order, that were carried out inside functions all of which keep what they change. The changes are
those that the same call writes down when it keeps a history. A call of a function that does not
keep what it changes leaves all settings as they were. It does not matter how the call ends. -/
theorem settings_after_call {session after : Session η} {line : Text}
    {result : Except Crash CallResult} (ended : session.call line = some (result, after)) :
    (∃ changes,
      session.context.recorded.recordedCall session.config.safety.callDepth [] line
          (session.runState.beside []) = some (result, after.runState.beside changes) ∧
        after.settings =
          session.settings.replay session.loaded.agents (changes.filter Change.lasts)) ∧
      (¬keepsChanges (session.context.calledFunction line) →
        after.settings = session.settings) := by
  obtain ⟨⟨result', s'⟩, called, finished⟩ := Option.map_eq_some_iff.1 ended
  simp only [Prod.mk.injEq] at finished
  obtain ⟨rfl, rfl⟩ := finished
  exact ⟨call_history called, call_restores called⟩

/-- A session whose function `setall` calls one that puts settings back, which calls one that
keeps what it changes. -/
def nested : Session Unit :=
  let text := "function:setall\x7b\njs-\n<plain\nci+\n\x7d\n" ++
    "function:plain\x7b\nvs-\n<setmore\n\x7d\nfunction:setmore\x7b\nrd-\n\x7d\n"
  ((Session.start {} {} {} none ()).loadText text.toList "<text>".toList).2

theorem settings_after_nested_call :
    ∃ result after, nested.call "setall".toList = some (result, after) ∧
      ((∃ changes,
        nested.context.recorded.recordedCall nested.config.safety.callDepth [] "setall".toList
            (nested.runState.beside []) = some (result, after.runState.beside changes) ∧
          after.settings =
            nested.settings.replay nested.loaded.agents (changes.filter Change.lasts)) ∧
        (¬keepsChanges (nested.context.calledFunction "setall".toList) →
          after.settings = nested.settings)) := by
  have ends : (nested.call "setall".toList).isSome := by decide +kernel
  obtain ⟨⟨result, after⟩, ended⟩ := Option.isSome_iff_exists.1 ends
  exact ⟨result, after, ended, settings_after_call ended⟩

example : (nested.call "setall".toList).map (·.2.settings) =
    some { allowJs := false, caseInsensitive := true } := by decide +kernel

end Session

end Ebrc
