import Ebrc.Proofs.Call.Editor
import Ebrc.Proofs.Call.Forwarding

/-!
# Commands that change settings

What a command line does to the settings is a matter of its word and its argument. An argument that
a command takes makes it change its own settings, and these only: one switch, the debug level, or
the number and the name of the user agent together. Any other argument makes it fail, and nothing is
changed then, not even if a row of digits turns out to have no value. Without an editor there is
nothing else that a command line could do, function calls apart. A switch that is turned over twice
is as it was.
-/

namespace Ebrc

/-! ## What commands make of settings -/

namespace Toggle

/-- The word of the command that switches the setting. -/
def word : Toggle → String
  | scripts => "js"
  | certificates => "vs"
  | redirection => "rd"
  | letterCase => "ci"
  | allStrings => "sg"

@[simp] theorem get_set (which : Toggle) (s : Settings) (on : Bool) :
    which.get (which.set s on) = on := by
  cases which <;> rfl

@[simp] theorem set_set (which : Toggle) (s : Settings) (on on' : Bool) :
    which.set (which.set s on) on' = which.set s on' := by
  cases which <;> rfl

@[simp] theorem set_get (which : Toggle) (s : Settings) : which.set s (which.get s) = s := by
  cases which <;> rfl

end Toggle

namespace SettingsCommand

variable {agents : List Text} {before after : Settings} {command : SettingsCommand}

/-- The word of the command. -/
def word : SettingsCommand → String
  | toggle which _ => which.word
  | debugLevel _ => "db"
  | userAgent _ => "ua"

/-- What stands behind the word. -/
def argument : SettingsCommand → Text
  | toggle _ argument | debugLevel argument | userAgent argument => argument

/-- What a command makes of the settings if it takes its argument. -/
inductive Makes (agents : List Text) (before : Settings) : SettingsCommand → Settings → Prop where
  | toggle {which : Toggle} {argument : Text} {on : Bool}
      (wanted : Toggle.wanted? (which.get before) argument = some on) :
      Makes agents before (.toggle which argument) (which.set before on)
  | debugLevel {argument : Text} {n : Nat} (number : number? argument = .ok (some n))
      (bound : n ≤ 9) : Makes agents before (.debugLevel argument) { before with debugLevel := n }
  | userAgent {argument agent : Text} {n : Nat} (number : number? argument = .ok (some n))
      (there : agents[n]? = some agent) :
      Makes agents before (.userAgent argument)
        { before with agentIndex := n, currentAgent := some agent }

theorem apply_eq_ok_iff :
    command.apply agents before = .ok (some after) ↔ command.Makes agents before after := by
  constructor
  · intro applied
    cases command with
    | toggle which argument =>
        obtain ⟨on, wanted, rfl⟩ := Option.map_eq_some_iff.1 (Except.ok.inj applied)
        exact .toggle wanted
    | debugLevel argument =>
        obtain ⟨n?, number, applied⟩ := exists_of_bind_eq_ok applied
        cases n? with
        | none => cases applied
        | some n =>
            dsimp only at applied
            split at applied
            · rename_i bound
              cases applied
              exact .debugLevel number bound
            · cases applied
    | userAgent argument =>
        obtain ⟨n?, number, applied⟩ := exists_of_bind_eq_ok applied
        cases n? with
        | none => cases applied
        | some n =>
            obtain ⟨agent, there, rfl⟩ := Option.map_eq_some_iff.1 (Except.ok.inj applied)
            exact .userAgent number there
  · intro makes
    cases makes with
    | toggle wanted => simp [apply, wanted]
    | debugLevel number bound => simp [apply, number, bound, bind, Except.bind, pure, Except.pure]
    | userAgent number there => simp [apply, number, there, bind, Except.bind, pure, Except.pure]

end SettingsCommand

namespace Command

/-! ## Command lines -/

/-- The word of a command. -/
def word : Command → String
  | echo _ => "echo"
  | noop => "noop"
  | call _ => "<"
  | settings change => change.word

/-- What stands behind the word, if that counts. -/
def argument? : Command → Option Text
  | echo text => some text
  | noop => none
  | call invocation => some invocation
  | settings change => some change.argument

/-- The line has the word of the command and its argument. -/
structure WrittenIn (command : Command) (line : Text) : Prop where
  word : (split line).1 = command.word.toList
  argument : ∀ argument ∈ command.argument?, (split line).2 = argument

/-- What a command makes of the settings if it succeeds. A call does more than that. -/
inductive Makes (agents : List Text) (before : Settings) : Command → Settings → Prop where
  | echo {text : Text} : Makes agents before (.echo text) before
  | noop : Makes agents before .noop before
  | settings {change : SettingsCommand} {after : Settings}
      (makes : change.Makes agents before after) : Makes agents before (.settings change) after

section Lines

variable {line front back letters argument : Text} {command : Command} {word : String}

theorem ofWord?_eq_some_iff : ofWord? word argument = some command ↔
    word = command.word ∧ ∀ argument' ∈ command.argument?, argument = argument' := by
  constructor
  · intro named
    unfold ofWord? at named
    split at named <;> cases named <;> exact ⟨rfl, by simp [argument?, SettingsCommand.argument]⟩
  · intro same
    obtain ⟨rfl, argument⟩ := same
    cases command with
    | echo text => rw [argument text rfl]; rfl
    | noop => rfl
    | call invocation => rw [argument invocation rfl]; rfl
    | settings change =>
        rw [argument change.argument rfl]
        cases change with
        | toggle which argument => cases which <;> rfl
        | debugLevel argument => rfl
        | userAgent argument => rfl

theorem ofLine?_eq_some_iff : ofLine? line = some command ↔ command.WrittenIn line := by
  unfold ofLine?
  rw [ofWord?_eq_some_iff, ← String.toList_inj, String.toList_ofList]
  exact ⟨fun same => ⟨same.1, same.2⟩, fun written => ⟨written.word, written.argument⟩⟩

/-- A word of letters with white space around it is split off, and no argument is left. -/
theorem split_surrounded (given : letters ≠ []) (alpha : ∀ c ∈ letters, c.isAlpha)
    (inFront : ∀ c ∈ front, Text.isBlank c) (behind : ∀ c ∈ back, Text.isBlank c) :
    split (front ++ (letters ++ back)) = (letters, []) := by
  have solid (c : Char) (letter : c.isAlpha) : Text.isBlank c = false :=
    Invocation.isBlank_of_isAlphanum (by rw [Char.isAlphanum, letter, Bool.true_or])
  have bare : Text.stripLeft Text.isBlank (front ++ (letters ++ back)) = letters ++ back := by
    rw [Text.stripLeft, List.dropWhile_append_of_pos inFront]
    cases letters with
    | nil => exact absurd rfl given
    | cons c rest =>
        apply List.dropWhile_cons_of_neg
        simp [solid c (alpha c (List.mem_cons_self ..))]
  have taken : (letters ++ back).takeWhile Char.isAlpha = letters := by
    have none : back.takeWhile Char.isAlpha = [] := by
      cases back with
      | nil => rfl
      | cons c rest =>
          apply List.takeWhile_cons_of_neg
          intro letter
          have blank := behind c (List.mem_cons_self ..)
          rw [solid c letter] at blank
          cases blank
    rw [List.takeWhile_append_of_pos alpha, none, List.append_nil]
  have stripped : Text.strip Text.isBlank back = [] := by
    rw [Text.strip, Text.stripLeft, List.dropWhile_eq_nil_iff.2 behind]
    rfl
  unfold split
  dsimp only
  rw [bare, taken]
  cases letters with
  | nil => exact absurd rfl given
  | cons c rest =>
      dsimp only
      rw [List.drop_left, stripped]

/-- A word that switches, with white space around it, turns the switch over. -/
theorem ofLine?_switch (which : Toggle) (inFront : ∀ c ∈ front, Text.isBlank c)
    (behind : ∀ c ∈ back, Text.isBlank c) :
    ofLine? (front ++ (which.word.toList ++ back)) = some (.settings (.toggle which [])) := by
  have splits : split (front ++ (which.word.toList ++ back)) = (which.word.toList, []) := by
    apply split_surrounded _ _ inFront behind
    · cases which <;> decide
    · exact List.all_eq_true.1 (by cases which <;> decide)
  rw [ofLine?_eq_some_iff]
  exact ⟨by rw [splits]; rfl, by simp [splits, argument?, SettingsCommand.argument]⟩

end Lines

end Command

/-! ## Answers -/

namespace CallContext

variable {η : Type} {context : CallContext η} {line : Text}

/-- A command line has answered whether it succeeds, and has made all of its changes or none. -/
structure Wholly (agents : List Text) (line : Text) (before : Settings) (ok : Bool)
    (after : Settings) : Prop where
  /-- If it succeeds, its command has made the settings what they are. -/
  made : ok = true → ∃ command : Command, command.WrittenIn line ∧
    command.Makes agents before after
  /-- If it fails, nothing has changed. -/
  kept : ok = false → after = before
  /-- It fails only if its command makes nothing of the settings as they are. -/
  refused : ok = false → ∀ command : Command, command.WrittenIn line →
    ∀ other, ¬command.Makes agents before other

section Outcomes

variable {agents : List Text} {command : Command} {before after : Settings}

theorem Wholly.of_makes (written : command.WrittenIn line)
    (makes : command.Makes agents before after) : Wholly agents line before true after where
  made _ := ⟨command, written, makes⟩
  kept failed := by cases failed
  refused failed := by cases failed

theorem Wholly.of_forall_not_makes (unmade : ∀ command : Command, command.WrittenIn line →
    ∀ other, ¬command.Makes agents before other) : Wholly agents line before false before where
  made succeeded := by cases succeeded
  kept _ := rfl
  refused _ := unmade

end Outcomes

theorem wholly_changeSettings {change : SettingsCommand}
    (named : Command.ofLine? line = some (.settings change)) (s : RunState η) :
    Wholly context.agents line s.settings (context.changeSettings change line s).1
      (context.changeSettings change line s).2.settings := by
  have fails (unmade : ∀ after, change.apply context.agents s.settings ≠ .ok (some after)) :
      Wholly context.agents line s.settings false s.settings := by
    apply Wholly.of_forall_not_makes
    intro command written other makes
    rw [Command.ofLine?_eq_some_iff.2 written] at named
    cases named
    cases makes with
    | settings makes => exact unmade other (SettingsCommand.apply_eq_ok_iff.2 makes)
  unfold changeSettings
  cases applied : change.apply context.agents s.settings with
  | error crash => exact fails (by simp [applied])
  | ok after? =>
      cases after? with
      | none => exact fails (by simp [applied])
      | some after =>
          have makes := SettingsCommand.apply_eq_ok_iff.1 applied
          exact .of_makes (Command.ofLine?_eq_some_iff.1 named) (.settings makes)

/-- Without an editor, a command line that calls no function changes settings wholly or not at
all. -/
theorem exists_wholly_of_carryOut (alone : context.host? = none)
    (call : Text → RunState η → CallOutcome η) (plain : (Command.split line).1 ≠ "<".toList)
    (s : RunState η) :
    ∃ ok s', context.carryOut call line s = some (ok, s') ∧
      Wholly context.agents line s.settings ok s'.settings := by
  unfold carryOut
  cases named : Command.ofLine? line with
  | none =>
      have asked : context.askHost line s = (false, s.tell (.unknownCommand line)) := by
        rw [askHost, alone]
      refine ⟨false, _, congrArg some asked, .of_forall_not_makes ?_⟩
      intro command written
      rw [Command.ofLine?_eq_some_iff.2 written] at named
      contradiction
  | some command =>
      have written := Command.ofLine?_eq_some_iff.1 named
      cases command with
      | echo text => exact ⟨true, _, rfl, .of_makes written .echo⟩
      | noop => exact ⟨true, _, rfl, .of_makes written .noop⟩
      | call invocation => exact absurd written.word plain
      | settings change => exact ⟨_, _, rfl, wholly_changeSettings named s⟩

/-- Turning a switch over. -/
theorem carryOut_switch (which : Toggle) {front back : Text}
    (inFront : ∀ c ∈ front, Text.isBlank c) (behind : ∀ c ∈ back, Text.isBlank c)
    (call : Text → RunState η → CallOutcome η) (s : RunState η) :
    context.carryOut call (front ++ (which.word.toList ++ back)) s =
      some (true, { s with settings := which.set s.settings !(which.get s.settings) }) := by
  unfold carryOut
  rw [Command.ofLine?_switch which inFront behind]
  rfl

/-- What command lines do to settings where there is no editor. -/
structure ChangesWholly (context : CallContext η) (call : Text → RunState η → CallOutcome η) :
    Prop where
  /-- Each of them answers, unless it calls a function. -/
  answers : ∀ line s, (Command.split line).1 ≠ "<".toList →
    ∃ ok s', context.carryOut call line s = some (ok, s') ∧
      Wholly context.agents line s.settings ok s'.settings
  /-- Those that turn a switch over put the settings back when they are carried out again. -/
  twice : ∀ (which : Toggle) (front back : Text) (s : RunState η),
    (∀ c ∈ front, Text.isBlank c) → (∀ c ∈ back, Text.isBlank c) →
      ∃ s₁ s₂, context.carryOut call (front ++ (which.word.toList ++ back)) s = some (true, s₁) ∧
        context.carryOut call (front ++ (which.word.toList ++ back)) s₁ = some (true, s₂) ∧
          s₂.settings = s.settings

/-- Commands that change settings do all that they are there for, or nothing. -/
theorem changes_wholly (context : CallContext η) (alone : context.host? = none)
    (call : Text → RunState η → CallOutcome η) : context.ChangesWholly call where
  answers line s plain := exists_wholly_of_carryOut alone call plain s
  twice which front back s inFront behind := by
    refine ⟨_, _, carryOut_switch which inFront behind call s,
      carryOut_switch which inFront behind call _, ?_⟩
    simp

/-- An agent is selected by its number, which is too large the second time. -/
theorem changes_wholly_example :
    let context : CallContext Unit := ⟨[], ["a".toList, "b".toList], 0, none, 0⟩
    let call : Text → RunState Unit → CallOutcome Unit := fun _ _ => none
    let s : RunState Unit := ⟨{}, false, (), #[]⟩
    let chosen : Settings := { agentIndex := 1, currentAgent := some "b".toList }
    context.host? = none ∧
      (∃ s', context.carryOut call "ua1".toList s = some (true, s') ∧ s'.settings = chosen ∧
        Wholly context.agents "ua1".toList {} true chosen) ∧
      (∃ s', context.carryOut call "ua 2".toList s = some (false, s') ∧
        Wholly context.agents "ua 2".toList {} false {}) ∧
      ∃ s₁ s₂, context.carryOut call " js\t".toList s = some (true, s₁) ∧
        context.carryOut call " js\t".toList s₁ = some (true, s₂) ∧ s₂.settings = {} := by
  intro context call s chosen
  have changes : context.ChangesWholly call := changes_wholly context rfl call
  have first : context.carryOut call "ua1".toList s = some (true, { s with settings := chosen }) := by
    rfl
  have second : context.carryOut call "ua 2".toList s = some (false, s) := by rfl
  obtain ⟨ok, s₁, answered, wholly⟩ := changes.answers "ua1".toList s (by decide)
  rw [first] at answered
  cases answered
  obtain ⟨ok, s₂, refused, wholly'⟩ := changes.answers "ua 2".toList s (by decide)
  rw [second] at refused
  cases refused
  exact ⟨rfl, ⟨_, first, rfl, wholly⟩, ⟨_, second, wholly'⟩,
    changes.twice .scripts [' '] ['\t'] s (List.forall_mem_singleton.2 rfl)
      (List.forall_mem_singleton.2 rfl)⟩

end CallContext

end Ebrc
