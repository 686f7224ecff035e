import Ebrc.Crash
import Ebrc.Settings
import Ebrc.Text.Blank
import Ebrc.Text.Digit

/-!
# Commands

The commands that are carried out without an editor. A command line starts with a word of
letters or with a single other character; what follows is the argument of the command.

Most of these commands change settings. A change is made as a whole or not at all.
-/

namespace Ebrc

/-- A setting that a command of its own switches. -/
inductive Toggle where
  | scripts
  | certificates
  | redirection
  | letterCase
  | allStrings
  deriving Repr, DecidableEq

namespace Toggle

/-- The setting. -/
def get (s : Settings) : Toggle → Bool
  | scripts => s.allowJs
  | certificates => s.verifyCertificates
  | redirection => s.allowRedirection
  | letterCase => s.caseInsensitive
  | allStrings => s.searchStringsAll

/-- Switch the setting. -/
def set (s : Settings) (on : Bool) : Toggle → Settings
  | scripts => { s with allowJs := on }
  | certificates => { s with verifyCertificates := on }
  | redirection => { s with allowRedirection := on }
  | letterCase => { s with caseInsensitive := on }
  | allStrings => { s with searchStringsAll := on }

/-- How an argument says to switch: on, off, or the other way round. -/
def wanted? (current : Bool) (argument : Text) : Option Bool :=
  if argument = [] then some !current
  else if argument = ['+'] then some true
  else if argument = ['-'] then some false
  else none

end Toggle

/-- A command that changes settings. -/
inductive SettingsCommand where
  | toggle (which : Toggle) (argument : Text)
  | debugLevel (argument : Text)
  | userAgent (argument : Text)
  deriving Repr, DecidableEq

namespace SettingsCommand

/-- A number in digits of any kind. Digits that have no decimal value are let through as far as
the conversion, which then crashes. -/
def number? (argument : Text) : Except Crash (Option Nat) :=
  if Text.allDigitSigns argument then
    match Text.readInt? argument with
    | some n => .ok (some n.toNat)
    | none => .error .badNumber
  else .ok none

/-- Change the settings; nothing when the argument is refused. -/
def apply (agents : List Text) (s : Settings) : SettingsCommand → Except Crash (Option Settings)
  | toggle which argument =>
    .ok ((Toggle.wanted? (which.get s) argument).map fun on => which.set s on)
  | debugLevel argument => do
    match ← number? argument with
    | some n => return if n ≤ 9 then some { s with debugLevel := n } else none
    | none => return none
  | userAgent argument => do
    match ← number? argument with
    | some n =>
      return agents[n]?.map fun agent => { s with agentIndex := n, currentAgent := some agent }
    | none => return none

end SettingsCommand

/-- A command that is carried out without an editor. -/
inductive Command where
  /-- Tell a text. -/
  | echo (text : Text)
  /-- Do nothing. -/
  | noop
  /-- Call a function. -/
  | call (line : Text)
  | settings (command : SettingsCommand)
  deriving Repr, DecidableEq

namespace Command

/-- Split a line into the word of the command and its argument. -/
def split (line : Text) : Text × Text :=
  let line := Text.stripLeft Text.isBlank line
  let word := match line.takeWhile Char.isAlpha with
    | [] => line.take 1
    | letters => letters
  (word, Text.strip Text.isBlank (line.drop word.length))

/-- The command of a word. -/
def ofWord? (word : String) (argument : Text) : Option Command :=
  match word with
  | "echo" => some (.echo argument)
  | "noop" => some .noop
  | "<" => some (.call argument)
  | "js" => some (.settings (.toggle .scripts argument))
  | "vs" => some (.settings (.toggle .certificates argument))
  | "rd" => some (.settings (.toggle .redirection argument))
  | "ci" => some (.settings (.toggle .letterCase argument))
  | "sg" => some (.settings (.toggle .allStrings argument))
  | "db" => some (.settings (.debugLevel argument))
  | "ua" => some (.settings (.userAgent argument))
  | _ => none

/-- The command of a line, if it is one that needs no editor. -/
def ofLine? (line : Text) : Option Command :=
  let (word, argument) := split line
  ofWord? (String.ofList word) argument

end Command

end Ebrc
