import Ebrc.ConfigError
import Ebrc.FunctionError
import Ebrc.Rule

/-!
# Events

What is told about a load and about the functions that run, in the order in which it happens. Not
all of it: a log here is without the events `function_defined`, `include_started` and
`include_finished` of a load and `replacements_loaded` of a list of replacements, which are told for
debugging only, and without `init_function_failed`, `app_config_failed` and `interrupt_received`,
which come from around loads and calls and not from inside them.
-/

namespace Ebrc

/-- Something worth telling. The events that are named above have no counterpart here. -/
inductive Event where
  /-- A function is about to run a command. -/
  | command (function command : Text)
  /-- A function has reached its end; `soft` says whether it minds a command that failed. -/
  | finished (function : Text) (soft : Bool) (commands : Nat)
  /-- A function has ended before its end. -/
  | failed (function : Text) (error : FunctionError)
  /-- An invocation leads to no function. -/
  | notFound (name : Text) (error : FunctionError)
  /-- An invocation has more arguments than can be referred to. -/
  | extraArguments (function : Text) (given : Nat)
  | echo (text : Text)
  /-- Nobody takes a command. -/
  | unknownCommand (line : Text)
  /-- A command has crashed. -/
  | crashedCommand (line : Text)
  /-- An rc file has been loaded. -/
  | loaded (file : Text) (includes : Nat) (rules : List (RuleKind × Nat))
      (accounts plugins tables : Nat)
  /-- An rc file has not been loaded. -/
  | loadFailed (error : ConfigError)
  /-- An included file is passed over. -/
  | includeSkipped (file : Text) (line : Nat) (included : Text) (reason : String)
  /-- A path refers to a variable that is not defined. -/
  | undefinedVariable (file : Text) (line : Nat) (name : Text)
  /-- A proxy is asked for with something that is no URL. -/
  | badProxyUrl (url : Text)
  /-- A line of a list of replacements has no colon. -/
  | replacementWithoutColon (file : Text) (line : Nat)
  /-- The URL in a line of a list of replacements has a query. -/
  | replacementWithQuery (file : Text) (line : Nat)
  deriving Repr, DecidableEq

/-- Events in their order. -/
abbrev EventLog := Array Event

end Ebrc
