import Ebrc.Event

/-!
# Records of events

An event as it is logged: how much it matters, what it is called, and the values that go with
it, name by name.
-/

namespace Ebrc

/-- How much an event matters. -/
inductive Level where
  | debug
  | info
  | warning
  | error
  deriving Repr, DecidableEq

/-- The name of a level. -/
def Level.name : Level → String
  | debug => "debug"
  | info => "info"
  | warning => "warning"
  | error => "error"

/-- What is logged about an event. -/
structure EventRecord where
  level : Level
  title : String
  fields : List (String × Value)

namespace Event

/-- A natural number as a value. -/
private def count (n : Nat) : Value := .int n

/-- What is logged about an event. -/
def toRecord : Event → EventRecord
  | command function line =>
    ⟨.debug, "function_command", [("function", .text function), ("command", .text line)]⟩
  | finished function soft commands =>
    ⟨.info, "function_finished", [("function", .text function),
      ("outcome", .text (if soft then "soft_failure" else "success").toList),
      ("commands", count commands)]⟩
  | failed function error =>
    ⟨.warning, "function_failed", ("function", .text function) :: error.report.fields⟩
  | notFound name error =>
    ⟨.warning, "function_not_found",
      [("function", .text name), ("error", .text error.message.toList)]⟩
  | extraArguments function given =>
    ⟨.warning, "function_extra_arguments",
      [("function", .text function), ("given", count given), ("used", .int 9)]⟩
  | echo text => ⟨.info, "echo", [("text", .text text)]⟩
  | unknownCommand line => ⟨.warning, "unknown_command", [("command", .text line)]⟩
  | crashedCommand line => ⟨.error, "command_error", [("command", .text line)]⟩
  | loaded file includes rules accounts plugins tables =>
    ⟨.info, "rc_file_loaded", [("file", .text file), ("includes", count includes),
      ("rules", .object (rules.map fun (kind, n) => (kind.name.toList, count n))),
      ("accounts", count accounts), ("plugins", count plugins), ("tables", count tables)]⟩
  | loadFailed error =>
    ⟨.error, "rc_file_failed", ("error", .text error.text.toList) :: error.report.fields⟩
  | includeSkipped file line included reason =>
    ⟨.error, "include_skipped", [("file", .text file), ("line", count line),
      ("include", .text included), ("error", .text reason.toList)]⟩
  | undefinedVariable file line name =>
    ⟨.warning, "rc_undefined_variable",
      [("file", .text file), ("line", count line), ("variable", .text name)]⟩
  | badProxyUrl url => ⟨.warning, "proxy_lookup_bad_url", [("url", .text url)]⟩
  | replacementWithoutColon file line =>
    ⟨.warning, "replacement_no_colon", [("file", .text file), ("line", count line)]⟩
  | replacementWithQuery file line =>
    ⟨.warning, "replacement_has_query", [("file", .text file), ("line", count line)]⟩

end Event

end Ebrc
