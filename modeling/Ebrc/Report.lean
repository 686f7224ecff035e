import Ebrc.Document.Value

/-!
# Reports

What is told about an error, whatever its cause: a message, how grave it is, what sort of error
it is, and the names of what it is about. Errors with a cause of their own are turned into
reports by the modules that define them.
-/

namespace Ebrc

/-- A text as a string. -/
abbrev Text.toString (t : Text) : String := String.ofList t

/-- How grave an error is. -/
inductive Severity where
  /-- Work goes on. -/
  | low
  /-- One function ends. -/
  | medium
  /-- A load ends. -/
  | high
  deriving Repr, DecidableEq

/-- The name of a severity. -/
def Severity.name : Severity → String
  | low => "low"
  | medium => "medium"
  | high => "high"

/-- What sort of error it is. -/
inductive Category where
  /-- The form of a line or block. -/
  | form
  /-- What a line or block means: a missing field, a limit passed. -/
  | meaning
  /-- A call of a function. -/
  | invocation
  /-- A file that cannot be read. -/
  | resource
  /-- A run stopped from outside. -/
  | interrupt
  /-- A run stopped by a bound. -/
  | safety
  deriving Repr, DecidableEq

/-- The name of a category. -/
def Category.name : Category → String
  | form => "syntax"
  | meaning => "semantic"
  | invocation => "invocation"
  | resource => "resource"
  | interrupt => "interrupt"
  | safety => "safety"

/-- Which family of errors a report belongs to. -/
inductive ReportKind where
  | general
  | config
  | function
  | functionNotFound
  | argument
  | interrupted
  | loopLimit
  | url
  deriving Repr, DecidableEq

/-- The name of a family. -/
def ReportKind.name : ReportKind → String
  | general => "EdscriptError"
  | config => "ConfigError"
  | function => "FunctionError"
  | functionNotFound => "FunctionNotFound"
  | argument => "ArgumentError"
  | interrupted => "ScriptInterrupted"
  | loopLimit => "LoopLimitError"
  | url => "UrlError"

/-- Is the report about a function? -/
def ReportKind.aboutFunction : ReportKind → Bool
  | general | config | url => false
  | function | functionNotFound | argument | interrupted | loopLimit => true

/-- What is told about an error. -/
structure Report where
  kind : ReportKind
  message : String
  severity : Severity
  category : Category
  /-- What the error is about, name by name. -/
  context : List (String × Value)

namespace Report

/-- A text that may be missing, as part of a context. -/
def optionalText : Option Text → Value
  | none => .null
  | some t => .text t

/-- The entry of a name in the context. -/
def entry? (r : Report) (name : String) : Option Value := r.context.reverse.lookup name

/-- The message, for errors of a configuration with the place in front. -/
def text (r : Report) : String :=
  match r.kind with
  | .config =>
    let file := match r.entry? "config_path" with
      | some (.text []) | none => "config"
      | some (.text t) => t.toString
      | some _ => "config"
    match r.entry? "line" with
    | some (.int n) => s!"{file} line {n}: {r.message}"
    | _ => s!"{file}: {r.message}"
  | _ => r.message

/-- What is told about the error, name by name. -/
def fields (r : Report) : List (String × Value) := [
  ("type", .text r.kind.name.toList),
  ("message", .text r.message.toList),
  ("severity", .text r.severity.name.toList),
  ("category", .text r.category.name.toList),
  ("context", .object (r.context.map fun (name, v) => (name.toList, v)))]

/-- A report on a configuration. -/
def config (message : String) (path line : Value) (severity : Severity := .high)
    (category : Category := .form) (context : List (String × Value) := []) : Report :=
  ⟨.config, message, severity, category, context ++ [("config_path", path), ("line", line)]⟩

/-- A report on a function. -/
def function (message : String) (name : Value) (severity : Severity := .medium)
    (category : Category := .invocation) (context : List (String × Value) := []) : Report :=
  ⟨.function, message, severity, category, context ++ [("function", name)]⟩

/-- A report that a function is not there. -/
def functionNotFound (message : String) (name : Value) (severity : Severity := .medium)
    (category : Category := .invocation) (context : List (String × Value) := []) : Report :=
  { function message name severity category context with kind := .functionNotFound }

/-- A report that an argument is missing. -/
def argument (index : Int) (name : Value) (severity : Severity := .medium)
    (category : Category := .invocation) (context : List (String × Value) := []) : Report :=
  let base := function s!"no such argument {index}" name severity category context
  { base with kind := .argument, context := base.context ++ [("argument", .int index)] }

/-- A report that a function was stopped from outside. -/
def interrupted (name : Value) (severity : Severity := .medium)
    (category : Category := .interrupt) (context : List (String × Value) := []) : Report :=
  { function "interrupted" name severity category context with kind := .interrupted }

/-- A report that a function repeated its blocks too often. -/
def loopLimit (limit : Int) (name : Value) (severity : Severity := .medium)
    (category : Category := .safety) (context : List (String × Value) := []) : Report :=
  let base := function s!"more than {limit} loop iterations" name severity category context
  { base with kind := .loopLimit, context := base.context ++ [("limit", .int limit)] }

/-- A report on a URL. -/
def url (message : String) (address : Value) (severity : Severity := .low)
    (category : Category := .form) (context : List (String × Value) := []) : Report :=
  ⟨.url, message, severity, category, context ++ [("url", address)]⟩

end Report

end Ebrc
