import Ebrc.Report

/-!
# Errors of functions

Why a function is not found, or ends before its body does.
-/

namespace Ebrc

/-- What went wrong with a function. -/
inductive FunctionFault where
  /-- The invocation names no function. -/
  | unnamed
  /-- The name is not made of ASCII letters and digits. -/
  | badName
  /-- No function has this name. -/
  | unknown (name : Text)
  /-- A command refers to an argument that was not given. -/
  | noArgument (index : Nat)
  /-- The interrupt flag was up before a line. -/
  | interrupted
  /-- Blocks that test at their end repeated more often than allowed. -/
  | tooManyRepetitions (limit : Nat)
  /-- The call would be deeper than allowed. -/
  | tooDeep
  deriving Repr, DecidableEq

/-- A fault and the function it befell, if the invocation names one. -/
structure FunctionError where
  fault : FunctionFault
  function : Option Text
  deriving Repr, DecidableEq

namespace FunctionError

/-- What is told about the error. -/
def report (e : FunctionError) : Report :=
  let name := Report.optionalText e.function
  match e.fault with
  | .unnamed => .functionNotFound "no function specified" name
  | .badName => .functionNotFound "bad function name" name
  | .unknown n => .functionNotFound s!"no such function {n.toString}" name
  | .noArgument index => .argument index name
  | .interrupted => .interrupted name
  | .tooManyRepetitions limit => .loopLimit limit name
  | .tooDeep => .function "functions nested too deeply" name

/-- The wording of the error. -/
def message (e : FunctionError) : String := e.report.message

end FunctionError

end Ebrc
