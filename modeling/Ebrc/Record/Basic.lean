import Ebrc.ConfigError
import Ebrc.Crash
import Ebrc.Text.Digit

/-!
# Values of records

What the records of an rc file have in common: a value is given or missing, and the value of a
keyword may be refused, because it is at fault or because it makes the load crash.
-/

namespace Ebrc

/-- Why a value is not taken. -/
inductive Refusal where
  | fault (f : ConfigFault)
  | crash (c : Crash)
  deriving Repr, DecidableEq

/-- Is a value missing? An empty text is none. -/
def isMissing (v : Option Text) : Bool :=
  match v with
  | none | some [] => true
  | some _ => false

/-- The number that a value starts with, and 0 when it starts with none. -/
def leadingNumber (v : Text) : Except Refusal Int :=
  match Text.leadingInt? v with
  | some n => .ok n
  | none => .error (.crash .badNumber)

end Ebrc
