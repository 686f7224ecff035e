import Ebrc.Environment
import Ebrc.Limits
import Ebrc.LoadFault
import Ebrc.Text.Case

/-!
# Application configurations

What is settled before an rc file is loaded: where it lies, the bounds on it and on the functions
it defines, and the name that the program gives itself.
-/

namespace Ebrc

/-- How events are written. -/
inductive LogFormat where
  | console
  | json
  deriving Repr, DecidableEq

namespace LogFormat

/-- The name of a format. -/
def name : LogFormat → String
  | console => "console"
  | json => "json"

/-- The format of a name, in capital or small letters. -/
def ofText (t : Text) : Except Complaint LogFormat :=
  match String.ofList (Text.lower t) with
  | "console" => .ok .console
  | "json" => .ok .json
  | _ => .error .notAllowed

end LogFormat

/-- An application configuration. -/
structure AppConfig where
  name : Text := "edscript".toList
  version : Text := "0.1.0".toList
  limits : Limits := {}
  safety : Safety := {}
  rcFile : Text := "~/.ebrc".toList
  replacementsFile : Text := "jslocal".toList
  defaultAgent : Text := "edscript/0.1.0".toList
  logFormat : LogFormat := .console
  deriving Repr, DecidableEq

namespace AppConfig

/-- The configuration that the members of an object set. -/
def ofMembers (members : List (Text × Value)) : Except (List FieldComplaint) AppConfig :=
  let standard : AppConfig := {}
  let name := Value.field members "name" standard.name Value.toPlainText
  let version := Value.field members "version" standard.version Value.toPlainText
  let limits := Value.group members "limits" standard.limits Limits.ofMembers
  let safety := Value.group members "safety" standard.safety Safety.ofMembers
  let rcFile := Value.field members "rc_file" standard.rcFile Value.toPlainText
  let replacementsFile :=
    Value.field members "replacements_file" standard.replacementsFile Value.toPlainText
  let defaultAgent := Value.field members "default_agent" standard.defaultAgent Value.toPlainText
  let logFormat := Value.field members "log_format" standard.logFormat fun v =>
    v.toPlainText >>= LogFormat.ofText
  match name.complaints ++ version.complaints ++ limits.complaints ++ safety.complaints ++
      rcFile.complaints ++ replacementsFile.complaints ++ defaultAgent.complaints ++
      logFormat.complaints with
  | [] => .ok ⟨name.value, version.value, limits.value, safety.value, rcFile.value,
      replacementsFile.value, defaultAgent.value, logFormat.value⟩
  | complaints => .error complaints

/-- The path of a text that may start with the home directory. -/
def homePath (env : Environment) (t : Text) : Except Crash Path :=
  env.expandHome (Path.ofText t)

/-- Where the rc file lies. -/
def rcPath (config : AppConfig) (env : Environment) : Except Crash Path :=
  homePath env config.rcFile

end AppConfig

end Ebrc
