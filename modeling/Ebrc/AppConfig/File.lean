import Ebrc.AppConfig
import Ebrc.Document.Yaml

/-!
# Files of application configurations

An application configuration is a JSON or a YAML document; the ending of the file's name says
which. Without a file, everything keeps its default.
-/

namespace Ebrc

/-- The kinds of documents. -/
inductive DocumentFormat where
  | json
  | yaml
  deriving Repr, DecidableEq

namespace DocumentFormat

/-- The kind that the ending of a name stands for. -/
def ofSuffix? (suffix : Text) : Option DocumentFormat :=
  match String.ofList suffix with
  | ".json" => some .json
  | ".yaml" | ".yml" => some .yaml
  | _ => none

/-- Read a document. A YAML document that says nothing counts as one without members. -/
def read : DocumentFormat → Text → Except DocumentFault Value
  | json, t => Json.read t
  | yaml, t => (Yaml.read t).map fun v => if v.isEmpty then .object [] else v

/-- What is wrong with a document that cannot be read. -/
def fault : DocumentFormat → ConfigFault
  | json => .invalidJson
  | yaml => .invalidYaml

end DocumentFormat

namespace AppConfig

/-- Stop at an error in the file at a path. -/
def stop {α : Type} (path : Path) (fault : ConfigFault) : Except LoadFault α :=
  .error (.config ⟨fault, some path.toText, none⟩)

/-- Stop at a crash. -/
def orCrash {α : Type} : Except FileError α → Except LoadFault α
  | .ok a => .ok a
  | .error reason => .error (.crash (.file reason))

/-- The configuration that a document sets. -/
def ofValue (path : Path) : Value → Except LoadFault AppConfig
  | .object members =>
    match ofMembers members with
    | .ok config => .ok config
    | .error complaints => stop path (.invalidDocument (some complaints))
  | _ => stop path (.invalidDocument none)

/-- Load the file at a path. -/
def loadFile (files : FileSystem) (path : Path) : Except LoadFault AppConfig := do
  if !(← orCrash (files.pathExists path)) then stop path (.documentNotFound path)
  else
    match Text.decodeUtf8? (← orCrash (files.read path)) with
    | none => .error (.crash .notUtf8)
    | some t =>
      match DocumentFormat.ofSuffix? path.suffix with
      | none => stop path (.unknownFormat path.suffix)
      | some format =>
        match format.read (Text.unifyNewlines t) with
        | .ok v => ofValue path v
        | .error .malformed => stop path format.fault
        | .error .tooDeep => .error (.crash .tooDeep)
        | .error .badNumber => .error (.crash .badNumber)
        | .error .emptyNumber => .error (.crash .badIndex)
        | .error .badSwitch => .error (.crash .badSwitch)
        | .error .badDate => .error (.crash .badDate)

/-- Load a file, if one is named. -/
def load (files : FileSystem) : Option Text → Except LoadFault AppConfig
  | none => .ok {}
  | some path => loadFile files (Path.ofText path)

end AppConfig

end Ebrc
