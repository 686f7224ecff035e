import Ebrc.Record.Basic
import Ebrc.Text.Case

/-!
# Plugins

What a plugin block says: which contents a program can handle, told by their type, and by a
suffix, a protocol or a kind of content, and how it is run.
-/

namespace Ebrc

/-- A program for contents of some type. -/
structure Plugin where
  type : Option Text := none
  description : Option Text := none
  suffix : Option Text := none
  protocol : Option Text := none
  program : Option Text := none
  content : Option Text := none
  /-- What the program puts out: `h` or `t`. -/
  outputType : Option Text := none
  urlMatch : Option Text := none
  fromFile : Bool := false
  downUrl : Bool := false
  deriving Repr, DecidableEq

/-- What a line of a plugin block may give a value to. -/
inductive PluginKeyword where
  | type
  | description
  | suffix
  | protocol
  | program
  | content
  | outputType
  | urlMatch
  deriving Repr, DecidableEq

/-- What a line of a plugin block may turn on. -/
inductive PluginFlag where
  | fromFile
  | downUrl
  deriving Repr, DecidableEq

/-- The flag that a line is. -/
def PluginFlag.ofLine? (line : Text) : Option PluginFlag :=
  if line = "from_file".toList then some .fromFile
  else if line = "down_url".toList then some .downUrl
  else none

namespace Plugin

/-- Turn a flag on. -/
def turnOn (flag : PluginFlag) (p : Plugin) : Plugin :=
  match flag with
  | .fromFile => { p with fromFile := true }
  | .downUrl => { p with downUrl := true }

/-- The first mandatory thing that has no value. -/
def missing? (p : Plugin) : Option String :=
  if isMissing p.type then some "type"
  else if isMissing p.description then some "desc"
  else if isMissing p.suffix && isMissing p.protocol && isMissing p.content then
    some "suffix, protocol or content"
  else if isMissing p.program then some "program"
  else none

/-- Set what the program puts out, by the first letter of a word. -/
def setOutputType (v : Text) (p : Plugin) : Except Refusal Plugin :=
  let letter := Text.lower (v.take 1)
  if letter = ['h'] ∨ letter = ['t'] then .ok { p with outputType := some letter }
  else .error (.fault .badOutputType)

/-- Give a keyword its value. -/
def set (keyword : PluginKeyword) (v : Text) (p : Plugin) : Except Refusal Plugin :=
  match keyword with
  | .type => .ok { p with type := some v }
  | .description => .ok { p with description := some v }
  | .suffix => .ok { p with suffix := some v }
  | .protocol => .ok { p with protocol := some v }
  | .program => .ok { p with program := some v }
  | .content => .ok { p with content := some v }
  | .outputType => p.setOutputType v
  | .urlMatch => .ok { p with urlMatch := some v }

end Plugin

end Ebrc
