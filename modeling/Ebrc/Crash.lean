import Ebrc.FileSystem

/-!
# Crashes

Failures that nobody handles. They pass through the operation in which they happen, which
leaves behind whatever it had done until then.
-/

namespace Ebrc

/-- A failure that is nobody's to handle. -/
inductive Crash where
  /-- A block ends, or an else is met, where no block is open. -/
  | noOpenBlock
  /-- A block has no other end. -/
  | unbalancedBlock
  /-- The body of a function is asked for before its closing line has been read. -/
  | bodyNotSealed
  /-- The body of a function is sealed a second time. -/
  | bodyAlreadySealed
  /-- A block that is no function is closed as if it were one. -/
  | noOpenFunction
  /-- There is no such function. -/
  | noFunction
  /-- A rule that must have a pattern has none. -/
  | noPattern
  /-- A text is taken for a number and is none, or too long for one. -/
  | badNumber
  /-- A text is taken for a word that means yes or no and is none. -/
  | badSwitch
  /-- A text is taken for a day or a time and is none. -/
  | badDate
  /-- A document nests lists and objects too deep. -/
  | tooDeep
  /-- An index lies outside its list. -/
  | badIndex
  /-- The home directory in a path is not known. -/
  | noHome
  /-- The file system fails in a way that is not provided for. -/
  | file (reason : FileError)
  /-- A file is not UTF-8. -/
  | notUtf8
  deriving Repr, DecidableEq

end Ebrc
