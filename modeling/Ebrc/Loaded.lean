import Ebrc.Keyword
import Ebrc.Limits
import Ebrc.Rule

/-!
# What an rc file has loaded

Everything that a load produces. A load starts from nothing but the name of the user agent that
is used by default.
-/

namespace Ebrc

/-- The records, rules and values of an rc file and of the files it includes. -/
structure Loaded where
  defaultAgent : Text
  rules : RuleTable := []
  accounts : List Account := []
  /-- The account that is used when none is named, counted from 1; 0 while there is none. -/
  defaultAccount : Nat := 0
  plugins : List Plugin := []
  tables : List Table := []
  agents : List Text
  downloadDir : Option Path := none
  mailDir : Option Path := none
  mailUnread : Option Path := none
  mailReply : Option Path := none
  cookieJar : Option Path := none
  certificates : Option Path := none
  addressBook : Option Path := none
  emojis : Option Path := none
  cacheDir : Option Text := none
  cacheSize : Int := 1000
  webTimeout : Int := 0
  mailTimeout : Int := 0
  imapFetch : Int := 100
  dataSource : DataSource := {}
  language : Option Text := none
  envelope : Option Text := none
  /-- The files read, in the order in which they were opened. -/
  files : List Text := []
  deriving Repr, DecidableEq

namespace Loaded

/-- Nothing loaded. -/
def fresh (defaultAgent : Text) : Loaded := { defaultAgent, agents := [defaultAgent] }

/-- Forget everything that was loaded. -/
def reset (s : Loaded) : Loaded := fresh s.defaultAgent

/-- The account that is used when none is named. -/
def standardAccount (s : Loaded) : Except Crash (Option Account) :=
  match s.defaultAccount with
  | 0 => .ok none
  | n + 1 =>
    match s.accounts[n]? with
    | some account => .ok (some account)
    | none => .error .badIndex

/-- The first table with a short name. -/
def findTable? (s : Loaded) (shortName : Text) : Option Table :=
  s.tables.find? (·.shortName = some shortName)

/-- Add a table without columns. -/
def newTable (s : Loaded) (name : Text) (limit : Nat) : Except ConfigError (Loaded × Table) :=
  if limit ≤ s.tables.length then .error ⟨.tooManyTables limit, none, none⟩
  else
    let table : Table := { name := some name, shortName := some name }
    .ok ({ s with tables := s.tables ++ [table] }, table)

/-- Add a rule at the end. -/
def addRule (rule : Rule) (s : Loaded) : Loaded := { s with rules := s.rules ++ [rule] }

end Loaded

end Ebrc
