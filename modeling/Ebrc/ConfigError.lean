import Ebrc.Document.Check
import Ebrc.FileSystem
import Ebrc.Report

/-!
# Errors of configurations

Why an rc file or an application configuration is refused. A load that meets one of these
errors leaves nothing loaded.
-/

namespace Ebrc

/-- What a block inside of which another one may not start is. -/
inductive BlockHolder where
  | account
  | filter
  | plugin
  | table
  | function
  deriving Repr, DecidableEq

/-- The wording of a holder. -/
def BlockHolder.text : BlockHolder → String
  | account => "a mail descriptor"
  | filter => "a filter block"
  | plugin => "a plugin descriptor"
  | table => "a table descriptor"
  | function => "another function"

/-- What a file that must be a regular one is used for. -/
inductive FileRole where
  | cookieJar
  | certificates
  | addressBook
  | emojis
  deriving Repr, DecidableEq

/-- The wording of a role. -/
def FileRole.text : FileRole → String
  | cookieJar => "cookie jar"
  | certificates => "certificate file"
  | addressBook => "address book"
  | emojis => "emoji file"

/-- What is wrong with a configuration. -/
inductive ConfigFault where
  -- Headers of blocks
  | nullCharacter
  | functionUnnamed
  | functionNameTooLong (limit : Int)
  | functionHeader
  -- Files
  | unreadable (reason : FileError)
  | includedTooDeep (limit : Nat)
  -- Blocks
  | blockLeftOpen
  | functionLeftOpen (name : Text)
  | elseWithoutIf
  | strayText
  | blockInside (holder : BlockHolder)
  | controlOutsideFunction
  | nestedTooDeep
  | unexpectedClose
  -- Keywords
  | unknownKeyword (word : Text)
  | keywordWithoutValue (word : Text)
  | keywordInFunction (word : Text)
  | mailKeywordOutside (word : Text)
  | pluginKeywordOutside (word : Text)
  | tableKeywordOutside (word : Text)
  | keywordInMail (word : Text)
  | keywordInPlugin (word : Text)
  | keywordInTable (word : Text)
  -- Records
  | secondDefaultAccount
  | tooManyAccounts (limit : Nat)
  | tooManyPlugins (limit : Nat)
  | tooManyTables (limit : Nat)
  | tooManyRecipients (limit : Nat)
  | tooManyColumns (limit : Nat)
  | tooManyAgents (limit : Nat)
  | accountLacks (word : String)
  | pluginLacks (what : String)
  | tableLacks (word : String)
  | badOutputType
  | keyColumnNotNumber
  | keyColumnOutOfRange (columns : Nat)
  -- Rules
  | filterWithoutArrow
  | filterWithoutMatch
  | filterWithoutDestination (pattern : Text)
  | domainWithoutDot (domain : Text)
  | badAgentSite
  | noSuchAgent (index : Int)
  -- Paths
  | notDirectory (path : Path)
  | notRegularFile (role : FileRole) (path : Path)
  | cookieJarNotWritable (path : Path)
  | certificatesNotReadable (path : Path)
  -- Application configurations
  | documentNotFound (path : Path)
  | unknownFormat (suffix : Text)
  | invalidYaml
  | invalidJson
  /-- The fields complained about, if the document has fields at all. -/
  | invalidDocument (complaints : Option (List FieldComplaint))
  deriving Repr, DecidableEq

namespace ConfigFault

/-- The wording of a fault. What a document reader has to add is not part of it. -/
def message : ConfigFault → String
  | nullCharacter => "null character in file"
  | functionUnnamed => "function has no name"
  | functionNameTooLong limit => s!"function name longer than {limit} characters"
  | functionHeader => "syntax error in function header"
  | unreadable reason => s!"cannot read config file: {reason.text}"
  | includedTooDeep limit => s!"includes nested more than {limit} deep"
  | blockLeftOpen => "mail, plugin or table block not closed"
  | functionLeftOpen name => s!"function {name.toString} not closed"
  | elseWithoutIf => "else without if"
  | strayText => "text outside of any block or function"
  | blockInside holder => s!"cannot start a block inside {holder.text}"
  | controlOutsideFunction => "control statement outside a function"
  | nestedTooDeep => "blocks nested too deeply"
  | unexpectedClose => "unexpected \x7d"
  | unknownKeyword word => s!"unrecognized keyword {word.toString}"
  | keywordWithoutValue word => s!"keyword {word.toString} has no value"
  | keywordInFunction word => s!"keyword {word.toString} inside a function"
  | mailKeywordOutside word => s!"mail attribute {word.toString} outside a mail block"
  | pluginKeywordOutside word => s!"plugin attribute {word.toString} outside a plugin block"
  | tableKeywordOutside word => s!"table attribute {word.toString} outside a table block"
  | keywordInMail word => s!"keyword {word.toString} inside a mail or filter block"
  | keywordInPlugin word => s!"keyword {word.toString} inside a plugin block"
  | keywordInTable word => s!"keyword {word.toString} inside a table block"
  | secondDefaultAccount => "more than one default mail account"
  | tooManyAccounts limit => s!"too many mail accounts, limit {limit}"
  | tooManyPlugins limit => s!"too many plugins, limit {limit}"
  | tooManyTables limit => s!"too many sql tables, limit {limit}"
  | tooManyRecipients limit => s!"too many automatic recipients or attachments, limit {limit}"
  | tooManyColumns limit => s!"too many columns, limit {limit}"
  | tooManyAgents limit => s!"too many user agents, limit {limit}"
  | accountLacks word => s!"mail account has no {word}"
  | pluginLacks what => s!"plugin has no {what}"
  | tableLacks word => s!"table has no {word}"
  | badOutputType => "outtype must be h or t"
  | keyColumnNotNumber => "keycol must be a number"
  | keyColumnOutOfRange columns => s!"key column out of range, table has {columns} columns"
  | filterWithoutArrow => "filter line has no >"
  | filterWithoutMatch => "filter line has no match string"
  | filterWithoutDestination pattern => s!"nowhere to redirect {pattern.toString}"
  | domainWithoutDot domain => s!"domain {domain.toString} does not contain a dot"
  | badAgentSite => "agentsite needs a domain and an agent number"
  | noSuchAgent index => s!"no user agent number {index}"
  | notDirectory path => s!"{path.toText.toString} is not a directory"
  | notRegularFile role path => s!"{role.text} {path.toText.toString} is not a regular file"
  | cookieJarNotWritable path => s!"cannot create or write to cookie jar {path.toText.toString}"
  | certificatesNotReadable path => s!"cannot read certificate file {path.toText.toString}"
  | documentNotFound path => s!"Config file not found: {path.toText.toString}"
  | unknownFormat suffix => s!"Unsupported config format: {suffix.toString}"
  | invalidYaml => "Invalid YAML:"
  | invalidJson => "Invalid JSON:"
  | invalidDocument _ => "Invalid application config:"

/-- The sort of a fault. -/
def category : ConfigFault → Category
  | unreadable _ => .resource
  | secondDefaultAccount | tooManyAccounts _ | tooManyPlugins _ | tooManyTables _
  | tooManyRecipients _ | tooManyColumns _ | tooManyAgents _ | accountLacks _ | pluginLacks _
  | tableLacks _ | keyColumnOutOfRange _ | noSuchAgent _ | notDirectory _ | notRegularFile _ _
  | cookieJarNotWritable _ | certificatesNotReadable _ => .meaning
  | _ => .form

/-- Is the fault laid to a path that a line names, and not to the line itself? -/
def aboutPath : ConfigFault → Bool
  | notDirectory _ | notRegularFile _ _ | cookieJarNotWritable _ | certificatesNotReadable _ =>
    true
  | _ => false

end ConfigFault

/-- A fault, the file it lies in, and its line. -/
structure ConfigError where
  fault : ConfigFault
  path : Option Text
  line : Option Nat
  deriving Repr, DecidableEq

namespace ConfigError

/-- What is told about the error. -/
def report (e : ConfigError) : Report :=
  .config e.fault.message (Report.optionalText e.path)
    (match e.line with | none => .null | some n => .int n) .high e.fault.category

/-- The message with the place in front. -/
def text (e : ConfigError) : String := e.report.text

end ConfigError

end Ebrc
