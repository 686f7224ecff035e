import Ebrc.Text.Digit
import Ebrc.Text.WordChar
import Ebrc.Text.Case
import Ebrc.Text.Quoted
import Ebrc.Text.Glob
import Ebrc.Environment
import Ebrc.FileSystem
import Ebrc.Document.Json
import Ebrc.Limits
import Ebrc.Settings
import Ebrc.Settings.Act
import Ebrc.Encoding
import Ebrc.Rule
import Ebrc.Load
import Ebrc.FunctionError
import Ebrc.ConfigError
import Ebrc.Crash
import Ebrc.SiteRules
import Ebrc.MailRules
import Ebrc.Replacements
import Ebrc.Call
import Ebrc.AppConfig
import Ebrc.Main
import Ebrc.Event.Record
import Ebrc.Proofs.Machine.Trace
import Ebrc.Proofs.Invocation
import Ebrc.Proofs.Script
import Ebrc.Proofs.Script.Layout
import Ebrc.Proofs.Script.Refinement
import Ebrc.Proofs.Script.Execution
import Ebrc.Proofs.Call.History
import Ebrc.Proofs.Call.Settings
import Ebrc.Proofs.Machine.Nesting
import Ebrc.Proofs.Machine.Termination
import Ebrc.Proofs.Load.Trail
import Ebrc.Proofs.Load.Functions
import Ebrc.Proofs.Call.Safety
import Ebrc.Proofs.Load.Records
import Ebrc.Proofs.Load.Validity
import Ebrc.Proofs.Load.DefaultAccount
import Ebrc.Proofs.Load.Visits
import Ebrc.Proofs.Text.Number
import Ebrc.Proofs.Text.Words
import Ebrc.Proofs.Load.Hazards
import Ebrc.Proofs.Load.Crashes
import Ebrc.Proofs.Load.Stops
import Ebrc.Proofs.Load.Course
import Ebrc.Proofs.Load.Failure
import Ebrc.Proofs.Load.Places
import Ebrc.Proofs.Load.Includes
import Ebrc.Proofs.Load.Grammar
import Ebrc.Proofs.Load.Bodies
import Ebrc.Proofs.Load.Positions
import Ebrc.Proofs.Call.Commands
import Ebrc.Proofs.Call.Termination
import Ebrc.Proofs.Call.Forwarding
import Ebrc.Proofs.Call.Interrupt
import Ebrc.Proofs.Load.Again
import Ebrc.Proofs.Load.Loop
import Ebrc.Proofs.Call.Limits
import Ebrc.Proofs.Call.Depth
import Ebrc.Proofs.Load.Caps
import Ebrc.Proofs.Text.Lines
import Ebrc.Proofs.Text.Utf8
import Ebrc.Proofs.Load.FromFile
import Ebrc.Proofs.Load.Separation
import Ebrc.Proofs.Load.LineByLine
import Ebrc.Proofs.Load.Headers
import Ebrc.Proofs.Load.Layout
import Ebrc.Proofs.Load.Concatenation
import Ebrc.Proofs.Rules
import Ebrc.Proofs.Session.Agent
import Ebrc.Proofs.Machine.Mindful
import Ebrc.Proofs.Call.Mindful
import Ebrc.Proofs.Text.Decimal
import Ebrc.Proofs.Program.RoundTrip
import Ebrc.Proofs.Call.Lookup
import Ebrc.Proofs.Load.AccountEntries
import Ebrc.Proofs.Load.Unseen
import Ebrc.Proofs.Load.MailBlock
import Ebrc.Proofs.Load.AccountOrder
import Ebrc.Proofs.Load.LastValues
import Ebrc.Proofs.Site.Domain
import Ebrc.Proofs.Load.ProxyLines
import Ebrc.Proofs.MailRules
import Ebrc.Proofs.Load.SiteRules
import Ebrc.Proofs.Replacements
import Ebrc.Proofs.Call.SettingsCommands
import Ebrc.Proofs.Settings.Acts
import Ebrc.Proofs.Program.Partners
import Ebrc.Proofs.Machine.Frames
