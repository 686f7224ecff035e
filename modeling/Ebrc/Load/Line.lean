import Ebrc.Load.GlobalKeyword
import Ebrc.Load.PathKeyword

/-!
# One line of an rc file

What a line does depends on the block it stands in. A line of a filter block is a rule, unless
it is a control line. Any other line is the value of a keyword, a flag, the end of a block, an
else, text, or the start of a block, whichever of these it can be first. Text belongs into
functions only, and so do control blocks.
-/

namespace Ebrc

namespace Progress

/-- Give a keyword that belongs to no block its value. What an include does is up to
`include`. -/
def setGlobal (around : Surroundings) (includeFile : Text → Progress → Except Stop Progress)
    (here : Position) (keyword : GlobalKeyword) (v : Text) (p : Progress) :
    Except Stop Progress :=
  let keep (r : Except Refusal Loaded) : Except Stop Progress :=
    (p.orRefuse here r).map fun loaded => { p with loaded }
  let keepNumber (r : Except Refusal Int) (set : Int → Loaded → Loaded) :=
    keep (r.map fun n => set n p.loaded)
  match keyword with
  | .downloadDir => p.setDownloadDir around.environment here v
  | .mailDir => p.setMailDir around.environment here v
  | .cookieJar => p.setCookieJar around.environment here v
  | .certificates => p.setCertificates around.environment here v
  | .addressBook => p.setAddressBook around.environment here v
  | .emojis => p.setEmojis around.environment here v
  | .includeFile => includeFile v p
  | .agent => keep (p.loaded.addAgent around.limits.agents v)
  | .noScript => keep (p.loaded.addSiteRule .noScript here.line v)
  | .noVerify => keep (p.loaded.addSiteRule .noVerify here.line v)
  | .proxy => keep (.ok (p.loaded.addRule (Loaded.proxyRule here.line v)))
  | .agentSite => keep (p.loaded.addAgentSite here.line v)
  | .webTimeout => keepNumber (leadingNumber v) fun n s => { s with webTimeout := n }
  | .mailTimeout => keepNumber (leadingNumber v) fun n s => { s with mailTimeout := n }
  | .imapFetch => keepNumber (Loaded.clampedNumber 10 1000 v) fun n s => { s with imapFetch := n }
  | .cacheSize => keepNumber (Loaded.clampedNumber 0 10000 v) fun n s => { s with cacheSize := n }
  | .cacheDir => .ok (p.modify fun s => { s with cacheDir := some v })
  | .dataSource => .ok (p.modify fun s => { s with dataSource := DataSource.ofText v })
  | .language => .ok (p.modify fun s => { s with language := some v })
  | .envelope => .ok (p.modify fun s => { s with envelope := some v })

/-- Is a keyword allowed in a block? -/
def keywordFault? (word : Text) : OpenBlock → Keyword → Option ConfigFault
  | .function _ _, _ => some (.keywordInFunction word)
  | .account _, .account _ | .plugin _, .plugin _ | .table _, .table _ => none
  | .none, .everywhere _ => none
  | _, .account _ => some (.mailKeywordOutside word)
  | _, .plugin _ => some (.pluginKeywordOutside word)
  | _, .table _ => some (.tableKeywordOutside word)
  | .account _, .everywhere _ | .filter _, .everywhere _ => some (.keywordInMail word)
  | .plugin _, .everywhere _ => some (.keywordInPlugin word)
  | .table _, .everywhere _ => some (.keywordInTable word)

/-- Give a keyword its value. -/
def assign (around : Surroundings) (includeFile : Text → Progress → Except Stop Progress)
    (here : Position) (word : Text) (keyword : Keyword) (v : Text) (p : Progress) :
    Except Stop Progress :=
  match keywordFault? word p.block keyword with
  | some fault => p.stop here fault
  | none =>
    if v = [] then p.stop here (.keywordWithoutValue word)
    else
      match p.block, keyword with
      | .account a, .account k =>
        (p.orRefuse here (a.set around.limits.recipients k v)).map fun a =>
          { p with block := .account a }
      | .plugin q, .plugin k =>
        (p.orRefuse here (q.set k v)).map fun q => { p with block := .plugin q }
      | .table t, .table k =>
        (p.orRefuse here (t.set around.limits.columns k v)).map fun t =>
          { p with block := .table t }
      | _, .everywhere k => p.setGlobal around includeFile here k v
      | _, _ => .ok p

/-- Turn on a flag of the account whose block is open. -/
def turnOn (here : Position) (flag : AccountFlag) (a : Account) (p : Progress) :
    Except Stop Progress :=
  match flag with
  | .standard =>
    let current := p.loaded.accounts.length + 1
    if p.loaded.defaultAccount = current then .ok p
    else if p.loaded.defaultAccount ≠ 0 then p.stop here .secondDefaultAccount
    else .ok (p.modify fun s => { s with defaultAccount := current })
  | .noFetch => .ok { p with block := .account { a with noFetch := true } }
  | .secure => .ok { p with block := .account { a with secure := true } }
  | .imap => .ok { p with block := .account { a with imap := true, noFetch := true } }

/-- Add the rule of a line of a filter block: a pattern and a destination, with an arrow
between them. -/
def addFilter (here : Position) (kind : RuleKind) (line : Line) (p : Progress) :
    Except Stop Progress :=
  match Text.cut '>' line with
  | (_, none) => p.stop here .filterWithoutArrow
  | (before, some after) =>
    let pattern := Text.stripRight Text.isLineBlank before
    let destination := Text.strip Text.isLineBlank after
    if pattern = [] then p.stop here .filterWithoutMatch
    else if destination = [] then p.stop here (.filterWithoutDestination pattern)
    else .ok (p.modify (Loaded.addRule
      { kind, pattern := some pattern, destination := some destination, line := here.line }))

/-- Start a block outside of all others. -/
def startBlock (limits : Limits) (here : Position) (letter : Option Char) (payload : Text)
    (p : Progress) : Except Stop Progress :=
  match letter with
  | some 'm' =>
    if limits.accounts ≤ p.loaded.accounts.length then
      p.stop here (.tooManyAccounts limits.accounts)
    else .ok { p with block := .account {} }
  | some 'e' =>
    if limits.plugins ≤ p.loaded.plugins.length then
      p.stop here (.tooManyPlugins limits.plugins)
    else .ok { p with block := .plugin {} }
  | some 'b' =>
    if limits.tables ≤ p.loaded.tables.length then p.stop here (.tooManyTables limits.tables)
    else .ok { p with block := .table {} }
  | some 'r' => .ok { p with block := .filter .fromFilter }
  | some 't' => .ok { p with block := .filter .toFilter }
  | some 's' => .ok { p with block := .filter .subjectFilter }
  | some 'f' =>
    let name := payload.drop 1
    .ok { p.modify (Loaded.addRule
        { kind := .function
          pattern := some name
          body := some .unsealed
          mindful := payload.head? = some mindfulMark
          line := here.line }) with
      block := .function (some { name, line := here.line }) [] }
  | none =>
    if limits.nesting ≤ 1 then p.stop here .nestedTooDeep
    else .ok { p with block := .function none [] }
  | some _ => p.stop here .controlOutsideFunction

/-- Is the block one that only stands outside of all others? A block without a letter counts as
one. -/
def isTopLevel (letter : Option Char) : Bool := letter.all (· ∈ BlockLetter.topLevel)

/-- Keep a line as part of the body of the open function, inside of which these blocks are now
open. -/
def keepLine (line : Line) (function : Option OpenFunction) (inner : List (Option Char))
    (p : Progress) : Progress :=
  { p with
    block := .function (function.map fun f => { f with body := line :: f.body }) inner }

/-- Start a block. -/
def openBlock (limits : Limits) (here : Position) (line : Line) (p : Progress) :
    Except Stop Progress :=
  let letter := line.tail.head?
  match p.block with
  | .none =>
    if isTopLevel letter then p.startBlock limits here letter (line.drop 2)
    else p.stop here .controlOutsideFunction
  | .function function inner =>
    if isTopLevel letter then p.stop here (.blockInside .function)
    else if limits.nesting ≤ inner.length + 2 then p.stop here .nestedTooDeep
    else .ok (p.keepLine line function (letter :: inner))
  | block =>
    match isTopLevel letter, block.holder? with
    | true, some holder => p.stop here (.blockInside holder)
    | _, _ => p.stop here .controlOutsideFunction

/-- Make the lines collected the body of the function that is being closed. -/
def closeFunction (function : Option OpenFunction) (p : Progress) : Except Stop Progress :=
  match function with
  | none => { p with block := .none }.crash .noOpenFunction
  | some f =>
    match Body.close f.body.reverse .unsealed with
    | .error crash => p.crash crash
    | .ok body =>
      .ok { p.modify fun s =>
          { s with rules := s.rules.modifyLast fun rule => { rule with body := some body } } with
        block := .none }

/-- End the innermost block. A record must be complete. -/
def closeBlock (here : Position) (line : Line) (p : Progress) : Except Stop Progress :=
  match p.block with
  | .none => p.stop here .unexpectedClose
  | .account a =>
    match a.missing? with
    | some word => p.stop here (.accountLacks word)
    | none =>
      .ok { p.modify fun s => { s with accounts := s.accounts ++ [a.withDefaults] } with
        block := .none }
  | .filter _ => .ok { p with block := .none }
  | .plugin q =>
    match q.missing? with
    | some what => p.stop here (.pluginLacks what)
    | none => .ok { p.modify fun s => { s with plugins := s.plugins ++ [q] } with block := .none }
  | .table t =>
    match t.missing? with
    | some word => p.stop here (.tableLacks word)
    | none => .ok { p.modify fun s => { s with tables := s.tables ++ [t] } with block := .none }
  | .function function (_ :: inner) => .ok (p.keepLine line function inner)
  | .function function [] => p.closeFunction function

/-- May a block with this letter have an else? The dotless i counts as an i. -/
def admitsElse (letter : Option Char) : Bool :=
  letter = some BlockLetter.ifOk || letter = some BlockLetter.ifFailed || letter = some 'ı'

/-- Take a line that is neither the value of a keyword nor part of a filter. -/
def takeLine (limits : Limits) (here : Position) (line : Line) (p : Progress) :
    Except Stop Progress :=
  let other : Except Stop Progress :=
    if line = Line.close then p.closeBlock here line
    else if line = Line.between then
      match p.block with
      | .function function (letter :: inner) =>
        if admitsElse letter then .ok (p.keepLine line function (letter :: inner))
        else p.stop here .elseWithoutIf
      | _ => p.stop here .elseWithoutIf
    else if line.head? ≠ some Line.openMark then
      match p.block with
      | .function function inner => .ok (p.keepLine line function inner)
      | _ => p.stop here .strayText
    else p.openBlock limits here line
  match p.block with
  | .account a =>
    match AccountFlag.ofLine? line with
    | some flag => p.turnOn here flag a
    | none => other
  | .plugin q =>
    match PluginFlag.ofLine? line with
    | some flag => .ok { p with block := .plugin (q.turnOn flag) }
    | none => other
  | _ => other

/-- Read a line. -/
def readLine (around : Surroundings)
    (includeFile : Position → Text → Progress → Except Stop Progress)
    (here : Position) (line : Line) (p : Progress) : Except Stop Progress :=
  if Line.isVoid line then .ok p
  else
    match p.block, Line.isControl line with
    | .filter kind, false => p.addFilter here kind line
    | _, _ =>
      match splitAssignment? line with
      | none => p.takeLine around.limits here line
      | some (word, v) =>
        match Keyword.ofWord? word, p.block with
        | some keyword, _ => p.assign around (includeFile here) here word keyword v
        | none, .function _ _ => p.takeLine around.limits here line
        | none, _ => p.stop here (.unknownKeyword word)

end Progress

end Ebrc
