import Ebrc.Record.Account
import Ebrc.Record.Plugin
import Ebrc.Record.Table

/-!
# Keywords

A line `word = value` gives a value to a keyword, if the word is made of ASCII letters. Each
keyword belongs to one kind of block, or to none.
-/

namespace Ebrc

/-- Keywords that belong to no block. -/
inductive GlobalKeyword where
  | downloadDir
  | mailDir
  | agent
  | cookieJar
  | noScript
  | cacheDir
  | webTimeout
  | mailTimeout
  | certificates
  | dataSource
  | proxy
  | agentSite
  | language
  | imapFetch
  | noVerify
  | cacheSize
  | addressBook
  | envelope
  | emojis
  | includeFile
  deriving Repr, DecidableEq

/-- A keyword. -/
inductive Keyword where
  | account (k : AccountKeyword)
  | plugin (k : PluginKeyword)
  | table (k : TableKeyword)
  | everywhere (k : GlobalKeyword)
  deriving Repr, DecidableEq

namespace Keyword

/-- All keywords and the words that spell them. -/
def spellings : List (String × Keyword) := [
  ("inserver", .account .inServer), ("outserver", .account .outServer),
  ("login", .account .login), ("password", .account .password),
  ("from", .account .sender), ("reply", .account .reply),
  ("inport", .account .inPort), ("outport", .account .outPort),
  ("to", .account (.recipient .to)), ("cc", .account (.recipient .cc)),
  ("bcc", .account (.recipient .bcc)), ("attach", .account (.recipient .attachment)),
  ("type", .plugin .type), ("desc", .plugin .description), ("suffix", .plugin .suffix),
  ("protocol", .plugin .protocol), ("program", .plugin .program),
  ("content", .plugin .content), ("outtype", .plugin .outputType),
  ("urlmatch", .plugin .urlMatch),
  ("tname", .table .name), ("tshort", .table .shortName), ("cols", .table .columns),
  ("keycol", .table .keyColumns),
  ("downdir", .everywhere .downloadDir), ("maildir", .everywhere .mailDir),
  ("agent", .everywhere .agent), ("jar", .everywhere .cookieJar),
  ("nojs", .everywhere .noScript), ("cachedir", .everywhere .cacheDir),
  ("webtimer", .everywhere .webTimeout), ("mailtimer", .everywhere .mailTimeout),
  ("certfile", .everywhere .certificates), ("datasource", .everywhere .dataSource),
  ("proxy", .everywhere .proxy), ("agentsite", .everywhere .agentSite),
  ("localizeweb", .everywhere .language), ("imapfetch", .everywhere .imapFetch),
  ("novs", .everywhere .noVerify), ("cachesize", .everywhere .cacheSize),
  ("adbook", .everywhere .addressBook), ("envelope", .everywhere .envelope),
  ("emojis", .everywhere .emojis), ("emoji", .everywhere .emojis),
  ("include", .everywhere .includeFile)]

/-- The keyword that a word spells. -/
def ofWord? (word : Text) : Option Keyword :=
  (spellings.find? fun (spelling, _) => spelling.toList = word).map (·.2)

end Keyword

/-- Divide a line `word = value`; blanks around the value, and before the equals sign, do not
count. -/
def splitAssignment? (line : Text) : Option (Text × Text) :=
  match Text.cut '=' line with
  | (_, none) => none
  | (before, some after) =>
    let word := Text.stripRight Text.isLineBlank before
    if !word.isEmpty && word.all Char.isAlpha then
      some (word, Text.strip Text.isLineBlank after)
    else none

end Ebrc
