import Ebrc.Proofs.Load.Layout
import Ebrc.Proofs.Load.MailBlock
import Ebrc.Proofs.Site.Route

/-!
# Lines about proxies

Each line of an rc file that sets the keyword proxy adds one rule, in the order of the lines, and
fails at nothing but a null character. So what leads to a URL can be read off the values of these
lines: the first one that is about the URL tells the proxy.
-/

namespace Ebrc

/-- A line that gives the keyword proxy this value. -/
def assignProxy (gap value : Text) : Text := "proxy".toList ++ (gap ++ '=' :: value)

/-- A source line that gives the keyword proxy a value, with blanks in front of the keyword and
behind it. There is a word in the value. -/
structure ProxyLine where
  indent : Text := []
  gap : Text := []
  value : Text
  indent_blank : indent.all Text.isLineBlank := by decide
  gap_blank : gap.all Text.isLineBlank := by decide
  ascii : value.IsAscii := by decide
  given : Text.words value ≠ [] := by decide

namespace ProxyLine

/-- The line as it is written. -/
def toText (line : ProxyLine) : Text := line.indent ++ assignProxy line.gap line.value

/-- What the line says. -/
def route (line : ProxyLine) : Route := .ofValue line.value

/-- The rules that are made of lines of which the first one has this number. -/
def rulesFrom : Nat → List ProxyLine → RuleTable
  | _, [] => []
  | number, line :: rest => line.route.rule number :: rulesFrom (number + 1) rest

theorem value_ne_nil (line : ProxyLine) : line.value ≠ [] := by
  intro empty
  have given := line.given
  rw [empty] at given
  exact given rfl

theorem route_given (line : ProxyLine) : line.route.domain ≠ some [] ∧ line.route.proxy ≠ [] :=
  Route.given_of_words line.given fun _ among => (Text.of_mem_words among).1

end ProxyLine

variable {word gap value : Text}

theorem isBlank_of_isLineBlank (c : Char) (blank : Text.isLineBlank c) : Text.isBlank c := by
  simp only [Text.isLineBlank, Bool.or_eq_true, decide_eq_true_eq] at blank
  rcases blank with rfl | rfl <;> decide

/-- A line is divided at the equals sign behind a word of letters. -/
theorem splitAssignment?_append (given : word ≠ []) (letters : word.all Char.isAlpha)
    (apart : ∀ c ∈ gap, Text.isLineBlank c) (t : Text) :
    splitAssignment? (word ++ (gap ++ '=' :: t)) =
      some (word, Text.strip Text.isLineBlank t) := by
  have solid : ∀ c ∈ word, Text.isLineBlank c = false := by
    intro c among
    cases blank : Text.isLineBlank c with
    | false => rfl
    | true =>
        have letter := List.all_eq_true.1 letters c among
        simp only [Text.isLineBlank, Bool.or_eq_true, decide_eq_true_eq] at blank
        rcases blank with rfl | rfl <;> contradiction
  have absent : '=' ∉ word ++ gap := by
    rw [List.mem_append, not_or]
    exact ⟨Url.not_mem_of_all letters (by decide), Encoding.not_mem_of_blank apart rfl⟩
  unfold splitAssignment?
  rw [← List.append_assoc, Text.cut_append absent]
  dsimp only
  rw [Text.stripRight_append_of_all apart, Text.stripRight_eq_self solid, letters,
    List.isEmpty_eq_false_iff.2 given]
  rfl

/-- The words of the value make the rule. -/
theorem proxyRule_congr {v : Text} (same : Text.words v = Text.words value) (number : Nat) :
    Loaded.proxyRule number v = Loaded.proxyRule number value := by
  unfold Loaded.proxyRule
  rw [same]

/-! ## Encoding lines -/

namespace Encoding

variable {maxName : Int}

theorem words_dropReturn (t : Text) : Text.words (dropReturn t) = Text.words t := by
  by_cases last : t.getLast? = some '\r'
  · obtain ⟨front, rfl⟩ : ∃ front, t = front ++ ['\r'] :=
      ⟨_, (List.dropLast_append_getLast? '\r' last).symm⟩
    rw [dropReturn_append_return]
    have blank : Text.isBlank '\r' := by decide
    exact ((Text.spaced_words front).append_blank (by simpa using blank)).words_eq.symm
  · rw [dropReturn_eq_self last]

/-- No structural phrase begins like the keyword. -/
theorem header?_proxy (rest : Text) : header? maxName ('p' :: 'r' :: rest) = .ok none := by
  have apart : ∀ entry ∈ fixedPhrases, entry.1.take 2 ≠ ['p', 'r'] := by decide
  have unfixed : fixedPhrases.lookup ('p' :: 'r' :: rest) = none := by
    rw [List.lookup_eq_none_iff]
    intro entry among
    rw [bne_iff_ne]
    intro same
    exact apart entry among (by rw [← same]; rfl)
  unfold header?
  rw [unfixed]
  rfl

theorem dropReturn_assignProxy (gap : Text) (given : value ≠ []) :
    dropReturn (assignProxy gap value) = assignProxy gap (dropReturn value) := by
  have parts (t : Text) : assignProxy gap t = ("proxy".toList ++ (gap ++ ['='])) ++ t := by
    simp [assignProxy]
  rw [parts, parts, dropReturn_append given]

/-- The line is encoded as it stands, without its indentation and a return at its end. -/
theorem encodeLine_assignProxy (apart : ∀ c ∈ gap, Text.isLineBlank c) (given : value ≠ [])
    (clean : '\x00' ∉ value) :
    encodeLine maxName (assignProxy gap value) = .ok (assignProxy gap (dropReturn value)) := by
  have absent : (assignProxy gap value).contains '\x00' = false := by
    have blanks := not_mem_of_blank apart (c := '\x00') rfl
    simp [assignProxy, blanks, clean]
  have kept : Text.stripLeft Text.isLineBlank (assignProxy gap (dropReturn value)) =
      assignProxy gap (dropReturn value) := rfl
  have comment : (assignProxy gap (dropReturn value)).head? ≠ some '#' := by
    intro same
    exact absurd (Option.some.inj same) (by decide)
  obtain ⟨rest, looked⟩ : ∃ rest,
      phrase (assignProxy gap (dropReturn value)) = 'p' :: 'r' :: rest := ⟨_, rfl⟩
  unfold encodeLine
  rw [absent, dropReturn_assignProxy gap given, if_neg Bool.false_ne_true, kept]
  dsimp only
  rw [if_neg comment, looked, header?_proxy]
  rfl

/-- So is every such line, unless there is a null character in its value. -/
theorem encodeLine_proxyLine (line : ProxyLine) (clean : '\x00' ∉ line.value) :
    encodeLine maxName line.toText = .ok (assignProxy line.gap (dropReturn line.value)) := by
  rw [ProxyLine.toText, encodeLine_indent (List.all_eq_true.1 line.indent_blank)]
  exact encodeLine_assignProxy (List.all_eq_true.1 line.gap_blank) line.value_ne_nil clean

theorem clean_of_encodeLine {line : ProxyLine} {encoded : Line}
    (accepted : encodeLine maxName line.toText = .ok encoded) : '\x00' ∉ line.value := by
  intro among
  have within : line.toText.contains '\x00' := by
    simp [ProxyLine.toText, assignProxy, among]
  rw [encodeLine, if_pos within] at accepted
  contradiction

end Encoding

/-! ## Reading lines -/

namespace Progress

variable {around : Surroundings} {here : Position} {file : Text} {p : Progress} {maxName : Int}
  {includeFile : Position → Text → Progress → Except Stop Progress}

theorem readLine_assignProxy (outside : p.block = .none) (apart : ∀ c ∈ gap, Text.isLineBlank c)
    (given : Text.words value ≠ []) :
    p.readLine around includeFile here (assignProxy gap value) =
      .ok (p.modify (Loaded.addRule (Loaded.proxyRule here.line value))) := by
  have same : Text.words (Text.strip Text.isLineBlank value) = Text.words value :=
    Text.words_strip isBlank_of_isLineBlank value
  have valued : Text.strip Text.isLineBlank value ≠ [] := by
    intro empty
    rw [empty] at same
    exact given same.symm
  have divided : splitAssignment? (assignProxy gap value) =
      some ("proxy".toList, Text.strip Text.isLineBlank value) :=
    splitAssignment?_append (by decide) (by decide) apart value
  have keyword : Keyword.ofWord? "proxy".toList = some (.everywhere .proxy) := by decide
  have allowed : keywordFault? "proxy".toList .none (.everywhere .proxy) = none := rfl
  have spoken : ¬Line.isVoid (assignProxy gap value) := by
    rw [Line.isVoid_iff]
    rintro (empty | comment)
    · contradiction
    · exact absurd (List.cons.inj comment).1 (by decide)
  unfold readLine
  rw [if_neg spoken, outside, divided]
  dsimp only
  rw [keyword]
  dsimp only
  unfold assign
  rw [outside, allowed]
  dsimp only
  rw [if_neg valued, ← proxyRule_congr same here.line]
  rfl

/-- Line by line, the rules are added behind those that are there. -/
theorem readLines_proxyLines {rows : List ProxyLine} (clean : ∀ line ∈ rows, '\x00' ∉ line.value)
    (outside : p.block = .none) (number : Nat) :
    readLines around includeFile file number
        (rows.map fun line => Encoding.lineOf maxName line.toText) p =
      .ok (p.modify fun s => { s with rules := s.rules ++ ProxyLine.rulesFrom number rows }) := by
  induction rows generalizing number p with
  | nil => simp [readLines, modify, ProxyLine.rulesFrom]
  | cons line rows ih =>
      rw [List.forall_mem_cons] at clean
      -- The encoding may have cut a return off, which is none of the words.
      have same := Encoding.words_dropReturn line.value
      have given : Text.words (Encoding.dropReturn line.value) ≠ [] := by
        rw [same]
        exact line.given
      have read : p.readLine around includeFile ⟨file, number⟩
          (assignProxy line.gap (Encoding.dropReturn line.value)) =
          .ok (p.modify (Loaded.addRule (line.route.rule number))) := by
        rw [readLine_assignProxy outside (List.all_eq_true.1 line.gap_blank) given,
          proxyRule_congr same, Route.proxyRule_eq line.ascii]
        rfl
      have later := ih (p := p.modify (Loaded.addRule (line.route.rule number))) clean.2 outside
        (number + 1)
      rw [List.map_cons, Encoding.lineOf_eq (Encoding.encodeLine_proxyLine line clean.1), readLines,
        read]
      refine Eq.trans later ?_
      simp [modify, Loaded.addRule, ProxyLine.rulesFrom]

end Progress

/-! ## The rule that decides -/

namespace RuleTable

variable {protocol url : Text}

theorem first?_cons {rule : Rule} {rules : RuleTable} {kind : RuleKind} {test : Rule → Bool}
    (same : rule.kind = kind) :
    first? (rule :: rules) kind test = if test rule then some rule else first? rules kind test := by
  unfold first? ofKinds
  rw [List.filter_cons_of_pos (by simpa using same), List.find?_cons]
  cases test rule <;> rfl

/-- The first rule about a URL is made of the first line about it. -/
theorem first?_rulesFrom (rows : List ProxyLine) (number : Nat) (named : protocol ≠ [])
    (small : Text.lower protocol = protocol) :
    (first? (ProxyLine.rulesFrom number rows) .proxy (·.servesUrl protocol url)).elim
        directConnection Rule.proxyOrDirect =
      (rows.find? (·.route.Applies protocol url)).elim directConnection (·.route.answer) := by
  induction rows generalizing number with
  | nil => rfl
  | cons line rows ih =>
      obtain ⟨domain, proxy⟩ := line.route_given
      have serves : (line.route.rule number).servesUrl protocol url ↔
          line.route.Applies protocol url := Route.servesUrl_rule number named small domain
      have kind : (line.route.rule number).kind = .proxy := rfl
      rw [ProxyLine.rulesFrom, first?_cons kind, List.find?_cons]
      by_cases applies : line.route.Applies protocol url
      · rw [if_pos (serves.2 applies), decide_eq_true applies]
        exact Route.proxyOrDirect_rule number proxy
      · rw [if_neg (applies ∘ serves.1), decide_eq_false applies]
        exact ih (number + 1)

end RuleTable

/-! ## Texts of such lines -/

namespace Loaded

variable {around : Surroundings} {before : Loaded} {text file : Text} {files : FileSystem}
  {log : EventLog} {rows : List ProxyLine}

/-- The rules of the lines are all that is loaded. -/
theorem loadText_proxyLines (there : Text.lines text = rows.map ProxyLine.toText)
    (clean : ∀ line ∈ rows, '\x00' ∉ line.value) :
    let result := before.loadText around text file files log
    result.fault = none ∧ result.loaded.rules = ProxyLine.rulesFrom 1 rows := by
  intro result
  obtain ⟨includeFile, -, whole⟩ :=
    Progress.Beside.exists_readFile_eq_readAll around around.limits.includeDepth
  have encoded : Encoding.lines text file around.limits.functionName =
      .ok (rows.map fun line => Encoding.lineOf around.limits.functionName line.toText) := by
    rw [Encoding.lines_eq_ok_iff, there, List.map_map]
    refine ⟨fun source among => ?_, rfl⟩
    obtain ⟨line, within, rfl⟩ := List.mem_map.1 among
    exact ⟨_, Encoding.encodeLine_proxyLine line (clean line within)⟩
  have root : ∃ p, before.readRoot around file
      (rows.map fun line => Encoding.lineOf around.limits.functionName line.toText) files log =
        .ok p ∧ p.loaded.rules = ProxyLine.rulesFrom 1 rows := by
    have outside : (before.begin file files log).block = .none := rfl
    unfold readRoot
    rw [whole, Progress.readAll, Progress.readLines_proxyLines clean outside 1]
    refine ⟨_, rfl, ?_⟩
    dsimp only [Progress.modify]
    split <;> rfl
  obtain ⟨p, read, rules⟩ := root
  have loaded : result = ⟨none, p.loaded, p.files, p.log.push (p.loaded.report file)⟩ := by
    rw [← show before.loadText around text file files log = result from rfl,
      loadText_of_lines encoded, read]
  rw [loaded]
  exact ⟨rfl, rules⟩

theorem clean_of_loadText (there : Text.lines text = rows.map ProxyLine.toText)
    (accepted : (before.loadText around text file files log).fault = none) :
    ∀ line ∈ rows, '\x00' ∉ line.value := by
  obtain ⟨lines, -, -, encoded, -⟩ := readFile_of_loadText accepted
  obtain ⟨sound, -⟩ := Encoding.lines_eq_ok_iff.1 encoded
  intro line among
  have written : line.toText ∈ Text.lines text := by
    rw [there]
    exact List.mem_map_of_mem among
  obtain ⟨line', accepted⟩ := sound _ written
  exact Encoding.clean_of_encodeLine accepted

/-- The lines are refused just if there is a null character in one of the values. Otherwise the
first line about a URL tells the way to it, and without such a line the way is direct. -/
theorem proxy_lines_decide (around : Surroundings) (before : Loaded) (file : Text)
    (files : FileSystem) (log : EventLog) (there : Text.lines text = rows.map ProxyLine.toText) :
    let result := before.loadText around text file files log
    (result.fault = none ↔ ∀ line ∈ rows, '\x00' ∉ line.value) ∧
    (result.fault = none → ∀ url protocol host,
      Url.protocolAndHost url = .ok (protocol, host) →
        result.loaded.rules.findProxy url =
          ((rows.find? (·.route.Applies protocol url)).elim directConnection (·.route.answer),
            [])) := by
  intro result
  refine ⟨⟨clean_of_loadText there, fun clean => (loadText_proxyLines there clean).1⟩, ?_⟩
  intro accepted url protocol host site
  obtain ⟨named, small⟩ := Url.protocol_of_ok site
  have rules : result.loaded.rules = ProxyLine.rulesFrom 1 rows :=
    (loadText_proxyLines there (clean_of_loadText there accepted)).2
  rw [rules, RuleTable.findProxy_of_ok site, RuleTable.first?_rulesFrom rows 1 named small]

/-- Lines with all parts, without protocols and domain, and without a proxy. -/
def proxyLinesExample : List ProxyLine := [
  { gap := ['\t'], value := " http|FTP Example.com cache 8080".toList },
  { indent := [' '], value := "* intern.org Direct".toList },
  { value := "other.net".toList }]

theorem proxy_lines_decide_example :
    let text := Text.unlines (proxyLinesExample.map ProxyLine.toText)
    let result := (Loaded.fresh ['a']).loadText ⟨{}, {}⟩ text ['r'] {} #[]
    let url := "ftp://www.example.com/x".toList
    Text.lines text = proxyLinesExample.map ProxyLine.toText ∧ result.fault = none ∧
      Url.protocolAndHost url = .ok ("ftp".toList, "www.example.com".toList) ∧
      result.loaded.rules.findProxy url = ("cache:8080".toList, []) := by
  intro text result url
  have there : Text.lines text = proxyLinesExample.map ProxyLine.toText := by decide +kernel
  have site : Url.protocolAndHost url = .ok ("ftp".toList, "www.example.com".toList) := by
    decide +kernel
  have clean : ∀ line ∈ proxyLinesExample, '\x00' ∉ line.value := by decide
  obtain ⟨refused, decided⟩ :=
    proxy_lines_decide ⟨{}, {}⟩ (Loaded.fresh ['a']) ['r'] {} #[] there
  have accepted : result.fault = none := refused.2 clean
  have found := decided accepted url "ftp".toList "www.example.com".toList site
  refine ⟨there, accepted, site, ?_⟩
  rw [found]
  decide +kernel

end Loaded

end Ebrc
