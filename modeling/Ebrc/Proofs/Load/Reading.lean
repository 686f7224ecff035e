import Ebrc.Load.Line

/-!
# What a line of an rc file does

Everything that reading a line can do to a load, said once. A line that is read without a fault sets
a value, adds a rule, or opens, fills or closes a block; each of these changes one part of what is
loaded and leaves the rest as it was. All that is known of a load, from one line to the next, is
told from this list.
-/

namespace Ebrc

/-- What succeeds as a whole succeeds step by step. -/
theorem exists_of_bind_eq_ok {ε α β : Type} {first : Except ε α} {next : α → Except ε β} {b : β}
    (succeeded : first >>= next = .ok b) : ∃ a, first = .ok a ∧ next a = .ok b := by
  cases first with
  | error e => contradiction
  | ok a => exact ⟨a, rfl, succeeded⟩

theorem exists_of_map_eq_ok {ε α β : Type} {first : Except ε α} {f : α → β} {b : β}
    (succeeded : first.map f = .ok b) : ∃ a, first = .ok a ∧ f a = b := by
  cases first with
  | error e => contradiction
  | ok a =>
      cases succeeded
      exact ⟨a, rfl, rfl⟩

/-- The rules, records, agents and files of two states are the same, and so are the numbers that
have bounds. -/
structure Loaded.Agrees (s s' : Loaded) : Prop where
  defaultAgent : s'.defaultAgent = s.defaultAgent
  rules : s'.rules = s.rules
  accounts : s'.accounts = s.accounts
  defaultAccount : s'.defaultAccount = s.defaultAccount
  plugins : s'.plugins = s.plugins
  tables : s'.tables = s.tables
  agents : s'.agents = s.agents
  files : s'.files = s.files
  imapFetch : s'.imapFetch = s.imapFetch
  cacheSize : s'.cacheSize = s.cacheSize

theorem Loaded.Agrees.rfl {s : Loaded} : s.Agrees s := by
  constructor <;> rfl

theorem Loaded.Agrees.trans {s s₁ s' : Loaded} (first : s.Agrees s₁) (second : s₁.Agrees s') :
    s.Agrees s' where
  defaultAgent := second.defaultAgent.trans first.defaultAgent
  rules := second.rules.trans first.rules
  accounts := second.accounts.trans first.accounts
  defaultAccount := second.defaultAccount.trans first.defaultAccount
  plugins := second.plugins.trans first.plugins
  tables := second.tables.trans first.tables
  agents := second.agents.trans first.agents
  files := second.files.trans first.files
  imapFetch := second.imapFetch.trans first.imapFetch
  cacheSize := second.cacheSize.trans first.cacheSize

namespace Progress

variable {around : Surroundings} {here : Position} {line : Line} {p p' : Progress} {v : Text}

/-! ## Includes -/

/-- What a line includes, if it is an include that is to be followed. -/
def include? (line : Line) (p : Progress) : Option Text :=
  match p.block, splitAssignment? line with
  | .none, some (word, v) =>
    if Keyword.ofWord? word = some (.everywhere .includeFile) ∧ v ≠ [] then some v else none
  | _, _ => none

theorem include?_eq_some (included : p.include? line = some v) :
    p.block = .none ∧ ∃ word, splitAssignment? line = some (word, v) ∧
      Keyword.ofWord? word = some (.everywhere .includeFile) ∧ v ≠ [] := by
  unfold include? at included
  split at included
  · rename_i word v' block split
    split at included
    · rename_i spelled
      cases included
      exact ⟨block, word, split, spelled⟩
    · contradiction
  · contradiction

theorem not_void_of_include (included : p.include? line = some v) : ¬Line.isVoid line := by
  obtain ⟨-, word, split, -⟩ := include?_eq_some included
  intro void
  rcases Line.isVoid_iff.1 void with rfl | rfl
  · contradiction
  · contradiction

/-- An include is left to whoever deals with includes. -/
theorem readLine_of_include (included : p.include? line = some v)
    (includeFile : Position → Text → Progress → Except Stop Progress) :
    p.readLine around includeFile here line = includeFile here v p := by
  obtain ⟨block, word, split, spelled, given⟩ := include?_eq_some included
  unfold readLine
  rw [if_neg (not_void_of_include included)]
  simp only [block, split, spelled, assign, keywordFault?, given, if_false, setGlobal]

/-- A keyword that is no include does not depend on how includes are dealt with. -/
theorem assign_of_other {word : Text} {keyword : Keyword}
    (other : ¬(p.block = .none ∧ keyword = .everywhere .includeFile ∧ v ≠ []))
    (includeFile includeFile' : Text → Progress → Except Stop Progress) :
    p.assign around includeFile here word keyword v =
      p.assign around includeFile' here word keyword v := by
  unfold assign
  cases faulty : keywordFault? word p.block keyword with
  | some fault => rfl
  | none =>
      by_cases given : v = []
      · rw [if_pos given, if_pos given]
      · rw [if_neg given, if_neg given]
        cases keyword with
        | account k => cases p.block <;> rfl
        | plugin k => cases p.block <;> rfl
        | table k => cases p.block <;> rfl
        | everywhere k =>
            cases block : p.block with
            | none =>
                cases k with
                | includeFile => exact absurd ⟨block, rfl, given⟩ other
                | _ => rfl
            | _ =>
                rw [block] at faulty
                contradiction

/-- A line that is no include does not depend on how includes are dealt with. -/
theorem readLine_of_other (other : p.include? line = none)
    (includeFile includeFile' : Position → Text → Progress → Except Stop Progress) :
    p.readLine around includeFile here line = p.readLine around includeFile' here line := by
  unfold readLine
  by_cases void : Line.isVoid line
  · rw [if_pos void, if_pos void]
  · rw [if_neg void, if_neg void]
    have assigned (word : Text) (keyword : Keyword) (v : Text)
        (split : splitAssignment? line = some (word, v))
        (spelled : Keyword.ofWord? word = some keyword) :
        p.assign around (includeFile here) here word keyword v =
          p.assign around (includeFile' here) here word keyword v := by
      apply assign_of_other
      rintro ⟨block, rfl, given⟩
      simp [include?, block, split, spelled, given] at other
    cases split : splitAssignment? line with
    | none => rfl
    | some assignment =>
        obtain ⟨word, v⟩ := assignment
        cases spelled : Keyword.ofWord? word with
        | none =>
            simp only [spelled]
            cases p.block <;> cases Line.isControl line <;> rfl
        | some keyword => simp only [spelled, assigned word keyword v split spelled]

/-! ## Paths -/

/-- Nothing changes but paths, traces and values without bounds. -/
structure Aside (p p' : Progress) : Prop where
  block : p'.block = p.block
  loaded : p.loaded.Agrees p'.loaded

theorem Aside.rfl : Aside p p := ⟨Eq.refl _, .rfl⟩

theorem Aside.trans {p₁ : Progress} (first : Aside p p₁) (second : Aside p₁ p') : Aside p p' where
  block := second.block.trans first.block
  loaded := first.loaded.trans second.loaded

/-- What a path is used for may leave the records alone. -/
def ActsAside (act : Path → Progress → Except Stop Progress) : Prop :=
  ∀ {path p p'}, act path p = .ok p' → Aside p p'

theorem aside_withPath {env : Environment} {act : Path → Progress → Except Stop Progress}
    {clear : Loaded → Loaded} (cleared : ∀ s : Loaded, s.Agrees (clear s)) (acts : ActsAside act)
    (done : (p.modify clear).withPath env here v act = .ok p') : Aside p p' := by
  have first : Aside p (p.modify clear) := ⟨Eq.refl _, cleared _⟩
  refine first.trans ?_
  unfold withPath expandPath at done
  cases remaining : Environment.remaining? (env.expand v) with
  | some name =>
      simp only [remaining] at done
      cases done
      exact ⟨Eq.refl _, .rfl⟩
  | none =>
      simp only [remaining] at done
      cases expanded : env.expandHome (Path.ofText (env.expand v)) with
      | error crash =>
          rw [expanded] at done
          contradiction
      | ok path =>
          rw [expanded] at done
          exact acts done

theorem aside_setDownloadDir {env : Environment} (done : p.setDownloadDir env here v = .ok p') :
    Aside p p' := by
  refine aside_withPath (fun s => by constructor <;> rfl) ?_ done
  intro path p p' done
  obtain ⟨_, _, done⟩ := exists_of_bind_eq_ok done
  cases done
  exact ⟨rfl, by constructor <;> rfl⟩

theorem aside_makeUnread {unread : Path} (done : p.makeUnread here unread = .ok p') :
    Aside p p' := by
  obtain ⟨there, _, done⟩ := exists_of_bind_eq_ok done
  split at done
  · cases done
    exact .rfl
  · split at done
    · cases done
      exact ⟨rfl, .rfl⟩
    · contradiction
    · contradiction

theorem aside_setMailDir {env : Environment} (done : p.setMailDir env here v = .ok p') :
    Aside p p' := by
  refine aside_withPath (fun s => by constructor <;> rfl) ?_ done
  intro path p p' done
  obtain ⟨_, _, done⟩ := exists_of_bind_eq_ok done
  obtain ⟨p₁, made, done⟩ := exists_of_bind_eq_ok done
  cases done
  exact (aside_makeUnread made).trans ⟨rfl, by constructor <;> rfl⟩

theorem aside_setCookieJar {env : Environment} (done : p.setCookieJar env here v = .ok p') :
    Aside p p' := by
  refine aside_withPath (fun s => by constructor <;> rfl) ?_ done
  intro path p p' done
  obtain ⟨_, _, done⟩ := exists_of_bind_eq_ok done
  split at done
  · cases done
    exact ⟨rfl, by constructor <;> rfl⟩
  · contradiction
  · contradiction

theorem aside_setCertificates {env : Environment} (done : p.setCertificates env here v = .ok p') :
    Aside p p' := by
  refine aside_withPath (fun s => by constructor <;> rfl) ?_ done
  intro path p p' done
  obtain ⟨_, _, done⟩ := exists_of_bind_eq_ok done
  obtain ⟨there, _, done⟩ := exists_of_bind_eq_ok done
  split at done
  · cases done
    exact ⟨rfl, by constructor <;> rfl⟩
  · contradiction

theorem aside_setAddressBook {env : Environment} (done : p.setAddressBook env here v = .ok p') :
    Aside p p' := by
  refine aside_withPath (fun s => by constructor <;> rfl) ?_ done
  intro path p p' done
  obtain ⟨_, _, done⟩ := exists_of_bind_eq_ok done
  cases done
  exact ⟨rfl, by constructor <;> rfl⟩

theorem aside_setEmojis {env : Environment} (done : p.setEmojis env here v = .ok p') :
    Aside p p' := by
  refine aside_withPath (fun s => by constructor <;> rfl) ?_ done
  intro path p p' done
  obtain ⟨_, _, done⟩ := exists_of_bind_eq_ok done
  cases done
  exact ⟨rfl, by constructor <;> rfl⟩

end Progress

/-! ## Everything that a line does -/

/-- A rule that a line outside of all blocks may add: no function and no redirection of mail, and an
agent that there is. -/
structure Rule.Fits (agents : List Text) (rule : Rule) : Prop where
  kind : rule.kind ∈ [.noScript, .noVerify, .proxy, .agentSite]
  agent : rule.kind = .agentSite →
    0 ≤ rule.agentIndex ∧ rule.agentIndex < (agents.length : Int)

/-- The account with a flag on. The flag of the default account is not kept in the account. -/
def AccountFlag.raise (flag : AccountFlag) (a : Account) : Account :=
  match flag with
  | .standard => a
  | .noFetch => { a with noFetch := true }
  | .secure => { a with secure := true }
  | .imap => { a with imap := true, noFetch := true }

/-- A line that becomes part of the body of a function, and the blocks open inside the function
before and behind it. -/
inductive Line.Kept (limits : Limits) (line : Line) :
    List (Option Char) → List (Option Char) → Prop where
  | text {inner : List (Option Char)} (notOpening : line.head? ≠ some Line.openMark)
      (notClosing : line ≠ Line.close) (notBetween : line ≠ Line.between) :
      Kept limits line inner inner
  | opens {inner : List (Option Char)} (opening : line.head? = some Line.openMark)
      (letter : Progress.isTopLevel line.tail.head? = false)
      (room : inner.length + 2 < limits.nesting) :
      Kept limits line inner (line.tail.head? :: inner)
  | closes {letter : Option Char} {inner : List (Option Char)} (closing : line = Line.close) :
      Kept limits line (letter :: inner) inner
  | divides {letter : Option Char} {inner : List (Option Char)} (between : line = Line.between)
      (admits : Progress.admitsElse letter) :
      Kept limits line (letter :: inner) (letter :: inner)

/-- A block that a line starts outside of all others, if there is room for it. -/
inductive OpenBlock.Starts (limits : Limits) (s : Loaded) : Option Char → OpenBlock → Prop where
  | account (room : s.accounts.length < limits.accounts) :
      Starts limits s (some BlockLetter.mail) (.account {})
  | plugin (room : s.plugins.length < limits.plugins) :
      Starts limits s (some BlockLetter.plugin) (.plugin {})
  | table (room : s.tables.length < limits.tables) :
      Starts limits s (some BlockLetter.table) (.table {})
  | fromFilter : Starts limits s (some BlockLetter.fromFilter) (.filter .fromFilter)
  | toFilter : Starts limits s (some BlockLetter.toFilter) (.filter .toFilter)
  | subjectFilter : Starts limits s (some BlockLetter.subjectFilter) (.filter .subjectFilter)
  /-- A block without a letter, in the place of a function. -/
  | letterless : Starts limits s Option.none (.function Option.none [])

theorem OpenBlock.Starts.letter_ne_function {limits : Limits} {s : Loaded} {letter : Option Char}
    {block : OpenBlock} (starts : OpenBlock.Starts limits s letter block) :
    letter ≠ some BlockLetter.function := by
  cases starts <;> decide

open Progress in
/-- What a line that is no include does to a load. -/
inductive Reading (around : Surroundings) (here : Position) (line : Line) (p : Progress) :
    Progress → Prop where
  | void (void : Line.isVoid line) : Reading around here line p p
  /-- A value that has no bounds, or a path, is set. -/
  | aside {word v : Text} {p' : Progress} (assigned : splitAssignment? line = some (word, v))
      (outside : p.block = .none) (aside : Aside p p') : Reading around here line p p'
  | imapFetch {word v : Text} {n : Int} (assigned : splitAssignment? line = some (word, v))
      (outside : p.block = .none) (bounds : 10 ≤ n ∧ n ≤ 1000) :
      Reading around here line p (p.modify fun s => { s with imapFetch := n })
  | cacheSize {word v : Text} {n : Int} (assigned : splitAssignment? line = some (word, v))
      (outside : p.block = .none) (bounds : 0 ≤ n ∧ n ≤ 10000) :
      Reading around here line p (p.modify fun s => { s with cacheSize := n })
  | agent {word v : Text} (assigned : splitAssignment? line = some (word, v))
      (outside : p.block = .none) (room : p.loaded.agents.length < around.limits.agents) :
      Reading around here line p (p.modify fun s => { s with agents := s.agents ++ [v] })
  | rule {word v : Text} {rule : Rule} (assigned : splitAssignment? line = some (word, v))
      (outside : p.block = .none) (fits : rule.Fits p.loaded.agents)
      (position : rule.line = here.line) :
      Reading around here line p (p.modify (Loaded.addRule rule))
  | filterRule {kind : RuleKind} {pattern destination : Text} (block : p.block = .filter kind)
      (text : Line.isControl line = false) (given : pattern ≠ []) (leads : destination ≠ []) :
      Reading around here line p (p.modify (Loaded.addRule
        { kind, pattern := some pattern, destination := some destination, line := here.line }))
  | setAccount {word v : Text} {a a' : Account} {k : AccountKeyword}
      (assigned : splitAssignment? line = some (word, v)) (block : p.block = .account a)
      (given : v ≠ []) (set : a.set around.limits.recipients k v = .ok a') :
      Reading around here line p { p with block := .account a' }
  | flagAccount {a : Account} {flag : AccountFlag} (block : p.block = .account a)
      (flagged : AccountFlag.ofLine? line = some flag) (other : flag ≠ .standard) :
      Reading around here line p { p with block := .account (flag.raise a) }
  /-- The account whose block is open is made the default one. -/
  | standard {a : Account} (block : p.block = .account a)
      (flagged : AccountFlag.ofLine? line = some .standard)
      (first : p.loaded.defaultAccount = 0 ∨
        p.loaded.defaultAccount = p.loaded.accounts.length + 1) :
      Reading around here line p
        (p.modify fun s => { s with defaultAccount := s.accounts.length + 1 })
  | closeAccount {a : Account} (block : p.block = .account a) (closes : line = Line.close)
      (complete : a.missing? = none) :
      Reading around here line p
        { p.modify fun s => { s with accounts := s.accounts ++ [a.withDefaults] } with
          block := .none }
  | setPlugin {word v : Text} {q q' : Plugin} {k : PluginKeyword}
      (assigned : splitAssignment? line = some (word, v)) (block : p.block = .plugin q)
      (given : v ≠ []) (set : q.set k v = .ok q') :
      Reading around here line p { p with block := .plugin q' }
  | flagPlugin {q : Plugin} {flag : PluginFlag} (block : p.block = .plugin q)
      (flagged : PluginFlag.ofLine? line = some flag) :
      Reading around here line p { p with block := .plugin (q.turnOn flag) }
  | closePlugin {q : Plugin} (block : p.block = .plugin q) (closes : line = Line.close)
      (complete : q.missing? = none) :
      Reading around here line p
        { p.modify fun s => { s with plugins := s.plugins ++ [q] } with block := .none }
  | setTable {word v : Text} {t t' : Table} {k : TableKeyword}
      (assigned : splitAssignment? line = some (word, v)) (block : p.block = .table t)
      (given : v ≠ []) (set : t.set around.limits.columns k v = .ok t') :
      Reading around here line p { p with block := .table t' }
  | closeTable {t : Table} (block : p.block = .table t) (closes : line = Line.close)
      (complete : t.missing? = none) :
      Reading around here line p
        { p.modify fun s => { s with tables := s.tables ++ [t] } with block := .none }
  | closeFilter {kind : RuleKind} (block : p.block = .filter kind) (closes : line = Line.close) :
      Reading around here line p { p with block := .none }
  | start {block : OpenBlock} (outside : p.block = .none)
      (opening : line.head? = some Line.openMark)
      (starts : OpenBlock.Starts around.limits p.loaded line.tail.head? block) :
      Reading around here line p { p with block }
  | startFunction (outside : p.block = .none) (opening : line.head? = some Line.openMark)
      (letter : line.tail.head? = some BlockLetter.function) :
      Reading around here line p
        { p.modify (Loaded.addRule
            { kind := .function
              pattern := some (line.drop 3)
              body := some .unsealed
              mindful := (line.drop 2).head? = some mindfulMark
              line := here.line }) with
          block := .function (some { name := line.drop 3, line := here.line }) [] }
  | keep {function : Option OpenFunction} {inner inner' : List (Option Char)}
      (block : p.block = .function function inner)
      (kept : Line.Kept around.limits line inner inner') :
      Reading around here line p (p.keepLine line function inner')
  | closeFunction {f : OpenFunction} {code : Program} (block : p.block = .function (some f) [])
      (closes : line = Line.close) (decoded : Program.ofLines f.body.reverse = .ok code) :
      Reading around here line p
        { p.modify fun s =>
            { s with
              rules := s.rules.modifyLast fun rule => { rule with body := some (.sealed code) } }
          with block := .none }

namespace Progress

variable {around : Surroundings} {here : Position} {line : Line} {p p' : Progress} {v word : Text}

theorem orRefuse_eq_ok {α : Type} {r : Except Refusal α} {a : α}
    (taken : p.orRefuse here r = .ok a) : r = .ok a := by
  cases r with
  | ok a' =>
      cases taken
      rfl
  | error refusal => cases refusal <;> contradiction

/-- What is kept of a value is what it was read as. -/
theorem exists_of_keep_eq_ok {r : Except Refusal Loaded}
    (done : ((p.orRefuse here r).map fun loaded => { p with loaded }) = .ok p') :
    ∃ loaded, r = .ok loaded ∧ p' = { p with loaded } := by
  obtain ⟨loaded, taken, rfl⟩ := exists_of_map_eq_ok done
  exact ⟨loaded, orRefuse_eq_ok taken, rfl⟩

/-- Digits in the wide sense have no sign in front, so the number that they are read as is not
negative. -/
theorem readInt?_nonneg {t : Text} {n : Int} (digits : Text.allDigitSigns t)
    (read : Text.readInt? t = some n) : 0 ≤ n := by
  have unsigned : (Text.cutSign (Text.strip Text.isNumberBlank t)).1 = false := by
    unfold Text.cutSign
    split
    · rename_i rest stripped
      have among : '-' ∈ t := by
        apply Text.mem_of_mem_strip (p := Text.isNumberBlank)
        rw [stripped]
        exact List.mem_cons_self ..
      simp only [Text.allDigitSigns, Bool.and_eq_true, List.all_eq_true] at digits
      exact absurd (digits.2 '-' among) (by decide)
    · rfl
    · rfl
  unfold Text.readInt? at read
  dsimp only at read
  split at read
  · obtain ⟨value, -, rfl⟩ := Option.map_eq_some_iff.1 read
    rw [unsigned]
    exact Int.natCast_nonneg value
  · contradiction

theorem addAgentSite_cases {number : Nat} {s s' : Loaded}
    (added : s.addAgentSite number v = .ok s') :
    ∃ rule : Rule, rule.kind = .agentSite ∧ rule.Fits s.agents ∧ rule.line = number ∧
      s' = s.addRule rule := by
  unfold Loaded.addAgentSite at added
  split at added
  · split at added
    · rename_i site index digits
      split at added
      · contradiction
      · rename_i n read
        split at added
        · contradiction
        · rename_i known
          cases added
          refine ⟨_, rfl, ⟨by simp, fun _ => ⟨readInt?_nonneg digits read, ?_⟩⟩, rfl, rfl⟩
          exact Int.not_le.1 known
    · contradiction
  · contradiction

theorem addSiteRule_cases {kind : RuleKind} {number : Nat} {s s' : Loaded}
    (site : kind = .noScript ∨ kind = .noVerify) (added : s.addSiteRule kind number v = .ok s') :
    ∃ rule : Rule, rule.Fits s.agents ∧ rule.line = number ∧ s' = s.addRule rule := by
  obtain ⟨domain, -, rfl⟩ := exists_of_map_eq_ok added
  refine ⟨_, ⟨?_, ?_⟩, rfl, rfl⟩
  · rcases site with rfl | rfl <;> simp
  · rcases site with rfl | rfl <;> simp

theorem clampedNumber_bounds {least greatest n : Int} (le : least ≤ greatest)
    (read : Loaded.clampedNumber least greatest v = .ok n) : least ≤ n ∧ n ≤ greatest := by
  obtain ⟨n', -, rfl⟩ := exists_of_map_eq_ok read
  omega

/-- What a keyword outside of all blocks does. -/
theorem reading_of_setGlobal {k : GlobalKeyword}
    (assigned : splitAssignment? line = some (word, v)) (outside : p.block = .none)
    (other : k ≠ .includeFile) {includeFile : Text → Progress → Except Stop Progress}
    (done : p.setGlobal around includeFile here k v = .ok p') :
    Reading around here line p p' := by
  cases k with
  | downloadDir => exact .aside assigned outside (aside_setDownloadDir done)
  | mailDir => exact .aside assigned outside (aside_setMailDir done)
  | cookieJar => exact .aside assigned outside (aside_setCookieJar done)
  | certificates => exact .aside assigned outside (aside_setCertificates done)
  | addressBook => exact .aside assigned outside (aside_setAddressBook done)
  | emojis => exact .aside assigned outside (aside_setEmojis done)
  | includeFile => contradiction
  | agent =>
      obtain ⟨loaded, added, rfl⟩ := exists_of_keep_eq_ok done
      unfold Loaded.addAgent at added
      split at added
      · contradiction
      · rename_i room
        cases added
        exact .agent assigned outside (Nat.lt_of_not_le room)
  | noScript =>
      obtain ⟨loaded, added, rfl⟩ := exists_of_keep_eq_ok done
      obtain ⟨rule, fits, position, rfl⟩ := addSiteRule_cases (.inl rfl) added
      exact .rule assigned outside fits position
  | noVerify =>
      obtain ⟨loaded, added, rfl⟩ := exists_of_keep_eq_ok done
      obtain ⟨rule, fits, position, rfl⟩ := addSiteRule_cases (.inr rfl) added
      exact .rule assigned outside fits position
  | proxy =>
      cases done
      have kind : (Loaded.proxyRule here.line v).kind = .proxy := rfl
      refine .rule assigned outside ⟨?_, ?_⟩ rfl
      · rw [kind]
        decide
      · rw [kind]
        intro impossible
        contradiction
  | agentSite =>
      obtain ⟨loaded, added, rfl⟩ := exists_of_keep_eq_ok done
      obtain ⟨rule, -, fits, position, rfl⟩ := addAgentSite_cases added
      exact .rule assigned outside fits position
  | webTimeout =>
      obtain ⟨loaded, read, rfl⟩ := exists_of_keep_eq_ok done
      obtain ⟨n, -, rfl⟩ := exists_of_map_eq_ok read
      exact .aside assigned outside ⟨rfl, by constructor <;> rfl⟩
  | mailTimeout =>
      obtain ⟨loaded, read, rfl⟩ := exists_of_keep_eq_ok done
      obtain ⟨n, -, rfl⟩ := exists_of_map_eq_ok read
      exact .aside assigned outside ⟨rfl, by constructor <;> rfl⟩
  | imapFetch =>
      obtain ⟨loaded, read, rfl⟩ := exists_of_keep_eq_ok done
      obtain ⟨n, number, rfl⟩ := exists_of_map_eq_ok read
      exact .imapFetch assigned outside (clampedNumber_bounds (by decide) number)
  | cacheSize =>
      obtain ⟨loaded, read, rfl⟩ := exists_of_keep_eq_ok done
      obtain ⟨n, number, rfl⟩ := exists_of_map_eq_ok read
      exact .cacheSize assigned outside (clampedNumber_bounds (by decide) number)
  | cacheDir | dataSource | language | envelope =>
      cases done
      exact .aside assigned outside ⟨rfl, by constructor <;> rfl⟩

/-- What a keyword does. -/
theorem reading_of_assign {keyword : Keyword}
    (assigned : splitAssignment? line = some (word, v))
    (other : ¬(p.block = .none ∧ keyword = .everywhere .includeFile ∧ v ≠ []))
    {includeFile : Text → Progress → Except Stop Progress}
    (done : p.assign around includeFile here word keyword v = .ok p') :
    Reading around here line p p' := by
  unfold assign at done
  cases faulty : keywordFault? word p.block keyword with
  | some fault =>
      rw [faulty] at done
      contradiction
  | none =>
      rw [faulty] at done
      by_cases given : v = []
      · rw [if_pos given] at done
        contradiction
      · rw [if_neg given] at done
        cases keyword with
        | account k =>
            cases block : p.block with
            | account a =>
                simp only [block] at done
                obtain ⟨a', set, rfl⟩ := exists_of_map_eq_ok done
                exact .setAccount assigned block given (orRefuse_eq_ok set)
            | _ =>
                rw [block] at faulty
                contradiction
        | plugin k =>
            cases block : p.block with
            | plugin q =>
                simp only [block] at done
                obtain ⟨q', set, rfl⟩ := exists_of_map_eq_ok done
                exact .setPlugin assigned block given (orRefuse_eq_ok set)
            | _ =>
                rw [block] at faulty
                contradiction
        | table k =>
            cases block : p.block with
            | table t =>
                simp only [block] at done
                obtain ⟨t', set, rfl⟩ := exists_of_map_eq_ok done
                exact .setTable assigned block given (orRefuse_eq_ok set)
            | _ =>
                rw [block] at faulty
                contradiction
        | everywhere k =>
            cases block : p.block with
            | none =>
                simp only [block] at done
                refine reading_of_setGlobal assigned block (fun same => ?_) done
                exact other ⟨block, by rw [same], given⟩
            | _ =>
                rw [block] at faulty
                contradiction

/-- What a line of a filter block does. -/
theorem reading_of_addFilter {kind : RuleKind} (block : p.block = .filter kind)
    (text : Line.isControl line = false) (done : p.addFilter here kind line = .ok p') :
    Reading around here line p p' := by
  unfold addFilter at done
  split at done
  · contradiction
  · dsimp only at done
    split at done
    · contradiction
    · rename_i given
      split at done
      · contradiction
      · rename_i leads
        cases done
        exact .filterRule block text given leads

/-- What the closing line of a block does. -/
theorem reading_of_closeBlock (closes : line = Line.close)
    (done : p.closeBlock here line = .ok p') : Reading around here line p p' := by
  unfold closeBlock at done
  cases block : p.block with
  | none =>
      rw [block] at done
      contradiction
  | account a =>
      simp only [block] at done
      split at done
      · contradiction
      · rename_i complete
        cases done
        exact .closeAccount block closes complete
  | filter kind =>
      simp only [block] at done
      cases done
      exact .closeFilter block closes
  | plugin q =>
      simp only [block] at done
      split at done
      · contradiction
      · rename_i complete
        cases done
        exact .closePlugin block closes complete
  | table t =>
      simp only [block] at done
      split at done
      · contradiction
      · rename_i complete
        cases done
        exact .closeTable block closes complete
  | function function inner =>
      cases inner with
      | cons letter inner =>
          simp only [block] at done
          cases done
          exact .keep block (.closes closes)
      | nil =>
          simp only [block, closeFunction] at done
          cases function with
          | none => contradiction
          | some f =>
              simp only [Body.close] at done
              cases decoded : Program.ofLines f.body.reverse with
              | error crash =>
                  rw [decoded] at done
                  contradiction
              | ok code =>
                  rw [decoded] at done
                  cases done
                  exact .closeFunction block closes decoded

/-- What the opening line of a block does outside of all others. -/
theorem reading_of_startBlock (outside : p.block = .none)
    (opening : line.head? = some Line.openMark)
    (done : p.startBlock around.limits here line.tail.head? (line.drop 2) = .ok p') :
    Reading around here line p p' := by
  have started {block : OpenBlock}
      (starts : OpenBlock.Starts around.limits p.loaded line.tail.head? block)
      (done : .ok { p with block } = (.ok p' : Except Stop Progress)) :
      Reading around here line p p' := by
    cases done
    exact .start outside opening starts
  unfold startBlock at done
  split at done
  · rename_i letter
    split at done
    · contradiction
    · rename_i full
      refine started ?_ done
      rw [letter]
      exact .account (Nat.lt_of_not_le full)
  · rename_i letter
    split at done
    · contradiction
    · rename_i full
      refine started ?_ done
      rw [letter]
      exact .plugin (Nat.lt_of_not_le full)
  · rename_i letter
    split at done
    · contradiction
    · rename_i full
      refine started ?_ done
      rw [letter]
      exact .table (Nat.lt_of_not_le full)
  · rename_i letter
    refine started ?_ done
    rw [letter]
    exact .fromFilter
  · rename_i letter
    refine started ?_ done
    rw [letter]
    exact .toFilter
  · rename_i letter
    refine started ?_ done
    rw [letter]
    exact .subjectFilter
  · rename_i letter
    cases done
    rw [List.drop_drop]
    exact .startFunction outside opening letter
  · rename_i letter
    split at done
    · contradiction
    · refine started ?_ done
      rw [letter]
      exact .letterless
  · contradiction

/-- What the opening line of a block does. -/
theorem reading_of_openBlock (opening : line.head? = some Line.openMark)
    (done : p.openBlock around.limits here line = .ok p') : Reading around here line p p' := by
  unfold openBlock at done
  cases block : p.block with
  | none =>
      simp only [block] at done
      split at done
      · exact reading_of_startBlock block opening done
      · contradiction
  | function function inner =>
      simp only [block] at done
      split at done
      · contradiction
      · rename_i letter
        split at done
        · contradiction
        · rename_i room
          cases done
          exact .keep block (.opens opening (Bool.eq_false_iff.2 letter) (Nat.lt_of_not_le room))
  | _ =>
      simp only [block] at done
      split at done
      · contradiction
      · contradiction

/-- Take a line that is no assignment and no flag. -/
def takePlain (limits : Limits) (here : Position) (line : Line) (p : Progress) :
    Except Stop Progress :=
  if line = Line.close then p.closeBlock here line
  else if line = Line.between then
    match p.block with
    | .function function (letter :: inner) =>
      if admitsElse letter then .ok (p.keepLine line function (letter :: inner))
      else p.stop here .elseWithoutIf
    | _ => p.stop here .elseWithoutIf
  else if line.head? ≠ some Line.openMark then
    match p.block with
    | .function function inner => .ok (p.keepLine line function inner)
    | _ => p.stop here .strayText
  else p.openBlock limits here line

/-- A line is a flag, or is taken as one that is none. -/
theorem takeLine_eq {limits : Limits} : p.takeLine limits here line =
    match p.block with
    | .account a =>
      match AccountFlag.ofLine? line with
      | some flag => p.turnOn here flag a
      | none => p.takePlain limits here line
    | .plugin q =>
      match PluginFlag.ofLine? line with
      | some flag => .ok { p with block := .plugin (q.turnOn flag) }
      | none => p.takePlain limits here line
    | _ => p.takePlain limits here line :=
  rfl

/-- What a line does that is no assignment and no flag. -/
theorem reading_of_takePlain (done : p.takePlain around.limits here line = .ok p') :
    Reading around here line p p' := by
  unfold takePlain at done
  split at done
  · rename_i closes
    exact reading_of_closeBlock closes done
  rename_i notClosing
  split at done
  · rename_i between
    split at done
    · rename_i function letter inner block
      split at done
      · rename_i admits
        cases done
        exact .keep block (.divides between admits)
      · contradiction
    · contradiction
  rename_i notBetween
  split at done
  · rename_i notOpening
    split at done
    · rename_i function inner block
      cases done
      exact .keep block (.text notOpening notClosing notBetween)
    · contradiction
  · rename_i opening
    exact reading_of_openBlock (Decidable.not_not.1 opening) done

/-- What a flag of an account does. -/
theorem reading_of_turnOn {a : Account} {flag : AccountFlag} (block : p.block = .account a)
    (flagged : AccountFlag.ofLine? line = some flag) (done : p.turnOn here flag a = .ok p') :
    Reading around here line p p' := by
  cases flag with
  | standard =>
      simp only [turnOn] at done
      split at done
      · rename_i current
        cases done
        have same : (p.modify fun s => { s with defaultAccount := s.accounts.length + 1 }) = p := by
          rw [modify, ← current]
        have standard : Reading around here line p _ := .standard block flagged (.inr current)
        rwa [same] at standard
      · split at done
        · contradiction
        · rename_i first
          cases done
          exact .standard block flagged (.inl (Decidable.not_not.1 first))
  | noFetch | secure | imap =>
      cases done
      exact .flagAccount block flagged (by simp)

/-- What any other line does. -/
theorem reading_of_takeLine (done : p.takeLine around.limits here line = .ok p') :
    Reading around here line p p' := by
  rw [takeLine_eq] at done
  split at done
  · rename_i a block
    split at done
    · rename_i flag flagged
      exact reading_of_turnOn block flagged done
    · exact reading_of_takePlain done
  · rename_i q block
    split at done
    · rename_i flag flagged
      cases done
      exact .flagPlugin block flagged
    · exact reading_of_takePlain done
  · exact reading_of_takePlain done

/-- What a line that is no include does. -/
theorem reading_of_readLine (other : p.include? line = none)
    {includeFile : Position → Text → Progress → Except Stop Progress}
    (done : p.readLine around includeFile here line = .ok p') : Reading around here line p p' := by
  unfold readLine at done
  by_cases void : Line.isVoid line
  · rw [if_pos void] at done
    cases done
    exact .void void
  rw [if_neg void] at done
  split at done
  · rename_i kind block text
    exact reading_of_addFilter block text done
  · cases assigned : splitAssignment? line with
    | none =>
        rw [assigned] at done
        exact reading_of_takeLine done
    | some assignment =>
        obtain ⟨word, v⟩ := assignment
        simp only [assigned] at done
        split at done
        · rename_i keyword _ spelled
          refine reading_of_assign assigned ?_ done
          rintro ⟨block, rfl, given⟩
          simp [include?, block, assigned, spelled, given] at other
        · exact reading_of_takeLine done
        · contradiction

end Progress

end Ebrc
