import Ebrc.Proofs.Load.Bodies
import Ebrc.Proofs.Load.Failure
import Ebrc.Proofs.Load.Includes
import Ebrc.Proofs.Load.LineByLine

/-!
# Loading is compositional

A text that is loaded ends outside of all blocks. So a text behind it is read as it would be alone,
but behind what has been loaded and that many lines further down. What a line does there, if it is
not refused, is what it does alone: it looks at the lists it adds to only to see whether they are
full, and at the records and rules of others not at all.
-/

namespace Ebrc

/-! ## Further down -/

/-- A rule that was made so many lines further down. -/
def Rule.shift (n : Nat) (rule : Rule) : Rule := { rule with line := rule.line + n }

/-- A function whose header stands so many lines further down. -/
def OpenFunction.shift (n : Nat) (f : OpenFunction) : OpenFunction := { f with line := f.line + n }

/-- An open block of which that holds. -/
def OpenBlock.shift (n : Nat) : OpenBlock → OpenBlock
  | .function f? inner => .function (f?.map (OpenFunction.shift n)) inner
  | block => block

/-- These records, agents and rules are loaded behind those, so many lines further down. The default
agent stands only in front of all. -/
structure Loaded.Behind (first : Loaded) (n : Nat) (alone s : Loaded) : Prop where
  rules : s.rules = first.rules ++ alone.rules.map (Rule.shift n)
  accounts : s.accounts = first.accounts ++ alone.accounts
  plugins : s.plugins = first.plugins ++ alone.plugins
  tables : s.tables = first.tables ++ alone.tables
  agents : ∃ others, alone.agents = alone.defaultAgent :: others ∧
    s.agents = first.agents ++ others

/-- The same block is open, and what is loaded stands behind something else. The rule of an open
function is not among what comes first. -/
structure Progress.Behind (first : Loaded) (n : Nat) (p q : Progress) : Prop where
  loaded : Loaded.Behind first n p.loaded q.loaded
  block : q.block = p.block.shift n
  sealed : p.block.function? = none ∨ p.loaded.rules ≠ []

/-- The records, agents and rules of two states are the same. -/
structure Loaded.SameRecords (s s' : Loaded) : Prop where
  defaultAgent : s'.defaultAgent = s.defaultAgent
  rules : s'.rules = s.rules
  accounts : s'.accounts = s.accounts
  plugins : s'.plugins = s.plugins
  tables : s'.tables = s.tables
  agents : s'.agents = s.agents

namespace Loaded

variable {first first' s t s' t' : Loaded} {n : Nat}

theorem Agrees.records (agrees : s.Agrees s') : s.SameRecords s' :=
  ⟨agrees.defaultAgent, agrees.rules, agrees.accounts, agrees.plugins, agrees.tables, agrees.agents⟩

theorem Behind.beside (behind : Behind first n s t) (same : s.SameRecords s')
    (same' : t.SameRecords t') : Behind first n s' t' where
  rules := by rw [same.rules, same'.rules, behind.rules]
  accounts := by rw [same.accounts, same'.accounts, behind.accounts]
  plugins := by rw [same.plugins, same'.plugins, behind.plugins]
  tables := by rw [same.tables, same'.tables, behind.tables]
  agents := by rw [same.agents, same.defaultAgent, same'.agents]; exact behind.agents

theorem Behind.behind (behind : Behind first n s t) (same : first.SameRecords first') :
    Behind first' n s t where
  rules := by rw [same.rules, behind.rules]
  accounts := by rw [same.accounts, behind.accounts]
  plugins := by rw [same.plugins, behind.plugins]
  tables := by rw [same.tables, behind.tables]
  agents := by rw [same.agents]; exact behind.agents

theorem Behind.addRule {rule : Rule} (behind : Behind first n s t) :
    Behind first n (s.addRule rule) (t.addRule (rule.shift n)) where
  rules := by simp [Loaded.addRule, behind.rules]
  accounts := behind.accounts
  plugins := behind.plugins
  tables := behind.tables
  agents := behind.agents

theorem Behind.modifyLast {f : Rule → Rule} (behind : Behind first n s t) (given : s.rules ≠ [])
    (commute : ∀ rule, f (Rule.shift n rule) = (f rule).shift n) :
    Behind first n { s with rules := s.rules.modifyLast f }
      { t with rules := t.rules.modifyLast f } where
  rules := by
    rw [behind.rules, RuleTable.modifyLast_append (by simpa using given),
      RuleTable.modifyLast_map commute]
  accounts := behind.accounts
  plugins := behind.plugins
  tables := behind.tables
  agents := behind.agents

end Loaded

/-! ## What succeeds on both sides -/

/-- Where both succeed, the results are related. -/
def Jointly {ε α : Type} (Related : α → α → Prop) (r r' : Except ε α) : Prop :=
  ∀ a b, r = .ok a → r' = .ok b → Related a b

section Jointly

variable {ε α β : Type} {Related : α → α → Prop} {Related' : β → β → Prop}

theorem Jointly.ok {a b : α} (related : Related a b) :
    Jointly (ε := ε) Related (.ok a) (.ok b) := by
  rintro _ _ ⟨⟩ ⟨⟩
  exact related

theorem Jointly.error_left {e : ε} {r : Except ε α} : Jointly Related (.error e) r :=
  fun _ _ impossible => nomatch impossible

theorem Jointly.refl (r : Except ε α) : Jointly Eq r r := by
  intro a b here there
  cases here.symm.trans there
  rfl

theorem Jointly.map {r r' : Except ε α} {f f' : α → β} (jointly : Jointly Related r r')
    (next : ∀ a b, Related a b → Related' (f a) (f' b)) :
    Jointly Related' (r.map f) (r'.map f') := by
  intro _ _ here there
  obtain ⟨a, alone, rfl⟩ := exists_of_map_eq_ok here
  obtain ⟨b, both, rfl⟩ := exists_of_map_eq_ok there
  exact next a b (jointly a b alone both)

/-- What is refused on one side only is of no account. -/
theorem Jointly.unless {c c' : Prop} [Decidable c] [Decidable c'] {e e' : ε} {r r' : Except ε α}
    (jointly : Jointly Related r r') :
    Jointly Related (if c then .error e else r) (if c' then .error e' else r') := by
  intro a b here there
  split at here
  · contradiction
  · split at there
    · contradiction
    · exact jointly a b here there

theorem Jointly.ite {c : Prop} [Decidable c] {r r' s s' : Except ε α}
    (yes : Jointly Related r r') (no : Jointly Related s s') :
    Jointly Related (if c then r else s) (if c then r' else s') := by
  split
  · exact yes
  · exact no

theorem Jointly.orRefuse {p q : Progress} {here there : Position} {r r' : Except Refusal α}
    (jointly : Jointly Related r r') :
    Jointly Related (p.orRefuse here r) (q.orRefuse there r') :=
  fun a b taken taken' =>
    jointly a b (Progress.orRefuse_eq_ok taken) (Progress.orRefuse_eq_ok taken')

end Jointly

namespace Progress

variable {around : Surroundings} {first : Loaded} {n number : Nat} {p q : Progress}
variable {file word v : Text} {line : Line}

/-! ## Keywords -/

theorem Behind.beside {p' q' : Progress} (behind : p.Behind first n q)
    (same : p.loaded.SameRecords p'.loaded) (same' : q.loaded.SameRecords q'.loaded)
    (block : p'.block = p.block) (block' : q'.block = q.block) : p'.Behind first n q' where
  loaded := behind.loaded.beside same same'
  block := by rw [block, block', behind.block]
  sealed := by rw [block, same.rules]; exact behind.sealed

/-- What only sets values may depend on what it likes. -/
theorem Behind.aside {r r' : Except Stop Progress} (behind : p.Behind first n q)
    (aside : ∀ {p'}, r = .ok p' → Aside p p') (aside' : ∀ {q'}, r' = .ok q' → Aside q q') :
    Jointly (Behind first n) r r' := by
  intro p' q' here there
  exact behind.beside (aside here).loaded.records (aside' there).loaded.records (aside here).block
    (aside' there).block

/-- A keyword outside of all blocks, so many lines further down. -/
theorem jointly_setGlobal {k : GlobalKeyword} (behind : p.Behind first n q)
    (outside : p.block = .none) (other : k ≠ .includeFile)
    {includeFile includeFile' : Text → Progress → Except Stop Progress} :
    Jointly (Behind first n) (p.setGlobal around includeFile ⟨file, number⟩ k v)
      (q.setGlobal around includeFile' ⟨file, number + n⟩ k v) := by
  have keep {r r' : Except Refusal Loaded} (jointly : Jointly (Loaded.Behind first n) r r') :
      Jointly (Behind first n)
        ((p.orRefuse ⟨file, number⟩ r).map fun loaded => { p with loaded })
        ((q.orRefuse ⟨file, number + n⟩ r').map fun loaded => { q with loaded }) :=
    jointly.orRefuse.map fun s t loaded =>
      ⟨loaded, behind.block, .inl (by rw [outside]; rfl)⟩
  have value (r : Except Refusal Int) {f f' : Int → Loaded}
      (same : ∀ n, p.loaded.SameRecords (f n)) (same' : ∀ n, q.loaded.SameRecords (f' n)) :
      Jointly (Loaded.Behind first n) (r.map f) (r.map f') := by
    refine (Jointly.refl r).map ?_
    rintro n _ rfl
    exact behind.loaded.beside (same n) (same' n)
  have site (kind : RuleKind) : Jointly (Loaded.Behind first n)
      (p.loaded.addSiteRule kind number v) (q.loaded.addSiteRule kind (number + n) v) := by
    refine (Jointly.refl (Loaded.siteDomain v)).map ?_
    rintro domain _ rfl
    exact behind.loaded.addRule
  cases k with
  | downloadDir => exact behind.aside aside_setDownloadDir aside_setDownloadDir
  | mailDir => exact behind.aside aside_setMailDir aside_setMailDir
  | cookieJar => exact behind.aside aside_setCookieJar aside_setCookieJar
  | certificates => exact behind.aside aside_setCertificates aside_setCertificates
  | addressBook => exact behind.aside aside_setAddressBook aside_setAddressBook
  | emojis => exact behind.aside aside_setEmojis aside_setEmojis
  | includeFile => exact absurd rfl other
  | agent =>
      refine keep (.unless (.ok ?_))
      obtain ⟨others, alone, both⟩ := behind.loaded.agents
      exact { behind.loaded with
        agents := ⟨others ++ [v], by rw [alone]; rfl, by rw [both, List.append_assoc]⟩ }
  | noScript => exact keep (site .noScript)
  | noVerify => exact keep (site .noVerify)
  | proxy => exact keep (.ok behind.loaded.addRule)
  | agentSite =>
      refine keep ?_
      unfold Loaded.addAgentSite
      split
      · split
        · split
          · exact .error_left
          · exact .unless (.ok behind.loaded.addRule)
        · exact .error_left
      · exact .error_left
  | webTimeout | mailTimeout | imapFetch | cacheSize =>
      exact keep (value _ (fun _ => by constructor <;> rfl) fun _ => by constructor <;> rfl)
  | cacheDir | dataSource | language | envelope =>
      refine .ok (behind.beside ?_ ?_ rfl rfl)
      · constructor <;> rfl
      · constructor <;> rfl

theorem keywordFault?_shift (word : Text) (block : OpenBlock) (k : Keyword) :
    keywordFault? word (block.shift n) k = keywordFault? word block k := by
  cases block <;> rfl

/-- A keyword, so many lines further down. -/
theorem jointly_assign {k : Keyword} (behind : p.Behind first n q)
    (other : ¬(p.block = .none ∧ k = .everywhere .includeFile ∧ v ≠ []))
    {includeFile includeFile' : Text → Progress → Except Stop Progress} :
    Jointly (Behind first n) (p.assign around includeFile ⟨file, number⟩ word k v)
      (q.assign around includeFile' ⟨file, number + n⟩ word k v) := by
  have into {α : Type} (r : Except Refusal α) (f : α → OpenBlock)
      (whole : ∀ a, (f a).shift n = f a) (inside : ∀ a, (f a).function? = none) :
      Jointly (Behind first n)
        ((p.orRefuse ⟨file, number⟩ r).map fun a => { p with block := f a })
        ((q.orRefuse ⟨file, number + n⟩ r).map fun a => { q with block := f a }) := by
    refine (Jointly.refl r).orRefuse.map ?_
    rintro a _ rfl
    exact ⟨behind.loaded, (whole a).symm, .inl (inside a)⟩
  have shifted := behind.block
  unfold assign
  rw [shifted, keywordFault?_shift]
  cases faulty : keywordFault? word p.block k with
  | some fault => exact .error_left
  | none =>
      dsimp only
      by_cases given : v = []
      · rw [if_pos given]
        exact .error_left
      rw [if_neg given, if_neg given]
      cases k with
      | account k =>
          cases block : p.block with
          | account a => exact into _ .account (fun _ => rfl) fun _ => rfl
          | _ =>
              rw [block] at faulty
              contradiction
      | plugin k =>
          cases block : p.block with
          | plugin a => exact into _ .plugin (fun _ => rfl) fun _ => rfl
          | _ =>
              rw [block] at faulty
              contradiction
      | table k =>
          cases block : p.block with
          | table t => exact into _ .table (fun _ => rfl) fun _ => rfl
          | _ =>
              rw [block] at faulty
              contradiction
      | everywhere k =>
          cases block : p.block with
          | none =>
              exact jointly_setGlobal behind block fun same => other ⟨block, by rw [same], given⟩
          | _ =>
              rw [block] at faulty
              contradiction

/-! ## Other lines -/

theorem jointly_addFilter {kind : RuleKind} (behind : p.Behind first n q)
    (inside : p.block = .filter kind) :
    Jointly (Behind first n) (p.addFilter ⟨file, number⟩ kind line)
      (q.addFilter ⟨file, number + n⟩ kind line) := by
  unfold addFilter
  split
  · exact .error_left
  · refine .unless (.unless (.ok ?_))
    exact ⟨behind.loaded.addRule, behind.block, .inl (by rw [modify_block, inside]; rfl)⟩

theorem turnOn_standard {p' : Progress} {here : Position} {a : Account}
    (done : p.turnOn here .standard a = .ok p') :
    p.loaded.SameRecords p'.loaded ∧ p'.block = p.block := by
  simp only [turnOn] at done
  split at done
  · cases done
    exact ⟨by constructor <;> rfl, rfl⟩
  · split at done
    · contradiction
    · cases done
      exact ⟨by constructor <;> rfl, rfl⟩

theorem jointly_turnOn {flag : AccountFlag} {a : Account} (behind : p.Behind first n q) :
    Jointly (Behind first n) (p.turnOn ⟨file, number⟩ flag a)
      (q.turnOn ⟨file, number + n⟩ flag a) := by
  cases flag with
  | standard =>
      intro p' q' here there
      obtain ⟨same, block⟩ := turnOn_standard here
      obtain ⟨same', block'⟩ := turnOn_standard there
      exact behind.beside same same' block block'
  | noFetch | secure | imap => exact .ok ⟨behind.loaded, rfl, .inl rfl⟩

theorem jointly_startBlock {limits : Limits} {letter : Option Char} {payload : Text}
    (behind : p.Behind first n q) :
    Jointly (Behind first n) (p.startBlock limits ⟨file, number⟩ letter payload)
      (q.startBlock limits ⟨file, number + n⟩ letter payload) := by
  have starts (block : OpenBlock) (whole : block.shift n = block)
      (inside : block.function? = none) : Behind first n { p with block } { q with block } :=
    ⟨behind.loaded, whole.symm, .inl inside⟩
  unfold startBlock
  split
  · exact .unless (.ok (starts _ rfl rfl))
  · exact .unless (.ok (starts _ rfl rfl))
  · exact .unless (.ok (starts _ rfl rfl))
  · exact .ok (starts _ rfl rfl)
  · exact .ok (starts _ rfl rfl)
  · exact .ok (starts _ rfl rfl)
  · refine .ok ⟨behind.loaded.addRule, rfl, .inr ?_⟩
    simp [Loaded.addRule]
  · exact .unless (.ok (starts _ rfl rfl))
  · exact .error_left

theorem behind_keepLine {function : Option OpenFunction} {inner inner' : List (Option Char)}
    (behind : p.Behind first n q) (block : p.block = .function function inner) :
    Behind first n (p.keepLine line function inner')
      (q.keepLine line (function.map (OpenFunction.shift n)) inner') := by
  have sealed := behind.sealed
  rw [block] at sealed
  cases function with
  | none => exact ⟨behind.loaded, rfl, .inl rfl⟩
  | some f => exact ⟨behind.loaded, rfl, .inr (sealed.resolve_left fun none => nomatch none)⟩

theorem jointly_openBlock {limits : Limits} (behind : p.Behind first n q) :
    Jointly (Behind first n) (p.openBlock limits ⟨file, number⟩ line)
      (q.openBlock limits ⟨file, number + n⟩ line) := by
  have shifted := behind.block
  unfold openBlock
  rw [shifted]
  cases block : p.block with
  | none => exact .ite (jointly_startBlock behind) .error_left
  | function function inner =>
      exact .ite .error_left (.unless (.ok (behind_keepLine behind block)))
  | _ =>
      dsimp only
      split <;> exact .error_left

theorem jointly_closeFunction {f : OpenFunction} {inner : List (Option Char)}
    (behind : p.Behind first n q) (block : p.block = .function (some f) inner) :
    Jointly (Behind first n) (p.closeFunction (some f)) (q.closeFunction (some (f.shift n))) := by
  have given : p.loaded.rules ≠ [] := by
    refine behind.sealed.resolve_left ?_
    rw [block]
    exact fun none => nomatch none
  unfold closeFunction
  dsimp only [OpenFunction.shift]
  cases Body.close f.body.reverse .unsealed with
  | error crash => exact .error_left
  | ok body =>
      exact .ok ⟨behind.loaded.modifyLast given fun _ => rfl, rfl, .inl rfl⟩

theorem jointly_closeBlock (behind : p.Behind first n q) :
    Jointly (Behind first n) (p.closeBlock ⟨file, number⟩ line)
      (q.closeBlock ⟨file, number + n⟩ line) := by
  have shifted := behind.block
  unfold closeBlock
  rw [shifted]
  cases block : p.block with
  | none => exact .error_left
  | account a =>
      dsimp only [OpenBlock.shift]
      cases a.missing? with
      | some word => exact .error_left
      | none =>
          refine .ok ⟨{ behind.loaded with accounts := ?_ }, rfl, .inl rfl⟩
          simp [behind.loaded.accounts]
  | filter kind => exact .ok ⟨behind.loaded, rfl, .inl rfl⟩
  | plugin a =>
      dsimp only [OpenBlock.shift]
      cases a.missing? with
      | some word => exact .error_left
      | none =>
          refine .ok ⟨{ behind.loaded with plugins := ?_ }, rfl, .inl rfl⟩
          simp [behind.loaded.plugins]
  | table t =>
      dsimp only [OpenBlock.shift]
      cases t.missing? with
      | some word => exact .error_left
      | none =>
          refine .ok ⟨{ behind.loaded with tables := ?_ }, rfl, .inl rfl⟩
          simp [behind.loaded.tables]
  | function function inner =>
      cases inner with
      | cons letter inner => exact .ok (behind_keepLine behind block)
      | nil =>
          cases function with
          | none => exact .error_left
          | some f => exact jointly_closeFunction behind block

theorem jointly_takePlain {limits : Limits} (behind : p.Behind first n q) :
    Jointly (Behind first n) (p.takePlain limits ⟨file, number⟩ line)
      (q.takePlain limits ⟨file, number + n⟩ line) := by
  have shifted := behind.block
  refine .ite (jointly_closeBlock behind) (.ite ?_ (.ite ?_ (jointly_openBlock behind)))
  · rw [shifted]
    cases block : p.block with
    | function function inner =>
        cases inner with
        | nil => exact .error_left
        | cons letter inner => exact .ite (.ok (behind_keepLine behind block)) .error_left
    | _ => exact .error_left
  · rw [shifted]
    cases block : p.block with
    | function function inner => exact .ok (behind_keepLine behind block)
    | _ => exact .error_left

theorem jointly_takeLine {limits : Limits} (behind : p.Behind first n q) :
    Jointly (Behind first n) (p.takeLine limits ⟨file, number⟩ line)
      (q.takeLine limits ⟨file, number + n⟩ line) := by
  have shifted := behind.block
  rw [takeLine_eq, takeLine_eq, shifted]
  cases block : p.block with
  | account a =>
      dsimp only [OpenBlock.shift]
      cases AccountFlag.ofLine? line with
      | none => exact jointly_takePlain behind
      | some flag => exact jointly_turnOn behind
  | plugin a =>
      dsimp only [OpenBlock.shift]
      cases PluginFlag.ofLine? line with
      | none => exact jointly_takePlain behind
      | some flag => exact .ok ⟨behind.loaded, rfl, .inl rfl⟩
  | _ => exact jointly_takePlain behind

/-- A line that is no include, so many lines further down. -/
theorem jointly_readLine (behind : p.Behind first n q) (other : p.include? line = none)
    {includeFile includeFile' : Position → Text → Progress → Except Stop Progress} :
    Jointly (Behind first n) (p.readLine around includeFile ⟨file, number⟩ line)
      (q.readLine around includeFile' ⟨file, number + n⟩ line) := by
  have shifted := behind.block
  refine .ite (.ok behind) ?_
  rw [shifted]
  cases assigned : splitAssignment? line with
  | none =>
      cases block : p.block with
      | filter kind =>
          cases Line.isControl line with
          | false => exact jointly_addFilter behind block
          | true => exact jointly_takeLine behind
      | _ => exact jointly_takeLine behind
  | some assignment =>
      obtain ⟨word, v⟩ := assignment
      dsimp only
      cases spelled : Keyword.ofWord? word with
      | none =>
          cases block : p.block with
          | filter kind =>
              cases Line.isControl line with
              | false => exact jointly_addFilter behind block
              | true => exact .error_left
          | function function inner => exact jointly_takeLine behind
          | _ => exact .error_left
      | some k =>
          have assigns : Jointly (Behind first n)
              (p.assign around (includeFile ⟨file, number⟩) ⟨file, number⟩ word k v)
              (q.assign around (includeFile' ⟨file, number + n⟩) ⟨file, number + n⟩ word k v) := by
            refine jointly_assign behind ?_
            rintro ⟨block, rfl, given⟩
            simp [include?, block, assigned, spelled, given] at other
          cases block : p.block with
          | filter kind =>
              cases Line.isControl line with
              | false => exact jointly_addFilter behind block
              | true => exact assigns
          | _ => exact assigns

/-! ## Files -/

variable {room : Nat} {lines : List Line} {visits : List Visit} {p' q' : Progress}

/-- Lines without includes, so many lines further down. -/
theorem GoesThrough.behind (through : GoesThrough around room file number lines p visits p')
    (plain : ∀ visit ∈ visits, visit.isInclude = false) (behind : p.Behind first n q)
    {includeFile : Position → Text → Progress → Except Stop Progress}
    (read : readLines around includeFile file (number + n) lines q = .ok q') :
    p'.Behind first n q' := by
  -- Of the ways in which a line is gone through, only that of a line that is no include is left.
  induction through generalizing q with
  | nil =>
      cases read
      exact behind
  | line other here later ih =>
      rw [List.forall_mem_cons] at plain
      obtain ⟨q₁, there, read⟩ := exists_of_bind_eq_ok read
      rw [Nat.add_right_comm] at read
      exact ih plain.2 (jointly_readLine behind other _ _ here there) read
  | passed included | opened included =>
      rw [List.forall_mem_cons, Visit.isInclude, included] at plain
      cases plain.1

/-- Without includes, the lines of a text without marks leave no block open that has no letter. -/
theorem GoesThrough.headed (through : GoesThrough around room file number lines p visits p')
    (plain : ∀ visit ∈ visits, visit.isInclude = false) (encoded : ∀ line ∈ lines, line.Encoded)
    (headed : p.Headed) : p'.Headed := by
  induction through with
  | nil => exact headed
  | line other here later ih =>
      rw [List.forall_mem_cons] at plain encoded
      exact ih plain.2 encoded.2 ((reading_of_readLine other here).headed encoded.1 headed)
  | passed included | opened included =>
      rw [List.forall_mem_cons, Visit.isInclude, included] at plain
      cases plain.1

/-- A load that ends does so outside of all blocks, but for one without a letter. -/
theorem outside_of_finish (headed : p.Headed)
    (unopened : ∀ f inner, p.block ≠ .function (some f) inner) (finished : p.finish file = .ok p') :
    p.block = .none := by
  unfold finish at finished
  cases block : p.block with
  | none => rfl
  | function function inner =>
      cases function with
      | none => exact absurd block (headed inner)
      | some f => exact absurd block (unopened f inner)
  | _ =>
      rw [block] at finished
      contradiction

theorem sameRecords_of_finish (finished : p.finish file = .ok p') :
    p.loaded.SameRecords p'.loaded := by
  rw [(finish_eq_ok finished).2]
  split
  · constructor <;> rfl
  · constructor <;> rfl

end Progress

/-! ## Encoded texts -/

namespace Encoding

variable {maxName : Int} {text text' file : Text} {encoded encoded' : List Line}

/-- The lines of a text that ends in a line feed are encoded apart from those of another one behind
it. -/
theorem lines_append (whole : text.Whole) (first : lines text file maxName = .ok encoded)
    (second : lines text' file maxName = .ok encoded') :
    lines (text ++ text') file maxName = .ok (encoded ++ encoded') := by
  rw [lines_append_eq whole, first, second]

end Encoding

/-! ## Loads -/

namespace Loaded

variable {around : Surroundings} {text text' file : Text} {before : Loaded} {files : FileSystem}
  {log : EventLog}

/-- The load of a text comes to no include. -/
def IncludesNothing (around : Surroundings) (text file : Text) (before : Loaded)
    (files : FileSystem) (log : EventLog) : Prop :=
  ∀ visit ∈ before.visits around text file files log, visit.isInclude = false

instance : Decidable (before.IncludesNothing around text file files log) :=
  List.decidableBAll _ _

/-- Loading is compositional. From two texts without includes, of which the first one has no marks
and ends in a line feed, the records, agents and rules of the second one are loaded behind those of
the first one, so many lines further down as the first one has, if all loads succeed. -/
theorem loadText_append (whole : text.Whole) (unmarked : text.Unmarked)
    (plain : before.IncludesNothing around text file files log)
    (plain' : before.IncludesNothing around text' file files log)
    (succeeded : (before.loadText around text file files log).fault = none)
    (succeeded' : (before.loadText around text' file files log).fault = none)
    (both : (before.loadText around (text ++ text') file files log).fault = none) :
    Behind (before.loadText around text file files log).loaded (Text.lines text).length
      (before.loadText around text' file files log).loaded
      (before.loadText around (text ++ text') file files log).loaded := by
  obtain ⟨lines, p, p₁, encoded, read, finished, result⟩ := readFile_of_loadText succeeded
  obtain ⟨lines', q, q₁, encoded', read', finished', result'⟩ := readFile_of_loadText succeeded'
  obtain ⟨_, r, r₁, encodedBoth, readBoth, finishedBoth, resultBoth⟩ := readFile_of_loadText both
  cases encodedBoth.symm.trans (Encoding.lines_append whole encoded encoded')
  rw [IncludesNothing, visits, encoded] at plain
  rw [IncludesNothing, visits, encoded'] at plain'
  have through := Progress.goesThrough_of_readFile read
  have through' := Progress.goesThrough_of_readFile read'
  have outside : p.block = .none := by
    refine Progress.outside_of_finish ?_ (Progress.outside_of_readFile read) finished
    refine through.headed plain (Encoding.encoded_of_mem_lines unmarked encoded) ?_
    intro inner impossible
    contradiction
  -- The lines of the first text are read as they are alone, and the others behind them.
  have later : ∃ includeFile,
      Progress.readLines around includeFile file (1 + lines.length) lines' p = .ok r := by
    obtain ⟨includeFile, asLines⟩ :=
      Progress.exists_readFile_eq around around.limits.includeDepth
    rw [asLines] at read readBoth
    obtain ⟨p₂, linesRead, ended⟩ := exists_of_bind_eq_ok read
    obtain ⟨r₂, allRead, endedBoth⟩ := exists_of_bind_eq_ok readBoth
    rw [Progress.readLines_append, linesRead] at allRead
    rw [(Progress.endFile_eq_ok ended).1, (Progress.endFile_eq_ok endedBoth).1]
    exact ⟨includeFile, allRead⟩
  obtain ⟨includeFile, later⟩ := later
  have start : (before.begin file files log).Behind p.loaded lines.length p :=
    ⟨⟨(List.append_nil _).symm, (List.append_nil _).symm, (List.append_nil _).symm,
      (List.append_nil _).symm, [], rfl, (List.append_nil _).symm⟩, outside, .inl rfl⟩
  have behind : q.Behind p.loaded lines.length r := through'.behind plain' start later
  have length : (Text.lines text).length = lines.length :=
    (Encoding.forall₂_of_lines encoded).length_eq
  rw [result, result', resultBoth, length]
  exact (behind.loaded.beside (Progress.sameRecords_of_finish finished')
    (Progress.sameRecords_of_finish finishedBoth)).behind (Progress.sameRecords_of_finish finished)

/-- An agent, a function and a filter. -/
def firstHalf : Text :=
  "agent=b\nfunction+a\x7b\nb km\n\x7d\nfromfilter\x7b\na>b\n\x7d\n".toList

/-- Another agent, a site with the first one, and another function. -/
def secondHalf : Text :=
  "agent=c\nagentsite=c.d 1\nfunction:b\x7b\nq\n\x7d\nnojs=c.d".toList

theorem loadText_append_halves :
    let load (text : Text) := (fresh ['a']).loadText ⟨{}, {}⟩ text ['r'] {} #[]
    ((load firstHalf).fault = none ∧ (load secondHalf).fault = none ∧
        (load (firstHalf ++ secondHalf)).fault = none) ∧
      Behind (load firstHalf).loaded 7 (load secondHalf).loaded
        (load (firstHalf ++ secondHalf)).loaded := by
  intro load
  have accepted : (load firstHalf).fault = none ∧ (load secondHalf).fault = none ∧
      (load (firstHalf ++ secondHalf)).fault = none := by
    decide +kernel
  have plain : (fresh ['a']).IncludesNothing ⟨{}, {}⟩ firstHalf ['r'] {} #[] ∧
      (fresh ['a']).IncludesNothing ⟨{}, {}⟩ secondHalf ['r'] {} #[] := by
    decide +kernel
  exact ⟨accepted, loadText_append (by decide +kernel) (by decide +kernel) plain.1 plain.2
    accepted.1 accepted.2.1 accepted.2.2⟩

end Loaded

end Ebrc
