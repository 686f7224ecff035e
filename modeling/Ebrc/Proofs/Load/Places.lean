import Ebrc.Load
import Ebrc.Proofs.Load.Reading

/-!
# Lines do the same at every place

Where a line stands is noted down in rules, in an open function and in events, and told by faults,
but it decides nothing. So two readings of a line that go on from states that differ in such notes
alone both stop, or both go on to states that differ in notes alone.
-/

namespace Ebrc

/-! ## Without places -/

/-- A rule without the line that made it. -/
def Rule.unplaced (rule : Rule) : Rule := { rule with line := 0 }

/-- What is loaded, without the lines that made the rules and without the files that were read. -/
def Loaded.unplaced (s : Loaded) : Loaded :=
  { s with rules := s.rules.map Rule.unplaced, files := [] }

/-- An open function without the line of its header. -/
def OpenFunction.unplaced (f : OpenFunction) : OpenFunction := { f with line := 0 }

/-- An open block without such a line. -/
def OpenBlock.unplaced : OpenBlock → OpenBlock
  | .function f? inner => .function (f?.map OpenFunction.unplaced) inner
  | block => block

/-- How far a load has come, without places and events. -/
def Progress.unplaced (p : Progress) : Progress :=
  { loaded := p.loaded.unplaced, block := p.block.unplaced, files := p.files, log := #[] }

@[simp] theorem Progress.unplaced_block (p : Progress) : p.unplaced.block = p.block.unplaced := rfl

/-- The same is loaded, up to places. -/
def Loaded.Like (s s' : Loaded) : Prop := s'.unplaced = s.unplaced

/-- Two loads have come equally far, up to places and events. -/
def Progress.Like (p q : Progress) : Prop := q.unplaced = p.unplaced

@[simp] theorem Rule.unplaced_unplaced (rule : Rule) : rule.unplaced.unplaced = rule.unplaced := rfl

@[simp] theorem Loaded.unplaced_unplaced (s : Loaded) : s.unplaced.unplaced = s.unplaced := by
  simp [unplaced, Function.comp_def]

@[simp] theorem OpenBlock.unplaced_unplaced (block : OpenBlock) :
    block.unplaced.unplaced = block.unplaced := by
  cases block with
  | function function inner => cases function <;> rfl
  | _ => rfl

theorem Loaded.like_unplaced (s : Loaded) : s.Like s.unplaced := s.unplaced_unplaced

theorem Progress.like_unplaced (p : Progress) : p.Like p.unplaced := by
  simp [Like, unplaced]

theorem Progress.like_tell {p q : Progress} (like : p.Like q) (event event' : Event) :
    (p.tell event).Like (q.tell event') := like

theorem Loaded.like_addRule {s s' : Loaded} {rule rule' : Rule} (like : s.Like s')
    (same : rule'.unplaced = rule.unplaced) : (s.addRule rule).Like (s'.addRule rule') := by
  have rules : s'.rules.map Rule.unplaced = s.rules.map Rule.unplaced := congrArg (·.rules) like
  have added : (s'.addRule rule').unplaced =
      { s'.unplaced with rules := s'.rules.map Rule.unplaced ++ [rule'.unplaced] } := by
    simp [addRule, unplaced]
  rw [Like, added, like, rules, same]
  simp [addRule, unplaced]

theorem RuleTable.modifyLast_map {f g : Rule → Rule} (commute : ∀ rule, f (g rule) = g (f rule))
    (rules : RuleTable) : modifyLast f (rules.map g) = (modifyLast f rules).map g := by
  rcases List.eq_nil_or_concat rules with rfl | ⟨others, last, rfl⟩
  · rfl
  · simp [commute]

theorem Loaded.like_modifyLast {s s' : Loaded} {f : Rule → Rule} (like : s.Like s')
    (commute : ∀ rule, f (Rule.unplaced rule) = (f rule).unplaced) :
    Like { s with rules := s.rules.modifyLast f } { s' with rules := s'.rules.modifyLast f } := by
  have rules : s'.rules.map Rule.unplaced = s.rules.map Rule.unplaced := congrArg (·.rules) like
  have changed (s : Loaded) : Loaded.unplaced { s with rules := s.rules.modifyLast f } =
      { s.unplaced with rules := RuleTable.modifyLast f (s.rules.map Rule.unplaced) } := by
    rw [RuleTable.modifyLast_map commute]
    rfl
  rw [Like, changed, changed, like, rules]

theorem Progress.Like.intro {p q : Progress} (loaded : p.loaded.Like q.loaded)
    (block : q.block.unplaced = p.block.unplaced) (files : q.files = p.files) : p.Like q := by
  rw [Like, unplaced, unplaced, loaded, block, files]

/-! ## Alike outcomes -/

/-- Both succeed, with results that are the same in some way, or both fail. -/
inductive Alike {ε α : Type} (Same : α → α → Prop) : Except ε α → Except ε α → Prop where
  | ok {a b : α} (same : Same a b) : Alike Same (.ok a) (.ok b)
  | error {e e' : ε} : Alike Same (.error e) (.error e')

section Alike

variable {ε α β : Type} {Same : α → α → Prop} {Same' : β → β → Prop}

theorem Alike.refl (r : Except ε α) : Alike Eq r r := by
  cases r with
  | ok a => exact .ok rfl
  | error e => exact .error

theorem Alike.bind {r r' : Except ε α} {f f' : α → Except ε β} (first : Alike Same r r')
    (next : ∀ a b, Same a b → Alike Same' (f a) (f' b)) : Alike Same' (r >>= f) (r' >>= f') := by
  cases first with
  | ok same => exact next _ _ same
  | error => exact .error

theorem Alike.map {r r' : Except ε α} {f f' : α → β} (alike : Alike Same r r')
    (next : ∀ a b, Same a b → Same' (f a) (f' b)) : Alike Same' (r.map f) (r'.map f') := by
  cases alike with
  | ok same => exact .ok (next _ _ same)
  | error => exact .error

theorem Alike.join {r r' r₀ : Except ε α} (first : Alike Same r r₀) (second : Alike Same r' r₀)
    (join : ∀ a b c, Same a c → Same b c → Same a b) : Alike Same r r' := by
  cases first with
  | ok same =>
      cases second with
      | ok same' => exact .ok (join _ _ _ same same')
  | error =>
      cases second with
      | error => exact .error

theorem Alike.exists_ok {r r' : Except ε α} {a : α} (alike : Alike Same r r')
    (succeeds : r = .ok a) :
    ∃ b, r' = .ok b ∧ Same a b := by
  cases alike with
  | ok same =>
      cases succeeds
      exact ⟨_, rfl, same⟩
  | error => contradiction

theorem Alike.ite {c : Prop} [Decidable c] {r r' s s' : Except ε α}
    (yes : c → Alike Same r r') (no : ¬c → Alike Same s s') :
    Alike Same (if c then r else s) (if c then r' else s') := by
  split
  · exact yes ‹_›
  · exact no ‹_›

variable {p q : Progress} {here there : Position}

theorem alike_stop {fault fault' : ConfigFault} :
    Alike Same (p.stop here fault) (q.stop there fault') := .error

theorem alike_crash {c c' : Crash} : Alike Same (p.crash c) (q.crash c') := .error

theorem Alike.orRefuse {r r' : Except Refusal α} (alike : Alike Same r r') :
    Alike Same (p.orRefuse here r) (q.orRefuse there r') := by
  cases alike with
  | ok same => exact .ok same
  | @error e e' => cases e <;> cases e' <;> exact .error

theorem Alike.orCrash {r r' : Except FileError α} (alike : Alike Same r r') :
    Alike Same (p.orCrash r) (q.orCrash r') := by
  cases alike with
  | ok same => exact .ok same
  | error => exact .error

end Alike

namespace Progress

variable {around : Surroundings} {here there : Position} {word v : Text} {p : Progress}
variable {line : Line} {env : Environment} {path : Path}

/-! ## Paths -/

theorem alike_withPath {act act' : Path → Progress → Except Stop Progress}
    (acts : ∀ path, Alike Like (act path p) (act' path p.unplaced)) :
    Alike Like (p.withPath env here v act) (p.unplaced.withPath env there v act') := by
  unfold withPath expandPath
  dsimp only
  cases Environment.remaining? (env.expand v) with
  | some name => exact .ok (like_tell p.like_unplaced _ _)
  | none =>
      cases env.expandHome (Path.ofText (env.expand v)) with
      | error reason => exact .error
      | ok path => exact acts path

theorem alike_requireDirectory :
    Alike Eq (p.requireDirectory here path) (p.unplaced.requireDirectory there path) := by
  refine (Alike.refl _).orCrash.bind ?_
  rintro found _ rfl
  cases found with
  | true => exact .ok rfl
  | false => exact alike_stop

theorem alike_requireFile {role : FileRole} :
    Alike Eq (p.requireFile here role path) (p.unplaced.requireFile there role path) := by
  refine (Alike.refl _).orCrash.bind ?_
  rintro found _ rfl
  cases found with
  | true => exact .ok rfl
  | false => exact alike_stop

theorem alike_requireFileOrNothing {role : FileRole} :
    Alike Eq (p.requireFileOrNothing here role path)
      (p.unplaced.requireFileOrNothing there role path) := by
  refine (Alike.refl _).orCrash.bind ?_
  rintro found _ rfl
  cases found with
  | true => exact alike_requireFile
  | false => exact .ok rfl

theorem alike_setDownloadDir :
    Alike Like (p.setDownloadDir env here v) (p.unplaced.setDownloadDir env there v) := by
  refine alike_withPath (p := p.modify _) fun path => ?_
  exact alike_requireDirectory.bind fun _ _ _ => .ok (like_unplaced _)

theorem alike_setAddressBook :
    Alike Like (p.setAddressBook env here v) (p.unplaced.setAddressBook env there v) := by
  refine alike_withPath (p := p.modify _) fun path => ?_
  exact alike_requireFile.bind fun _ _ _ => .ok (like_unplaced _)

theorem alike_setEmojis :
    Alike Like (p.setEmojis env here v) (p.unplaced.setEmojis env there v) := by
  refine alike_withPath (p := p.modify _) fun path => ?_
  exact alike_requireFile.bind fun _ _ _ => .ok (like_unplaced _)

theorem alike_makeUnread :
    Alike (fun q q' => q' = q.unplaced) (p.makeUnread here path)
      (p.unplaced.makeUnread there path) := by
  refine (Alike.refl _).orCrash.bind ?_
  rintro found _ rfl
  cases found with
  | true => exact .ok rfl
  | false =>
      dsimp only [unplaced]
      cases p.files.makeDirectory path with
      | ok files => exact .ok rfl
      | error reason => cases reason <;> exact .error

theorem alike_setMailDir :
    Alike Like (p.setMailDir env here v) (p.unplaced.setMailDir env there v) := by
  refine alike_withPath (p := p.modify _) fun path => ?_
  refine alike_requireDirectory.bind fun _ _ _ => alike_makeUnread.bind ?_
  rintro q _ rfl
  exact .ok (like_unplaced _)

theorem alike_setCookieJar :
    Alike Like (p.setCookieJar env here v) (p.unplaced.setCookieJar env there v) := by
  refine alike_withPath (p := p.modify _) fun path => ?_
  refine alike_requireFileOrNothing.bind fun _ _ _ => ?_
  dsimp only [modify, unplaced]
  cases p.files.openForAppend path with
  | ok files => exact .ok (like_unplaced ⟨_, _, files, _⟩)
  | error reason => cases reason <;> exact .error

theorem alike_setCertificates :
    Alike Like (p.setCertificates env here v) (p.unplaced.setCertificates env there v) := by
  refine alike_withPath (p := p.modify _) fun path => ?_
  refine alike_requireFileOrNothing.bind fun _ _ _ => (Alike.refl _).orCrash.bind ?_
  rintro found _ rfl
  cases found with
  | true => exact .ok (like_unplaced _)
  | false => exact alike_stop

/-! ## Keywords -/

/-- A keyword outside of all blocks does the same at every place. -/
theorem alike_setGlobal {k : GlobalKeyword} (other : k ≠ .includeFile)
    {includeFile includeFile' : Text → Progress → Except Stop Progress} :
    Alike Like (p.setGlobal around includeFile here k v)
      (p.unplaced.setGlobal around includeFile' there k v) := by
  have keep {r r' : Except Refusal Loaded} (alike : Alike Loaded.Like r r') :
      Alike Like ((p.orRefuse here r).map fun loaded => { p with loaded })
        ((p.unplaced.orRefuse there r').map fun loaded => { p.unplaced with loaded }) := by
    refine alike.orRefuse.map fun s s' like => ?_
    rw [Like, unplaced, unplaced, like]
    simp [unplaced]
  have rule {rule rule' : Rule} (same : rule'.unplaced = rule.unplaced) :
      (p.loaded.addRule rule).Like (p.unplaced.loaded.addRule rule') :=
    Loaded.like_addRule p.loaded.like_unplaced same
  have number (r : Except Refusal Int) {f f' : Int → Loaded} (like : ∀ n, (f n).Like (f' n)) :
      Alike Loaded.Like (r.map f) (r.map f') := by
    refine (Alike.refl r).map ?_
    rintro n _ rfl
    exact like n
  have site (kind : RuleKind) : Alike Loaded.Like (p.loaded.addSiteRule kind here.line v)
      (p.unplaced.loaded.addSiteRule kind there.line v) := by
    refine (Alike.refl (Loaded.siteDomain v)).map ?_
    rintro domain _ rfl
    exact rule rfl
  cases k with
  | downloadDir => exact alike_setDownloadDir
  | mailDir => exact alike_setMailDir
  | cookieJar => exact alike_setCookieJar
  | certificates => exact alike_setCertificates
  | addressBook => exact alike_setAddressBook
  | emojis => exact alike_setEmojis
  | includeFile => exact absurd rfl other
  | agent =>
      refine keep (.ite (fun _ => .error) fun _ => .ok ?_)
      exact Loaded.like_unplaced { p.loaded with agents := p.loaded.agents ++ [v] }
  | noScript => exact keep (site .noScript)
  | noVerify => exact keep (site .noVerify)
  | proxy =>
      refine keep (.ok (rule ?_))
      rfl
  | agentSite =>
      refine keep ?_
      unfold Loaded.addAgentSite
      split
      · split
        · split
          · exact .error
          · refine .ite (fun _ => .error) fun _ => .ok (rule ?_)
            rfl
        · exact .error
      · exact .error
  | webTimeout | mailTimeout | imapFetch | cacheSize =>
      exact keep (number _ fun n => Loaded.like_unplaced _)
  | cacheDir | dataSource | language | envelope => exact .ok (like_unplaced _)

theorem keywordFault?_unplaced (word : Text) (block : OpenBlock) (k : Keyword) :
    keywordFault? word block.unplaced k = keywordFault? word block k := by
  cases block with
  | function function inner => cases function <;> rfl
  | _ => rfl

/-- A keyword does the same at every place. -/
theorem alike_assign {k : Keyword}
    (other : ¬(p.block = .none ∧ k = .everywhere .includeFile ∧ v ≠ []))
    {includeFile includeFile' : Text → Progress → Except Stop Progress} :
    Alike Like (p.assign around includeFile here word k v)
      (p.unplaced.assign around includeFile' there word k v) := by
  unfold assign
  have fault : keywordFault? word p.unplaced.block k = keywordFault? word p.block k :=
    keywordFault?_unplaced word p.block k
  rw [fault]
  cases faulty : keywordFault? word p.block k with
  | some fault => exact alike_stop
  | none =>
      dsimp only
      by_cases given : v = []
      · rw [if_pos given, if_pos given]
        exact alike_stop
      rw [if_neg given, if_neg given]
      have into {α : Type} (r : Except Refusal α) (f : α → OpenBlock)
          (whole : ∀ a, (f a).unplaced = f a) :
          Alike Like ((p.orRefuse here r).map fun a => { p with block := f a })
            ((p.unplaced.orRefuse there r).map fun a => { p.unplaced with block := f a }) := by
        refine (Alike.refl r).orRefuse.map ?_
        rintro a _ rfl
        rw [Like, unplaced, unplaced, whole]
        simp [unplaced, whole]
      cases k with
      | account k =>
          cases block : p.block with
          | account a =>
              have inside : p.unplaced.block = .account a := by rw [unplaced_block, block]; rfl
              rw [inside]
              exact into _ .account fun _ => rfl
          | _ =>
              rw [block] at faulty
              contradiction
      | plugin k =>
          cases block : p.block with
          | plugin q =>
              have inside : p.unplaced.block = .plugin q := by rw [unplaced_block, block]; rfl
              rw [inside]
              exact into _ .plugin fun _ => rfl
          | _ =>
              rw [block] at faulty
              contradiction
      | table k =>
          cases block : p.block with
          | table t =>
              have inside : p.unplaced.block = .table t := by rw [unplaced_block, block]; rfl
              rw [inside]
              exact into _ .table fun _ => rfl
          | _ =>
              rw [block] at faulty
              contradiction
      | everywhere k =>
          cases block : p.block with
          | none =>
              have outside : p.unplaced.block = .none := by rw [unplaced_block, block]; rfl
              rw [outside]
              exact alike_setGlobal fun same => other ⟨block, by rw [same], given⟩
          | _ =>
              rw [block] at faulty
              contradiction

/-! ## Other lines -/

theorem alike_addFilter {kind : RuleKind} :
    Alike Like (p.addFilter here kind line) (p.unplaced.addFilter there kind line) := by
  unfold addFilter
  split
  · exact alike_stop
  · refine .ite (fun _ => alike_stop) fun _ => .ite (fun _ => alike_stop) fun _ => .ok ?_
    exact .intro (Loaded.like_addRule p.loaded.like_unplaced rfl) p.block.unplaced_unplaced rfl

theorem alike_turnOn {flag : AccountFlag} {a : Account} :
    Alike Like (p.turnOn here flag a) (p.unplaced.turnOn there flag a) := by
  cases flag with
  | standard =>
      refine .ite (fun _ => .ok p.like_unplaced) fun _ => .ite (fun _ => alike_stop) fun _ => ?_
      exact .ok (like_unplaced _)
  | noFetch | secure | imap => exact .ok (like_unplaced { p with block := _ })

theorem alike_startBlock {limits : Limits} {letter : Option Char} {payload : Text} :
    Alike Like (p.startBlock limits here letter payload)
      (p.unplaced.startBlock limits there letter payload) := by
  have starts (block : OpenBlock) : Like { p with block } { p.unplaced with block } :=
    .intro p.loaded.like_unplaced rfl rfl
  unfold startBlock
  split
  · exact .ite (fun _ => alike_stop) fun _ => .ok (starts _)
  · exact .ite (fun _ => alike_stop) fun _ => .ok (starts _)
  · exact .ite (fun _ => alike_stop) fun _ => .ok (starts _)
  · exact .ok (starts _)
  · exact .ok (starts _)
  · exact .ok (starts _)
  · exact .ok (.intro (Loaded.like_addRule p.loaded.like_unplaced rfl) rfl rfl)
  · exact .ite (fun _ => alike_stop) fun _ => .ok (starts _)
  · exact alike_stop

theorem like_keepLine {function : Option OpenFunction} {inner : List (Option Char)} :
    (p.keepLine line function inner).Like
      (p.unplaced.keepLine line (function.map OpenFunction.unplaced) inner) := by
  refine .intro p.loaded.like_unplaced ?_ rfl
  cases function <;> rfl

theorem alike_openBlock {limits : Limits} :
    Alike Like (p.openBlock limits here line) (p.unplaced.openBlock limits there line) := by
  unfold openBlock
  rw [unplaced_block]
  cases p.block with
  | none => exact .ite (fun _ => alike_startBlock) fun _ => alike_stop
  | function function inner =>
      refine .ite (fun _ => alike_stop) fun _ => .ite (fun _ => alike_stop) fun _ => ?_
      exact .ok like_keepLine
  | _ =>
      dsimp only [OpenBlock.unplaced]
      split <;> exact alike_stop

theorem alike_closeFunction {f : OpenFunction} :
    Alike Like (p.closeFunction (some f)) (p.unplaced.closeFunction (some f.unplaced)) := by
  unfold closeFunction
  dsimp only [OpenFunction.unplaced]
  cases Body.close f.body.reverse .unsealed with
  | error crash => exact alike_crash
  | ok body =>
      exact .ok (.intro (Loaded.like_modifyLast p.loaded.like_unplaced fun _ => rfl) rfl rfl)

theorem alike_closeBlock :
    Alike Like (p.closeBlock here line) (p.unplaced.closeBlock there line) := by
  unfold closeBlock
  rw [unplaced_block]
  cases p.block with
  | none => exact alike_stop
  | account a =>
      dsimp only [OpenBlock.unplaced]
      cases a.missing? with
      | some word => exact alike_stop
      | none => exact .ok (.intro (Loaded.like_unplaced _) rfl rfl)
  | filter kind => exact .ok (.intro p.loaded.like_unplaced rfl rfl)
  | plugin q =>
      dsimp only [OpenBlock.unplaced]
      cases q.missing? with
      | some word => exact alike_stop
      | none => exact .ok (.intro (Loaded.like_unplaced _) rfl rfl)
  | table t =>
      dsimp only [OpenBlock.unplaced]
      cases t.missing? with
      | some word => exact alike_stop
      | none => exact .ok (.intro (Loaded.like_unplaced _) rfl rfl)
  | function function inner =>
      cases inner with
      | cons letter inner => exact .ok like_keepLine
      | nil =>
          cases function with
          | none => exact alike_crash
          | some f => exact alike_closeFunction

theorem alike_takePlain {limits : Limits} :
    Alike Like (p.takePlain limits here line) (p.unplaced.takePlain limits there line) := by
  refine .ite (fun _ => alike_closeBlock) fun _ => .ite (fun _ => ?_) fun _ =>
    .ite (fun _ => ?_) fun _ => alike_openBlock
  · rw [unplaced_block]
    cases p.block with
    | function function inner =>
        cases inner with
        | nil => exact alike_stop
        | cons letter inner => exact .ite (fun _ => .ok like_keepLine) fun _ => alike_stop
    | _ => exact alike_stop
  · rw [unplaced_block]
    cases p.block with
    | function function inner => exact .ok like_keepLine
    | _ => exact alike_stop

theorem alike_takeLine {limits : Limits} :
    Alike Like (p.takeLine limits here line) (p.unplaced.takeLine limits there line) := by
  rw [takeLine_eq, takeLine_eq, unplaced_block]
  cases p.block with
  | account a =>
      dsimp only [OpenBlock.unplaced]
      cases AccountFlag.ofLine? line with
      | none => exact alike_takePlain
      | some flag => exact alike_turnOn
  | plugin q =>
      dsimp only [OpenBlock.unplaced]
      cases PluginFlag.ofLine? line with
      | none => exact alike_takePlain
      | some flag => exact .ok (.intro p.loaded.like_unplaced rfl rfl)
  | _ => exact alike_takePlain

/-! ## Lines -/

theorem include?_unplaced : p.unplaced.include? line = p.include? line := by
  unfold include?
  rw [unplaced_block]
  cases p.block <;> rfl

/-- A line that is no include does the same at every place. -/
theorem alike_readLine (other : p.include? line = none)
    {includeFile includeFile' : Position → Text → Progress → Except Stop Progress} :
    Alike Like (p.readLine around includeFile here line)
      (p.unplaced.readLine around includeFile' there line) := by
  refine .ite (fun _ => .ok p.like_unplaced) fun _ => ?_
  rw [unplaced_block]
  cases assigned : splitAssignment? line with
  | none =>
      cases p.block with
      | filter kind =>
          cases Line.isControl line with
          | false => exact alike_addFilter
          | true => exact alike_takeLine
      | _ => exact alike_takeLine
  | some assignment =>
      obtain ⟨word, v⟩ := assignment
      dsimp only
      cases spelled : Keyword.ofWord? word with
      | none =>
          cases p.block with
          | filter kind =>
              cases Line.isControl line with
              | false => exact alike_addFilter
              | true => exact alike_stop
          | function function inner => exact alike_takeLine
          | _ => exact alike_stop
      | some k =>
          have assigns : Alike Like (p.assign around (includeFile here) here word k v)
              (p.unplaced.assign around (includeFile' there) there word k v) := by
            refine alike_assign ?_
            rintro ⟨block, rfl, given⟩
            simp [include?, block, assigned, spelled, given] at other
          cases p.block with
          | filter kind =>
              cases Line.isControl line with
              | false => exact alike_addFilter
              | true => exact assigns
          | _ => exact assigns

/-! ## Like states -/

/-- What is alike without places is alike from two like states. -/
theorem Like.alike {q : Progress} {f f' g : Progress → Except Stop Progress} (like : p.Like q)
    (first : Alike Like (f p) (g p.unplaced)) (second : Alike Like (f' q) (g q.unplaced)) :
    Alike Like (f p) (f' q) := by
  rw [show q.unplaced = p.unplaced from like] at second
  exact first.join second fun _ _ _ same same' => same'.symm.trans same

/-- From two like states a line that is no include does the same, wherever it stands. -/
theorem Like.readLine {q : Progress} (like : p.Like q) (other : p.include? line = none)
    {includeFile includeFile' : Position → Text → Progress → Except Stop Progress} :
    Alike Like (p.readLine around includeFile here line)
      (q.readLine around includeFile' there line) := by
  have other' : q.include? line = none := by
    rw [← include?_unplaced, show q.unplaced = p.unplaced from like, include?_unplaced, other]
  exact like.alike (g := Progress.readLine around includeFile here line) (alike_readLine other)
    (alike_readLine other')

theorem alike_endFile {file file' : Text} :
    Alike Like (p.endFile file) (p.unplaced.endFile file') := by
  unfold endFile
  rw [unplaced_block]
  cases p.block with
  | function function inner =>
      cases function with
      | none => exact .ok p.like_unplaced
      | some f => exact alike_stop
  | _ => exact .ok p.like_unplaced

theorem Like.endFile {q : Progress} {file file' : Text} (like : p.Like q) :
    Alike Like (p.endFile file) (q.endFile file') :=
  like.alike (g := Progress.endFile file) alike_endFile alike_endFile

theorem alike_finish {file file' : Text} :
    Alike Like (p.finish file) (p.unplaced.finish file') := by
  have ended : Like
      (p.modify fun s =>
        if s.accounts ≠ [] ∧ s.defaultAccount = 0 then { s with defaultAccount := 1 } else s)
      (p.unplaced.modify fun s =>
        if s.accounts ≠ [] ∧ s.defaultAccount = 0 then { s with defaultAccount := 1 } else s) := by
    refine .intro ?_ p.block.unplaced_unplaced rfl
    by_cases first : p.loaded.accounts ≠ [] ∧ p.loaded.defaultAccount = 0
    · have first' : p.unplaced.loaded.accounts ≠ [] ∧ p.unplaced.loaded.defaultAccount = 0 := first
      simp only [modify_loaded, if_pos first, if_pos first']
      exact Loaded.like_unplaced { p.loaded with defaultAccount := 1 }
    · have first' : ¬(p.unplaced.loaded.accounts ≠ [] ∧ p.unplaced.loaded.defaultAccount = 0) :=
        first
      simp only [modify_loaded, if_neg first, if_neg first']
      exact p.loaded.like_unplaced
  unfold finish
  rw [unplaced_block]
  cases p.block with
  | none | function => exact .ok ended
  | _ => exact .error

theorem Like.finish {q : Progress} {file file' : Text} (like : p.Like q) :
    Alike Like (p.finish file) (q.finish file') :=
  like.alike (g := Progress.finish file) alike_finish alike_finish

end Progress

end Ebrc
