import Ebrc.Load
import Ebrc.Proofs.Load.Reading

/-!
# What a load does not look at

A load tells events and never looks at those that were told before. It adds accounts and counts
them, but never looks into one that has been added. So two loads that differ in nothing else go
through the same lines in step: both stop for the same reason, or neither does, and what they differ
in is the same as before.
-/

namespace Ebrc

/-- A way to differ in what a load does not look at: in the events told, and in the accounts, as
long as there are as many. It lasts when the same event is told or the same account is added. -/
structure Unseen where
  Logs : EventLog → EventLog → Prop
  Accounts : List Account → List Account → Prop
  push {log log' : EventLog} (event : Event) :
    Logs log log' → Logs (log.push event) (log'.push event)
  length {accounts accounts' : List Account} :
    Accounts accounts accounts' → accounts'.length = accounts.length
  append {accounts accounts' : List Account} (a : Account) :
    Accounts accounts accounts' → Accounts (accounts ++ [a]) (accounts' ++ [a])

/-- Not to differ at all. -/
def Unseen.nothing : Unseen where
  Logs log log' := log' = log
  Accounts accounts accounts' := accounts' = accounts
  push _ same := by rw [same]
  length same := by rw [same]
  append _ same := by rw [same]

/-- Two loads that differ in no other way. -/
inductive Progress.Beside (unseen : Unseen) (p : Progress) : Progress → Prop where
  | intro {accounts : List Account} {log : EventLog} (told : unseen.Logs p.log log)
      (added : unseen.Accounts p.loaded.accounts accounts) :
      Beside unseen p { p with loaded := { p.loaded with accounts }, log }

/-- Both loads go on, with results that are the same in some way, or both stop for the same
reason. -/
inductive InStep (unseen : Unseen) {α : Type} (Same : α → α → Prop) :
    Except Stop α → Except Stop α → Prop where
  | ok {a b : α} (same : Same a b) : InStep unseen Same (.ok a) (.ok b)
  | stop {fault : LoadFault} {p q : Progress} (beside : p.Beside unseen q) :
      InStep unseen Same (.error ⟨fault, p⟩) (.error ⟨fault, q⟩)

namespace InStep

variable {unseen : Unseen} {α β : Type} {Same : α → α → Prop} {Same' : β → β → Prop}
  {r r' : Except Stop α} {a : α} {p q : Progress} {here : Position}

theorem bind {f f' : α → Except Stop β} (first : InStep unseen Same r r')
    (next : ∀ a b, Same a b → InStep unseen Same' (f a) (f' b)) :
    InStep unseen Same' (r >>= f) (r' >>= f') := by
  cases first with
  | ok same => exact next _ _ same
  | stop beside => exact .stop beside

theorem map {f f' : α → β} (first : InStep unseen Same r r')
    (next : ∀ a b, Same a b → Same' (f a) (f' b)) :
    InStep unseen Same' (r.map f) (r'.map f') := by
  cases first with
  | ok same => exact .ok (next _ _ same)
  | stop beside => exact .stop beside

theorem ite {c : Prop} [Decidable c] {s s' : Except Stop α} (yes : c → InStep unseen Same r r')
    (no : ¬c → InStep unseen Same s s') :
    InStep unseen Same (if c then r else s) (if c then r' else s') := by
  split
  · exact yes ‹_›
  · exact no ‹_›

theorem orRefuse (beside : p.Beside unseen q) (refused : Except Refusal α) :
    InStep unseen Eq (p.orRefuse here refused) (q.orRefuse here refused) := by
  cases refused with
  | ok a => exact .ok rfl
  | error refusal => cases refusal <;> exact .stop beside

theorem orCrash (beside : p.Beside unseen q) (found : Except FileError α) :
    InStep unseen Eq (p.orCrash found) (q.orCrash found) := by
  cases found with
  | ok a => exact .ok rfl
  | error reason => exact .stop beside

theorem exists_ok (inStep : InStep unseen Same r r') (succeeds : r = .ok a) :
    ∃ b, r' = .ok b ∧ Same a b := by
  cases inStep with
  | ok same =>
      cases succeeds
      exact ⟨_, rfl, same⟩
  | stop => contradiction

end InStep

namespace Progress

variable {unseen : Unseen} {around : Surroundings} {here : Position} {word v : Text}
  {p q : Progress} {line : Line} {env : Environment} {path : Path}

/-- Two results with loads that differ in no other way. -/
def BesideWith (unseen : Unseen) {α : Type} (a b : α × Progress) : Prop :=
  b.1 = a.1 ∧ a.2.Beside unseen b.2

namespace Beside

theorem block (beside : p.Beside unseen q) : q.block = p.block := by
  cases beside
  rfl

theorem files (beside : p.Beside unseen q) : q.files = p.files := by
  cases beside
  rfl

theorem standard (beside : p.Beside unseen q) :
    q.loaded.defaultAccount = p.loaded.defaultAccount := by
  cases beside
  rfl

theorem count (beside : p.Beside unseen q) :
    q.loaded.accounts.length = p.loaded.accounts.length := by
  cases beside with
  | intro _ added => exact unseen.length added

theorem eq_of_nothing (beside : p.Beside .nothing q) : q = p := by
  cases beside with
  | intro told added =>
      cases told
      cases added
      rfl

theorem tell (beside : p.Beside unseen q) (event : Event) :
    (p.tell event).Beside unseen (q.tell event) := by
  cases beside with
  | intro told added => exact .intro (unseen.push event told) added

/-! ## Paths -/

theorem expandPath (beside : p.Beside unseen q) :
    InStep unseen (BesideWith unseen) (p.expandPath env here v) (q.expandPath env here v) := by
  unfold Progress.expandPath
  dsimp only
  cases Environment.remaining? (env.expand v) with
  | some name => exact .ok ⟨rfl, beside.tell _⟩
  | none =>
      cases env.expandHome (Path.ofText (env.expand v)) with
      | ok path => exact .ok ⟨rfl, beside⟩
      | error reason => exact .stop beside

theorem withPath {act : Path → Progress → Except Stop Progress}
    (acts : ∀ path p q, p.Beside unseen q →
      InStep unseen (Beside unseen) (act path p) (act path q))
    (beside : p.Beside unseen q) :
    InStep unseen (Beside unseen) (p.withPath env here v act) (q.withPath env here v act) := by
  refine beside.expandPath.bind ?_
  rintro ⟨path?, p⟩ ⟨_, q⟩ ⟨same, beside⟩
  cases same
  cases path? with
  | none => exact .ok beside
  | some path => exact acts path p q beside

theorem requireDirectory (beside : p.Beside unseen q) :
    InStep unseen Eq (p.requireDirectory here path) (q.requireDirectory here path) := by
  unfold Progress.requireDirectory
  rw [beside.files]
  refine (InStep.orCrash beside _).bind ?_
  rintro found _ rfl
  cases found with
  | true => exact .ok rfl
  | false => exact .stop beside

theorem requireFile {role : FileRole} (beside : p.Beside unseen q) :
    InStep unseen Eq (p.requireFile here role path) (q.requireFile here role path) := by
  unfold Progress.requireFile
  rw [beside.files]
  refine (InStep.orCrash beside _).bind ?_
  rintro found _ rfl
  cases found with
  | true => exact .ok rfl
  | false => exact .stop beside

theorem requireFileOrNothing {role : FileRole} (beside : p.Beside unseen q) :
    InStep unseen Eq (p.requireFileOrNothing here role path)
      (q.requireFileOrNothing here role path) := by
  unfold Progress.requireFileOrNothing
  rw [beside.files]
  refine (InStep.orCrash beside _).bind ?_
  rintro found _ rfl
  cases found with
  | true => exact beside.requireFile
  | false => exact .ok rfl

/-- Another part of what is loaded changes. -/
theorem modify {f : Loaded → Loaded} (beside : p.Beside unseen q)
    (apart : ∀ s accounts, f { s with accounts } = { f s with accounts }) :
    (p.modify f).Beside unseen (q.modify f) := by
  cases beside with
  | @intro accounts log told added =>
      have kept : (f p.loaded).accounts = p.loaded.accounts := by
        have same := congrArg Loaded.accounts (apart p.loaded p.loaded.accounts)
        exact same
      have changed : { p with loaded := { p.loaded with accounts }, log }.modify f =
          { p.modify f with loaded := { f p.loaded with accounts }, log } := by
        rw [Progress.modify, apart]
        rfl
      rw [changed]
      refine .intro told ?_
      rwa [modify_loaded, kept]

theorem setDownloadDir (beside : p.Beside unseen q) :
    InStep unseen (Beside unseen) (p.setDownloadDir env here v) (q.setDownloadDir env here v) := by
  refine withPath (fun path p q beside => ?_) (beside.modify fun _ _ => rfl)
  exact beside.requireDirectory.bind fun _ _ _ => .ok (beside.modify fun _ _ => rfl)

theorem setAddressBook (beside : p.Beside unseen q) :
    InStep unseen (Beside unseen) (p.setAddressBook env here v) (q.setAddressBook env here v) := by
  refine withPath (fun path p q beside => ?_) (beside.modify fun _ _ => rfl)
  exact beside.requireFile.bind fun _ _ _ => .ok (beside.modify fun _ _ => rfl)

theorem setEmojis (beside : p.Beside unseen q) :
    InStep unseen (Beside unseen) (p.setEmojis env here v) (q.setEmojis env here v) := by
  refine withPath (fun path p q beside => ?_) (beside.modify fun _ _ => rfl)
  exact beside.requireFile.bind fun _ _ _ => .ok (beside.modify fun _ _ => rfl)

theorem withFiles (beside : p.Beside unseen q) (files : FileSystem) :
    { p with files }.Beside unseen { q with files } := by
  cases beside with
  | intro told added => exact .intro told added

theorem withBlock (beside : p.Beside unseen q) (block : OpenBlock) :
    { p with block }.Beside unseen { q with block } := by
  cases beside with
  | intro told added => exact .intro told added

theorem makeUnread (beside : p.Beside unseen q) :
    InStep unseen (Beside unseen) (p.makeUnread here path) (q.makeUnread here path) := by
  unfold Progress.makeUnread
  rw [beside.files]
  refine (InStep.orCrash beside _).bind ?_
  rintro found _ rfl
  cases found with
  | true => exact .ok beside
  | false =>
      cases p.files.makeDirectory path with
      | ok files => exact .ok (beside.withFiles files)
      | error reason => cases reason <;> exact .stop beside

theorem setMailDir (beside : p.Beside unseen q) :
    InStep unseen (Beside unseen) (p.setMailDir env here v) (q.setMailDir env here v) := by
  refine withPath (fun path p q beside => ?_) (beside.modify fun _ _ => rfl)
  refine beside.requireDirectory.bind fun _ _ _ => ?_
  exact beside.makeUnread.bind fun _ _ beside => .ok (beside.modify fun _ _ => rfl)

theorem setCookieJar (beside : p.Beside unseen q) :
    InStep unseen (Beside unseen) (p.setCookieJar env here v) (q.setCookieJar env here v) := by
  refine withPath (fun path p q beside => ?_) (beside.modify fun _ _ => rfl)
  refine beside.requireFileOrNothing.bind fun _ _ _ => ?_
  rw [beside.files]
  cases p.files.openForAppend path with
  | ok files => exact .ok ((beside.withFiles files).modify fun _ _ => rfl)
  | error reason => cases reason <;> exact .stop beside

theorem setCertificates (beside : p.Beside unseen q) :
    InStep unseen (Beside unseen) (p.setCertificates env here v)
      (q.setCertificates env here v) := by
  refine withPath (fun path p q beside => ?_) (beside.modify fun _ _ => rfl)
  refine beside.requireFileOrNothing.bind fun _ _ _ => ?_
  rw [beside.files]
  refine (InStep.orCrash beside _).bind ?_
  rintro found _ rfl
  cases found with
  | true => exact .ok (beside.modify fun _ _ => rfl)
  | false => exact .stop beside

/-! ## Keywords -/

/-- Something is done to what is loaded, apart from the accounts, or refused. -/
theorem keep (beside : p.Beside unseen q) (here : Position)
    (act : Loaded → Except Refusal Loaded)
    (apart : ∀ s accounts, act { s with accounts } = (act s).map fun s => { s with accounts }) :
    InStep unseen (Beside unseen)
      ((p.orRefuse here (act p.loaded)).map fun loaded => { p with loaded })
      ((q.orRefuse here (act q.loaded)).map fun loaded => { q with loaded }) := by
  cases beside with
  | @intro accounts log told added =>
      have kept := apart p.loaded p.loaded.accounts
      have moved := apart p.loaded accounts
      dsimp only
      rw [moved]
      cases done : act p.loaded with
      | ok s =>
          rw [done] at kept
          have same : s.accounts = p.loaded.accounts := by
            have same := congrArg (Except.map Loaded.accounts) kept
            exact Except.ok.inj same
          refine .ok (.intro told ?_)
          rwa [same]
      | error refusal => cases refusal <;> exact .stop (.intro told added)

theorem setGlobal {k : GlobalKeyword} {includeFile : Text → Progress → Except Stop Progress}
    (included : ∀ v p q, p.Beside unseen q →
      InStep unseen (Beside unseen) (includeFile v p) (includeFile v q))
    (beside : p.Beside unseen q) :
    InStep unseen (Beside unseen) (p.setGlobal around includeFile here k v)
      (q.setGlobal around includeFile here k v) := by
  have keepNumber (r : Except Refusal Int) (set : Int → Loaded → Loaded)
      (apart : ∀ n s accounts, set n { s with accounts } = { set n s with accounts }) :=
    beside.keep here (fun s => r.map fun n => set n s) fun s accounts => by
      cases r with
      | ok n => exact congrArg Except.ok (apart n s accounts)
      | error refusal => rfl
  cases k with
  | downloadDir => exact beside.setDownloadDir
  | mailDir => exact beside.setMailDir
  | cookieJar => exact beside.setCookieJar
  | certificates => exact beside.setCertificates
  | addressBook => exact beside.setAddressBook
  | emojis => exact beside.setEmojis
  | includeFile => exact included v p q beside
  | agent =>
      refine beside.keep here (Loaded.addAgent around.limits.agents v) fun s accounts => ?_
      unfold Loaded.addAgent
      split <;> rfl
  | noScript =>
      refine beside.keep here (Loaded.addSiteRule .noScript here.line v) fun s accounts => ?_
      unfold Loaded.addSiteRule
      cases Loaded.siteDomain v <;> rfl
  | noVerify =>
      refine beside.keep here (Loaded.addSiteRule .noVerify here.line v) fun s accounts => ?_
      unfold Loaded.addSiteRule
      cases Loaded.siteDomain v <;> rfl
  | agentSite =>
      refine beside.keep here (Loaded.addAgentSite here.line v) fun s accounts => ?_
      unfold Loaded.addAgentSite
      repeat' split
      all_goals rfl
  | webTimeout => exact keepNumber _ (fun n s => { s with webTimeout := n }) fun _ _ _ => rfl
  | mailTimeout => exact keepNumber _ (fun n s => { s with mailTimeout := n }) fun _ _ _ => rfl
  | imapFetch => exact keepNumber _ (fun n s => { s with imapFetch := n }) fun _ _ _ => rfl
  | cacheSize => exact keepNumber _ (fun n s => { s with cacheSize := n }) fun _ _ _ => rfl
  | proxy => exact .ok (beside.modify fun _ _ => rfl)
  | cacheDir | dataSource | language | envelope => exact .ok (beside.modify fun _ _ => rfl)

theorem assign {k : Keyword} {includeFile : Text → Progress → Except Stop Progress}
    (included : ∀ v p q, p.Beside unseen q →
      InStep unseen (Beside unseen) (includeFile v p) (includeFile v q))
    (beside : p.Beside unseen q) :
    InStep unseen (Beside unseen) (p.assign around includeFile here word k v)
      (q.assign around includeFile here word k v) := by
  have into {α : Type} (r : Except Refusal α) (f : α → OpenBlock) :
      InStep unseen (Beside unseen) ((p.orRefuse here r).map fun a => { p with block := f a })
        ((q.orRefuse here r).map fun a => { q with block := f a }) := by
    refine (InStep.orRefuse beside r).map ?_
    rintro a _ rfl
    exact beside.withBlock _
  unfold Progress.assign
  rw [beside.block]
  cases keywordFault? word p.block k with
  | some fault => exact .stop beside
  | none =>
      refine .ite (fun _ => .stop beside) fun _ => ?_
      cases k with
      | account k =>
          cases p.block with
          | account a => exact into _ .account
          | _ => exact .ok beside
      | plugin k =>
          cases p.block with
          | plugin q => exact into _ .plugin
          | _ => exact .ok beside
      | table k =>
          cases p.block with
          | table t => exact into _ .table
          | _ => exact .ok beside
      | everywhere k => cases p.block <;> exact beside.setGlobal included

/-! ## Other lines -/

theorem addFilter {kind : RuleKind} (beside : p.Beside unseen q) :
    InStep unseen (Beside unseen) (p.addFilter here kind line) (q.addFilter here kind line) := by
  unfold Progress.addFilter
  split
  · exact .stop beside
  · exact .ite (fun _ => .stop beside) fun _ => .ite (fun _ => .stop beside) fun _ =>
      .ok (beside.modify fun _ _ => rfl)

theorem turnOn {flag : AccountFlag} {a : Account} (beside : p.Beside unseen q) :
    InStep unseen (Beside unseen) (p.turnOn here flag a) (q.turnOn here flag a) := by
  cases flag with
  | standard =>
      simp only [Progress.turnOn, beside.standard, beside.count]
      exact .ite (fun _ => .ok beside) fun _ => .ite (fun _ => .stop beside) fun _ =>
        .ok (beside.modify fun _ _ => rfl)
  | noFetch | secure | imap => exact .ok (beside.withBlock _)

theorem startBlock {limits : Limits} {letter : Option Char} {payload : Text}
    (beside : p.Beside unseen q) :
    InStep unseen (Beside unseen) (p.startBlock limits here letter payload)
      (q.startBlock limits here letter payload) := by
  have plugins : q.loaded.plugins = p.loaded.plugins := by
    cases beside
    rfl
  have tables : q.loaded.tables = p.loaded.tables := by
    cases beside
    rfl
  unfold Progress.startBlock
  rw [beside.count, plugins, tables]
  split
  · exact .ite (fun _ => .stop beside) fun _ => .ok (beside.withBlock _)
  · exact .ite (fun _ => .stop beside) fun _ => .ok (beside.withBlock _)
  · exact .ite (fun _ => .stop beside) fun _ => .ok (beside.withBlock _)
  · exact .ok (beside.withBlock _)
  · exact .ok (beside.withBlock _)
  · exact .ok (beside.withBlock _)
  · exact .ok ((beside.modify fun _ _ => rfl).withBlock _)
  · exact .ite (fun _ => .stop beside) fun _ => .ok (beside.withBlock _)
  · exact .stop beside

theorem openBlock {limits : Limits} (beside : p.Beside unseen q) :
    InStep unseen (Beside unseen) (p.openBlock limits here line)
      (q.openBlock limits here line) := by
  unfold Progress.openBlock
  rw [beside.block]
  cases p.block with
  | none => exact .ite (fun _ => beside.startBlock) fun _ => .stop beside
  | function function inner =>
      exact .ite (fun _ => .stop beside) fun _ => .ite (fun _ => .stop beside) fun _ =>
        .ok (beside.withBlock _)
  | _ =>
      dsimp only
      split <;> exact .stop beside

theorem closeFunction {function : Option OpenFunction} (beside : p.Beside unseen q) :
    InStep unseen (Beside unseen) (p.closeFunction function) (q.closeFunction function) := by
  cases function with
  | none => exact .stop (beside.withBlock _)
  | some f =>
      unfold Progress.closeFunction
      dsimp only
      cases Body.close f.body.reverse .unsealed with
      | error crash => exact .stop beside
      | ok body => exact .ok ((beside.modify fun _ _ => rfl).withBlock _)

/-- The same account is added. -/
theorem addAccount (beside : p.Beside unseen q) (a : Account) :
    (p.modify fun s => { s with accounts := s.accounts ++ [a] }).Beside unseen
      (q.modify fun s => { s with accounts := s.accounts ++ [a] }) := by
  cases beside with
  | intro told added => exact .intro told (unseen.append a added)

theorem closeBlock (beside : p.Beside unseen q) :
    InStep unseen (Beside unseen) (p.closeBlock here line) (q.closeBlock here line) := by
  unfold Progress.closeBlock
  rw [beside.block]
  cases p.block with
  | none => exact .stop beside
  | filter => exact .ok (beside.withBlock _)
  | account a =>
      dsimp only
      cases a.missing? with
      | none => exact .ok ((beside.addAccount _).withBlock _)
      | some word => exact .stop beside
  | plugin q =>
      dsimp only
      cases q.missing? with
      | none => exact .ok ((beside.modify fun _ _ => rfl).withBlock _)
      | some what => exact .stop beside
  | table t =>
      dsimp only
      cases t.missing? with
      | none => exact .ok ((beside.modify fun _ _ => rfl).withBlock _)
      | some word => exact .stop beside
  | function function inner =>
      cases inner with
      | nil => exact beside.closeFunction
      | cons letter inner => exact .ok (beside.withBlock _)

theorem takePlain {limits : Limits} (beside : p.Beside unseen q) :
    InStep unseen (Beside unseen) (p.takePlain limits here line)
      (q.takePlain limits here line) := by
  refine .ite (fun _ => beside.closeBlock) fun _ => .ite (fun _ => ?_) fun _ =>
    .ite (fun _ => ?_) fun _ => beside.openBlock
  · rw [beside.block]
    cases p.block with
    | function function inner =>
        cases inner with
        | nil => exact .stop beside
        | cons letter inner =>
            exact .ite (fun _ => .ok (beside.withBlock _)) fun _ => .stop beside
    | _ => exact .stop beside
  · rw [beside.block]
    cases p.block with
    | function function inner => exact .ok (beside.withBlock _)
    | _ => exact .stop beside

theorem takeLine {limits : Limits} (beside : p.Beside unseen q) :
    InStep unseen (Beside unseen) (p.takeLine limits here line) (q.takeLine limits here line) := by
  rw [takeLine_eq, takeLine_eq, beside.block]
  cases p.block with
  | account a =>
      dsimp only
      cases AccountFlag.ofLine? line with
      | none => exact beside.takePlain
      | some flag => exact beside.turnOn
  | plugin q =>
      dsimp only
      cases PluginFlag.ofLine? line with
      | none => exact beside.takePlain
      | some flag => exact .ok (beside.withBlock _)
  | _ => exact beside.takePlain

/-- How includes are dealt with does not look at it either. -/
def Includes (unseen : Unseen)
    (includeFile : Position → Text → Progress → Except Stop Progress) : Prop :=
  ∀ here v p q, p.Beside unseen q →
    InStep unseen (Beside unseen) (includeFile here v p) (includeFile here v q)

theorem readLine {includeFile : Position → Text → Progress → Except Stop Progress}
    (included : Includes unseen includeFile) (beside : p.Beside unseen q) :
    InStep unseen (Beside unseen) (p.readLine around includeFile here line)
      (q.readLine around includeFile here line) := by
  refine .ite (fun _ => .ok beside) fun _ => ?_
  rw [beside.block]
  cases splitAssignment? line with
  | none =>
      cases p.block with
      | filter kind =>
          cases Line.isControl line with
          | false => exact beside.addFilter
          | true => exact beside.takeLine
      | _ => exact beside.takeLine
  | some assignment =>
      obtain ⟨word, v⟩ := assignment
      dsimp only
      cases Keyword.ofWord? word with
      | none =>
          cases p.block with
          | filter kind =>
              cases Line.isControl line with
              | false => exact beside.addFilter
              | true => exact .stop beside
          | function function inner => exact beside.takeLine
          | _ => exact .stop beside
      | some k =>
          cases p.block with
          | filter kind =>
              cases Line.isControl line with
              | false => exact beside.addFilter
              | true => exact beside.assign (included here)
          | _ => exact beside.assign (included here)

/-! ## Files -/

theorem includedPath (beside : p.Beside unseen q) :
    InStep unseen (BesideWith unseen) (p.includedPath env here v)
      (q.includedPath env here v) := by
  refine beside.expandPath.map ?_
  rintro ⟨path?, p⟩ ⟨_, q⟩ ⟨same, beside⟩
  cases same
  exact ⟨rfl, beside⟩

theorem openInclude {limits : Limits} (beside : p.Beside unseen q) :
    InStep unseen (BesideWith unseen) (p.openInclude limits here path)
      (q.openInclude limits here path) := by
  unfold Progress.openInclude
  rw [beside.files]
  dsimp only
  cases p.files.readText path with
  | error reason =>
      cases reason with
      | badPath => exact .stop beside
      | _ => exact .ok ⟨rfl, beside.tell _⟩
  | ok text =>
      dsimp only
      cases Encoding.lines text path.toText limits.functionName with
      | error error => exact .ok ⟨rfl, beside.tell _⟩
      | ok lines =>
          have opened := beside.modify
            (f := fun s => { s with files := s.files ++ [path.toText] }) fun _ _ => rfl
          exact .ok ⟨rfl, opened⟩

theorem readLines {includeFile : Position → Text → Progress → Except Stop Progress}
    (included : Includes unseen includeFile) {file : Text} {number : Nat} {lines : List Line}
    (beside : p.Beside unseen q) :
    InStep unseen (Beside unseen) (Progress.readLines around includeFile file number lines p)
      (Progress.readLines around includeFile file number lines q) := by
  induction lines generalizing number p q with
  | nil => exact .ok beside
  | cons line rest ih => exact (beside.readLine included).bind fun _ _ => ih

theorem endFile {file : Text} (beside : p.Beside unseen q) :
    InStep unseen (Beside unseen) (p.endFile file) (q.endFile file) := by
  unfold Progress.endFile
  rw [beside.block]
  cases p.block with
  | function function inner =>
      cases function with
      | none => exact .ok beside
      | some f => exact .stop beside
  | _ => exact .ok beside

theorem readAll {includeFile : Position → Text → Progress → Except Stop Progress}
    (included : Includes unseen includeFile) {file : Text} {lines : List Line}
    (beside : p.Beside unseen q) :
    InStep unseen (Beside unseen) (Progress.readAll around includeFile file lines p)
      (Progress.readAll around includeFile file lines q) :=
  (beside.readLines included).bind fun _ _ beside => beside.endFile

theorem includes_refuseInclude : Includes unseen (refuseInclude around) := by
  intro here v p q beside
  refine beside.includedPath.bind ?_
  rintro ⟨path?, p⟩ ⟨_, q⟩ ⟨same, beside⟩
  cases same
  cases path? with
  | none => exact .ok beside
  | some path => exact .stop beside

theorem includes_followInclude {read : Text → List Line → Progress → Except Stop Progress}
    (reads : ∀ file lines p q, p.Beside unseen q →
      InStep unseen (Beside unseen) (read file lines p) (read file lines q)) :
    Includes unseen (followInclude around read) := by
  intro here v p q beside
  refine beside.includedPath.bind ?_
  rintro ⟨path?, p⟩ ⟨_, q⟩ ⟨same, beside⟩
  cases same
  cases path? with
  | none => exact .ok beside
  | some path =>
      refine beside.openInclude.bind ?_
      rintro ⟨lines?, p⟩ ⟨_, q⟩ ⟨same, beside⟩
      cases same
      cases lines? with
      | none => exact .ok beside
      | some lines => exact reads path.toText lines p q beside

/-- Two loads go through a file in step. -/
theorem readFile {depth : Nat} {file : Text} {lines : List Line} (beside : p.Beside unseen q) :
    InStep unseen (Beside unseen) (Progress.readFile around depth file lines p)
      (Progress.readFile around depth file lines q) := by
  induction depth generalizing file lines p q with
  | zero => exact beside.readAll includes_refuseInclude
  | succ depth ih =>
      have included : Includes unseen (followInclude around (Progress.readFile around depth)) :=
        includes_followInclude fun _ _ _ _ beside => ih beside
      exact beside.readAll included

/-- There is one way to deal with the includes of a file, and it does not look at it. -/
theorem exists_readFile_eq_readAll (around : Surroundings) (depth : Nat) :
    ∃ includeFile, (∀ unseen, Includes unseen includeFile) ∧ ∀ file lines p,
      Progress.readFile around depth file lines p =
        Progress.readAll around includeFile file lines p := by
  cases depth with
  | zero => exact ⟨_, fun _ => includes_refuseInclude, fun _ _ _ => rfl⟩
  | succ depth =>
      refine ⟨_, fun _ => ?_, fun _ _ _ => rfl⟩
      exact includes_followInclude fun _ _ _ _ beside => beside.readFile

theorem finish {file : Text} (beside : p.Beside unseen q) :
    InStep unseen (Beside unseen) (p.finish file) (q.finish file) := by
  have unsettled : (q.loaded.accounts ≠ [] ∧ q.loaded.defaultAccount = 0) =
      (p.loaded.accounts ≠ [] ∧ p.loaded.defaultAccount = 0) := by
    rw [← List.length_pos_iff, ← List.length_pos_iff, beside.count, beside.standard]
  let settle (s : Loaded) : Loaded :=
    if s.accounts ≠ [] ∧ s.defaultAccount = 0 then { s with defaultAccount := 1 } else s
  have settled : (p.modify settle).Beside unseen (q.modify settle) := by
    unfold Progress.modify
    simp only [settle, unsettled]
    split
    · exact beside.modify (f := fun s => { s with defaultAccount := 1 }) fun _ _ => rfl
    · exact beside
  unfold Progress.finish
  rw [beside.block]
  cases p.block with
  | none | function => exact .ok settled
  | _ => exact .stop beside

end Beside

end Progress

end Ebrc
