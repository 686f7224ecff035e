import Ebrc.Proofs.Load.Again
import Ebrc.Proofs.Load.Loop
import Ebrc.Proofs.Load.Validity
import Ebrc.Proofs.Load.Visits

/-!
# Limits are caps

The limits of a load decide nothing but whether it is stopped. Where a load succeeds under some
limits, the same load under other ones goes the same way line by line, for as long as it is not
stopped, and it is stopped by the first line behind which something would be more than the limits
allow: the records, what they hold, the agents, the blocks open at once, or the files around one
that is included. Records and agents only become more, so it is enough to look at the end.
-/

namespace Ebrc

variable {limits : Limits}

/-! ## What is within limits -/

/-- There are no more records and agents than the limits allow, and no record holds more. -/
@[mk_iff]
structure Loaded.Within (limits : Limits) (s : Loaded) : Prop where
  accounts : s.accounts.length ≤ limits.accounts
  plugins : s.plugins.length ≤ limits.plugins
  tables : s.tables.length ≤ limits.tables
  agents : s.agents.length ≤ limits.agents
  columns : ∀ table ∈ s.tables, table.columns.length ≤ limits.columns
  recipients : ∀ account ∈ s.accounts, account.recipients.length ≤ limits.recipients

/-- A record whose block is open is within the limits, and so are the others together with it. -/
def OpenBlock.Within (limits : Limits) (s : Loaded) : OpenBlock → Prop
  | .account a => s.accounts.length < limits.accounts ∧ a.recipients.length ≤ limits.recipients
  | .plugin _ => s.plugins.length < limits.plugins
  | .table t => s.tables.length < limits.tables ∧ t.columns.length ≤ limits.columns
  | .none | .filter _ | .function _ _ => True

/-- How many blocks are open, the function counted. -/
def OpenBlock.count : OpenBlock → Nat
  | .none => 0
  | .account _ | .filter _ | .plugin _ | .table _ => 1
  | .function _ inner => inner.length + 1

/-- What has been loaded between two lines, and the record whose block is open, are within the
limits. -/
structure Progress.Within (limits : Limits) (p : Progress) : Prop where
  loaded : p.loaded.Within limits
  block : p.block.Within limits p.loaded

namespace Loaded

variable {s s' : Loaded}

instance : Decidable (s.Within limits) := decidable_of_iff' _ (within_iff limits s)

theorem within_congr (agrees : s.Agrees s') : s'.Within limits ↔ s.Within limits := by
  rw [within_iff, within_iff, agrees.accounts, agrees.plugins, agrees.tables, agrees.agents]

/-- One more account. -/
theorem within_addAccount {a : Account} :
    Within limits { s with accounts := s.accounts ++ [a] } ↔
      s.Within limits ∧ s.accounts.length < limits.accounts ∧
        a.recipients.length ≤ limits.recipients := by
  simp only [within_iff, List.length_append, List.length_singleton, List.forall_mem_append,
    List.forall_mem_singleton]
  constructor
  · rintro ⟨accounts, plugins, tables, agents, columns, recipients, last⟩
    exact ⟨⟨Nat.le_of_succ_le accounts, plugins, tables, agents, columns, recipients⟩, accounts, last⟩
  · rintro ⟨⟨-, plugins, tables, agents, columns, recipients⟩, accounts, last⟩
    exact ⟨accounts, plugins, tables, agents, columns, recipients, last⟩

/-- One more plugin. -/
theorem within_addPlugin {q : Plugin} :
    Within limits { s with plugins := s.plugins ++ [q] } ↔
      s.Within limits ∧ s.plugins.length < limits.plugins := by
  simp only [within_iff, List.length_append, List.length_singleton]
  constructor
  · rintro ⟨accounts, plugins, others⟩
    exact ⟨⟨accounts, Nat.le_of_succ_le plugins, others⟩, plugins⟩
  · rintro ⟨⟨accounts, -, others⟩, plugins⟩
    exact ⟨accounts, plugins, others⟩

/-- One more table. -/
theorem within_addTable {t : Table} :
    Within limits { s with tables := s.tables ++ [t] } ↔
      s.Within limits ∧ s.tables.length < limits.tables ∧ t.columns.length ≤ limits.columns := by
  simp only [within_iff, List.length_append, List.length_singleton, List.forall_mem_append,
    List.forall_mem_singleton]
  constructor
  · rintro ⟨accounts, plugins, tables, agents, ⟨columns, last⟩, recipients⟩
    exact ⟨⟨accounts, plugins, Nat.le_of_succ_le tables, agents, columns, recipients⟩, tables, last⟩
  · rintro ⟨⟨accounts, plugins, -, agents, columns, recipients⟩, tables, last⟩
    exact ⟨accounts, plugins, tables, agents, ⟨columns, last⟩, recipients⟩

/-- One more agent. -/
theorem within_addAgent {agent : Text} :
    Within limits { s with agents := s.agents ++ [agent] } ↔
      s.Within limits ∧ s.agents.length < limits.agents := by
  simp only [within_iff, List.length_append, List.length_singleton]
  constructor
  · rintro ⟨accounts, plugins, tables, agents, others⟩
    exact ⟨⟨accounts, plugins, tables, Nat.le_of_succ_le agents, others⟩, agents⟩
  · rintro ⟨⟨accounts, plugins, tables, -, others⟩, agents⟩
    exact ⟨accounts, plugins, tables, agents, others⟩

/-- What holds between two lines keeps a load within its limits. -/
theorem Sound.within (sound : s.Sound limits) : s.Within limits where
  accounts := sound.accounts
  plugins := sound.plugins
  tables := sound.tables
  agents := sound.agents
  columns table among := (sound.eachTable table among).columns
  recipients account among := (sound.eachAccount account among).recipients

end Loaded

theorem Progress.Sound.within {p : Progress} (sound : p.Sound limits) : p.Within limits where
  loaded := sound.loaded.within
  block := by
    have filling := sound.block
    cases block : p.block with
    | account a =>
        rw [block] at filling
        exact ⟨filling.2, filling.1.recipients⟩
    | plugin q =>
        rw [block] at filling
        exact filling
    | table t =>
        rw [block] at filling
        exact ⟨filling.2, filling.1.columns⟩
    | _ => trivial

/-! ## What only grows -/

theorem Account.recipients_le_of_set {a a' : Account} {limit : Nat} {k : AccountKeyword} {v : Text}
    (set : a.set limit k v = .ok a') : a.recipients.length ≤ a'.recipients.length := by
  cases k with
  | inPort | outPort =>
      obtain ⟨port, -, set⟩ := exists_of_bind_eq_ok set
      cases set
      exact Nat.le_refl _
  | recipient kind =>
      simp only [Account.set, addRecipient] at set
      split at set
      · contradiction
      · cases set
        exact (List.sublist_append_left ..).length_le
  | _ =>
      cases set
      exact Nat.le_refl _

theorem Table.columns_le_of_set {t t' : Table} {limit : Nat} {k : TableKeyword} {v : Text}
    (set : t.set limit k v = .ok t') : t.columns.length ≤ t'.columns.length := by
  cases k with
  | name | shortName =>
      cases set
      exact Nat.le_refl _
  | columns =>
      simp only [Table.set, addColumns] at set
      split at set
      · contradiction
      · cases set
        exact (List.sublist_append_left ..).length_le
  | keyColumns =>
      obtain ⟨key1, key2, -, -, rfl⟩ := setKeyColumns_cases set
      exact Nat.le_refl _

theorem AccountFlag.recipients_raise (flag : AccountFlag) (a : Account) :
    (flag.raise a).recipients = a.recipients := by
  cases flag <;> rfl

variable {around : Surroundings} {here : Position} {line : Line} {p p' : Progress}

/-- Records and agents only become more. -/
theorem Reading.within (reading : Reading around here line p p') (within : p'.Within limits) :
    p.Within limits := by
  obtain ⟨loaded, filling⟩ := within
  have outside (none : p.block = .none) (loaded : p.loaded.Within limits) : p.Within limits :=
    ⟨loaded, by rw [none]; trivial⟩
  cases reading with
  | void => exact ⟨loaded, filling⟩
  | aside _ none aside => exact outside none ((Loaded.within_congr aside.loaded).1 loaded)
  | imapFetch _ none | cacheSize _ none | rule _ none => exact outside none { loaded with }
  | agent _ none _ => exact outside none (Loaded.within_addAgent.1 loaded).1
  | filterRule block => exact ⟨{ loaded with }, by rw [block]; trivial⟩
  | setAccount _ block _ set =>
      obtain ⟨room, recipients⟩ := filling
      exact ⟨loaded, by rw [block]; exact ⟨room, (Account.recipients_le_of_set set).trans recipients⟩⟩
  | @flagAccount a flag block =>
      obtain ⟨room, recipients⟩ := filling
      rw [AccountFlag.recipients_raise] at recipients
      exact ⟨loaded, by rw [block]; exact ⟨room, recipients⟩⟩
  | standard block =>
      rw [Progress.modify_block, block] at filling
      exact ⟨{ loaded with }, by rw [block]; exact filling⟩
  | closeAccount block closes complete =>
      obtain ⟨loaded, room, recipients⟩ := Loaded.within_addAccount.1 loaded
      exact ⟨loaded, by rw [block]; exact ⟨room, recipients⟩⟩
  | setPlugin _ block => exact ⟨loaded, by rw [block]; exact filling⟩
  | flagPlugin block => exact ⟨loaded, by rw [block]; exact filling⟩
  | closePlugin block =>
      obtain ⟨loaded, room⟩ := Loaded.within_addPlugin.1 loaded
      exact ⟨loaded, by rw [block]; exact room⟩
  | setTable _ block _ set =>
      obtain ⟨room, columns⟩ := filling
      exact ⟨loaded, by rw [block]; exact ⟨room, (Table.columns_le_of_set set).trans columns⟩⟩
  | closeTable block =>
      obtain ⟨loaded, room, columns⟩ := Loaded.within_addTable.1 loaded
      exact ⟨loaded, by rw [block]; exact ⟨room, columns⟩⟩
  | closeFilter block => exact ⟨loaded, by rw [block]; trivial⟩
  | start none => exact outside none loaded
  | startFunction none => exact outside none { loaded with }
  | keep block => exact ⟨loaded, by rw [block]; trivial⟩
  | closeFunction block => exact ⟨{ loaded with }, by rw [block]; trivial⟩

/-- A load opens no block for which there is no room. -/
theorem Reading.count_lt (reading : Reading around here line p p')
    (nesting : 2 ≤ around.limits.nesting) (count : p.block.count < around.limits.nesting) :
    p'.block.count < around.limits.nesting := by
  have single {n : Nat} (le : n ≤ 1) : n < around.limits.nesting := by omega
  cases reading with
  | void => exact count
  | aside _ none aside =>
      rw [aside.block, none]
      exact single (Nat.zero_le 1)
  | imapFetch | cacheSize | agent | rule | filterRule | standard => exact count
  | setAccount | flagAccount | setPlugin | flagPlugin | setTable => exact single (Nat.le_refl 1)
  | closeAccount | closePlugin | closeTable | closeFilter | closeFunction =>
      exact single (Nat.zero_le 1)
  | start none opening starts =>
      generalize line.tail.head? = letter at starts
      cases starts <;> exact single (Nat.le_refl 1)
  | startFunction => exact single (Nat.le_refl 1)
  | keep block kept =>
      rw [block] at count
      cases kept with
      | text | divides => exact count
      | opens _ _ room => exact room
      | closes => exact Nat.lt_of_succ_lt count

/-- What holds of a load under limits between two lines. -/
structure Progress.Fits (limits : Limits) (p : Progress) : Prop where
  sound : p.Sound limits
  count : p.block.count < limits.nesting

theorem Reading.fits (reading : Reading around here line p p') (nesting : 2 ≤ around.limits.nesting)
    (fits : p.Fits around.limits) : p'.Fits around.limits where
  sound := reading.sound fits.sound
  count := reading.count_lt nesting fits.count

/-- Along a load records and agents only become more. -/
theorem Progress.Reads.within {sights : List Sight} (reads : Progress.Reads around p sights p')
    (within : p'.Within limits) : p.Within limits := by
  induction reads with
  | nil => exact within
  | line other read _ ih => exact (reading_of_readLine other read).within (ih within)
  | passed included _ ih =>
      obtain ⟨loaded, block⟩ := ih within
      exact ⟨loaded, block⟩
  | opened included read encoded _ ih =>
      obtain ⟨loaded, -⟩ := ih within
      exact ⟨{ loaded with }, by rw [(include?_eq_some included).1]; trivial⟩

/-! ## A line under other limits -/

namespace Progress

/-- The limits allow what has been loaded, and the blocks that are open. -/
def Allowed (limits : Limits) (p : Progress) : Prop :=
  p.Within limits ∧ p.block.count < limits.nesting

theorem Fits.allowed (fits : p.Fits limits) : p.Allowed limits := ⟨fits.sound.within, fits.count⟩

/-- Where something succeeds under other limits, it does the same under these, or it is stopped, and
then because these do not allow what would come of it. -/
def Capped (limits : Limits) (r' r : Except Stop Progress) : Prop :=
  ∀ p', r' = .ok p' → r = .ok p' ∨
    (∃ error q, r = .error ⟨.config error, q⟩) ∧ ¬p'.Allowed limits

namespace Capped

variable {r r' : Except Stop Progress}

/-- Where limits play no part. -/
theorem rfl : Capped limits r r := fun _ succeeds => .inl succeeds

/-- Where it is looked at first whether there is room. -/
theorem guard {Full Full' : Prop} [Decidable Full] [Decidable Full'] {fault fault' : ConfigFault}
    (full : Full → ∀ p', r = .ok p' → ¬p'.Allowed limits) :
    Capped limits (if Full' then p.stop here fault' else r)
      (if Full then p.stop here fault else r) := by
  intro p' succeeds
  split at succeeds
  · contradiction
  · split
    · rename_i here
      exact .inr ⟨⟨_, _, Eq.refl _⟩, full here p' succeeds⟩
    · exact .inl succeeds

theorem ite {c : Prop} [Decidable c] {s s' : Except Stop Progress} (yes : Capped limits r' r)
    (no : Capped limits s' s) : Capped limits (if c then r' else s') (if c then r else s) := by
  split
  · exact yes
  · exact no

end Capped

variable {limits' : Limits}

theorem capped_startBlock {letter : Option Char} {payload : Text} :
    Capped limits (p.startBlock limits' here letter payload)
      (p.startBlock limits here letter payload) := by
  have full {block : OpenBlock} (beyond : ¬block.Within limits p.loaded) (p' : Progress)
      (started : .ok { p with block } = (.ok p' : Except Stop Progress)) :
      ¬p'.Allowed limits := by
    cases started
    exact fun allowed => beyond allowed.1.block
  unfold startBlock
  split
  · exact .guard fun here => full fun within => Nat.not_lt.2 here within.1
  · exact .guard fun here => full fun within => Nat.not_lt.2 here within
  · exact .guard fun here => full fun within => Nat.not_lt.2 here within.1
  · exact .rfl
  · exact .rfl
  · exact .rfl
  · exact .rfl
  · refine .guard fun here p' started => ?_
    cases started
    exact fun allowed => Nat.not_lt.2 here allowed.2
  · exact .rfl

theorem capped_openBlock :
    Capped limits (p.openBlock limits' here line) (p.openBlock limits here line) := by
  unfold openBlock
  cases p.block with
  | none => exact .ite capped_startBlock .rfl
  | function function inner =>
      refine .ite .rfl (.guard fun full p' opened => ?_)
      cases opened
      exact fun allowed => Nat.not_lt.2 full allowed.2
  | _ => exact .rfl

theorem capped_takePlain :
    Capped limits (p.takePlain limits' here line) (p.takePlain limits here line) :=
  .ite .rfl (.ite .rfl (.ite .rfl capped_openBlock))

theorem capped_takeLine :
    Capped limits (p.takeLine limits' here line) (p.takeLine limits here line) := by
  rw [takeLine_eq, takeLine_eq]
  split
  · split
    · exact .rfl
    · exact capped_takePlain
  · split
    · exact .rfl
    · exact capped_takePlain
  · exact capped_takePlain

variable {word v : Text}

theorem map_orRefuse_ite {α : Type} {Full : Prop} [Decidable Full] {fault : ConfigFault} {a : α}
    {f : α → Progress} :
    (p.orRefuse here (if Full then .error (.fault fault) else .ok a)).map f =
      if Full then p.stop here fault else .ok (f a) := by
  split <;> rfl

theorem capped_setAccount {a : Account} {k : AccountKeyword} {limit' : Nat} :
    Capped limits
      ((p.orRefuse here (a.set limit' k v)).map fun a => { p with block := .account a })
      ((p.orRefuse here (a.set limits.recipients k v)).map fun a =>
        { p with block := .account a }) := by
  cases k with
  | recipient kind =>
      simp only [Account.set, Account.addRecipient, map_orRefuse_ite]
      refine .guard fun full p' set => ?_
      cases set
      rintro ⟨⟨-, room, recipients⟩, -⟩
      rw [List.length_append, List.length_singleton] at recipients
      exact Nat.not_lt.2 full recipients
  | _ => exact .rfl

theorem capped_setTable {t : Table} {k : TableKeyword} {limit' : Nat} :
    Capped limits
      ((p.orRefuse here (t.set limit' k v)).map fun t => { p with block := .table t })
      ((p.orRefuse here (t.set limits.columns k v)).map fun t => { p with block := .table t }) := by
  cases k with
  | columns =>
      simp only [Table.set, Table.addColumns, map_orRefuse_ite]
      refine .guard fun full p' set => ?_
      cases set
      rintro ⟨⟨-, room, columns⟩, -⟩
      exact Nat.not_le.2 full columns
  | _ => exact .rfl

theorem capped_setGlobal {k : GlobalKeyword} {includeFile : Text → Progress → Except Stop Progress} :
    Capped limits (p.setGlobal around includeFile here k v)
      (p.setGlobal { around with limits } includeFile here k v) := by
  cases k with
  | agent =>
      simp only [setGlobal, Loaded.addAgent, map_orRefuse_ite]
      refine .guard fun full p' added => ?_
      cases added
      exact fun allowed => Nat.not_lt.2 full (Loaded.within_addAgent.1 allowed.1.loaded).2
  | _ => exact .rfl

theorem capped_assign {keyword : Keyword} {includeFile : Text → Progress → Except Stop Progress} :
    Capped limits (p.assign around includeFile here word keyword v)
      (p.assign { around with limits } includeFile here word keyword v) := by
  unfold assign
  split
  · exact .rfl
  · refine .ite .rfl ?_
    split
    · exact capped_setAccount
    · exact .rfl
    · exact capped_setTable
    · exact capped_setGlobal
    · exact .rfl

/-- A line that is no include does the same under other limits, or it is stopped. -/
theorem capped_readLine {includeFile : Position → Text → Progress → Except Stop Progress} :
    Capped limits (p.readLine around includeFile here line)
      (p.readLine { around with limits } includeFile here line) := by
  unfold readLine
  refine .ite .rfl ?_
  split
  · exact .rfl
  · split
    · exact capped_takeLine
    · split
      · exact capped_assign
      · exact capped_takeLine
      · exact .rfl

/-! ## A load under other limits -/

/-- Something does the same if a condition holds, and then it stays within the limits. Otherwise it
is stopped. -/
structure StopsUnless (limits : Limits) (Condition : Prop) (p' : Progress)
    (r : Except Stop Progress) : Prop where
  succeeds : Condition → r = .ok p' ∧ p'.Fits limits
  stops : ¬Condition → ∃ error q, r = .error ⟨.config error, q⟩

namespace StopsUnless

variable {First Second Whole : Prop} {r : Except Stop Progress} {p₁ : Progress}

/-- What is not stopped. -/
theorem of_ok (fits : p'.Fits limits) (holds : First) : StopsUnless limits First p' (.ok p') where
  succeeds _ := ⟨rfl, fits⟩
  stops fails := absurd holds fails

theorem congr (iff : First ↔ Second) (stops : StopsUnless limits First p' r) :
    StopsUnless limits Second p' r := by
  rwa [← propext iff]

theorem bind {f : Progress → Except Stop Progress} (first : StopsUnless limits First p₁ r)
    (second : p₁.Fits limits → StopsUnless limits Second p' (f p₁))
    (whole : Whole ↔ First ∧ Second) : StopsUnless limits Whole p' (r >>= f) where
  succeeds holds := by
    obtain ⟨early, late⟩ := whole.1 holds
    obtain ⟨rfl, fits⟩ := first.succeeds early
    exact (second fits).succeeds late
  stops fails := by
    by_cases early : First
    · obtain ⟨rfl, fits⟩ := first.succeeds early
      exact (second fits).stops fun late => fails (whole.2 ⟨early, late⟩)
    · obtain ⟨error, q, rfl⟩ := first.stops early
      exact ⟨error, q, rfl⟩

end StopsUnless

/-- A line that is no include is stopped unless the limits allow what comes of it. -/
theorem stopsUnless_readLine (nesting : 2 ≤ limits.nesting) (fits : p.Fits limits)
    (other : p.include? line = none)
    {includeFile includeFile' : Position → Text → Progress → Except Stop Progress}
    (read : p.readLine around includeFile' here line = .ok p') :
    StopsUnless limits (p'.Allowed limits) p'
      (p.readLine { around with limits } includeFile here line) := by
  rw [readLine_of_other other includeFile' includeFile] at read
  have fitting (same : p.readLine { around with limits } includeFile here line = .ok p') :
      p'.Fits limits := (reading_of_readLine other same).fits nesting fits
  have capped : Capped limits _ (p.readLine { around with limits } includeFile here line) :=
    capped_readLine
  rcases capped p' read with same | ⟨stops, beyond⟩
  · exact same ▸ .of_ok (fitting same) (fitting same).allowed
  · exact ⟨fun allowed => absurd allowed beyond, fun _ => stops⟩

end Progress

namespace Visit

/-- How many blocks are open behind the line. -/
def count (around : Surroundings) (visit : Visit) : Nat :=
  match visit.before.readLine around (fun _ _ p => .ok p) visit.here visit.line with
  | .ok p => p.block.count
  | .error _ => 0

/-- How many files are open around that of the line. -/
def depth (limits : Limits) (visit : Visit) : Nat := limits.includeDepth - visit.room

/-- The line is an include, and all variables that its path refers to are defined. -/
def NamesFile (env : Environment) (visit : Visit) : Prop :=
  ∃ v, visit.before.include? visit.line = some v ∧ Environment.remaining? (env.expand v) = none

instance {env : Environment} {visit : Visit} : Decidable (visit.NamesFile env) :=
  decidable_of_iff (∃ v ∈ visit.before.include? visit.line,
    Environment.remaining? (env.expand v) = none) (by simp [NamesFile])

/-- The limits allow the blocks that are open behind the line, and the file that it includes. -/
@[mk_iff]
structure Allowed (around : Surroundings) (limits : Limits) (visit : Visit) : Prop where
  count : visit.count around < limits.nesting
  depth : visit.NamesFile around.environment → visit.depth around.limits < limits.includeDepth

instance {visit : Visit} : Decidable (visit.Allowed around limits) :=
  decidable_of_iff' _ (allowed_iff around limits visit)

/-- A line that is no include. -/
theorem allowed_iff_of_other {room : Nat} (other : p.include? line = none)
    {includeFile : Position → Text → Progress → Except Stop Progress}
    (read : p.readLine around includeFile here line = .ok p') :
    Allowed around limits ⟨here, line, room, p⟩ ↔ p'.block.count < limits.nesting := by
  rw [Progress.readLine_of_other other includeFile (fun _ _ p => .ok p)] at read
  have same : count around ⟨here, line, room, p⟩ = p'.block.count := by
    simp only [count, read]
  have unnamed : ¬NamesFile around.environment ⟨here, line, room, p⟩ := by
    rintro ⟨v, included, -⟩
    rw [other] at included
    contradiction
  constructor
  · intro allowed
    rw [← same]
    exact allowed.count
  · intro below
    exact ⟨by rwa [same], fun named => absurd named unnamed⟩

/-- An include opens no block of its own. -/
theorem allowed_iff_of_include {room : Nat} {v : Text} (included : p.include? line = some v)
    (nesting : 0 < limits.nesting) :
    Allowed around limits ⟨here, line, room, p⟩ ↔
      (Environment.remaining? (around.environment.expand v) = none →
        depth around.limits ⟨here, line, room, p⟩ < limits.includeDepth) := by
  have outside : count around ⟨here, line, room, p⟩ = 0 := by
    simp only [count, Progress.readLine_of_include included, (Progress.include?_eq_some included).1]
    rfl
  constructor
  · intro allowed defined
    exact allowed.depth ⟨v, included, defined⟩
  · intro room
    refine ⟨by rwa [outside], ?_⟩
    rintro ⟨v', included', defined⟩
    cases included.symm.trans included'
    exact room defined

end Visit

namespace Progress

/-- The lines of a file are stopped unless the limits allow what comes of each of them, if includes
are. -/
theorem stopsUnless_readLines (nesting : 2 ≤ limits.nesting) {room : Nat} {file : Text}
    {includeFile includeFile' : Position → Text → Progress → Except Stop Progress}
    {includeTrail : Position → Text → Progress → List Sight}
    {includeVisits : Position → Text → Progress → List Visit}
    (reads : ∀ {here line v p p'}, p.include? line = some v → includeFile' here v p = .ok p' →
      Reads around p (.line here line :: includeTrail here v p) p')
    (includes : ∀ {here line v p p'}, p.include? line = some v → includeFile' here v p = .ok p' →
      p.Fits limits → StopsUnless limits
        (p'.Within limits ∧ ∀ visit ∈ ⟨here, line, room, p⟩ :: includeVisits here v p,
          Visit.Allowed around limits visit) p' (includeFile here v p))
    {number : Nat} {lines : List Line} (fits : p.Fits limits)
    (read : readLines around includeFile' file number lines p = .ok p') :
    StopsUnless limits
      (p'.Within limits ∧
        ∀ visit ∈ lineVisits around includeFile' includeVisits room file number lines p,
          Visit.Allowed around limits visit) p'
      (readLines { around with limits } includeFile file number lines p) := by
  induction lines generalizing number p with
  | nil =>
      cases read
      exact .of_ok fits ⟨fits.sound.within, by simp [lineVisits]⟩
  | cons line rest ih =>
      unfold readLines at read ⊢
      obtain ⟨p₁, first, later⟩ := exists_of_bind_eq_ok read
      have grows : p'.Within limits → p₁.Within limits := (reads_of_readLines reads later).within
      unfold lineVisits
      simp only [first]
      cases included : p.include? line with
      | none =>
          have here : StopsUnless limits _ p₁
              (p.readLine { around with limits } includeFile ⟨file, number⟩ line) :=
            stopsUnless_readLine nesting fits included first
          have allowed : Visit.Allowed around limits ⟨⟨file, number⟩, line, room, p⟩ ↔ _ :=
            Visit.allowed_iff_of_other included first
          refine here.bind (fun fits => ih fits later) ?_
          simp only [List.nil_append, List.forall_mem_cons, allowed, Allowed]
          tauto
      | some v =>
          rw [readLine_of_include included] at first ⊢
          refine (includes included first fits).bind (fun fits => ih fits later) ?_
          simp only [← List.cons_append, List.forall_mem_append]
          tauto

theorem remaining?_of_includedPath {env : Environment} {v : Text} {path? : Option Path}
    (told : p.includedPath env here v = .ok (path?, p')) :
    Environment.remaining? (env.expand v) = none ↔ path?.isSome := by
  unfold includedPath expandPath at told
  cases remaining : Environment.remaining? (env.expand v) with
  | some name =>
      simp only [remaining] at told
      cases told
      simp
  | none =>
      simp only [remaining] at told
      cases expanded : env.expandHome (Path.ofText (env.expand v)) with
      | error crash =>
          rw [expanded] at told
          contradiction
      | ok path =>
          rw [expanded] at told
          cases told
          simp

/-- An include whose path refers to a variable that is not defined is passed over wherever it is. -/
theorem includeWithin_of_unnamed {v : Text} (room : Nat)
    (told : p.includedPath around.environment here v = .ok (none, p')) :
    includeWithin around room here v p = .ok p' := by
  cases room with
  | zero =>
      simp only [includeWithin, refuseInclude, told]
      rfl
  | succ room =>
      simp only [includeWithin, followInclude, told]
      rfl

theorem Fits.tell (fits : p.Fits limits) (event : Event) : (p.tell event).Fits limits :=
  ⟨⟨fits.sound.loaded, fits.sound.block, fits.sound.filters⟩, fits.count⟩

/-- An include that is passed over is stopped at nowhere. -/
theorem stopsUnless_unnamed (nesting : 2 ≤ limits.nesting) {room room' : Nat} {v : Text}
    (included : p.include? line = some v) (fits : p.Fits limits)
    (told : p.includedPath around.environment here v = .ok (none, p')) :
    StopsUnless limits
      (p'.Within limits ∧ ∀ visit ∈ [⟨here, line, room', p⟩], Visit.Allowed around limits visit) p'
      (includeWithin { around with limits } room here v p) := by
  have passed : includeWithin { around with limits } room here v p = .ok p' :=
    includeWithin_of_unnamed room told
  rw [passed]
  rcases includedPath_cases told with ⟨event, -, rfl⟩ | ⟨path, impossible, -⟩
  · have unnamed : Environment.remaining? (around.environment.expand v) ≠ none := by
      rw [Ne, remaining?_of_includedPath told]
      simp
    have allowed : Visit.Allowed around limits ⟨here, line, room', p⟩ :=
      (Visit.allowed_iff_of_include included (by omega)).2 fun defined => absurd defined unnamed
    exact .of_ok (fits.tell event) ⟨(fits.tell event).sound.within, by simpa using allowed⟩
  · contradiction

theorem openInclude_congr {limits' : Limits} (same : limits.functionName = limits'.functionName)
    (path : Path) : p.openInclude limits here path = p.openInclude limits' here path := by
  unfold openInclude
  rw [same]

theorem Fits.opened (fits : p.Fits limits) (outside : p.block = .none) (path : Text) :
    (p.modify fun s => { s with files := s.files ++ [path] }).Fits limits where
  sound := by
    refine ⟨{ fits.sound.loaded with }, ?_, fits.sound.filters⟩
    simp only [modify, outside]
    trivial
  count := fits.count

/-- An include is stopped unless the limits allow the file that it opens, and what comes of its
lines. -/
theorem stopsUnless_followInclude (nesting : 2 ≤ limits.nesting)
    (same : limits.functionName = around.limits.functionName) {depth room : Nat} {v : Text}
    (level : room + 1 + depth = around.limits.includeDepth)
    (inside : ∀ {file lines p p'}, p.Fits limits → readFile around room file lines p = .ok p' →
      StopsUnless limits
        (p'.Within limits ∧
          ∀ visit ∈ visits around room file lines p, Visit.Allowed around limits visit) p'
        (readFile { around with limits } (limits.includeDepth - (depth + 1)) file lines p))
    (included : p.include? line = some v) (fits : p.Fits limits)
    (followed : followInclude around (readFile around room) here v p = .ok p') :
    StopsUnless limits
      (p'.Within limits ∧ ∀ visit ∈ ⟨here, line, room + 1, p⟩ ::
          includeVisits around (visits around room) here v p, Visit.Allowed around limits visit) p'
      (includeWithin { around with limits } (limits.includeDepth - depth) here v p) := by
  obtain ⟨⟨path?, p₁⟩, told, done⟩ := exists_of_bind_eq_ok followed
  unfold includeVisits
  cases path? with
  | none =>
      cases done
      simp only [told]
      exact stopsUnless_unnamed nesting included fits told
  | some path =>
      rcases includedPath_cases told with ⟨_, impossible, -⟩ | ⟨_, -, rfl⟩
      · contradiction
      have defined : Environment.remaining? (around.environment.expand v) = none :=
        (remaining?_of_includedPath told).2 rfl
      have allowed : Visit.Allowed around limits ⟨here, line, room + 1, p₁⟩ ↔
          depth < limits.includeDepth := by
        have level : Visit.depth around.limits ⟨here, line, room + 1, p₁⟩ = depth := by
          simp only [Visit.depth]
          omega
        rw [Visit.allowed_iff_of_include included (by omega), level]
        simp only [defined, forall_const]
      by_cases room : depth < limits.includeDepth
      · obtain ⟨more, enough⟩ : ∃ more, limits.includeDepth - depth = more + 1 :=
          ⟨limits.includeDepth - depth - 1, by omega⟩
        obtain ⟨⟨lines?, p₂⟩, opened, rest⟩ := exists_of_bind_eq_ok done
        have opens : p₁.openInclude limits here path = .ok (lines?, p₂) :=
          (openInclude_congr same path).trans opened
        rw [enough]
        simp only [includeWithin, followInclude, told, opened]
        change StopsUnless limits _ p' (p₁.openInclude limits here path >>= _)
        rw [opens]
        rcases openInclude_cases opened with ⟨event, rfl, rfl⟩ | ⟨text, lines, rfl, -, -, rfl⟩
        · cases rest
          exact .of_ok (fits.tell event)
            ⟨(fits.tell event).sound.within, by simpa [allowed] using room⟩
        · have deeper := inside (fits.opened (include?_eq_some included).1 path.toText) rest
          rw [show limits.includeDepth - (depth + 1) = more by omega] at deeper
          refine deeper.congr ?_
          simp only [List.forall_mem_cons, allowed, room, true_and]
      · have none : limits.includeDepth - depth = 0 := by omega
        rw [none]
        simp only [includeWithin, refuseInclude, told]
        refine ⟨fun holds => ?_, fun _ => ⟨_, _, rfl⟩⟩
        exact absurd (allowed.1 (holds.2 _ (List.mem_cons_self ..))) room

theorem StopsUnless.endFile {Condition : Prop} {r : Except Stop Progress} {file : Text}
    (stops : StopsUnless limits Condition p r) (ended : p.endFile file = .ok p) :
    StopsUnless limits Condition p (r >>= (·.endFile file)) := by
  have ends (fits : p.Fits limits) : StopsUnless limits True p (p.endFile file) := by
    rw [ended]
    exact .of_ok fits trivial
  exact stops.bind ends (by simp)

/-- A file is stopped unless the limits allow what comes of each line, in it and in the files that it
includes. The files around it count for those it may include. -/
theorem stopsUnless_readFile (nesting : 2 ≤ limits.nesting)
    (same : limits.functionName = around.limits.functionName) {depth room : Nat}
    (level : room + depth = around.limits.includeDepth) {file : Text} {lines : List Line}
    (fits : p.Fits limits) (read : readFile around room file lines p = .ok p') :
    StopsUnless limits
      (p'.Within limits ∧
        ∀ visit ∈ visits around room file lines p, Visit.Allowed around limits visit) p'
      (readFile { around with limits } (limits.includeDepth - depth) file lines p) := by
  induction room generalizing depth file lines p p' with
  | zero =>
      obtain ⟨p₁, linesRead, ended⟩ := exists_of_bind_eq_ok read
      obtain ⟨rfl, -⟩ := endFile_eq_ok ended
      rw [readFile_eq]
      refine (stopsUnless_readLines nesting reads_of_refuseInclude ?_ fits linesRead).endFile ended
      intro here line v p p' included refused fits
      obtain ⟨⟨path?, p₁⟩, told, done⟩ := exists_of_bind_eq_ok refused
      cases path? with
      | none =>
          cases done
          exact stopsUnless_unnamed nesting included fits told
      | some path => contradiction
  | succ room ih =>
      obtain ⟨p₁, linesRead, ended⟩ := exists_of_bind_eq_ok read
      obtain ⟨rfl, -⟩ := endFile_eq_ok ended
      rw [readFile_eq]
      refine (stopsUnless_readLines nesting (reads_of_followInclude reads_of_readFile) ?_ fits
        linesRead).endFile ended
      intro here line v p p' included followed fits
      exact stopsUnless_followInclude nesting same level (ih (by omega)) included fits followed

end Progress

/-- What is within the limits when a load ends is what has been within them before. -/
theorem Progress.within_of_finish {file : Text} (finished : p.finish file = .ok p') :
    p'.loaded.Within limits ↔ p.Within limits := by
  have same : p'.loaded.Within limits ↔ p.loaded.Within limits := by
    rw [(finish_eq_ok finished).2]
    split
    · exact ⟨fun within => { within with }, fun within => { within with }⟩
    · exact Iff.rfl
  have block : p.block.Within limits p.loaded := by
    unfold finish at finished
    split at finished
    · rename_i outside
      rw [outside]
      trivial
    · rename_i inside
      rw [inside]
      trivial
    · contradiction
  exact same.trans ⟨fun loaded => ⟨loaded, block⟩, Within.loaded⟩

namespace Loaded

variable {text file : Text} {before : Loaded} {files : FileSystem} {log : EventLog}

/-- The limits allow what has been loaded, and what has come of each line. -/
@[mk_iff]
structure Allowed (around : Surroundings) (limits : Limits) (visits : List Visit) (s : Loaded) :
    Prop where
  loaded : s.Within limits
  visits : ∀ visit ∈ visits, Visit.Allowed around limits visit

instance {visits : List Visit} {s : Loaded} : Decidable (Allowed around limits visits s) :=
  decidable_of_iff' _ (allowed_iff around limits visits s)

theorem fits_begin (valid : limits.Valid) : (before.begin file files log).Fits limits where
  sound :=
    have sound : (before.begin file files log).Sound (Surroundings.mk limits {}).limits :=
      sound_begin valid
    sound
  count := Nat.lt_of_lt_of_le Nat.two_pos valid.nesting.1

/-- A load of a text that succeeds goes the same way under other limits that allow what comes of it,
and is stopped under those that do not. -/
theorem loadText_of_limits {limits' : Limits} {env : Environment} (valid : limits.Valid)
    (same : limits.functionName = limits'.functionName)
    (succeeded : (before.loadText ⟨limits', env⟩ text file files log).fault = none) :
    (Allowed ⟨limits', env⟩ limits (before.visits ⟨limits', env⟩ text file files log)
        (before.loadText ⟨limits', env⟩ text file files log).loaded →
      before.loadText ⟨limits, env⟩ text file files log =
        before.loadText ⟨limits', env⟩ text file files log) ∧
      (¬Allowed ⟨limits', env⟩ limits (before.visits ⟨limits', env⟩ text file files log)
          (before.loadText ⟨limits', env⟩ text file files log).loaded →
        ∃ error, (before.loadText ⟨limits, env⟩ text file files log).fault =
          some (.config error)) := by
  obtain ⟨lines, p, p', encoded, read, finished, result⟩ := readFile_of_loadText succeeded
  have stops := Progress.stopsUnless_readFile valid.nesting.1 same (Nat.add_zero _)
    (fits_begin valid) read
  have encoded' : Encoding.lines text file (Surroundings.mk limits env).limits.functionName =
      .ok lines := by
    rw [← encoded]
    exact congrArg (fun limit : Nat => Encoding.lines text file limit) same
  have visits : before.visits ⟨limits', env⟩ text file files log =
      Progress.visits ⟨limits', env⟩ limits'.includeDepth file lines
        (before.begin file files log) := by
    simp only [Loaded.visits, encoded]
  have whole (r : Except Stop Progress) (reads : Progress.readFile ⟨limits, env⟩
      (limits.includeDepth - 0) file lines (before.begin file files log) = r) :
      before.readRoot ⟨limits, env⟩ file lines files log = r >>= (·.finish file) :=
    congrArg (fun r : Except Stop Progress => r >>= fun p => p.finish file) reads
  rw [loadText_of_lines encoded', result, visits]
  constructor
  · rintro ⟨within, allowed⟩
    obtain ⟨reads, -⟩ := stops.succeeds ⟨(Progress.within_of_finish finished).1 within, allowed⟩
    rw [(whole _ reads).trans finished]
  · intro beyond
    obtain ⟨error, q, reads⟩ := stops.stops fun ⟨within, allowed⟩ =>
      beyond ⟨(Progress.within_of_finish finished).2 within, allowed⟩
    rw [whole _ reads]
    exact ⟨error, rfl⟩

end Loaded

namespace LoadCall

/-- The lines that a load comes to. -/
def visits (call : LoadCall) (limits : Limits) (before : Loaded) (log : EventLog) : List Visit :=
  let around : Surroundings := ⟨limits, call.environment⟩
  match call.text? with
  | some text => before.visits around text call.file call.files log
  | none =>
    match call.files.readText (Path.ofText call.file) with
    | .ok text => before.visits around text call.file call.files log
    | .error _ => []

/-- A load that succeeds is that of a text, under all limits. -/
theorem exists_text {call : LoadCall} {before : Loaded} {log : EventLog}
    (succeeded : (call.result limits before log).fault = none) :
    ∃ text, ∀ limits,
      call.result limits before log =
          before.loadText ⟨limits, call.environment⟩ text call.file call.files log ∧
        call.visits limits before log =
          before.visits ⟨limits, call.environment⟩ text call.file call.files log := by
  unfold result Loaded.load at succeeded
  unfold result Loaded.load visits
  cases asked : call.text? with
  | some text => exact ⟨text, fun _ => ⟨rfl, rfl⟩⟩
  | none =>
      rw [asked] at succeeded
      dsimp only at succeeded ⊢
      cases read : call.files.readText (Path.ofText call.file) with
      | ok text => exact ⟨text, fun _ => ⟨rfl, rfl⟩⟩
      | error reason =>
          rw [read] at succeeded
          cases reason <;> contradiction

/-- Limits act as caps only. Where a load succeeds under some limits, another load that is the same
but for the limits comes to the same if they allow what has been loaded, the blocks that are open
behind each line, and the files that are included. Otherwise it stops at a fault of the
configuration, and nothing is loaded. -/
theorem limits_are_caps {call : LoadCall} {limits' : Limits} {before : Loaded} {log : EventLog}
    (valid : limits.Valid) (same : limits.functionName = limits'.functionName)
    (succeeded : (call.result limits' before log).fault = none) :
    let allowed := Loaded.Allowed ⟨limits', call.environment⟩ limits
      (call.visits limits' before log) (call.result limits' before log).loaded
    (((call.result limits before log).fault = none ∧
        (call.result limits before log).loaded = (call.result limits' before log).loaded) ↔
          allowed) ∧
      (allowed → call.result limits before log = call.result limits' before log) ∧
      (¬allowed → (∃ error, (call.result limits before log).fault = some (.config error)) ∧
        (call.result limits before log).loaded = .fresh before.defaultAgent) := by
  intro allowed
  obtain ⟨text, alike⟩ := exists_text succeeded
  obtain ⟨result', visits⟩ := alike limits'
  have caps := Loaded.loadText_of_limits valid same (result' ▸ succeeded)
  rw [← result', ← visits, ← (alike limits).1] at caps
  obtain ⟨goes, stops⟩ := caps
  refine ⟨⟨fun unstopped => ?_, fun allowed => ?_⟩, goes, fun beyond => ?_⟩
  · by_contra beyond
    obtain ⟨error, stopped⟩ := stops beyond
    rw [unstopped.1] at stopped
    contradiction
  · rw [goes allowed]
    exact ⟨succeeded, rfl⟩
  · obtain ⟨error, stopped⟩ := stops beyond
    exact ⟨⟨error, stopped⟩, fresh_of_config stopped⟩

/-- A load of a text that includes a file with a block inside a function. -/
def nestedCall : LoadCall where
  environment := {}
  files :=
    let text := "function:g\x7b\nif(*)\x7b\nx\n\x7d\n\x7d\n"
    { entries := [([['m']], .file (text.toList.map fun c => c.toNat.toUInt8))] }
  text? := some "include=m\nagent=b\n".toList
  file := ['r']

theorem limits_are_caps_nestedCall :
    let tight : Limits := { agents := 2, nesting := 3, includeDepth := 1 }
    let tighter : Limits := { agents := 2, nesting := 2, includeDepth := 1 }
    let before := Loaded.fresh ['a']
    (nestedCall.result {} before #[]).fault = none ∧
      tight.Valid ∧ tight.functionName = ({} : Limits).functionName ∧
      nestedCall.result tight before #[] = nestedCall.result {} before #[] ∧
      tighter.Valid ∧ tighter.functionName = ({} : Limits).functionName ∧
      (∃ error, (nestedCall.result tighter before #[]).fault = some (.config error)) ∧
      (nestedCall.result tighter before #[]).loaded = before := by
  intro tight tighter before
  have succeeded : (nestedCall.result {} before #[]).fault = none := by decide +kernel
  have allowed : Loaded.Allowed ⟨{}, nestedCall.environment⟩ tight
      (nestedCall.visits {} before #[]) (nestedCall.result {} before #[]).loaded := by
    decide +kernel
  have beyond : ¬Loaded.Allowed ⟨{}, nestedCall.environment⟩ tighter
      (nestedCall.visits {} before #[]) (nestedCall.result {} before #[]).loaded := by
    decide +kernel
  have valid : tight.Valid ∧ tighter.Valid := by
    constructor <;> constructor <;> decide
  have same : tight.functionName = ({} : Limits).functionName ∧
      tighter.functionName = ({} : Limits).functionName := ⟨rfl, rfl⟩
  obtain ⟨-, goes, -⟩ := limits_are_caps valid.1 same.1 succeeded
  obtain ⟨-, -, stops⟩ := limits_are_caps valid.2 same.2 succeeded
  exact ⟨succeeded, valid.1, same.1, goes allowed, valid.2, same.2, stops beyond⟩

end LoadCall

end Ebrc
