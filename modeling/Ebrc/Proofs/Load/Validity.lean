import Ebrc.Proofs.Load.DefaultAccount
import Ebrc.Proofs.Load.Functions
import Ebrc.Proofs.Load.Records

/-!
# What a load has loaded is valid

Every line keeps the bounds of what has been loaded, and those of the record that it stands in. So
they hold at every point of a load, across all files, and where the load ends. An agent may be added
after a rule that refers to an earlier one, and the number of an agent that is there once stays in
bounds.
-/

namespace Ebrc

/-- A rule that sends mail with some pattern to some place. -/
def Rule.Redirects (rule : Rule) : Prop :=
  (∃ pattern, rule.pattern = some pattern ∧ pattern ≠ []) ∧
    ∃ destination, rule.destination = some destination ∧ destination ≠ []

/-- What holds of everything that has been loaded, at any point of a load. -/
structure Loaded.Sound (limits : Limits) (s : Loaded) : Prop where
  accounts : s.accounts.length ≤ limits.accounts
  eachAccount : ∀ a ∈ s.accounts, a.Valid limits
  plugins : s.plugins.length ≤ limits.plugins
  eachPlugin : ∀ q ∈ s.plugins, q.Valid
  tables : s.tables.length ≤ limits.tables
  eachTable : ∀ t ∈ s.tables, t.Valid limits
  agents : s.agents.length ≤ limits.agents
  firstAgent : s.agents.head? = some s.defaultAgent
  agentSites : ∀ rule ∈ s.rules, rule.kind = .agentSite →
    0 ≤ rule.agentIndex ∧ rule.agentIndex < (s.agents.length : Int)
  redirections : ∀ rule ∈ s.rules, rule.kind ∈ RuleTable.filterKinds → rule.Redirects
  imapFetch : 10 ≤ s.imapFetch ∧ s.imapFetch ≤ 1000
  cacheSize : 0 ≤ s.cacheSize ∧ s.cacheSize ≤ 10000

/-- What holds of the block that a line stands in: a record in it keeps its bounds, and there is
room for it. -/
def OpenBlock.Filling (limits : Limits) (s : Loaded) : OpenBlock → Prop
  | .account a => a.Filling limits ∧ s.accounts.length < limits.accounts
  | .plugin _ => s.plugins.length < limits.plugins
  | .table t => t.Filling limits ∧ s.tables.length < limits.tables
  | .none | .filter _ | .function _ _ => True

/-- What holds between two lines. -/
structure Progress.Sound (limits : Limits) (p : Progress) : Prop where
  loaded : p.loaded.Sound limits
  block : p.block.Filling limits p.loaded
  filters : p.block.Filters

theorem RuleTable.mem_modifyLast {f : Rule → Rule} {rules : RuleTable} {rule : Rule}
    (among : rule ∈ rules.modifyLast f) : rule ∈ rules ∨ ∃ last ∈ rules, rule = f last := by
  rcases List.eq_nil_or_concat rules with rfl | ⟨others, last, rfl⟩
  · exact .inl among
  · rw [List.concat_eq_append] at among ⊢
    rw [modifyLast_append_singleton] at among
    rcases List.mem_append.1 among with before | changed
    · exact .inl (List.mem_append_left _ before)
    · refine .inr ⟨last, List.mem_append_right _ (List.mem_singleton_self last), ?_⟩
      exact List.mem_singleton.1 changed

namespace Loaded

variable {limits : Limits} {s s' : Loaded}

theorem Sound.congr (agrees : s.Agrees s') (sound : s.Sound limits) : s'.Sound limits := by
  obtain ⟨defaultAgent, rules, accounts, -, plugins, tables, agents, -, imapFetch, cacheSize⟩ :=
    agrees
  constructor
  · rw [accounts]
    exact sound.accounts
  · rw [accounts]
    exact sound.eachAccount
  · rw [plugins]
    exact sound.plugins
  · rw [plugins]
    exact sound.eachPlugin
  · rw [tables]
    exact sound.tables
  · rw [tables]
    exact sound.eachTable
  · rw [agents]
    exact sound.agents
  · rw [agents, defaultAgent]
    exact sound.firstAgent
  · rw [rules, agents]
    exact sound.agentSites
  · rw [rules]
    exact sound.redirections
  · rw [imapFetch]
    exact sound.imapFetch
  · rw [cacheSize]
    exact sound.cacheSize

theorem Sound.addRule {rule : Rule} (sound : s.Sound limits)
    (site : rule.kind = .agentSite →
      0 ≤ rule.agentIndex ∧ rule.agentIndex < (s.agents.length : Int))
    (redirects : rule.kind ∈ RuleTable.filterKinds → rule.Redirects) :
    (s.addRule rule).Sound limits := by
  refine { sound with agentSites := ?_, redirections := ?_ }
  · intro rule' among
    rcases List.mem_append.1 among with before | added
    · exact sound.agentSites rule' before
    · rw [List.mem_singleton.1 added]
      exact site
  · intro rule' among
    rcases List.mem_append.1 among with before | added
    · exact sound.redirections rule' before
    · rw [List.mem_singleton.1 added]
      exact redirects

theorem Sound.sealLast (code : Program) (sound : s.Sound limits) :
    Sound limits { s with
      rules := s.rules.modifyLast fun rule => { rule with body := some (.sealed code) } } := by
  refine { sound with agentSites := ?_, redirections := ?_ }
  · intro rule among
    rcases RuleTable.mem_modifyLast among with before | ⟨last, before, rfl⟩
    · exact sound.agentSites rule before
    · exact sound.agentSites last before
  · intro rule among
    rcases RuleTable.mem_modifyLast among with before | ⟨last, before, rfl⟩
    · exact sound.redirections rule before
    · exact sound.redirections last before

/-- A further agent leaves the numbers of the others in bounds. -/
theorem Sound.addAgent (agent : Text) (sound : s.Sound limits)
    (room : s.agents.length < limits.agents) :
    Sound limits { s with agents := s.agents ++ [agent] } := by
  refine { sound with agents := ?_, firstAgent := ?_, agentSites := ?_ }
  · rw [List.length_append, List.length_singleton]
    exact room
  · rw [List.head?_append, sound.firstAgent]
    rfl
  · intro rule among kind
    obtain ⟨least, greatest⟩ := sound.agentSites rule among kind
    refine ⟨least, Int.lt_of_lt_of_le greatest ?_⟩
    rw [List.length_append]
    exact Int.ofNat_le.2 (Nat.le_add_right _ _)

/-- One more record is valid, and there is room for it. -/
theorem each_append {α : Type} {Valid : α → Prop} {records : List α} {record : α} {limit : Nat}
    (each : ∀ r ∈ records, Valid r) (room : records.length < limit) (valid : Valid record) :
    (records ++ [record]).length ≤ limit ∧ ∀ r ∈ records ++ [record], Valid r := by
  constructor
  · rw [List.length_append, List.length_singleton]
    exact room
  · intro r among
    rcases List.mem_append.1 among with before | added
    · exact each r before
    · rw [List.mem_singleton.1 added]
      exact valid

end Loaded

variable {around : Surroundings} {here : Position} {line : Line} {p p' : Progress}

/-- A line keeps what has been loaded sound. -/
theorem Reading.sound_loaded (reading : Reading around here line p p')
    (sound : p.Sound around.limits) : p'.loaded.Sound around.limits := by
  obtain ⟨loaded, filling, filters⟩ := sound
  cases reading with
  | void | start | setAccount | flagAccount | setPlugin | flagPlugin | setTable | closeFilter
  | keep => exact loaded
  | aside _ _ aside => exact loaded.congr aside.loaded
  | imapFetch _ _ bounds => exact { loaded with imapFetch := bounds }
  | cacheSize _ _ bounds => exact { loaded with cacheSize := bounds }
  | agent _ _ room => exact loaded.addAgent _ room
  | rule _ _ fits _ =>
      refine loaded.addRule fits.agent fun filter => ?_
      have kind := fits.kind
      simp only [RuleTable.filterKinds, List.mem_cons, List.not_mem_nil, or_false] at kind filter
      rcases kind with kind | kind | kind | kind <;> simp [kind] at filter
  | filterRule block _ given leads =>
      refine loaded.addRule ?_ fun _ => ⟨⟨_, rfl, given⟩, _, rfl, leads⟩
      rintro rfl
      exact absurd (filters _ block) (by decide)
  | standard => exact { loaded with }
  | closeAccount block _ complete =>
      rw [block] at filling
      obtain ⟨length, each⟩ :=
        Loaded.each_append loaded.eachAccount filling.2 (filling.1.valid complete)
      exact { loaded with accounts := length, eachAccount := each }
  | closePlugin block _ complete =>
      rw [block] at filling
      obtain ⟨length, each⟩ :=
        Loaded.each_append loaded.eachPlugin filling (Plugin.valid_of_complete complete)
      exact { loaded with plugins := length, eachPlugin := each }
  | closeTable block _ complete =>
      rw [block] at filling
      obtain ⟨length, each⟩ :=
        Loaded.each_append loaded.eachTable filling.2 (filling.1.valid complete)
      exact { loaded with tables := length, eachTable := each }
  | startFunction =>
      refine loaded.addRule ?_ ?_
      · intro impossible
        contradiction
      · intro impossible
        simp [RuleTable.filterKinds] at impossible
  | closeFunction => exact loaded.sealLast _

/-- A line keeps the bounds of the record that it stands in. -/
theorem Reading.filling (reading : Reading around here line p p')
    (sound : p.Sound around.limits) : p'.block.Filling around.limits p'.loaded := by
  have filling := sound.block
  cases reading with
  | void => exact filling
  | aside _ outside aside =>
      rw [aside.block, outside]
      trivial
  | imapFetch _ outside | cacheSize _ outside | agent _ outside | rule _ outside =>
      simp only [Progress.modify, outside]
      trivial
  | filterRule block =>
      simp only [Progress.modify, block]
      trivial
  | setAccount _ block _ set =>
      rw [block] at filling
      exact ⟨filling.1.set set, filling.2⟩
  | flagAccount block =>
      rw [block] at filling
      exact ⟨filling.1.raise _, filling.2⟩
  | standard block =>
      rw [block] at filling
      simp only [Progress.modify, block]
      exact filling
  | setPlugin _ block | flagPlugin block =>
      rw [block] at filling
      exact filling
  | setTable _ block _ set =>
      rw [block] at filling
      exact ⟨filling.1.set set, filling.2⟩
  | start outside opening starts =>
      generalize line.tail.head? = letter at starts
      cases starts with
      | account room => exact ⟨Account.filling_empty _, room⟩
      | plugin room => exact room
      | table room => exact ⟨Table.filling_empty _, room⟩
      | _ => trivial
  | _ => trivial

theorem Reading.defaultAgent (reading : Reading around here line p p') :
    p'.loaded.defaultAgent = p.loaded.defaultAgent := by
  cases reading with
  | aside _ _ aside => exact aside.loaded.defaultAgent
  | _ => rfl

/-- Lines add agents behind those that there are. -/
theorem Reading.keeps_agents (reading : Reading around here line p p') :
    p.loaded.agents <+: p'.loaded.agents := by
  cases reading with
  | aside _ _ aside => exact aside.loaded.agents ▸ List.prefix_rfl
  | agent => exact List.prefix_append ..
  | _ => exact List.prefix_rfl

theorem Reading.sound (reading : Reading around here line p p') (sound : p.Sound around.limits) :
    p'.Sound around.limits where
  loaded := reading.sound_loaded sound
  block := reading.filling sound
  filters := reading.filters sound.filters

namespace Progress

/-- A load keeps what holds between two lines. -/
theorem Reads.sound {sights : List Sight} (reads : Reads around p sights p')
    (sound : p.Sound around.limits) : p'.Sound around.limits := by
  induction reads with
  | nil => exact sound
  | line other read later ih => exact ih ((reading_of_readLine other read).sound sound)
  | passed included later ih => exact ih ⟨sound.loaded, sound.block, sound.filters⟩
  | opened included read encoded later ih =>
      refine ih ⟨{ sound.loaded with }, ?_, sound.filters⟩
      have outside := (include?_eq_some included).1
      simp only [modify, outside]
      trivial

theorem Reads.defaultAgent {sights : List Sight} (reads : Reads around p sights p') :
    p'.loaded.defaultAgent = p.loaded.defaultAgent := by
  induction reads with
  | nil => rfl
  | line other read later ih => exact ih.trans (reading_of_readLine other read).defaultAgent
  | passed included later ih => exact ih
  | opened included read encoded later ih => exact ih

theorem Reads.keeps_agents {sights : List Sight}
    (reads : Reads around p sights p') : p.loaded.agents <+: p'.loaded.agents := by
  induction reads with
  | nil => exact List.prefix_rfl
  | line other read later ih => exact (reading_of_readLine other read).keeps_agents.trans ih
  | passed included later ih => exact ih
  | opened included read encoded later ih => exact ih

end Progress

/-! ## Loads that succeed -/

namespace Loaded

/-- What a load leaves that succeeds: everything is sound, every function has a body, the default
user agent is the one of before, and the default account is chosen among the account blocks that
have been come across. -/
structure Valid (limits : Limits) (sights : List Sight) (before s : Loaded) : Prop
    extends Sound limits s where
  defaultAgent : s.defaultAgent = before.defaultAgent
  functions : ∀ rule ∈ s.rules, rule.kind = .function → ∃ code, rule.body = some (.sealed code)
  chooses : s.Chooses (accountBlocks sights)

variable {text file : Text} {before : Loaded} {files : FileSystem} {log : EventLog}

/-- A load starts sound. -/
theorem sound_begin (valid : around.limits.Valid) :
    (before.begin file files log).Sound around.limits where
  loaded := by
    constructor
    · exact Nat.zero_le _
    · simp [begin, reset, fresh]
    · exact Nat.zero_le _
    · simp [begin, reset, fresh]
    · exact Nat.zero_le _
    · simp [begin, reset, fresh]
    · exact valid.agents
    · rfl
    · simp [begin, reset, fresh]
    · simp [begin, reset, fresh]
    · simp [begin, reset, fresh]
    · simp [begin, reset, fresh]
  block := trivial
  filters kind impossible := by contradiction

theorem sound_of_loadText (valid : around.limits.Valid)
    (succeeded : (before.loadText around text file files log).fault = none) :
    (before.loadText around text file files log).loaded.Sound around.limits ∧
      (before.loadText around text file files log).loaded.defaultAgent = before.defaultAgent := by
  obtain ⟨sights, p, p', -, reads, -, finished, loaded⟩ := reads_of_loadText succeeded
  have sound := (reads.sound (sound_begin valid)).loaded
  have agent : p.loaded.defaultAgent = before.defaultAgent := reads.defaultAgent
  rw [loaded, (Progress.finish_eq_ok finished).2]
  split
  · exact ⟨{ sound with }, agent⟩
  · exact ⟨sound, agent⟩

theorem valid_of_loadText (valid : around.limits.Valid)
    (succeeded : (before.loadText around text file files log).fault = none) :
    Valid around.limits (before.trail around text file files log) before
      (before.loadText around text file files log).loaded := by
  obtain ⟨sound, agent⟩ := sound_of_loadText valid succeeded
  refine ⟨sound, agent, ?_, chooses_of_loadText succeeded⟩
  intro rule among function
  have whole : rule.Whole around.limits fun _ => True :=
    whole_of_loadText succeeded (fun _ _ _ => trivial) rule among
  obtain ⟨name, lines, code, -, -, -, body⟩ := whole function
  exact ⟨code, body⟩

/-- A load that succeeds leaves what it has loaded valid, whether the text is at hand or is read
from a file. -/
theorem valid_of_succeeded (valid : around.limits.Valid) (file : Text) (before : Loaded)
    (files : FileSystem) (log : EventLog) :
    (∀ text, (before.loadText around text file files log).fault = none →
      Valid around.limits (before.trail around text file files log) before
        (before.loadText around text file files log).loaded) ∧
      ((before.load around file files log).fault = none →
        ∃ text, files.readText (Path.ofText file) = .ok text ∧
          Valid around.limits (before.trail around text file files log) before
            (before.load around file files log).loaded) := by
  constructor
  · intro text succeeded
    exact valid_of_loadText valid succeeded
  · intro succeeded
    cases read : files.readText (Path.ofText file) with
    | ok text =>
        simp only [load, read] at succeeded ⊢
        exact ⟨text, rfl, valid_of_loadText valid succeeded⟩
    | error reason =>
        unfold load at succeeded
        rw [read] at succeeded
        cases reason <;> contradiction

/-- An rc file, and another one that it includes. -/
def twoFiles : FileSystem :=
  let bytes (text : String) : List UInt8 := text.toList.map fun c => c.toNat.toUInt8
  { entries := [
      ([['r']], .file (bytes "include=m\nagent=b\nagentsite=c.d 1\nfunction:f\x7b\n\x7d\n")),
      ([['m']], .file (bytes ("mail\x7b\ninserver=a\noutserver=b\nlogin=c\npassword=d\n" ++
        "from=e\nreply=f\nsecure\n\x7d\nfromfilter\x7b\ng>h\n\x7d\n")))] }

theorem valid_of_twoFiles :
    ∃ text, twoFiles.readText (Path.ofText ['r']) = .ok text ∧
      Valid {} ((fresh ['a']).trail ⟨{}, {}⟩ text ['r'] twoFiles #[]) (fresh ['a'])
        ((fresh ['a']).load ⟨{}, {}⟩ ['r'] twoFiles #[]).loaded := by
  have limits : (Surroundings.mk {} {}).limits.Valid := Limits.valid_default
  have succeeded : ((fresh ['a']).load ⟨{}, {}⟩ ['r'] twoFiles #[]).fault = none := by
    decide +kernel
  exact (valid_of_succeeded limits ['r'] (fresh ['a']) twoFiles #[]).2 succeeded

end Loaded

end Ebrc
