import Ebrc.Proofs.Load.Validity
import Ebrc.Proofs.Site.InnerDot

/-!
# Rules about sites

A line that forbids scripts or certificate checks names a domain, and a load takes care that there
is a dot in what the line says. It looks at the first dot only, wherever that is: in a path, or in
front of everything else, where one dot has been dropped already. So a domain need not have a dot
inside. If it has one, the rule is found only where two labels of a host match; if not, the rule may
be about all hosts under a single label.
-/

namespace Ebrc

namespace SitePattern

variable {pattern v : Text}

/-! ## What the check of a domain lets through -/

/-- The first dot of a pattern does not end it. -/
def Dotted (pattern : Text) : Prop :=
  ∃ front behind, pattern = front ++ '.' :: behind ∧ '.' ∉ front ∧ behind ≠ []

theorem dotted_of_siteDomain (read : Loaded.siteDomain v = .ok pattern) : Dotted pattern := by
  unfold Loaded.siteDomain at read
  extract_lets domain at read
  clear_value domain
  by_cases dot : '.' ∈ domain
  · obtain ⟨front, behind, rfl, absent⟩ := List.eq_append_cons_of_mem dot
    rw [Text.cut_append absent] at read
    cases behind with
    | nil => contradiction
    | cons c behind =>
        cases read
        exact ⟨front, c :: behind, rfl, absent, List.cons_ne_nil _ _⟩
  · rw [Text.cut_of_not_mem dot] at read
    contradiction

/-- Without a path, the first dot is an inner one unless it begins the pattern or there are only
dots behind it. -/
theorem Dotted.hasInnerDot (dotted : Dotted pattern) (noPath : '/' ∉ pattern)
    (first : pattern.head? ≠ some '.') (last : ¬['.', '.'] <:+ pattern) :
    Text.HasInnerDot (domain pattern) := by
  obtain ⟨front, behind, rfl, absent, given⟩ := dotted
  rw [domain_of_not_mem noPath]
  refine ⟨front, behind, rfl, ?_, ?_⟩
  · cases front with
    | nil => exact absurd rfl first
    | cons c front =>
        exact ⟨c, List.mem_cons_self .., (List.ne_of_not_mem_cons absent).symm⟩
  · by_contra none
    have dots : behind = List.replicate behind.length '.' := by
      rw [List.eq_replicate_iff]
      exact ⟨rfl, by simpa using none⟩
    obtain ⟨n, length⟩ := Nat.exists_eq_succ_of_ne_zero (mt List.eq_nil_of_length_eq_zero given)
    apply last
    rw [dots, length]
    refine ⟨front ++ List.replicate n '.', ?_⟩
    rw [List.append_assoc]
    congr 1
    exact (List.replicate_add n 2 '.').symm

/-- What is known of the pattern of a rule about a site. -/
structure Guarded (pattern : Text) : Prop where
  /-- Its first dot is found, and something behind it. -/
  dotted : Dotted pattern
  /-- Without the dots at its ends, its domain has two labels at least just if it has a dot
  inside. -/
  labels : 2 ≤ (Text.split '.' (Text.strip (· = '.') (domain pattern))).length ↔
    Text.HasInnerDot (domain pattern)
  /-- It has one unless there is a path, or a dot in front, or two at the end. -/
  plain : '/' ∉ pattern → pattern.head? ≠ some '.' → ¬['.', '.'] <:+ pattern →
    Text.HasInnerDot (domain pattern)
  /-- If it has one, two labels of a host must match, one behind the other; if not, a single label
  is what makes the match. -/
  found : ∀ url, matchesUrl pattern url → ∃ protocol host here,
    Url.protocolAndHost url = .ok (protocol, host) ∧ FoundOn (domain pattern) host here ∧
      (2 ≤ here.length ↔ Text.HasInnerDot (domain pattern))

theorem Dotted.guarded (dotted : Dotted pattern) : Guarded pattern where
  dotted := dotted
  labels := Text.two_le_length_split_strip_iff
  plain noPath first last := dotted.hasInnerDot noPath first last
  found url matched := by
    obtain ⟨protocol, host, here, site, found⟩ := exists_foundOn_of_matchesUrl matched
    exact ⟨protocol, host, here, site, found, found.two_le_length_iff⟩

end SitePattern

/-! ## The rules of a load -/

/-- If the rule forbids scripts or certificate checks, it has a pattern with a dot in it. -/
def Rule.Dotted (rule : Rule) : Prop :=
  rule.kind = .noScript ∨ rule.kind = .noVerify →
    ∃ pattern, rule.pattern = some pattern ∧ SitePattern.Dotted pattern

variable {around : Surroundings} {here : Position} {line : Line} {p p' : Progress} {rule : Rule}
variable {word v : Text}

theorem Rule.dotted_of_kind (kind : rule.kind ≠ .noScript ∧ rule.kind ≠ .noVerify) :
    rule.Dotted := by
  intro site
  exact absurd site (not_or.2 kind)

/-- A rule that a value adds has a pattern with a dot in it. -/
theorem dotted_of_addSiteRule {kind : RuleKind} {number : Nat} {s s' : Loaded}
    (done : s.addSiteRule kind number v = .ok s') (added : s'.rules = s.rules ++ [rule]) :
    rule.Dotted := by
  obtain ⟨domain, read, rfl⟩ := exists_of_map_eq_ok done
  rw [← List.singleton_inj.1 (List.append_cancel_left added)]
  exact fun _ => ⟨domain, rfl, SitePattern.dotted_of_siteDomain read⟩

namespace Progress

/-- The rule that a keyword outside of all blocks adds. -/
theorem dotted_of_setGlobal {k : GlobalKeyword} (other : k ≠ .includeFile)
    {includeFile : Text → Progress → Except Stop Progress}
    (done : p.setGlobal around includeFile here k v = .ok p')
    (added : p'.loaded.rules = p.loaded.rules ++ [rule]) : rule.Dotted := by
  have kept (rules : p'.loaded.rules = p.loaded.rules) : rule.Dotted := by
    rw [rules, List.self_eq_append_right] at added
    contradiction
  cases k with
  | downloadDir => exact kept (aside_setDownloadDir done).loaded.rules
  | mailDir => exact kept (aside_setMailDir done).loaded.rules
  | cookieJar => exact kept (aside_setCookieJar done).loaded.rules
  | certificates => exact kept (aside_setCertificates done).loaded.rules
  | addressBook => exact kept (aside_setAddressBook done).loaded.rules
  | emojis => exact kept (aside_setEmojis done).loaded.rules
  | includeFile => contradiction
  | noScript | noVerify =>
      obtain ⟨loaded, site, rfl⟩ := exists_of_keep_eq_ok done
      exact dotted_of_addSiteRule site added
  | proxy =>
      cases done
      rw [← List.singleton_inj.1 (List.append_cancel_left added)]
      exact Rule.dotted_of_kind ⟨nofun, nofun⟩
  | agentSite =>
      obtain ⟨loaded, site, rfl⟩ := exists_of_keep_eq_ok done
      obtain ⟨rule, kind, -, -, rfl⟩ := addAgentSite_cases site
      rw [← List.singleton_inj.1 (List.append_cancel_left added)]
      exact Rule.dotted_of_kind (by rw [kind]; decide)
  | agent =>
      obtain ⟨loaded, agent, rfl⟩ := exists_of_keep_eq_ok done
      unfold Loaded.addAgent at agent
      split at agent
      · contradiction
      · cases agent
        exact kept rfl
  | webTimeout | mailTimeout | imapFetch | cacheSize =>
      obtain ⟨loaded, read, rfl⟩ := exists_of_keep_eq_ok done
      obtain ⟨n, -, rfl⟩ := exists_of_map_eq_ok read
      exact kept rfl
  | cacheDir | dataSource | language | envelope =>
      cases done
      exact kept rfl

/-- The rule that an assignment outside of all blocks adds. -/
theorem dotted_of_assignment (other : p.include? line = none)
    (assigned : splitAssignment? line = some (word, v)) (outside : p.block = .none)
    (read : p.readLine around (fun _ _ p => .ok p) here line = .ok p')
    (added : p'.loaded.rules = p.loaded.rules ++ [rule]) : rule.Dotted := by
  unfold readLine at read
  by_cases void : Line.isVoid line
  · rw [if_pos void] at read
    cases read
    rw [List.self_eq_append_right] at added
    contradiction
  rw [if_neg void] at read
  simp only [outside, assigned] at read
  cases spelled : Keyword.ofWord? word with
  | none =>
      rw [spelled] at read
      contradiction
  | some keyword =>
      simp only [spelled, assign, outside] at read
      cases keyword with
      | everywhere k =>
          by_cases given : v = []
          · simp [keywordFault?, given, stop] at read
          have otherKeyword : k ≠ .includeFile := by
            rintro rfl
            simp [include?, outside, assigned, spelled, given] at other
          simp only [keywordFault?, given, if_false] at read
          exact dotted_of_setGlobal otherKeyword read added
      | _ => contradiction

/-- A line leaves the patterns of rules about sites with dots in them. -/
theorem dotted_of_readLine (other : p.include? line = none)
    (read : p.readLine around (fun _ _ p => .ok p) here line = .ok p')
    (filters : p.block.Filters) (dotted : ∀ rule ∈ p.loaded.rules, rule.Dotted) :
    ∀ rule ∈ p'.loaded.rules, rule.Dotted := by
  have one {rule : Rule} (added : rule.Dotted) : ∀ r ∈ p.loaded.rules ++ [rule], r.Dotted := by
    intro r among
    rcases List.mem_append.1 among with before | last
    · exact dotted r before
    · rwa [List.mem_singleton.1 last]
  cases reading_of_readLine other read with
  | aside _ _ aside => rwa [aside.loaded.rules]
  | rule assigned outside => exact one (dotted_of_assignment other assigned outside read rfl)
  | filterRule block =>
      apply one
      have filter := filters _ block
      apply Rule.dotted_of_kind
      constructor <;> rintro rfl <;> exact absurd filter (by decide)
  | startFunction => exact one (Rule.dotted_of_kind ⟨nofun, nofun⟩)
  | closeFunction =>
      intro rule among
      rcases RuleTable.mem_modifyLast among with before | ⟨last, before, rfl⟩
      · exact dotted rule before
      · exact dotted last before
  | _ => exact dotted

/-- A load leaves them so. -/
theorem Reads.dotted {sights : List Sight} (reads : Reads around p sights p')
    (filters : p.block.Filters) (dotted : ∀ rule ∈ p.loaded.rules, rule.Dotted) :
    ∀ rule ∈ p'.loaded.rules, rule.Dotted := by
  induction reads with
  | nil => exact dotted
  | line other read later ih =>
      apply ih ((reading_of_readLine other read).filters filters)
      exact dotted_of_readLine other read filters dotted
  | passed included later ih => exact ih filters dotted
  | opened included read encoded later ih => exact ih filters dotted

end Progress

namespace Loaded

variable {text file : Text} {before : Loaded} {files : FileSystem} {log : EventLog}

theorem dotted_of_loadText
    (succeeded : (before.loadText around text file files log).fault = none) :
    ∀ rule ∈ (before.loadText around text file files log).loaded.rules, rule.Dotted := by
  obtain ⟨sights, p, p', -, reads, -, finished, loaded⟩ := reads_of_loadText succeeded
  rw [loaded, rules_of_finish finished]
  apply reads.dotted
  · intro kind impossible
    contradiction
  · intro rule among
    contradiction

/-- A load from a file that succeeds is one of the text in it. -/
theorem exists_text_of_load (succeeded : (before.load around file files log).fault = none) :
    ∃ text, before.load around file files log = before.loadText around text file files log := by
  unfold load at succeeded ⊢
  cases read : files.readText (Path.ofText file) with
  | ok text => exact ⟨text, rfl⟩
  | error reason =>
      rw [read] at succeeded
      cases reason <;> contradiction

/-- Every rule of a load that forbids scripts or certificate checks has a guarded pattern. -/
def SitesGuarded (s : Loaded) : Prop :=
  ∀ rule ∈ s.rules, rule.kind = .noScript ∨ rule.kind = .noVerify →
    ∃ pattern, rule.pattern = some pattern ∧ SitePattern.Guarded pattern

theorem sitesGuarded_of_loadText
    (succeeded : (before.loadText around text file files log).fault = none) :
    (before.loadText around text file files log).loaded.SitesGuarded := by
  intro rule among site
  obtain ⟨pattern, named, dotted⟩ := dotted_of_loadText succeeded rule among site
  exact ⟨pattern, named, dotted.guarded⟩

/-- Whatever is loaded, from a text at hand or from a file, a rule that forbids scripts or
certificate checks needs two labels of a host just if the domain that it names has a dot inside. -/
theorem sites_guarded (around : Surroundings) (before : Loaded) (file : Text) (files : FileSystem)
    (log : EventLog) :
    (∀ text, (before.loadText around text file files log).fault = none →
      (before.loadText around text file files log).loaded.SitesGuarded) ∧
    ((before.load around file files log).fault = none →
      (before.load around file files log).loaded.SitesGuarded) := by
  constructor
  · intro text succeeded
    exact sitesGuarded_of_loadText succeeded
  · intro succeeded
    obtain ⟨text, same⟩ := exists_text_of_load succeeded
    rw [same] at succeeded ⊢
    exact sitesGuarded_of_loadText succeeded

/-- An rc file with a rule about scripts, and one about certificates in a file that it includes. -/
def siteFiles : FileSystem :=
  let bytes (text : String) : List UInt8 := text.toList.map fun c => c.toNat.toUInt8
  { entries := [
      ([['r']], .file (bytes "nojs=.ads.example.\ninclude=m\n")),
      ([['m']], .file (bytes "novs=b.c/d\n"))] }

/-- The labels of the first rule stand in the middle of a host. -/
theorem sites_guarded_example :
    let loaded := ((fresh ['a']).load ⟨{}, {}⟩ ['r'] siteFiles #[]).loaded
    let pattern := "ads.example.".toList
    let url := "http://www.ads.example.org/".toList
    loaded.rules.map Rule.pattern = [some pattern, some "b.c/d".toList] ∧ loaded.SitesGuarded ∧
      SitePattern.matchesUrl pattern url ∧ ∃ protocol host here,
        Url.protocolAndHost url = .ok (protocol, host) ∧
        SitePattern.FoundOn (SitePattern.domain pattern) host here ∧ 2 ≤ here.length := by
  intro loaded pattern url
  have succeeded : ((fresh ['a']).load ⟨{}, {}⟩ ['r'] siteFiles #[]).fault = none := by
    decide +kernel
  have patterns : loaded.rules.map Rule.pattern = [some pattern, some "b.c/d".toList] := by
    decide +kernel
  have matched : SitePattern.matchesUrl pattern url := by decide +kernel
  have guarded : loaded.SitesGuarded :=
    (sites_guarded ⟨{}, {}⟩ (fresh ['a']) ['r'] siteFiles #[]).2 succeeded
  have first : ∃ rule ∈ loaded.rules, rule.kind = .noScript ∧ rule.pattern = some pattern := by
    decide +kernel
  obtain ⟨rule, among, kind, named⟩ := first
  obtain ⟨_, same, known⟩ := guarded rule among (.inl kind)
  cases Option.some.inj (named.symm.trans same)
  obtain ⟨protocol, host, here, site, found, two⟩ := known.found url matched
  exact ⟨patterns, guarded, matched, protocol, host, here, site, found, two.2 (by decide +kernel)⟩

/-- Behind the dot that is dropped there may be another one. A rule that is made of such a line is
about all hosts under one label. -/
theorem topLevel_covered :
    let result := (fresh ['a']).loadText ⟨{}, {}⟩ "nojs=..com\n".toList ['r'] {} #[]
    result.fault = none ∧ ∃ rule ∈ result.loaded.rules, rule.kind = .noScript ∧
      ∃ pattern ∈ rule.pattern,
        ¬2 ≤ (Text.split '.' (Text.strip (· = '.') (SitePattern.domain pattern))).length ∧
        SitePattern.matchesUrl pattern "http://example.com/".toList := by
  decide +kernel

end Loaded

end Ebrc
