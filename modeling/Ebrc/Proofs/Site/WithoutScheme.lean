import Ebrc.Proofs.Site.HostAndPath

/-!
# URLs without a scheme

A URL without a scheme is meant to be one of the protocol http. Whether there is a scheme is told by
the mark between a scheme and a host, wherever in the URL it stands. So a path, a query or a
fragment with this mark in it makes the URL one without a host: no rule about its host or its path
is followed, and it gets what a URL gets that no rule is about.
-/

namespace Ebrc

namespace Url

variable {s t : Text}

/-- The text begins with a letter, more characters of a scheme, and the mark behind a scheme. -/
def HasScheme (t : Text) : Prop :=
  t.head?.any Char.isAlpha ∧ protocolMark <+: t.dropWhile isSchemeChar

instance (t : Text) : Decidable (HasScheme t) := inferInstanceAs (Decidable (_ ∧ _))

/-! ## Texts that are no URLs -/

theorem cutAuthority_of_not_prefix (bare : ¬['/', '/'] <+: t) : cutAuthority t = ([], t) := by
  unfold cutAuthority
  split
  · next rest => exact absurd ⟨rest, rfl⟩ bare
  · rfl

/-- A text without a scheme, which does not begin with a slash, has no authority. -/
theorem cutAuthority_cutScheme (unschemed : ¬HasScheme t) (first : t.head? ≠ some '/') :
    ∃ scheme rest, cutScheme t = (scheme, rest) ∧ cutAuthority rest = ([], rest) := by
  rcases cutScheme_cases t with whole | ⟨scheme, rest, rfl, letter, chars, parts⟩
  · refine ⟨[], t, whole, cutAuthority_of_not_prefix fun slashes => first ?_⟩
    obtain ⟨rest, rfl⟩ := slashes
    rfl
  -- What is cut off may be a host in front of a port, but no slashes come behind its colon.
  · refine ⟨_, rest, parts, cutAuthority_of_not_prefix fun slashes => unschemed ?_⟩
    obtain ⟨rest, rfl⟩ := slashes
    have dropped : (scheme ++ ':' :: (['/', '/'] ++ rest)).dropWhile isSchemeChar =
        ':' :: (['/', '/'] ++ rest) := by
      rw [List.dropWhile_append_of_pos (List.all_eq_true.1 chars)]
      rfl
    refine ⟨?_, rest, by rw [dropped]; rfl⟩
    cases scheme with
    | nil => contradiction
    | cons c scheme => exact letter

/-- With the mark somewhere in it, a text without a scheme has no host. -/
theorem protocolAndHost_of_marked (graphic : t.all isGraphic) (unschemed : ¬HasScheme t)
    (first : t.head? ≠ some '/') (marked : Text.occursIn protocolMark t) :
    protocolAndHost t = .error ⟨.noHost, t⟩ := by
  obtain ⟨scheme, rest, parts, bare⟩ := cutAuthority_cutScheme unschemed first
  have cutting : ∃ url, split t = .ok url ∧ url.authority = [] := by
    unfold split
    rw [clean_eq_self graphic, parts]
    dsimp only
    rw [bare]
    dsimp only
    rw [checkBrackets_of_not_mem List.not_mem_nil List.not_mem_nil,
      not_hidden_of_isAscii (List.forall_mem_nil _)]
    exact ⟨_, rfl, rfl⟩
  obtain ⟨url, cut, unnamed⟩ := cutting
  have given : t ≠ [] := by
    intro empty
    rw [empty] at marked
    contradiction
  unfold protocolAndHost complete
  rw [if_neg given, if_pos marked]
  dsimp only
  rw [cut]
  dsimp only
  rw [if_pos (.inr (by rw [unnamed]; rfl))]

/-! ## Texts that are completed in the same way -/

theorem protocolAndHost_congr (given : s ≠ []) (given' : t ≠ []) (same : complete s = complete t) :
    protocolAndHost s = protocolAndHost t := by
  unfold protocolAndHost
  rw [if_neg given, if_neg given', same]

end Url

/-! ## Answers about what is no URL -/

namespace RuleTable

variable {rules : RuleTable} {settings : Settings} {agents : List Text} {t : Text}
  {error : UrlError}

/-- No rule is about a text that is no URL. -/
theorem first?_of_error (failed : Url.protocolAndHost t = .error error) (kind : RuleKind) :
    rules.first? kind (·.matchesUrl t) = none := by
  have unseen (rule : Rule) : rule.matchesUrl t = false := by
    unfold Rule.matchesUrl SitePattern.matchesUrl
    rw [failed]
    cases rule.pattern <;> simp
  unfold first?
  rw [List.find?_eq_none]
  intro rule among
  rw [unseen rule]
  exact Bool.false_ne_true

end RuleTable

/-! ## Addresses -/

namespace Url.Address

theorem overHttp_toText (a : Address) : a.overHttp.toText = "http://".toList ++ a.toText := rfl

/-- The rules treat the address as a URL of the protocol http; only scripts may run without being
asked about if it looks like a URL that carries its data in itself. -/
structure TakenForHttp (a : Address) : Prop where
  site : protocolAndHost a.toText = .ok ("http".toList, Text.lower a.host)
  script : ∀ (rules : RuleTable) (settings : Settings),
    rules.allowsScript settings a.toText =
      if isData a.toText then settings.allowJs
      else rules.allowsScript settings ("http://".toList ++ a.toText)
  verified : ∀ (rules : RuleTable) (settings : Settings),
    rules.verifiesHost settings a.toText =
      rules.verifiesHost settings ("http://".toList ++ a.toText)
  proxy : ∀ rules : RuleTable,
    rules.findProxy a.toText = rules.findProxy ("http://".toList ++ a.toText)
  agent : ∀ (rules : RuleTable) (agents : List Text),
    rules.agentFor agents a.toText = rules.agentFor agents ("http://".toList ++ a.toText)

/-- The rules treat the address as a text that is no URL, so that none of them is followed. -/
structure TakenForNone (a : Address) : Prop where
  site : protocolAndHost a.toText = .error ⟨.noHost, a.toText⟩
  script : ∀ (rules : RuleTable) (settings : Settings),
    rules.allowsScript settings a.toText = settings.allowJs
  verified : ∀ (rules : RuleTable) (settings : Settings),
    rules.verifiesHost settings a.toText = settings.verifyCertificates
  proxy : ∀ rules : RuleTable,
    rules.findProxy a.toText = (directConnection, [.badProxyUrl a.toText])
  agent : ∀ (rules : RuleTable) (agents : List Text), rules.agentFor agents a.toText = .ok none

variable (a : Address)

theorem toText_ne_nil : a.toText ≠ [] := by
  have given := a.host_given
  unfold toText place
  simp [given]

/-- An address begins with its host. -/
theorem head?_toText : a.toText.head? ≠ some '/' := by
  have slash : '/' ∉ a.host := not_mem_of_all a.host_chars (by decide)
  unfold toText place
  cases host : a.host with
  | nil => exact absurd host a.host_given
  | cons c rest =>
      rw [host, List.mem_cons, not_or] at slash
      simpa using Ne.symm slash.1

theorem takenForHttp (unmarked : Text.occursIn protocolMark a.toText = false) :
    a.TakenForHttp := by
  have same : complete a.toText = complete a.overHttp.toText := by
    rw [a.overHttp.complete_toText, overHttp_toText]
    unfold complete
    rw [unmarked]
    rfl
  have given : a.overHttp.toText ≠ [] := by
    rw [overHttp_toText]
    exact List.cons_ne_nil _ _
  have site : protocolAndHost a.toText = protocolAndHost a.overHttp.toText :=
    protocolAndHost_congr a.toText_ne_nil given same
  have named : protocolAndHost a.overHttp.toText = .ok ("http".toList, Text.lower a.host) := by
    rw [a.overHttp.protocolAndHost_toText]
    rfl
  have path : pathOf a.toText = pathOf a.overHttp.toText := by
    unfold pathOf
    rw [same]
  have alike : SitePattern.MatchedAlike a.toText a.overHttp.toText := by
    intro pattern
    rw [SitePattern.matchesUrl_of_ok (site.trans named), SitePattern.matchesUrl_of_ok named, path]
  constructor
  · exact site.trans named
  · intro rules settings
    cases data : isData a.toText with
    | true =>
        rw [if_pos rfl, RuleTable.allowsScript, data, Bool.true_or, Bool.and_true]
    | false =>
        rw [if_neg Bool.false_ne_true]
        exact RuleTable.allowsScript_congr alike data
  · intro rules settings
    exact RuleTable.verifiesHost_congr alike
  · intro rules
    exact RuleTable.findProxy_congr alike (site.trans named) named
  · intro rules agents
    exact RuleTable.agentFor_congr alike

theorem takenForNone (unschemed : ¬HasScheme a.toText)
    (marked : Text.occursIn protocolMark a.toText) : a.TakenForNone := by
  have failed := protocolAndHost_of_marked a.toText_chars unschemed a.head?_toText marked
  constructor
  · exact failed
  · intro rules settings
    rw [RuleTable.allowsScript, RuleTable.first?_of_error failed, Option.isNone_none, Bool.or_true,
      Bool.and_true]
  · intro rules settings
    rw [RuleTable.verifiesHost, RuleTable.first?_of_error failed, Option.isNone_none, Bool.and_true]
  · intro rules
    unfold RuleTable.findProxy RuleTable.proxyFor
    rw [failed]
    rfl
  · intro rules agents
    rw [RuleTable.agentFor, RuleTable.first?_of_error failed]

/-- With the protocol http in front an address has this protocol and its host, whatever else is in
it. Without it the same is true only as long as the mark behind a scheme does not occur anywhere;
if it does, the address is no URL at all. -/
theorem without_scheme (unschemed : ¬HasScheme a.toText) :
    protocolAndHost ("http://".toList ++ a.toText) =
      .ok ("http".toList, Text.lower a.host) ∧
    (Text.occursIn protocolMark a.toText = false → a.TakenForHttp) ∧
    (Text.occursIn protocolMark a.toText → a.TakenForNone) := by
  refine ⟨?_, a.takenForHttp, a.takenForNone unschemed⟩
  rw [← overHttp_toText, a.overHttp.protocolAndHost_toText]
  rfl

theorem without_scheme_example :
    ¬HasScheme redirecting.toText ∧ ¬HasScheme withPort.toText ∧
      redirecting.TakenForNone ∧ withPort.TakenForHttp := by
  have unschemed : ¬HasScheme redirecting.toText := by decide
  have unschemed' : ¬HasScheme withPort.toText := by decide
  obtain ⟨-, -, none⟩ := redirecting.without_scheme unschemed
  obtain ⟨-, http, -⟩ := withPort.without_scheme unschemed'
  exact ⟨unschemed, unschemed', none (by decide), http (by decide)⟩

/-- The query of the page hides its host, and the rule against its scripts is not followed. -/
theorem redirecting_not_takenForHttp :
    let rules : RuleTable := [{ kind := .noScript, pattern := some "example.com".toList }]
    redirecting.toText = "example.com/?u=http://x".toList ∧
      ¬HasScheme redirecting.toText ∧
      protocolAndHost redirecting.toText = .error ⟨.noHost, redirecting.toText⟩ ∧
      protocolAndHost ("http://".toList ++ redirecting.toText) =
        .ok ("http".toList, "example.com".toList) ∧
      rules.allowsScript {} redirecting.toText = true ∧
      rules.allowsScript {} ("http://".toList ++ redirecting.toText) = false ∧
      ¬redirecting.TakenForHttp := by
  intro rules
  have failed : protocolAndHost redirecting.toText = .error ⟨.noHost, redirecting.toText⟩ := by
    decide +kernel
  refine ⟨by decide, by decide, failed, by decide +kernel, by decide +kernel, by decide +kernel, ?_⟩
  intro taken
  have site := taken.site
  rw [failed] at site
  contradiction

end Url.Address

end Ebrc
