import Ebrc.Proofs.Url.Parts
import Ebrc.SiteRules

/-!
# Rules see the host and the path

A pattern is compared with the host of a URL and, if it goes on after a slash, with the path. These
are cut out of the URL twice, by two functions, and nothing else of it gets to the rules. So a URL
cannot be dressed up in a way that makes another rule decide about it: a scheme, a user name, a
port, a query, a fragment or capitals in the host change no answer. But a rule about proxies looks
at the scheme too, and a URL that carries its data in itself may always run its scripts.
-/

namespace Ebrc

variable {pattern protocol host s t : Text}

namespace SitePattern

/-- The part of a pattern about the host, in front of the first slash. -/
def domain (pattern : Text) : Text := pattern.takeWhile (· ≠ '/')

/-- The part of a pattern about the path, behind the first slash. -/
def pathStart (pattern : Text) : Text := (pattern.dropWhile (· ≠ '/')).tail

theorem domain_of_not_mem (absent : '/' ∉ pattern) : domain pattern = pattern := by
  apply List.takeWhile_eq_self_iff.2
  intro c among
  exact decide_eq_true (ne_of_mem_of_not_mem among absent)

theorem pathStart_of_not_mem (absent : '/' ∉ pattern) : pathStart pattern = [] := by
  have none : pattern.dropWhile (· ≠ '/') = [] := by
    apply List.dropWhile_eq_nil_iff.2
    intro c among
    exact decide_eq_true (ne_of_mem_of_not_mem among absent)
  rw [pathStart, none, List.tail_nil]

/-- A pattern is cut at its first slash. -/
theorem cut_eq (pattern : Text) :
    Text.cut '/' pattern =
      (domain pattern, if '/' ∈ pattern then some (pathStart pattern) else none) := by
  by_cases slash : '/' ∈ pattern
  · obtain ⟨before, after, rfl, absent⟩ := List.eq_append_cons_of_mem slash
    have taken : ∀ c ∈ before, decide (c ≠ '/') = true := by
      intro c among
      exact decide_eq_true (ne_of_mem_of_not_mem among absent)
    rw [Text.cut_append absent, if_pos slash, domain, pathStart, List.takeWhile_append_of_pos taken,
      List.dropWhile_append_of_pos taken]
    simp
  · rw [Text.cut_of_not_mem slash, if_neg slash, domain_of_not_mem slash]

/-- Does a site with this host and this path fit a pattern? -/
def fitsSite (pattern host path : Text) : Bool :=
  matchesHost (domain pattern) host &&
    (pathStart pattern = [] || ('/' :: pathStart pattern).isPrefixOf path)

theorem matchesUrl_of_ok (site : Url.protocolAndHost t = .ok (protocol, host)) :
    matchesUrl pattern t = fitsSite pattern host (Url.pathOf t) := by
  unfold matchesUrl fitsSite
  by_cases empty : pattern = []
  · rw [if_pos empty, empty]
    rfl
  rw [if_neg empty, site, cut_eq]
  dsimp only
  by_cases slash : '/' ∈ pattern
  · rw [if_pos slash]
    cases start : pathStart pattern with
    | nil => simp
    | cons c path => simp
  · rw [if_neg slash, pathStart_of_not_mem slash]
    simp

/-- No pattern tells the URLs apart. -/
def MatchedAlike (s t : Text) : Prop := ∀ pattern, matchesUrl pattern s = matchesUrl pattern t

end SitePattern

/-! ## Answers about URLs that are alike -/

namespace RuleTable

variable {rules : RuleTable} {settings : Settings} {agents : List Text}

theorem matchesUrl_congr (alike : SitePattern.MatchedAlike s t) :
    (fun rule : Rule => rule.matchesUrl s) = fun rule : Rule => rule.matchesUrl t := by
  funext rule
  unfold Rule.matchesUrl
  exact congrArg rule.pattern.any (funext alike)

theorem allowsScript_congr (alike : SitePattern.MatchedAlike s t)
    (data : Url.isData s = Url.isData t) :
    rules.allowsScript settings s = rules.allowsScript settings t := by
  unfold allowsScript
  rw [matchesUrl_congr alike, data]

theorem verifiesHost_congr (alike : SitePattern.MatchedAlike s t) :
    rules.verifiesHost settings s = rules.verifiesHost settings t := by
  unfold verifiesHost
  rw [matchesUrl_congr alike]

theorem agentFor_congr (alike : SitePattern.MatchedAlike s t) :
    rules.agentFor agents s = rules.agentFor agents t := by
  unfold agentFor
  rw [matchesUrl_congr alike]

/-- The first proxy rule about a URL decides. -/
theorem findProxy_of_ok (site : Url.protocolAndHost t = .ok (protocol, host)) :
    rules.findProxy t =
      ((rules.first? .proxy (·.servesUrl protocol t)).elim directConnection Rule.proxyOrDirect,
        []) := by
  unfold findProxy proxyFor
  rw [site]
  cases found : rules.first? .proxy (·.servesUrl protocol t) with
  | none => simp [Except.map, found]
  | some rule => simp [Except.map, found]

theorem findProxy_congr {hostOfS hostOfT : Text} (alike : SitePattern.MatchedAlike s t)
    (siteOfS : Url.protocolAndHost s = .ok (protocol, hostOfS))
    (siteOfT : Url.protocolAndHost t = .ok (protocol, hostOfT)) :
    rules.findProxy s = rules.findProxy t := by
  have served : (fun rule : Rule => rule.servesUrl protocol s) =
      fun rule : Rule => rule.servesUrl protocol t := by
    funext rule
    unfold Rule.servesUrl
    simp only [alike _]
  rw [findProxy_of_ok siteOfS, findProxy_of_ok siteOfT, served]

end RuleTable

/-! ## Sites -/

namespace Url.Full

/-- The URLs have one host, but for the case of its letters, and one path. -/
structure SameSite (u v : Full) : Prop where
  host : Text.lower u.host = Text.lower v.host
  path : u.pathOrRoot = v.pathOrRoot

theorem matchesUrl_toText (u : Full) (pattern : Text) :
    SitePattern.matchesUrl pattern u.toText =
      SitePattern.fitsSite pattern (Text.lower u.host) u.pathOrRoot := by
  rw [SitePattern.matchesUrl_of_ok u.protocolAndHost_toText, u.pathOf_toText]

theorem SameSite.alike {u v : Full} (same : u.SameSite v) :
    SitePattern.MatchedAlike u.toText v.toText := by
  intro pattern
  rw [u.matchesUrl_toText, v.matchesUrl_toText, same.host, same.path]

/-- A pattern sees the host, in small letters, and the path. So the rules answer alike about URLs
of one site. -/
theorem host_and_path_decide (u : Full) :
    (∀ pattern, SitePattern.matchesUrl pattern u.toText =
      (SitePattern.matchesHost (SitePattern.domain pattern) (Text.lower u.host) &&
        (SitePattern.pathStart pattern = [] ||
          ('/' :: SitePattern.pathStart pattern).isPrefixOf u.pathOrRoot))) ∧
    ∀ v : Full, u.SameSite v → ∀ (rules : RuleTable) (settings : Settings) (agents : List Text),
      (isData u.toText = isData v.toText →
        rules.allowsScript settings u.toText = rules.allowsScript settings v.toText) ∧
      rules.verifiesHost settings u.toText = rules.verifiesHost settings v.toText ∧
      rules.agentFor agents u.toText = rules.agentFor agents v.toText ∧
      (Text.lower u.scheme = Text.lower v.scheme →
        rules.findProxy u.toText = rules.findProxy v.toText) := by
  constructor
  · exact u.matchesUrl_toText
  · intro v same rules settings agents
    refine ⟨RuleTable.allowsScript_congr same.alike, RuleTable.verifiesHost_congr same.alike,
      RuleTable.agentFor_congr same.alike, ?_⟩
    intro scheme
    have site := u.protocolAndHost_toText
    rw [scheme] at site
    exact RuleTable.findProxy_congr same.alike site v.protocolAndHost_toText

/-- No ornament gets a script past a rule. -/
theorem host_and_path_decide_example :
    let rules : RuleTable := [{ kind := .noScript, pattern := some "example.com/ads".toList }]
    plainExample.SameSite dressedExample ∧
      isData plainExample.toText = isData dressedExample.toText ∧
      Text.lower plainExample.scheme = Text.lower dressedExample.scheme ∧
      rules.allowsScript {} plainExample.toText = rules.allowsScript {} dressedExample.toText ∧
      rules.findProxy plainExample.toText = rules.findProxy dressedExample.toText := by
  intro rules
  have same : plainExample.SameSite dressedExample := ⟨by decide, by decide⟩
  have data : isData plainExample.toText = isData dressedExample.toText := by decide
  have scheme : Text.lower plainExample.scheme = Text.lower dressedExample.scheme := by decide
  obtain ⟨-, decided⟩ := plainExample.host_and_path_decide
  obtain ⟨script, -, -, proxy⟩ := decided dressedExample same rules {} []
  exact ⟨same, data, scheme, script data, proxy scheme⟩

end Url.Full

end Ebrc
