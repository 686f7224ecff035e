import Ebrc.Event
import Ebrc.Settings
import Ebrc.SitePattern

/-!
# Rules about sites

What the rules say about a URL: whether scripts from it may run, whether its host must prove
who it is, which proxy leads to it, and which user agent to show it. Of the rules of a kind the
first that matches decides.
-/

namespace Ebrc

/-- Does the pattern of a rule match a URL? -/
def Rule.matchesUrl (rule : Rule) (url : Text) : Bool :=
  rule.pattern.any (SitePattern.matchesUrl · url)

/-- The answer that stands for a connection without a proxy. -/
def directConnection : Text := "direct".toList

namespace Rule

/-- Is a proxy rule about a protocol? Without protocols it is about all of them. -/
def servesProtocol (rule : Rule) (protocol : Text) : Bool :=
  match rule.protocols with
  | none | some [] => true
  | some protocols => protocols.contains protocol

/-- Is a proxy rule about a URL of this protocol? Without a pattern it is about all of them. -/
def servesUrl (rule : Rule) (protocol url : Text) : Bool :=
  rule.servesProtocol protocol &&
    match rule.pattern with
    | none | some [] => true
    | some pattern => SitePattern.matchesUrl pattern url

/-- The proxy that a rule sets. -/
def proxyOrDirect (rule : Rule) : Text :=
  match rule.proxy with
  | none | some [] => directConnection
  | some proxy => proxy

end Rule

namespace RuleTable

/-- May scripts from a URL run? Those that a URL carries in itself always may, unless no
scripts may. -/
def allowsScript (rules : RuleTable) (settings : Settings) (url : Text) : Bool :=
  settings.allowJs && (Url.isData url || (rules.first? .noScript (·.matchesUrl url)).isNone)

/-- Must the host of a URL prove who it is? -/
def verifiesHost (rules : RuleTable) (settings : Settings) (url : Text) : Bool :=
  settings.verifyCertificates && (rules.first? .noVerify (·.matchesUrl url)).isNone

/-- The proxy that leads to a URL. -/
def proxyFor (rules : RuleTable) (url : Text) : Except UrlError Text :=
  (Url.protocolAndHost url).map fun (protocol, _) =>
    match rules.first? .proxy (·.servesUrl protocol url) with
    | some rule => rule.proxyOrDirect
    | none => directConnection

/-- The proxy that leads to a URL, and what is told about the search: what is no URL is reached
without a proxy. -/
def findProxy (rules : RuleTable) (url : Text) : Text × List Event :=
  match rules.proxyFor url with
  | .ok proxy => (proxy, [])
  | .error _ => (directConnection, [.badProxyUrl url])

/-- The user agent in a place, if there are that many. A negative place counts from the end, and
may not go beyond the start. -/
def agentAt (agents : List Text) (place : Int) : Except Crash (Option Text) :=
  if (agents.length : Int) ≤ place then .ok none
  else
    let place := if place < 0 then place + agents.length else place
    if place < 0 then .error .badIndex else .ok agents[place.toNat]?

/-- The user agent to show to a URL, if a rule sets one that there is. -/
def agentFor (rules : RuleTable) (agents : List Text) (url : Text) :
    Except Crash (Option Text) :=
  match rules.first? .agentSite (·.matchesUrl url) with
  | none => .ok none
  | some rule => agentAt agents rule.agentIndex

end RuleTable

end Ebrc
