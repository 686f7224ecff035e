import Ebrc.Load.Progress

/-!
# Keywords outside of blocks

User agents, rules about sites, and values that stand for themselves. None of these keywords
looks at the file system.
-/

namespace Ebrc

namespace Loaded

/-- Add a user agent, unless there are enough. -/
def addAgent (limit : Nat) (v : Text) (s : Loaded) : Except Refusal Loaded :=
  if limit ≤ s.agents.length then .error (.fault (.tooManyAgents limit))
  else .ok { s with agents := s.agents ++ [v] }

/-- The domain of a rule about a site: a dot in front is dropped, and a dot must be left that
does not end the domain. -/
def siteDomain (v : Text) : Except Refusal Text :=
  let domain := match v with
    | '.' :: rest => rest
    | v => v
  match Text.cut '.' domain with
  | (_, none) | (_, some []) => .error (.fault (.domainWithoutDot domain))
  | _ => .ok domain

/-- Add a rule about a site. -/
def addSiteRule (kind : RuleKind) (line : Nat) (v : Text) (s : Loaded) : Except Refusal Loaded :=
  (siteDomain v).map fun domain => s.addRule { kind, pattern := some domain, line }

/-- Join a port number at the end of a list of words to the word before it. -/
def joinPort (words : List Text) : List Text :=
  match words.reverse with
  | port :: host :: rest =>
    if Text.allDigitSigns port then (rest.reverse) ++ [host ++ ':' :: port] else words
  | _ => words

/-- The rule of a proxy line `protocols domain proxy`, of which the domain, or both of the
first two, may be left out. A star stands for any protocol or domain, and `direct` for no
proxy. -/
def proxyRule (line : Nat) (v : Text) : Rule :=
  let (protocols, domain, rest) := match joinPort (Text.words v) with
    | protocols :: domain :: next :: rest => (some protocols, some domain, next :: rest)
    | [protocols, proxy] => (some protocols, none, [proxy])
    | words => (none, none, words)
  let proxy := Text.unwords rest
  { kind := .proxy
    pattern := if domain = some ['*'] then none else domain
    protocols := match protocols with
      | none | some ['*'] => none
      | some names =>
        some (((Text.split '|' names).filter (· ≠ [])).map Text.lower)
    proxy := if Text.lower proxy = "direct".toList then none else some proxy
    line }

/-- Add a rule for the user agent of a site: its pattern, and the number of an agent that is
already there. -/
def addAgentSite (line : Nat) (v : Text) (s : Loaded) : Except Refusal Loaded :=
  match Text.words v with
  | [site, index] =>
    if Text.allDigitSigns index then
      match Text.readInt? index with
      | none => .error (.crash .badNumber)
      | some n =>
        if (s.agents.length : Int) ≤ n then .error (.fault (.noSuchAgent n))
        else .ok (s.addRule
          { kind := .agentSite, pattern := some site, agentIndex := n, line })
    else .error (.fault .badAgentSite)
  | _ => .error (.fault .badAgentSite)

/-- The number that a value starts with, moved into bounds. -/
def clampedNumber (least greatest : Int) (v : Text) : Except Refusal Int :=
  (leadingNumber v).map fun n => min (max n least) greatest

end Loaded

end Ebrc
