import Ebrc.Program

/-!
# Rules

What an rc file lays down about sites, mail and functions is a table of rules, in the order in
which they were written. The earliest rule that fits decides. Rules are only ever added at the
end.
-/

namespace Ebrc

/-- What a rule is for. -/
inductive RuleKind where
  /-- No scripts from a site. -/
  | noScript
  /-- No check of a site's certificate. -/
  | noVerify
  /-- A proxy for a site. -/
  | proxy
  /-- A user agent for a site. -/
  | agentSite
  /-- A function. -/
  | function
  /-- A destination for mail by its sender. -/
  | fromFilter
  /-- A destination for mail by its recipient. -/
  | toFilter
  /-- A destination for mail by its subject. -/
  | subjectFilter
  deriving Repr, DecidableEq

/-- The name of a kind. -/
def RuleKind.name : RuleKind → String
  | noScript => "nojs"
  | noVerify => "novs"
  | proxy => "proxy"
  | agentSite => "agentsite"
  | function => "function"
  | fromFilter => "fromfilter"
  | toFilter => "tofilter"
  | subjectFilter => "subjfilter"

/-- A rule. The pattern is a site pattern, a part of a mail's head, or the name of a function;
of the other fields each has a meaning for some kinds only. -/
structure Rule where
  kind : RuleKind
  pattern : Option Text := none
  /-- The protocols for which a proxy is used; none, or an empty list, for all of them. -/
  protocols : Option (List Text) := none
  /-- The proxy; none, or an empty text, for a direct connection. -/
  proxy : Option Text := none
  /-- The place of a user agent in the list of them, counted from the end when negative. -/
  agentIndex : Int := 0
  /-- Where mail goes. -/
  destination : Option Text := none
  body : Option Body := none
  /-- Does a function mind when its commands fail? -/
  mindful : Bool := false
  /-- The number of the line that made the rule; a rule made otherwise may have any. -/
  line : Int := 0
  deriving Repr, DecidableEq

/-- Rules in the order in which they count. -/
abbrev RuleTable := List Rule

namespace RuleTable

/-- The rules of some kinds, in their order. -/
def ofKinds (rules : RuleTable) (kinds : List RuleKind) : RuleTable :=
  rules.filter fun rule => rule.kind ∈ kinds

/-- The first rule of a kind that passes a test. -/
def first? (rules : RuleTable) (kind : RuleKind) (test : Rule → Bool) : Option Rule :=
  (rules.ofKinds [kind]).find? test

/-- The functions whose name differs from the given one in letter case at most: the first of
them is meant. A function without a name makes the search crash. -/
def findFunction (rules : RuleTable) (name : Text) : Except Crash (Option Rule) :=
  search (Text.lower name) (rules.ofKinds [.function])
where
  /-- Search the functions for a name in small letters. -/
  search (name : Text) : List Rule → Except Crash (Option Rule)
    | [] => .ok none
    | rule :: rest =>
      match rule.pattern with
      | none => .error .noPattern
      | some pattern => if Text.lower pattern = name then .ok (some rule) else search name rest

/-- The names of the functions. -/
def functionNames (rules : RuleTable) : List (Option Text) :=
  (rules.ofKinds [.function]).map (·.pattern)

/-- The number of rules of each kind that has any, in the order in which the kinds first
appear. -/
def counts (rules : RuleTable) : List (RuleKind × Nat) :=
  (rules.map (·.kind)).eraseDups.map fun kind => (kind, rules.countP (·.kind = kind))

/-- Change the last rule. -/
def modifyLast (f : Rule → Rule) : RuleTable → RuleTable
  | [] => []
  | [rule] => [f rule]
  | rule :: rest => rule :: modifyLast f rest

@[simp] theorem ofKinds_append (left right : RuleTable) (kinds : List RuleKind) :
    (left ++ right).ofKinds kinds = left.ofKinds kinds ++ right.ofKinds kinds := by
  simp [ofKinds]

@[simp] theorem modifyLast_append_singleton (f : Rule → Rule) (rules : RuleTable) (rule : Rule) :
    modifyLast f (rules ++ [rule]) = rules ++ [f rule] := by
  induction rules with
  | nil => rfl
  | cons head rest ih =>
    cases rest with
    | nil => rfl
    | cons => simpa [modifyLast] using ih

end RuleTable

end Ebrc
