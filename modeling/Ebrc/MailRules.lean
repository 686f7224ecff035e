import Ebrc.Rule

/-!
# Rules about mail

Where an incoming message goes. The filters on senders, recipients and subjects are tried in
the order in which they were written, whatever their kinds; a message that none of them matches
goes where the alias of its reply address says. Letter case does not count.
-/

namespace Ebrc

/-- The parts of a message's head that filters look at. -/
structure MailHead where
  recipient : Text
  sender : Text
  reply : Text
  subject : Text
  deriving Repr, DecidableEq

namespace MailFilter

/-- Is the pattern a domain, with its at sign, in which the address lies? -/
def isDomainOf (pattern address : Text) : Bool :=
  pattern.head? = some '@' && pattern.length < address.length && pattern.isSuffixOf address

/-- Does a pattern match a sender or the address to reply to? -/
def matchesSender (pattern sender reply : Text) : Bool :=
  let pattern := Text.lower pattern
  let reply := Text.lower reply
  pattern = Text.lower sender || pattern = reply || isDomainOf pattern reply

/-- Does a pattern match a recipient? -/
def matchesRecipient (pattern recipient : Text) : Bool :=
  let pattern := Text.lower pattern
  let recipient := Text.lower recipient
  pattern = recipient || isDomainOf pattern recipient

/-- Does a pattern match a subject: is it the subject, or one end of it that makes up half of it
at least? -/
def matchesSubject (pattern subject : Text) : Bool :=
  let pattern := Text.lower pattern
  let subject := Text.lower subject
  pattern = subject ||
    (pattern.length < subject.length && subject.length ≤ 2 * pattern.length &&
      (pattern.isPrefixOf subject || pattern.isSuffixOf subject))

/-- Does a filter of this kind match a message? -/
def isMatch (kind : RuleKind) (pattern : Text) (head : MailHead) : Bool :=
  match kind with
  | .fromFilter => matchesSender pattern head.sender head.reply
  | .toFilter => matchesRecipient pattern head.recipient
  | .subjectFilter => matchesSubject pattern head.subject
  | _ => false

end MailFilter

namespace RuleTable

/-- The kinds of the filters. -/
def filterKinds : List RuleKind := [.fromFilter, .toFilter, .subjectFilter]

/-- The first filter that matches a message. A filter without a pattern makes the search
crash. -/
def findFilter (head : MailHead) : List Rule → Except Crash (Option Rule)
  | [] => .ok none
  | rule :: rest =>
    match rule.pattern with
    | none => .error .noPattern
    | some pattern =>
      if MailFilter.isMatch rule.kind pattern head then .ok (some rule) else findFilter head rest

/-- Where a message goes. -/
def redirectMail (rules : RuleTable) (alias? : Text → Option Text) (head : MailHead) :
    Except Crash (Option Text) :=
  (findFilter head (rules.ofKinds filterKinds)).map fun
    | some rule => rule.destination
    | none => alias? head.reply

end RuleTable

end Ebrc
