import Ebrc.Proofs.Rules
import Ebrc.Proofs.Text.Case

/-!
# Where mail goes

A filter is about the sender, the recipients or the subject of a message, and the filters of all
three kinds are tried in one row. What each of them matches is said here without comparing lengths:
a text is the pattern, lies in the domain that the pattern is, or begins or ends with the pattern
and is at most twice as long. All of this is about texts in small letters, so neither capitals in a
message nor capitals in an rc file change the filter that decides.
-/

namespace Ebrc

/-! ## What a filter matches -/

namespace MailFilter

variable {pattern address sender reply recipient subject : Text} {kind : RuleKind}
variable {head : MailHead}

/-- The pattern begins with an at sign, and the address ends with it and is longer. -/
structure DomainOf (pattern address : Text) : Prop where
  sign : pattern.head? = some '@'
  within : pattern <:+ address
  longer : pattern ≠ address

/-- The pattern is one end of the subject, not all of it, and at least half of it. -/
structure EndOf (pattern subject : Text) : Prop where
  ending : pattern <+: subject ∨ pattern <:+ subject
  longer : pattern ≠ subject
  half : subject.length ≤ 2 * pattern.length

/-- A message is matched by the pattern of a filter of some kind. Small letters are compared. -/
inductive Matches (pattern : Text) (head : MailHead) : RuleKind → Prop where
  | sender (same : Text.lower pattern = Text.lower head.sender) : Matches pattern head .fromFilter
  | reply (same : Text.lower pattern = Text.lower head.reply) : Matches pattern head .fromFilter
  | replyDomain (domain : DomainOf (Text.lower pattern) (Text.lower head.reply)) :
      Matches pattern head .fromFilter
  | recipient (same : Text.lower pattern = Text.lower head.recipient) :
      Matches pattern head .toFilter
  | recipientDomain (domain : DomainOf (Text.lower pattern) (Text.lower head.recipient)) :
      Matches pattern head .toFilter
  | subject (same : Text.lower pattern = Text.lower head.subject) :
      Matches pattern head .subjectFilter
  | subjectEnd (part : EndOf (Text.lower pattern) (Text.lower head.subject)) :
      Matches pattern head .subjectFilter

theorem length_lt_of_sublist {s t : Text} (part : s.Sublist t) (other : s ≠ t) :
    s.length < t.length := by
  apply Nat.lt_of_le_of_ne part.length_le
  exact fun same => other (part.eq_of_length same)

theorem isDomainOf_iff : isDomainOf pattern address ↔ DomainOf pattern address := by
  unfold isDomainOf
  simp only [Bool.and_eq_true, decide_eq_true_eq, List.isSuffixOf_iff_suffix]
  constructor
  · intro domain
    obtain ⟨⟨sign, shorter⟩, within⟩ := domain
    exact ⟨sign, within, fun same => Nat.ne_of_lt shorter (congrArg List.length same)⟩
  · intro domain
    have shorter := length_lt_of_sublist domain.within.sublist domain.longer
    exact ⟨⟨domain.sign, shorter⟩, domain.within⟩

theorem matchesSender_iff :
    matchesSender pattern head.sender head.reply ↔ Matches pattern head .fromFilter := by
  unfold matchesSender
  simp only [Bool.or_eq_true, decide_eq_true_eq, isDomainOf_iff]
  constructor
  · intro matched
    rcases matched with (same | same) | domain
    · exact .sender same
    · exact .reply same
    · exact .replyDomain domain
  · intro matched
    cases matched with
    | sender same => exact .inl (.inl same)
    | reply same => exact .inl (.inr same)
    | replyDomain domain => exact .inr domain

theorem matchesRecipient_iff :
    matchesRecipient pattern head.recipient ↔ Matches pattern head .toFilter := by
  unfold matchesRecipient
  simp only [Bool.or_eq_true, decide_eq_true_eq, isDomainOf_iff]
  constructor
  · intro matched
    rcases matched with same | domain
    · exact .recipient same
    · exact .recipientDomain domain
  · intro matched
    cases matched with
    | recipient same => exact .inl same
    | recipientDomain domain => exact .inr domain

theorem matchesSubject_iff :
    matchesSubject pattern head.subject ↔ Matches pattern head .subjectFilter := by
  unfold matchesSubject
  simp only [Bool.or_eq_true, Bool.and_eq_true, decide_eq_true_eq, List.isPrefixOf_iff_prefix,
    List.isSuffixOf_iff_suffix]
  constructor
  · intro matched
    rcases matched with same | ⟨⟨shorter, half⟩, ending⟩
    · exact .subject same
    · refine .subjectEnd ⟨ending, ?_, half⟩
      exact fun same => Nat.ne_of_lt shorter (congrArg List.length same)
  · intro matched
    cases matched with
    | subject same => exact .inl same
    | subjectEnd part =>
        have within : (Text.lower pattern).Sublist (Text.lower head.subject) := by
          cases part.ending with
          | inl inFront => exact inFront.sublist
          | inr behind => exact behind.sublist
        have shorter := length_lt_of_sublist within part.longer
        exact .inr ⟨⟨shorter, part.half⟩, part.ending⟩

/-- The tests find out just what is matched. -/
theorem isMatch_iff : isMatch kind pattern head ↔ Matches pattern head kind := by
  cases kind with
  | fromFilter => exact matchesSender_iff
  | toFilter => exact matchesRecipient_iff
  | subjectFilter => exact matchesSubject_iff
  | _ => exact iff_of_false Bool.false_ne_true nofun

/-- Only rules for mail match a message. -/
theorem Matches.kind_mem (matched : Matches pattern head kind) : kind ∈ RuleTable.filterKinds := by
  cases matched <;> decide

end MailFilter

/-! ## The rule that decides -/

/-- A rule whose pattern matches the message. -/
def Rule.Catches (rule : Rule) (head : MailHead) : Prop :=
  ∃ pattern ∈ rule.pattern, MailFilter.Matches pattern head rule.kind

theorem Rule.any_isMatch_iff {rule : Rule} {head : MailHead} :
    rule.pattern.any (MailFilter.isMatch rule.kind · head) ↔ rule.Catches head := by
  unfold Rule.Catches
  cases rule.pattern with
  | none => simp
  | some pattern => simp [MailFilter.isMatch_iff]

instance (rule : Rule) (head : MailHead) : Decidable (rule.Catches head) :=
  decidable_of_iff _ Rule.any_isMatch_iff

/-- The rules are the same but for the case of letters in their patterns. -/
structure Rule.SameUpToCase (rule other : Rule) : Prop where
  kind : rule.kind = other.kind
  destination : rule.destination = other.destination
  pattern : Option.Rel Text.SameUpToCase rule.pattern other.pattern

/-- The messages are the same but for the case of letters. -/
structure MailHead.SameUpToCase (head other : MailHead) : Prop where
  recipient : head.recipient.SameUpToCase other.recipient
  sender : head.sender.SameUpToCase other.sender
  reply : head.reply.SameUpToCase other.reply
  subject : head.subject.SameUpToCase other.subject

namespace MailFilter

variable {pattern other : Text} {head head' : MailHead} {kind : RuleKind}

/-- What is matched is no matter of case. -/
theorem Matches.recased (matched : Matches pattern head kind) (same : pattern.SameUpToCase other)
    (message : head.SameUpToCase head') : Matches other head' kind := by
  have small := same.lower_eq
  have recipient := message.recipient.lower_eq
  have sender := message.sender.lower_eq
  have reply := message.reply.lower_eq
  have subject := message.subject.lower_eq
  cases matched with
  | sender same => exact .sender (by rw [← small, ← sender, same])
  | reply same => exact .reply (by rw [← small, ← reply, same])
  | replyDomain domain => exact .replyDomain (by rwa [← small, ← reply])
  | recipient same => exact .recipient (by rw [← small, ← recipient, same])
  | recipientDomain domain => exact .recipientDomain (by rwa [← small, ← recipient])
  | subject same => exact .subject (by rw [← small, ← subject, same])
  | subjectEnd part => exact .subjectEnd (by rwa [← small, ← subject])

end MailFilter

theorem MailHead.SameUpToCase.symm {head other : MailHead} (same : head.SameUpToCase other) :
    other.SameUpToCase head where
  recipient := Eq.symm same.recipient
  sender := Eq.symm same.sender
  reply := Eq.symm same.reply
  subject := Eq.symm same.subject

theorem Rule.SameUpToCase.catches_iff {rule other : Rule} {head head' : MailHead}
    (same : rule.SameUpToCase other) (message : head.SameUpToCase head') :
    rule.Catches head ↔ other.Catches head' := by
  obtain ⟨kind, -, patterns⟩ := same
  unfold Catches
  rw [kind]
  generalize rule.pattern = mine at patterns ⊢
  generalize other.pattern = theirs at patterns ⊢
  cases patterns with
  | none => simp
  | some same =>
      simp only [Option.mem_def, Option.some.injEq, exists_eq_left']
      constructor
      · intro matched
        exact matched.recased same message
      · intro matched
        exact matched.recased (Eq.symm same) message.symm

theorem Rule.SameUpToCase.refl (rule : Rule) : rule.SameUpToCase rule where
  kind := rfl
  destination := rfl
  pattern := by
    cases rule.pattern with
    | none => exact .none
    | some pattern => exact .some rfl

theorem Rule.SameUpToCase.isSome_pattern {rule other : Rule} (same : rule.SameUpToCase other) :
    rule.pattern.isSome = other.pattern.isSome := by
  obtain ⟨-, -, patterns⟩ := same
  generalize rule.pattern = mine at patterns ⊢
  generalize other.pattern = theirs at patterns ⊢
  cases patterns with
  | none => rfl
  | some => rfl

namespace RuleTable

variable {rules others : RuleTable} {head head' : MailHead} {alias? : Text → Option Text}

/-- Every filter has a pattern. -/
def FiltersNamed (rules : RuleTable) : Prop :=
  ∀ rule ∈ rules, rule.kind ∈ filterKinds → rule.pattern.isSome

instance (rules : RuleTable) : Decidable rules.FiltersNamed :=
  inferInstanceAs (Decidable (∀ rule ∈ rules, _ → _))

/-- The first filter that matches decides, and the alias of the address to reply to if there is
none. -/
theorem redirectMail_eq (named : rules.FiltersNamed) :
    rules.redirectMail alias? head =
      .ok ((rules.find? (·.Catches head)).elim (alias? head.reply) Rule.destination) := by
  have patterns : ∀ rule ∈ rules.ofKinds filterKinds, rule.pattern.isSome := by
    intro rule kept
    obtain ⟨among, kind⟩ := List.mem_filter.1 kept
    exact named rule among (of_decide_eq_true kind)
  have only : (rules.ofKinds filterKinds).find?
        (fun rule => rule.pattern.any (MailFilter.isMatch rule.kind · head)) =
      rules.find? (·.Catches head) := by
    rw [ofKinds, List.find?_filter]
    congr 1
    funext rule
    rw [decide_eq_decide, Rule.any_isMatch_iff, decide_eq_true_eq]
    apply and_iff_right_of_imp
    intro catches
    obtain ⟨pattern, -, matched⟩ := catches
    exact matched.kind_mem
  unfold redirectMail
  rw [findFilter_eq_searchBy, searchBy_eq_ok patterns, only]
  cases rules.find? (·.Catches head) with
  | none => rfl
  | some rule => rfl

/-- The filter that decides sends the mail to one place, whatever the case of letters. -/
theorem find?_catches_recased (same : List.Forall₂ Rule.SameUpToCase rules others)
    (message : head.SameUpToCase head') (fallback : Option Text) :
    (others.find? (·.Catches head')).elim fallback Rule.destination =
      (rules.find? (·.Catches head)).elim fallback Rule.destination := by
  induction same with
  | nil => rfl
  | @cons rule other rules others same later ih =>
      rw [List.find?_cons, List.find?_cons]
      by_cases catches : rule.Catches head
      · rw [decide_eq_true catches, decide_eq_true ((same.catches_iff message).1 catches)]
        exact same.destination.symm
      · rw [decide_eq_false catches, decide_eq_false (catches ∘ (same.catches_iff message).2)]
        exact ih

theorem FiltersNamed.recased (named : rules.FiltersNamed)
    (same : List.Forall₂ Rule.SameUpToCase rules others) : others.FiltersNamed := by
  induction same with
  | nil => exact named
  | @cons rule other rules others same later ih =>
      unfold FiltersNamed at named ⊢
      rw [List.forall_mem_cons] at named ⊢
      constructor
      · intro kind
        rw [← same.isSome_pattern]
        exact named.1 (by rwa [same.kind])
      · exact ih named.2

/-- How the filters of a table deal with a message. -/
structure Files (rules : RuleTable) (alias? : Text → Option Text) (head : MailHead) : Prop where
  /-- A filter of each kind matches what it is said to match, and no other rule does. -/
  matching : ∀ kind pattern,
    MailFilter.isMatch kind pattern head ↔ MailFilter.Matches pattern head kind
  /-- The earliest filter that matches decides, of whichever kind it is. -/
  first : rules.redirectMail alias? head =
    .ok ((rules.find? (·.Catches head)).elim (alias? head.reply) Rule.destination)
  /-- The same filter decides if the case of letters is changed in patterns and in the message; an
  alias is looked up for the address as it is written then. -/
  recased : ∀ (others : RuleTable) (head' : MailHead),
    List.Forall₂ Rule.SameUpToCase rules others → head.SameUpToCase head' →
    others.redirectMail alias? head' =
      .ok ((rules.find? (·.Catches head)).elim (alias? head'.reply) Rule.destination)

/-- A message goes where the earliest filter says that matches it, and to the alias of its reply
address if none does. The case of letters has no part in it. -/
theorem mail_rules_decide (rules : RuleTable) (alias? : Text → Option Text) (head : MailHead)
    (named : rules.FiltersNamed) : rules.Files alias? head where
  matching _ _ := MailFilter.isMatch_iff
  first := redirectMail_eq named
  recased others head' same message := by
    rw [redirectMail_eq (named.recased same), find?_catches_recased same message]

/-- A filter on subjects, one on senders, and a rule that has nothing to do with mail. -/
def filingExample : RuleTable := [
  { kind := .noScript },
  { kind := .subjectFilter, pattern := some "Offer".toList, destination := some "junk".toList },
  { kind := .fromFilter, pattern := some "@Work.org".toList, destination := some "work".toList }]

/-- The domain of the reply address is found in any case. The subject has the other pattern in it,
but not at one of its ends. -/
theorem mail_rules_decide_example :
    let head : MailHead :=
      ⟨"me@home".toList, "x@y".toList, "boss@work.ORG".toList, "new offers".toList⟩
    let other : MailHead := { head with reply := "Boss@WORK.org".toList }
    filingExample.FiltersNamed ∧ head.SameUpToCase other ∧
      filingExample.redirectMail (fun _ => none) head = .ok (some "work".toList) ∧
      filingExample.redirectMail (fun _ => none) other = .ok (some "work".toList) := by
  intro head other
  have named : filingExample.FiltersNamed := by decide
  have message : head.SameUpToCase other := ⟨rfl, rfl, by decide, rfl⟩
  have same : List.Forall₂ Rule.SameUpToCase filingExample filingExample :=
    List.forall₂_same.2 fun rule _ => .refl rule
  have files := mail_rules_decide filingExample (fun _ => none) head named
  have found : (filingExample.find? (·.Catches head)).elim none Rule.destination =
      some "work".toList := by
    decide +kernel
  refine ⟨named, message, ?_, ?_⟩
  · rw [files.first, found]
  · rw [files.recased filingExample other same message, found]

end RuleTable

end Ebrc
