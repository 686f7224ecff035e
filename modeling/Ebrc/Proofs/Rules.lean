import Ebrc.MailRules
import Ebrc.Proofs.Load.Validity
import Ebrc.SiteRules

/-!
# Rules decide in their order

Six questions are put to the rules: four about sites, one about mail and one about functions. Each
of them looks at the rules of its own kinds, the first one that fits decides, and where none does
there is an answer all the same. The searches differ in how they are written down: some of them
filter the rules and find the first, the others go from rule to rule and crash at one without a
pattern. Here they are shown to be one search.
-/

namespace Ebrc

/-! ## Questions -/

/-- A question that the rules answer. -/
inductive Question where
  /-- May scripts from a URL run? -/
  | script (url : Text)
  /-- Must the host of a URL prove who it is? -/
  | certificate (url : Text)
  /-- Which proxy leads to a URL? -/
  | proxy (url : Text)
  /-- Which user agent is shown to a URL? -/
  | agent (url : Text)
  /-- Where does a message go? -/
  | mail (head : MailHead)
  /-- Which function has a name? -/
  | function (name : Text)
  deriving Repr, DecidableEq

/-- What an answer goes by besides the rules. -/
structure Asking where
  settings : Settings
  agents : List Text
  alias? : Text → Option Text

/-- An answer. -/
inductive Answer where
  | allowed (yes : Bool)
  | proxy (proxy : Text) (told : List Event)
  | agent (found : Except Crash (Option Text))
  | destination (found : Except Crash (Option Text))
  | function (found : Except Crash (Option Rule))

namespace Question

/-- The kinds of rules that a question is about. -/
def kinds : Question → List RuleKind
  | script _ => [.noScript]
  | certificate _ => [.noVerify]
  | proxy _ => [.proxy]
  | agent _ => [.agentSite]
  | mail _ => RuleTable.filterKinds
  | function _ => [.function]

/-- Does a rule of these kinds match? -/
def isMetBy : Question → Rule → Bool
  | script url | certificate url | agent url => (·.matchesUrl url)
  | proxy url =>
    match Url.protocolAndHost url with
    | .ok (protocol, _) => (·.servesUrl protocol url)
    | .error _ => fun _ => false
  | mail head => fun rule => rule.pattern.any (MailFilter.isMatch rule.kind · head)
  | function name => fun rule => rule.pattern.any (Text.lower · = Text.lower name)

/-- Does a rule decide a question, if no earlier one does? -/
def fits (question : Question) (rule : Rule) : Bool :=
  rule.kind ∈ question.kinds && question.isMetBy rule

/-- The answer of a table. -/
def answer (question : Question) (asking : Asking) (rules : RuleTable) : Answer :=
  match question with
  | script url => .allowed (rules.allowsScript asking.settings url)
  | certificate url => .allowed (rules.verifiesHost asking.settings url)
  | proxy url => .proxy (rules.findProxy url).1 (rules.findProxy url).2
  | agent url => .agent (rules.agentFor asking.agents url)
  | mail head => .destination (rules.redirectMail asking.alias? head)
  | function name => .function (rules.findFunction name)

/-- The answer where this rule decides, or none. -/
def ruling (question : Question) (asking : Asking) (rule? : Option Rule) : Answer :=
  match question with
  | script url => .allowed (asking.settings.allowJs && (Url.isData url || rule?.isNone))
  | certificate _ => .allowed (asking.settings.verifyCertificates && rule?.isNone)
  | proxy url =>
    match Url.protocolAndHost url with
    | .ok _ => .proxy (rule?.elim directConnection Rule.proxyOrDirect) []
    | .error _ => .proxy directConnection [.badProxyUrl url]
  | agent _ =>
    .agent (rule?.elim (.ok none) fun rule => RuleTable.agentAt asking.agents rule.agentIndex)
  | mail head => .destination (.ok (rule?.elim (asking.alias? head.reply) Rule.destination))
  | function _ => .function (.ok rule?)

end Question

/-! ## One search -/

namespace RuleTable

variable {rules more : RuleTable} {test : Rule → Text → Bool}

/-- Every function and every filter has a pattern. -/
def Named (rules : RuleTable) : Prop :=
  ∀ rule ∈ rules, rule.kind ∈ RuleKind.function :: filterKinds → rule.pattern.isSome

instance (rules : RuleTable) : Decidable rules.Named :=
  inferInstanceAs (Decidable (∀ rule ∈ rules, _ → _))

/-- The first rule whose pattern passes a test. A rule without a pattern makes the search crash. -/
def searchBy (test : Rule → Text → Bool) : RuleTable → Except Crash (Option Rule)
  | [] => .ok none
  | rule :: rest =>
    match rule.pattern with
    | none => .error .noPattern
    | some pattern => if test rule pattern then .ok (some rule) else searchBy test rest

theorem search_eq_searchBy (name : Text) (rules : RuleTable) :
    findFunction.search name rules =
      searchBy (fun _ pattern => Text.lower pattern = name) rules := by
  induction rules with
  | nil => rfl
  | cons rule rest ih =>
      cases pattern : rule.pattern <;> simp [findFunction.search, searchBy, pattern, ih]

theorem findFilter_eq_searchBy (head : MailHead) (rules : RuleTable) :
    findFilter head rules =
      searchBy (fun rule pattern => MailFilter.isMatch rule.kind pattern head) rules := by
  induction rules with
  | nil => rfl
  | cons rule rest ih =>
      cases pattern : rule.pattern <;> simp [findFilter, searchBy, pattern, ih]

/-- Among rules that all have patterns the search finds the first that passes. -/
theorem searchBy_eq_ok (named : ∀ rule ∈ rules, rule.pattern.isSome) :
    searchBy test rules = .ok (rules.find? fun rule => rule.pattern.any (test rule)) := by
  induction rules with
  | nil => rfl
  | cons rule rest ih =>
      obtain ⟨pattern, here⟩ := Option.isSome_iff_exists.1 (named rule (List.mem_cons_self ..))
      have later := ih fun rule among => named rule (List.mem_cons_of_mem _ among)
      rw [searchBy, List.find?_cons]
      simp only [here, Option.any_some]
      cases passes : test rule pattern with
      | true => rfl
      | false => exact later

/-- A search that comes to a rule that passes does not look at the rules behind it. -/
theorem searchBy_append (passes : ∃ rule ∈ rules, rule.pattern.any (test rule)) :
    searchBy test (rules ++ more) = searchBy test rules := by
  induction rules with
  | nil => simp at passes
  | cons rule rest ih =>
      rw [List.cons_append, searchBy, searchBy]
      cases here : rule.pattern with
      | none => rfl
      | some pattern =>
          dsimp only
          split
          · rfl
          · rename_i fails
            obtain ⟨found, among, passes⟩ := passes
            refine ih ⟨found, ?_, passes⟩
            rcases List.mem_cons.1 among with rfl | among
            · rw [here] at passes
              exact absurd passes fails
            · exact among

end RuleTable

/-- After a load that succeeds every function and every filter has a pattern. -/
theorem Loaded.named_of_loadText {around : Surroundings} {text file : Text} {before : Loaded}
    {files : FileSystem} {log : EventLog} (valid : around.limits.Valid)
    (succeeded : (before.loadText around text file files log).fault = none) :
    (before.loadText around text file files log).loaded.rules.Named := by
  intro rule among kind
  rcases List.mem_cons.1 kind with function | filter
  · have whole : rule.Whole around.limits fun _ => True :=
      whole_of_loadText succeeded (fun _ _ _ => trivial) rule among
    obtain ⟨name, lines, code, named, -⟩ := whole function
    rw [named]
    rfl
  · have sound := (sound_of_loadText valid succeeded).1
    obtain ⟨⟨pattern, named, -⟩, -⟩ := sound.redirections rule among filter
    rw [named]
    rfl

/-! ## Answers -/

namespace Question

variable {question : Question} {asking : Asking} {rules more : RuleTable}

/-- The rules decide a question in their order, and rules of other kinds have no part in it. -/
structure DecidedInOrder (question : Question) (asking : Asking) (rules : RuleTable) : Prop where
  /-- The earliest rule that fits decides, whichever of the kinds it is of. -/
  first : question.answer asking rules = question.ruling asking (rules.find? question.fits)
  /-- Tables with the same rules of these kinds in the same order give the same answer. -/
  ownKinds : ∀ others : RuleTable, others.ofKinds question.kinds = rules.ofKinds question.kinds →
    question.answer asking others = question.answer asking rules
  /-- Behind a rule that fits no rule counts. -/
  appended : ∀ more : RuleTable, (∃ rule ∈ rules, question.fits rule) →
    question.answer asking (rules ++ more) = question.answer asking rules
  /-- What more rules allow, fewer allow. -/
  onlyForbids : ∀ more : RuleTable, question.answer asking (rules ++ more) = .allowed true →
    question.answer asking rules = .allowed true

theorem answer_congr {others : RuleTable}
    (same : others.ofKinds question.kinds = rules.ofKinds question.kinds) :
    question.answer asking others = question.answer asking rules := by
  cases question with
  | script url | certificate url | agent url =>
      simp only [kinds] at same
      simp only [answer, RuleTable.allowsScript, RuleTable.verifiesHost, RuleTable.agentFor,
        RuleTable.first?, same]
  | proxy url =>
      simp only [kinds] at same
      simp only [answer, RuleTable.findProxy, RuleTable.proxyFor, RuleTable.first?, same]
  | mail head =>
      simp only [kinds] at same
      simp only [answer, RuleTable.redirectMail, same]
  | function name =>
      simp only [kinds] at same
      simp only [answer, RuleTable.findFunction, same]

/-- The first rule that fits is the first one of the question's own kinds that matches. -/
theorem find?_fits : rules.find? question.fits =
    (rules.ofKinds question.kinds).find? question.isMetBy := by
  rw [RuleTable.ofKinds, List.find?_filter]
  congr 1
  funext rule
  simp [fits]

/-- The rules that functions or mail are looked up in all have a pattern. -/
theorem isSome_of_mem_ofKinds {kinds : List RuleKind} (named : rules.Named)
    (among : kinds ⊆ RuleKind.function :: RuleTable.filterKinds) :
    ∀ rule ∈ rules.ofKinds kinds, rule.pattern.isSome := by
  intro rule kept
  obtain ⟨there, kind⟩ := List.mem_filter.1 kept
  exact named rule there (among (by simpa using kind))

/-- The earliest rule that fits decides. -/
theorem answer_eq_ruling (named : rules.Named) :
    question.answer asking rules = question.ruling asking (rules.find? question.fits) := by
  rw [find?_fits]
  cases question with
  | script url | certificate url => rfl
  | proxy url =>
      simp only [answer, ruling, RuleTable.findProxy, RuleTable.proxyFor, RuleTable.first?, isMetBy,
        kinds]
      cases Url.protocolAndHost url with
      | error error => rfl
      | ok parts =>
          simp only [Except.map]
          cases List.find? _ (rules.ofKinds [.proxy]) <;> rfl
  | agent url =>
      simp only [answer, ruling, RuleTable.agentFor, RuleTable.first?, isMetBy, kinds]
      cases List.find? _ (rules.ofKinds [.agentSite]) <;> rfl
  | mail head =>
      simp only [answer, ruling, RuleTable.redirectMail, isMetBy, kinds]
      rw [RuleTable.findFilter_eq_searchBy, RuleTable.searchBy_eq_ok
        (isSome_of_mem_ofKinds named (List.subset_cons_self ..))]
      cases List.find? _ (rules.ofKinds RuleTable.filterKinds) <;> rfl
  | function name =>
      simp only [answer, ruling, RuleTable.findFunction, isMetBy, kinds]
      rw [RuleTable.search_eq_searchBy, RuleTable.searchBy_eq_ok
        (isSome_of_mem_ofKinds named (by simp))]

/-- Behind a rule that fits no rule counts. -/
theorem answer_append (decided : ∃ rule ∈ rules, question.fits rule) :
    question.answer asking (rules ++ more) = question.answer asking rules := by
  obtain ⟨rule, among, fits⟩ := decided
  simp only [Question.fits, Bool.and_eq_true, decide_eq_true_eq] at fits
  have kept : rule ∈ rules.ofKinds question.kinds :=
    List.mem_filter.2 ⟨among, by simpa using fits.1⟩
  have found : ((rules ++ more : RuleTable).ofKinds question.kinds).find? question.isMetBy =
      (rules.ofKinds question.kinds).find? question.isMetBy := by
    rw [RuleTable.ofKinds_append, List.find?_append, Option.or_of_isSome]
    exact List.find?_isSome.2 ⟨rule, kept, fits.2⟩
  cases question with
  | script url | certificate url | agent url =>
      simp only [answer, RuleTable.allowsScript, RuleTable.verifiesHost, RuleTable.agentFor,
        RuleTable.first?]
      simp only [isMetBy, kinds] at found
      rw [found]
  | proxy url =>
      simp only [answer, RuleTable.findProxy, RuleTable.proxyFor, RuleTable.first?]
      simp only [isMetBy, kinds] at found
      cases split : Url.protocolAndHost url with
      | error error => rfl
      | ok parts =>
          rw [split] at found
          simp only [Except.map, found]
  | mail head =>
      simp only [answer, RuleTable.redirectMail, RuleTable.findFilter_eq_searchBy,
        RuleTable.ofKinds_append]
      exact congrArg (fun found => Answer.destination (Except.map _ found))
        (RuleTable.searchBy_append ⟨rule, kept, fits.2⟩)
  | function name =>
      simp only [answer, RuleTable.findFunction, RuleTable.search_eq_searchBy,
        RuleTable.ofKinds_append]
      exact congrArg Answer.function (RuleTable.searchBy_append ⟨rule, kept, fits.2⟩)

/-- Rules that are added forbid, and do not allow. -/
theorem allowed_of_append (allowed : question.answer asking (rules ++ more) = .allowed true) :
    question.answer asking rules = .allowed true := by
  have fewer {kind : RuleKind} {url : Text}
      (none : ((rules ++ more : RuleTable).first? kind (·.matchesUrl url)).isNone) :
      (rules.first? kind (·.matchesUrl url)).isNone := by
    simp only [RuleTable.first?, RuleTable.ofKinds_append, List.find?_append] at none ⊢
    generalize List.find? _ (rules.ofKinds [kind]) = found at none ⊢
    cases found with
    | none => rfl
    | some rule => contradiction
  cases question with
  | script url =>
      simp only [answer, RuleTable.allowsScript, Answer.allowed.injEq, Bool.and_eq_true,
        Bool.or_eq_true] at allowed ⊢
      exact ⟨allowed.1, allowed.2.imp_right fewer⟩
  | certificate url =>
      simp only [answer, RuleTable.verifiesHost, Answer.allowed.injEq, Bool.and_eq_true]
        at allowed ⊢
      exact ⟨allowed.1, fewer allowed.2⟩
  | proxy url | agent url | mail head | function name => simp [answer] at allowed

/-- First match wins, and kinds do not interfere. Each of the six questions is decided by the
earliest rule that fits, whichever of the question's kinds it is of, and rules of other kinds have
no part in it, wherever they stand. Rules that are added at the end change no answer that a rule has
decided, and they never allow scripts, or make a host prove who it is, where that was not so. -/
theorem decided_in_order (question : Question) (asking : Asking) (rules : RuleTable)
    (named : rules.Named) : question.DecidedInOrder asking rules where
  first := answer_eq_ruling named
  ownKinds _ same := answer_congr same
  appended _ decided := answer_append decided
  onlyForbids _ allowed := allowed_of_append allowed

/-- A text with rules of several kinds, among them two filters for one message. -/
def mixedRules : Text :=
  ("nojs=a.com\nsubjfilter\x7b\noffer>junk\n\x7d\nfunction:init\x7b\n\x7d\n" ++
    "fromfilter\x7b\n@a.com>work\n\x7d\n").toList

theorem decided_in_order_mixed :
    let rules :=
      ((Loaded.fresh ['a']).loadText ⟨{}, {}⟩ mixedRules ['r'] {} #[]).loaded.rules
    rules.Named ∧ (Question.mail ⟨['m'], "x@a.com".toList, "x@a.com".toList,
      "Offer".toList⟩).DecidedInOrder ⟨{}, [], fun _ => none⟩ rules := by
  intro rules
  have succeeded : ((Loaded.fresh ['a']).loadText ⟨{}, {}⟩ mixedRules ['r'] {} #[]).fault =
      none := by
    decide +kernel
  have named : rules.Named := Loaded.named_of_loadText Limits.valid_default succeeded
  exact ⟨named, decided_in_order _ _ rules named⟩

example :
    let rules :=
      ((Loaded.fresh ['a']).loadText ⟨{}, {}⟩ mixedRules ['r'] {} #[]).loaded.rules
    rules.redirectMail (fun _ => none) ⟨['m'], "x@a.com".toList, "x@a.com".toList, "Offer".toList⟩ =
        .ok (some "junk".toList) := by
  decide +kernel

end Question

end Ebrc
