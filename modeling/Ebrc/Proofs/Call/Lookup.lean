import Ebrc.Proofs.Call.Forwarding
import Ebrc.Proofs.Load.Headers
import Ebrc.Proofs.Load.Positions
import Ebrc.Proofs.Text.Case

/-!
# Functions are found

The name of a function goes a long way: it is cut out of a phrase without its blanks, put behind the
mark of a header, taken from there by the loader, and compared, in small letters, with the first
word of a line. All the way it consists of ASCII letters and digits only. That is what the
interpreter asks of a name before it looks it up, and these are the characters whose case is changed
one by one. So a function that is defined can be called in any mixture of capitals and small
letters. The first function of a name is the one that is meant.
-/

namespace Ebrc

/-! ## Letter case -/

namespace Text

variable {s t : Text}

/-- Whether a text may be the name of a function is no matter of case. -/
theorem SameUpToCase.isFunctionName (same : s.SameUpToCase t) (named : isFunctionName t) :
    Ebrc.isFunctionName s := by
  have letters (t : Text) : t.all Char.isAlphanum = (t.map Char.toLower).all Char.isAlphanum := by
    simp [List.all_map, Function.comp_def, isAlphanum_toLower]
  have blank (t : Text) : t.isEmpty = (t.map Char.toLower).isEmpty := by
    simp
  unfold Ebrc.isFunctionName at named ⊢
  rw [letters, blank, same]
  rwa [letters, blank] at named

/-- A name of a function is written in small letters one by one. -/
theorem lower_of_isFunctionName (named : isFunctionName t) : lower t = t.map Char.toLower := by
  refine lower_of_ascii fun c among => ?_
  have within := toNat_of_isAlphanum ((Invocation.isFunctionName_iff.1 named).2 c among)
  omega

theorem lower_eq_lower_iff (named : isFunctionName s) (named' : isFunctionName t) :
    lower s = lower t ↔ s.SameUpToCase t := by
  rw [lower_of_isFunctionName named, lower_of_isFunctionName named']
  rfl

end Text

/-! ## Names in headers -/

namespace Encoding

variable {maxName : Int} {source name : Text} {line : Line}

theorem IsName.isFunctionName (isName : IsName maxName name) : isFunctionName name :=
  Invocation.isFunctionName_iff.2 ⟨isName.given, isName.letters⟩

/-- The header of a function that is found in a phrase holds a name within the limit. -/
theorem exists_name_of_header? {p : Text} (found : header? maxName p = .ok (some line))
    (header : line.isFunctionHeader) :
    ∃ mark name, line = Line.opening BlockLetter.function (mark :: name) ∧
      IsName maxName name := by
  cases phrase_of_header? found with
  | fixed among =>
      have others : ∀ entry ∈ fixedPhrases, Line.isFunctionHeader entry.2 = false := by decide
      rw [others _ among] at header
      contradiction
  | loop => contradiction
  | @function mark name marked =>
      rw [header?_function marked] at found
      obtain ⟨read, cut, same⟩ := exists_of_map_eq_ok found
      cases same
      exact ⟨mark, name, rfl, (functionName_eq_ok_iff.1 cut).2⟩

/-- So does the header of a function that a source line without marks is encoded into. -/
theorem exists_name_of_encodeLine (unmarked : Text.Unmarked source)
    (encoded : encodeLine maxName source = .ok line) (header : line.isFunctionHeader) :
    ∃ mark name, line = Line.opening BlockLetter.function (mark :: name) ∧
      IsName maxName name := by
  rcases encodeLine_cases encoded with ⟨-, rfl⟩ | ⟨-, ⟨-, rfl⟩ | found⟩
  · contradiction
  · -- The mark in front would be one of the source line.
    rw [Line.isFunctionHeader, Bool.and_eq_true, Line.isOpening, decide_eq_true_eq] at header
    exact absurd rfl (unmarked _ (mem_of_mem_plain (List.mem_of_mem_head? header.1))).1
  · exact exists_name_of_header? found header

end Encoding

/-! ## Names in tables -/

namespace Loaded

variable {around : Surroundings} {text file : Text} {before : Loaded} {files : FileSystem}
variable {log : EventLog}

/-- The functions of a load that succeeds have names within the limit. -/
theorem exists_name_of_loadText
    (succeeded : (before.loadText around text file files log).fault = none)
    (unmarked : ∀ sight ∈ before.trail around text file files log, sight.Unmarked) :
    ∀ rule ∈ (before.loadText around text file files log).loaded.rules, rule.kind = .function →
      ∃ name, rule.pattern = some name ∧ Encoding.IsName around.limits.functionName name := by
  intro rule among function
  have places : before.KeepsPlaces around text file files log _ := keepsPlaces_loadText
  have kept : rule.withoutBody ∈
      Visit.rules around (before.visits around text file files log) := by
    rw [← places.rules fun error failed => by rw [succeeded] at failed; contradiction]
    exact List.mem_map_of_mem among
  obtain ⟨rule', added, same⟩ := List.mem_map.1 kept
  obtain ⟨visit, visited, adds⟩ := List.mem_filterMap.1 added
  have kind : rule'.withoutBody.kind = rule.withoutBody.kind := congrArg Rule.kind same
  have pattern : rule'.withoutBody.pattern = rule.withoutBody.pattern := congrArg Rule.pattern same
  obtain ⟨header, written⟩ := (places.places visit visited rule' adds).2 (kind.trans function)
  -- The line of the visit is one of a text that the load opens, so it is encoded without marks.
  obtain ⟨sights, trail, earlier, later, split, -⟩ := leadsTo_of_mem_visits visited
  have seen : .line visit.here visit.line ∈ before.trail around text file files log := by
    rw [trail, split]
    simp [Visit.sight]
  obtain ⟨there, opened, lines, inTrail, encoded, lineAmong⟩ := readFrom_of_mem_trail seen
  obtain ⟨source, sourceAmong, accepted⟩ :=
    Encoding.exists_source (Encoding.forall₂_of_lines encoded) lineAmong
  have clean : Text.Unmarked source := fun c occurs =>
    unmarked _ inTrail c (Text.mem_of_mem_lines sourceAmong occurs)
  obtain ⟨mark, name, shape, isName⟩ := Encoding.exists_name_of_encodeLine clean accepted header
  refine ⟨name, ?_, isName⟩
  rw [shape] at written
  exact pattern.symm.trans written

end Loaded

/-! ## The first function of a name -/

/-- The rule is a function with this name, up to the case of letters. -/
def Rule.IsCalled (rule : Rule) (name : Text) : Prop :=
  rule.kind = .function ∧ ∃ own, rule.pattern = some own ∧ own.SameUpToCase name

instance (rule : Rule) (name : Text) : Decidable (rule.IsCalled name) :=
  decidable_of_iff (rule.kind = .function ∧ rule.pattern.any (Text.SameUpToCase · name))
    (by simp [Rule.IsCalled, Option.any_eq_true])

namespace RuleTable

variable {rules : RuleTable} {name : Text}

/-- Every function has a name that the interpreter takes for one. -/
def Callable (rules : RuleTable) : Prop :=
  ∀ rule ∈ rules, rule.kind = .function → ∃ name, rule.pattern = some name ∧ isFunctionName name

/-- The search in small letters finds the first function that is called so. -/
theorem findFunction_eq_find? (callable : rules.Callable) (named : isFunctionName name) :
    rules.findFunction name = .ok (rules.find? fun rule => rule.IsCalled name) := by
  unfold findFunction
  induction rules with
  | nil => rfl
  | cons rule rest ih =>
      have later := ih fun rule among => callable rule (List.mem_cons_of_mem _ among)
      by_cases function : rule.kind = .function
      · obtain ⟨own, pattern, ownNamed⟩ := callable rule (List.mem_cons_self ..) function
        rw [ofKinds, List.filter_cons_of_pos (by simpa using function), findFunction.search]
        simp only [pattern, Text.lower_eq_lower_iff ownNamed named]
        by_cases same : own.SameUpToCase name
        · have called : rule.IsCalled name := ⟨function, own, pattern, same⟩
          rw [if_pos same, List.find?_cons_of_pos (by simpa using called)]
        · have other : ¬rule.IsCalled name := by
            rintro ⟨-, own', pattern', same'⟩
            cases pattern.symm.trans pattern'
            exact same same'
          rw [if_neg same, List.find?_cons_of_neg (by simpa using other)]
          exact later
      · have other : ¬rule.IsCalled name := fun called => function called.1
        rw [ofKinds, List.filter_cons_of_neg (by simpa using function),
          List.find?_cons_of_neg (by simpa using other)]
        exact later

theorem resolve_eq_found {found : Rule} (callable : rules.Callable) (named : isFunctionName name)
    (first : rules.find? (fun rule => rule.IsCalled name) = some found) :
    rules.resolve name = .found found := by
  have given : name ≠ [] := (Invocation.isFunctionName_iff.1 named).1
  unfold resolve
  rw [if_neg given, named, if_neg (by decide), findFunction_eq_find? callable named, first]

end RuleTable

theorem Invocation.name_ofLine_append {name : Text} (named : isFunctionName name)
    (arguments : Text) : (ofLine (name ++ ' ' :: arguments)).name = name := by
  have blank : ∀ c ∈ (' ' :: arguments).head?, Text.isBlank c := by
    rintro c ⟨⟩
    decide
  rw [ofLine_eq, Text.words_word_append (isWord_of_isFunctionName named) blank]
  rfl

/-! ## Calls -/

/-- The first function with this name, up to case. -/
structure RuleTable.First (rules : RuleTable) (name : Text) (found : Rule) : Prop where
  called : found.IsCalled name
  first : ∃ earlier later, rules = earlier ++ found :: later ∧
    ∀ other ∈ earlier, ¬other.IsCalled name

/-- A line calls this function: it is the one that is looked up, the call goes as if it were the
only rule, and it is never one of a function that is not found. -/
structure CallContext.Finds {η : Type} (context : CallContext η) (line : Text) (found : Rule) :
    Prop where
  resolved : context.rules.resolve (Invocation.ofLine line).name = .found found
  alone : ∀ evaluate? s, context.invoke evaluate? line s =
    CallContext.invoke { context with rules := [found] } evaluate? line s
  found : ∀ evaluate? s result s', context.invoke evaluate? line s = some (.ok result, s') →
    ∀ e, result.verdict ≠ .notFound e

section Calls

variable {η : Type} {context : CallContext η} {rule found : Rule} {name variant : Text}

/-- A function that is among the rules has a first one of its name. -/
theorem RuleTable.exists_first {rules : RuleTable} (among : rule ∈ rules)
    (called : rule.IsCalled name) : ∃ found, rules.First name found ∧
      rules.find? (fun rule => rule.IsCalled name) = some found := by
  cases search : rules.find? fun rule => rule.IsCalled name with
  | none =>
      have none := List.find?_eq_none.1 search rule among
      simp [called] at none
  | some found =>
      obtain ⟨here, earlier, later, split, others⟩ := List.find?_eq_some_iff_append.1 search
      exact ⟨found, ⟨by simpa using here, earlier, later, split, by simpa using others⟩, rfl⟩

theorem Text.SameUpToCase.isCalled_iff (same : variant.SameUpToCase name) :
    rule.IsCalled variant ↔ rule.IsCalled name := by
  unfold Rule.IsCalled Text.SameUpToCase
  rw [same]

theorem CallContext.ne_notFound_of_conclude {before : Settings} {m : Machine} {ending : Ending}
    {s s' : RunState η} {result : CallResult}
    (concluded : conclude name before m ending s = (.ok result, s')) :
    ∀ e, result.verdict ≠ .notFound e := by
  rintro e same
  cases ending with
  | finished soft =>
      cases concluded
      cases soft <;> cases same
  | failed fault =>
      cases concluded
      cases same
  | crashed crash => cases concluded

theorem CallContext.ne_notFound_of_invoke {evaluate? : Option (Evaluator η)} {line : Text}
    {s s' : RunState η} {result : CallResult}
    (resolved : context.rules.resolve (Invocation.ofLine line).name = .found found)
    (ended : context.invoke evaluate? line s = some (.ok result, s')) :
    ∀ e, result.verdict ≠ .notFound e := by
  unfold invoke at ended
  simp only [resolved] at ended
  cases evaluate? with
  | none =>
      rintro e same
      cases ended
      cases same
  | some evaluate =>
      simp only [runBody] at ended
      split at ended
      · cases ended
      · obtain ⟨⟨m, ending, u⟩, -, concluded⟩ := Option.map_eq_some_iff.1 ended
        exact ne_notFound_of_conclude concluded

/-- What is looked up alone decides how a call goes. -/
theorem CallContext.invoke_alone {line : Text}
    (resolved : context.rules.resolve (Invocation.ofLine line).name = .found found)
    (alone : RuleTable.resolve [found] (Invocation.ofLine line).name = .found found)
    (evaluate? : Option (Evaluator η)) (s : RunState η) : context.invoke evaluate? line s =
      CallContext.invoke { context with rules := [found] } evaluate? line s := by
  unfold invoke
  simp only [resolved, alone]
  rfl

theorem CallContext.finds_of_first (callable : context.rules.Callable)
    (named : isFunctionName variant)
    (first : context.rules.find? (fun rule => rule.IsCalled variant) = some found)
    (arguments : Text) : context.Finds (variant ++ ' ' :: arguments) found := by
  have among : found ∈ context.rules := List.mem_of_find?_eq_some first
  have called : found.IsCalled variant := by simpa using List.find?_some first
  have resolved := RuleTable.resolve_eq_found callable named first
  have only : RuleTable.Callable [found] := by
    intro rule here
    rw [List.mem_singleton.1 here]
    exact callable found among
  have alone : RuleTable.resolve [found] variant = .found found :=
    RuleTable.resolve_eq_found only named (List.find?_cons_of_pos (by simpa using called))
  have name := Invocation.name_ofLine_append named arguments
  rw [← name] at resolved alone
  exact ⟨resolved, invoke_alone resolved alone, fun _ _ _ _ => ne_notFound_of_invoke resolved⟩

end Calls

namespace Loaded

variable {around : Surroundings} {text file : Text} {before : Loaded} {files : FileSystem}
variable {log : EventLog} {η : Type} {context : CallContext η}

/-- Every function that is defined can be called. After a load that succeeds and opens texts without
marks only, a function has a name within the limit. A line that starts with this name, however its
letters are written, calls the first function of the name, whatever other rules there are and
whatever stands behind the name. -/
theorem functions_are_found
    (succeeded : (before.loadText around text file files log).fault = none)
    (unmarked : ∀ sight ∈ before.trail around text file files log, sight.Unmarked)
    (rules : context.rules = (before.loadText around text file files log).loaded.rules) :
    ∀ rule ∈ context.rules, rule.kind = .function →
      ∃ name found, rule.pattern = some name ∧
        Encoding.IsName around.limits.functionName name ∧ context.rules.First name found ∧
        ∀ variant : Text, variant.SameUpToCase name → ∀ arguments : Text,
          context.Finds (variant ++ ' ' :: arguments) found := by
  intro rule among function
  have named := exists_name_of_loadText succeeded unmarked
  rw [← rules] at named
  have callable : context.rules.Callable := by
    intro other there kind
    obtain ⟨own, pattern, isName⟩ := named other there kind
    exact ⟨own, pattern, isName.isFunctionName⟩
  obtain ⟨name, pattern, isName⟩ := named rule among function
  obtain ⟨found, first, search⟩ :=
    RuleTable.exists_first among ⟨function, name, pattern, rfl⟩
  refine ⟨name, found, pattern, isName, first, fun variant same arguments => ?_⟩
  refine CallContext.finds_of_first callable (same.isFunctionName isName.isFunctionName) ?_
    arguments
  simp only [same.isCalled_iff]
  exact search

/-- A function that is defined twice. -/
def definedTwice : Text :=
  "function:Do1\x7b\nnoop\n\x7d\nnojs=a.b\nfunction+dO1\x7b\n\x7d\n".toList

/-- What calls go by after a load of it. -/
def withDefinedTwice : CallContext Unit :=
  ⟨((fresh ['a']).loadText ⟨{}, {}⟩ definedTwice ['r'] {} #[]).loaded.rules, [], 100, none,
    100⟩

theorem functions_are_found_twice :
    ((fresh ['a']).loadText ⟨{}, {}⟩ definedTwice ['r'] {} #[]).fault = none ∧
      (∀ sight ∈ (fresh ['a']).trail ⟨{}, {}⟩ definedTwice ['r'] {} #[], sight.Unmarked) ∧
      ∃ rule ∈ withDefinedTwice.rules, rule.kind = .function ∧
        rule.pattern = some ['d', 'O', '1'] ∧
        ∃ found, withDefinedTwice.rules.First ['d', 'O', '1'] found ∧
          withDefinedTwice.Finds ['D', 'O', '1', ' ', 'x', '\t', 'y'] found := by
  have succeeded : ((fresh ['a']).loadText ⟨{}, {}⟩ definedTwice ['r'] {} #[]).fault =
      none := by decide +kernel
  have unmarked : ∀ sight ∈ (fresh ['a']).trail ⟨{}, {}⟩ definedTwice ['r'] {} #[],
      sight.Unmarked := by decide +kernel
  have rules : withDefinedTwice.rules =
      ((fresh ['a']).loadText ⟨{}, {}⟩ definedTwice ['r'] {} #[]).loaded.rules := by
    rw [withDefinedTwice]
  have second : ∃ rule ∈ withDefinedTwice.rules, rule.kind = .function ∧
      rule.pattern = some ['d', 'O', '1'] := by decide +kernel
  obtain ⟨rule, among, function, pattern⟩ := second
  obtain ⟨name, found, pattern', -, first, finds⟩ :=
    functions_are_found succeeded unmarked rules rule among function
  have same : name = ['d', 'O', '1'] := Option.some.inj (pattern'.symm.trans pattern)
  rw [same] at first finds
  exact ⟨succeeded, unmarked, rule, among, function, pattern, found, first,
    finds ['D', 'O', '1'] rfl ['x', '\t', 'y']⟩

end Loaded

end Ebrc
