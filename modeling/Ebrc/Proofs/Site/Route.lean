import Ebrc.Load.GlobalKeyword
import Ebrc.Proofs.Site.WithoutScheme
import Ebrc.Proofs.Text.Words

/-!
# Routes

What a proxy line says, read off its words: a port at the end belongs to the host in front of it,
and of the words that are left the first one tells the protocols and the next one the domain, as
long as a word is left for the proxy. The loader turns this into a rule in which a star, an empty
list of protocols and the word direct are no longer written out. The rule fits the URLs that the
line is about, and it answers with the proxy of the line.
-/

namespace Ebrc

/-- What a proxy line says. -/
structure Route where
  protocols : Option Text
  domain : Option Text
  proxy : Text

namespace Route

/-- Join a port at the end to the word in front of it. -/
def joinLast : List Text → List Text
  | [host, port] => if port.all Char.isDigit then [host ++ ':' :: port] else [host, port]
  | word :: rest => word :: joinLast rest
  | [] => []

/-- Take the first word off, if another one is left. -/
def takeFirst : List Text → Option Text × List Text
  | first :: next :: rest => (some first, next :: rest)
  | words => (none, words)

/-- What the words of a line say. -/
def ofWords (words : List Text) : Route :=
  let (protocols, rest) := takeFirst (joinLast words)
  let (domain, rest) := takeFirst rest
  ⟨protocols, domain, Text.unwords rest⟩

/-- What the value of a line says. -/
def ofValue (v : Text) : Route := ofWords (Text.words v)

/-- The route is about this URL of this protocol. -/
def Applies (r : Route) (protocol url : Text) : Prop :=
  (∀ names ∈ r.protocols, names = ['*'] ∨ (∀ name ∈ Text.split '|' names, name = []) ∨
    ∃ name ∈ Text.split '|' names, Text.lower name = Text.lower protocol) ∧
  ∀ domain ∈ r.domain, domain = ['*'] ∨ SitePattern.matchesUrl domain url

instance (r : Route) (protocol url : Text) : Decidable (r.Applies protocol url) :=
  inferInstanceAs (Decidable (_ ∧ _))

/-- What the route answers. -/
def answer (r : Route) : Text :=
  if Text.lower r.proxy = directConnection then directConnection else r.proxy

variable {host port protocol url v : Text} {words : List Text} {r : Route}

/-! ## Ports -/

theorem isDigitSign_of_ascii {c : Char} (ascii : c.toNat < 0x80) :
    Text.isDigitSign c = c.isDigit := by
  apply Text.ascii_induction _ ascii
  decide +kernel

theorem allDigitSigns_of_ascii (ascii : port.IsAscii) (given : port ≠ []) :
    Text.allDigitSigns port = port.all Char.isDigit := by
  have signs : port.all Text.isDigitSign = port.all Char.isDigit := by
    rw [Bool.eq_iff_iff, List.all_eq_true, List.all_eq_true]
    exact forall₂_congr fun c among => by rw [isDigitSign_of_ascii (ascii c among)]
  rw [Text.allDigitSigns, signs, List.isEmpty_eq_false_iff.2 given]
  rfl

theorem joinLast_append (front : List Text) :
    joinLast (front ++ [host, port]) = front ++ joinLast [host, port] := by
  induction front with
  | nil => rfl
  | cons word front ih =>
      have longer : joinLast (word :: (front ++ [host, port])) =
          word :: joinLast (front ++ [host, port]) := by
        refine joinLast.eq_2 _ _ ?_
        intro last single
        simpa using congrArg List.length single
      rw [List.cons_append, longer, ih, List.cons_append]

/-- The loader looks for the port from the end. -/
theorem joinPort_eq (solid : ∀ word ∈ words, word ≠ [] ∧ word.IsAscii) :
    Loaded.joinPort words = joinLast words := by
  -- Only the last two words matter, however many are in front of them.
  rcases List.eq_nil_or_concat' words with rfl | ⟨front, port, rfl⟩
  · rfl
  rcases List.eq_nil_or_concat' front with rfl | ⟨front, host, rfl⟩
  · rfl
  have last := solid port (by simp)
  rw [List.append_assoc]
  refine Eq.trans ?_ (joinLast_append front).symm
  unfold Loaded.joinPort
  rw [List.reverse_append]
  simp only [List.reverse_cons, List.reverse_nil, List.nil_append,
    List.cons_append, List.reverse_reverse, allDigitSigns_of_ascii last.2 last.1, joinLast]
  split <;> rfl

theorem joinLast_given (solid : ∀ word ∈ words, word ≠ []) :
    ∀ word ∈ joinLast words, word ≠ [] := by
  induction words using joinLast.induct with
  | case1 host port digits =>
      rw [joinLast, if_pos digits]
      simp
  | case2 host port other =>
      rw [joinLast, if_neg other]
      exact solid
  | case3 word rest single ih =>
      rw [List.forall_mem_cons] at solid
      rw [joinLast, List.forall_mem_cons]
      · exact ⟨solid.1, ih solid.2⟩
      · exact single
  | case4 => exact solid

theorem joinLast_ne_nil (given : words ≠ []) : joinLast words ≠ [] := by
  cases words using joinLast.fun_cases_unfolding with
  | case1 | case2 | case3 => exact List.cons_ne_nil _ _
  | case4 => contradiction

/-! ## Rules -/

/-- The names between the bars of a list of protocols, in small letters. -/
def protocolNames (names : Text) : List Text :=
  ((Text.split '|' names).filter (· ≠ [])).map Text.lower

/-- The rule that is made of a route. -/
def rule (r : Route) (line : Nat) : Rule where
  kind := .proxy
  pattern := r.domain.filter (· ≠ ['*'])
  protocols := (r.protocols.filter (· ≠ ['*'])).map protocolNames
  proxy := if Text.lower r.proxy = "direct".toList then none else some r.proxy
  line := line

theorem starless_eq (given : Option Text) :
    (if given = some ['*'] then none else given) = given.filter (· ≠ ['*']) := by
  cases given with
  | none => rfl
  | some t =>
      by_cases star : t = ['*']
      · rw [star]
        rfl
      · rw [if_neg (fun same => star (Option.some.inj same)), Option.filter_some,
          if_pos (decide_eq_true star)]

/-- The loader makes the rule of what the line says. -/
theorem proxyRule_eq (ascii : v.IsAscii) (line : Nat) :
    Loaded.proxyRule line v = (ofValue v).rule line := by
  have solid : ∀ word ∈ Text.words v, word ≠ [] ∧ word.IsAscii := by
    intro word among
    exact ⟨(Text.of_mem_words among).1, fun c here => ascii c (Text.mem_of_mem_words among here)⟩
  unfold Loaded.proxyRule ofValue ofWords rule
  rw [joinPort_eq solid]
  cases joinLast (Text.words v) with
  | nil => rfl
  | cons first rest =>
      cases rest with
      | nil => rfl
      | cons second rest =>
          by_cases star : first = ['*']
          · subst star
            cases rest with
            | nil => rfl
            | cons third rest =>
                dsimp only [takeFirst]
                rw [starless_eq]
                rfl
          · have kept : (some first).filter (· ≠ ['*']) = some first := by
              rw [Option.filter_some, if_pos (decide_eq_true star)]
            have other : some first = some ['*'] → False := fun same => star (Option.some.inj same)
            cases rest with
            | nil =>
                dsimp only [takeFirst]
                rw [starless_eq, kept]
                split
                · contradiction
                · next same => exact (other same).elim
                · next same => cases same; rfl
            | cons third rest =>
                dsimp only [takeFirst]
                rw [starless_eq, kept]
                split
                · contradiction
                · next same => exact (other same).elim
                · next same => cases same; rfl

/-- What the words of a line say has a proxy, and no empty domain. -/
theorem given_of_words (given : words ≠ []) (solid : ∀ word ∈ words, word ≠ []) :
    (ofWords words).domain ≠ some [] ∧ (ofWords words).proxy ≠ [] := by
  have joined := joinLast_given solid
  have left := joinLast_ne_nil given
  unfold ofWords
  generalize joinLast words = words at joined left
  cases words with
  | nil => contradiction
  | cons first rest =>
      rw [List.forall_mem_cons] at joined
      cases rest with
      | nil => exact ⟨nofun, Text.unwords_ne_nil joined.1⟩
      | cons second rest =>
          rw [List.forall_mem_cons] at joined
          cases rest with
          | nil => exact ⟨nofun, Text.unwords_ne_nil joined.2.1⟩
          | cons third rest =>
              rw [List.forall_mem_cons] at joined
              refine ⟨fun empty => joined.2.1 (Option.some.inj empty), ?_⟩
              exact Text.unwords_ne_nil joined.2.2.1

theorem servesProtocol_iff {rule : Rule} : rule.servesProtocol protocol ↔
    ∀ names ∈ rule.protocols, names = [] ∨ protocol ∈ names := by
  unfold Rule.servesProtocol
  split
  · next none => simp [none]
  · next empty => simp [empty]
  · next names given same =>
      have given : names ≠ [] := given
      simp [same, given]

theorem servesUrl_iff {rule : Rule} : rule.servesUrl protocol url ↔
    rule.servesProtocol protocol ∧
      ∀ pattern ∈ rule.pattern, pattern = [] ∨ SitePattern.matchesUrl pattern url := by
  unfold Rule.servesUrl
  rw [Bool.and_eq_true]
  apply and_congr_right'
  split
  · next none => simp [none]
  · next empty => simp [empty]
  · next pattern given same =>
      have given : pattern ≠ [] := given
      simp [same, given]

/-- Empty names are left out, and it may be that none is left. -/
theorem protocolNames_eq_nil_iff (names : Text) :
    protocolNames names = [] ↔ ∀ name ∈ Text.split '|' names, name = [] := by
  unfold protocolNames
  rw [List.map_eq_nil_iff, List.filter_eq_nil_iff]
  simp

theorem mem_protocolNames (given : protocol ≠ []) (names : Text) :
    protocol ∈ protocolNames names ↔
      ∃ name ∈ Text.split '|' names, Text.lower name = protocol := by
  have named (name : Text) : Text.lower name = protocol → name ≠ [] := by
    rintro same rfl
    exact given same.symm
  unfold protocolNames
  rw [List.mem_map]
  constructor
  · intro found
    obtain ⟨name, among, same⟩ := found
    exact ⟨name, List.mem_of_mem_filter among, same⟩
  · intro found
    obtain ⟨name, among, same⟩ := found
    exact ⟨name, List.mem_filter.2 ⟨among, decide_eq_true (named name same)⟩, same⟩

/-- The rule of a route is about the URLs that the route is about. -/
theorem servesUrl_rule (line : Nat) (given : protocol ≠ []) (small : Text.lower protocol = protocol)
    (named : r.domain ≠ some []) :
    (r.rule line).servesUrl protocol url ↔ r.Applies protocol url := by
  unfold Applies
  rw [servesUrl_iff, servesProtocol_iff, small]
  have protocols : (r.rule line).protocols =
      (r.protocols.filter (· ≠ ['*'])).map protocolNames := rfl
  have pattern : (r.rule line).pattern = r.domain.filter (· ≠ ['*']) := rfl
  rw [protocols, pattern]
  apply and_congr
  · cases r.protocols with
    | none => simp
    | some names =>
        by_cases any : names = ['*']
        · simp [any, Option.filter_some]
        · simp [any, Option.filter_some, protocolNames_eq_nil_iff, mem_protocolNames given]
  · cases domain : r.domain with
    | none => simp
    | some t =>
        have named : t ≠ [] := fun empty => named (by rw [domain, empty])
        by_cases any : t = ['*']
        · simp [any, Option.filter_some]
        · simp [any, Option.filter_some, named]

theorem proxyOrDirect_rule (line : Nat) (given : r.proxy ≠ []) :
    (r.rule line).proxyOrDirect = r.answer := by
  have unfolded : (r.rule line).proxy =
      if Text.lower r.proxy = directConnection then none else some r.proxy := rfl
  unfold Rule.proxyOrDirect answer
  rw [unfolded]
  by_cases direct : Text.lower r.proxy = directConnection
  · rw [if_pos direct, if_pos direct]
  · rw [if_neg direct, if_neg direct]
    cases proxy : r.proxy with
    | nil => contradiction
    | cons => rfl

end Route

end Ebrc
