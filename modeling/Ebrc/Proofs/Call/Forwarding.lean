import Ebrc.Proofs.Call.Interrupt
import Ebrc.Proofs.Call.Termination
import Ebrc.Proofs.Invocation
import Ebrc.Proofs.Text.Ascii

/-!
# Words handed on

A function hands all its words on to another one with a single line. The words are joined, put into
the line, cut off its front again, stripped, and read once more, and none of this changes a word,
whatever is in it: tildes and digits that are put in are not looked at, and a word has no white
space for the reading to go by. So a function at the end of a chain, of any length, has the words of
the first one.
-/

namespace Ebrc

/-- The line that hands all words on to a function. -/
def handOn (name : Text) : Text := '<' :: (name ++ " ~0".toList)

namespace Command

theorem split_call (t : Text) : split ('<' :: t) = (['<'], Text.strip Text.isBlank t) := rfl

theorem ofLine?_call (t : Text) :
    ofLine? ('<' :: t) = some (.call (Text.strip Text.isBlank t)) := rfl

end Command

namespace Invocation

variable {inv callee : Invocation} {name t : Text} {names words : List Text}

/-- An invocation leads to another one through functions with these names, each of which is called
by a line that hands all words on. -/
inductive HandedOn : Invocation → List Text → Invocation → Prop where
  | refl (inv : Invocation) : HandedOn inv [] inv
  | step {inv callee : Invocation} {name command rest : Text} {names : List Text} :
      inv.fill (handOn name) = .ok command → Command.split command = (['<'], rest) →
      HandedOn (ofLine rest) names callee → HandedOn inv (name :: names) callee

/-! ## One function -/

theorem isFunctionName_iff : isFunctionName name ↔ name ≠ [] ∧ ∀ c ∈ name, c.isAlphanum := by
  simp [isFunctionName]

/-- Letters and digits are no white space. -/
theorem isBlank_of_isAlphanum {c : Char} (letter : c.isAlphanum) : Text.isBlank c = false := by
  cases blank : Text.isBlank c with
  | false => rfl
  | true =>
      obtain ⟨range, among, least, greatest⟩ := Text.exists_range_of_isBlank blank
      have apart : ∀ range ∈ Text.blankRanges, range.2 ≤ 32 ∨ 123 ≤ range.1 := by decide
      have above := apart range among
      have within := Text.toNat_of_isAlphanum letter
      omega

theorem isWord_of_isFunctionName (named : isFunctionName name) : Text.IsWord name := by
  obtain ⟨given, letters⟩ := isFunctionName_iff.1 named
  exact ⟨given, fun c among => isBlank_of_isAlphanum (letters c among)⟩

theorem isWord_of_mem_arguments (line : Text) : ∀ word ∈ (ofLine line).arguments, word.IsWord := by
  intro word among
  rw [ofLine_eq] at among
  exact Text.isWord_of_mem_words (List.mem_of_mem_tail among)

theorem plain_of_not_mem (absent : '~' ∉ t) : Plain t := by
  rintro before n after ⟨d, -, rfl⟩
  exact absent (by simp)

theorem fill_handOn (named : isFunctionName name) :
    inv.fill (handOn name) = .ok ('<' :: (name ++ ' ' :: Text.unwords inv.arguments)) := by
  have absent : '~' ∉ '<' :: (name ++ [' ']) := by
    have unnamed := mt ((isFunctionName_iff.1 named).2 '~') (by decide)
    simp [unnamed]
  have shape : handOn name = ('<' :: (name ++ [' '])) ++ '~' :: '0' :: [] := by
    simp [handOn]
  have zero : Text.decimalValue? '0' = some 0 := by decide
  rw [shape, fill_cut (plain_of_not_mem absent) zero]
  simp [slot?, fill, Except.map]

/-- A name and words joined behind it are an invocation, however it is stripped. -/
theorem ofLine_strip_append (named : isFunctionName name)
    (each : ∀ word ∈ words, Text.IsWord word) :
    ofLine (Text.strip Text.isBlank (name ++ ' ' :: Text.unwords words)) = ⟨name, words⟩ := by
  rw [ofLine_eq, Text.words_strip (fun _ blank => blank),
    Text.words_append_unwords (isWord_of_isFunctionName named) each]
  rfl

/-! ## Chains of functions -/

/-- Through a chain of functions the words stay what they are. -/
theorem handedOn_iff (each : ∀ word ∈ inv.arguments, word.IsWord)
    (named : ∀ name ∈ names, isFunctionName name) :
    HandedOn inv names callee ↔ callee = ⟨names.getLast?.getD inv.name, inv.arguments⟩ := by
  induction names generalizing inv with
  | nil =>
      constructor
      · intro handed
        cases handed
        rfl
      · rintro rfl
        exact .refl inv
  | cons name names ih =>
      rw [List.forall_mem_cons] at named
      have next := ofLine_strip_append named.1 each
      have later := @ih ⟨name, inv.arguments⟩ each named.2
      rw [List.getLast?_cons, Option.getD_some]
      constructor
      · intro handed
        cases handed with
        | step filled split handed =>
            rw [fill_handOn named.1] at filled
            cases filled
            rw [Command.split_call, Prod.mk.injEq] at split
            rw [← split.2, next] at handed
            exact later.1 handed
      · intro same
        refine .step (fill_handOn named.1) (Command.split_call _) ?_
        rw [next]
        exact later.2 same

theorem slots_congr {inv' : Invocation} (same : inv'.arguments = inv.arguments) :
    inv'.slots = inv.slots := by
  unfold slots
  have place : inv'.slot? = inv.slot? := by
    funext n
    cases n <;> simp only [slot?, same]
  rw [place]

end Invocation

/-! ## Calls -/

/-- The function waits for the one of this name, to which it hands all words on. -/
def Activation.HandsOnTo (a : Activation) (name : Text) : Prop :=
  a.task.code[a.machine.position]? = some (.literal (handOn name))

/-- The body of the function of this name, if there is one that can be run. -/
def RuleTable.code? (rules : RuleTable) (name : Text) : Option Program :=
  match rules.resolve name with
  | .found rule =>
    match rule.body with
    | some (.sealed code) => some code
    | _ => none
  | _ => none

theorem RuleTable.exists_rule_of_code {rules : RuleTable} {name : Text} {code : Program}
    (runs : rules.code? name = some code) :
    ∃ rule, rules.resolve name = .found rule ∧ rule.body = some (.sealed code) := by
  unfold code? at runs
  split at runs
  · rename_i rule found
    split at runs
    · rename_i sealed body
      cases runs
      exact ⟨rule, found, body⟩
    · contradiction
  · contradiction

/-- A function, and functions with these names behind it, each of which begins by handing all words
on to the next one. -/
inductive RuleTable.Chain (rules : RuleTable) : Text → List Text → Prop where
  | last {name : Text} {code : Program} : rules.code? name = some code → Chain rules name []
  | next {name next : Text} {names : List Text} {rest : Program} :
      rules.code? name = some (.literal (handOn next) :: rest) → Chain rules next names →
      Chain rules name (next :: names)

namespace CallContext

open RunState

variable {η : Type} {context : CallContext η} {depth : Nat} {line : Text} {s t : RunState η}
variable {a : Activation} {outer : List Activation} {name : Text} {names : List Text}

theorem invocation_of_task {task : Task} (runs : context.task? line = some task) :
    task.invocation = Invocation.ofLine line := by
  obtain ⟨rule, -, -, -, task_eq⟩ := exists_rule_of_task runs
  exact congrArg Task.invocation task_eq

theorem exists_task_of_code {code : Program}
    (runs : context.rules.code? (Invocation.ofLine line).name = some code) :
    ∃ task, context.task? line = some task ∧ task.code = code ∧
      task.invocation = Invocation.ofLine line := by
  obtain ⟨rule, found, body⟩ := RuleTable.exists_rule_of_code runs
  refine ⟨⟨code, rule.mindful, Invocation.ofLine line, context.repetitions⟩, ?_, rfl, rfl⟩
  unfold task?
  rw [found]
  dsimp only
  rw [body]

/-- The line that hands all words on to a function becomes a call of it with the same words. -/
theorem exists_call_of_handOn (named : isFunctionName name) (line : Text) :
    ∃ command invocation, (Invocation.ofLine line).fill (handOn name) = .ok command ∧
      Command.ofLine? command = some (.call invocation) ∧
      Invocation.ofLine invocation = ⟨name, (Invocation.ofLine line).arguments⟩ :=
  ⟨_, _, Invocation.fill_handOn named, Command.ofLine?_call _,
    Invocation.ofLine_strip_append named (Invocation.isWord_of_mem_arguments line)⟩

/-- At a moment of a call at which each waiting function hands all words on, all functions have the
words of the first one, each under its own name. -/
theorem Reaches.invocations (reaches : context.Reaches depth line s a outer t)
    (hands : List.Forall₂ Activation.HandsOnTo outer.reverse names)
    (named : ∀ name ∈ names, isFunctionName name) :
    (a :: outer).reverse.map (·.task.invocation) =
      ((Invocation.ofLine line).name :: names).map (⟨·, (Invocation.ofLine line).arguments⟩) := by
  induction reaches generalizing names with
  | here runs _ _ =>
      cases hands
      have ofLine := invocation_of_task runs
      simp [ofLine]
  | @inside depth n line command invocation s t u task m a outer runs _ _ _ _ step calls _ ih =>
      have ofLine := invocation_of_task runs
      rw [List.reverse_concat] at hands
      cases hands with
      | @cons _ name _ names hand hands =>
          rw [List.forall_mem_cons] at named
          obtain ⟨command', invocation', filled, called, invoked⟩ :=
            exists_call_of_handOn named.1 line
          have literal : task.code[m.position]? = some (.literal (handOn name)) := hand
          simp only [Machine.step, literal, ofLine, filled, Step.command.injEq] at step
          rw [← step, called] at calls
          cases calls
          have inside := ih hands named.2
          rw [invoked] at inside
          rw [← List.cons_append, List.reverse_concat, List.map_cons, inside, ofLine]
          rfl

/-- Where functions form a chain, a call of the first one comes to the last one, if it may go as
deep. -/
theorem exists_reaches_of_chain (chain : context.rules.Chain (Invocation.ofLine line).name names)
    (named : ∀ name ∈ names, isFunctionName name) (deep : names.length < depth)
    (patient : 1 < context.patience) (down : s.interrupted = false) :
    ∃ a outer t, context.Reaches depth line s a outer t ∧
      List.Forall₂ Activation.HandsOnTo outer.reverse names := by
  induction names generalizing line depth s with
  | nil =>
      obtain ⟨depth, rfl⟩ : ∃ less, depth = less + 1 := Nat.exists_eq_succ_of_ne_zero (by omega)
      cases chain with
      | last code =>
          obtain ⟨task, runs, -⟩ := exists_task_of_code code
          exact ⟨_, [], _, .here runs (Nat.zero_lt_of_lt patient) (.refl _ _), .nil⟩
  | cons next names ih =>
      rw [List.length_cons] at deep
      rw [List.forall_mem_cons] at named
      obtain ⟨depth, rfl⟩ : ∃ less, depth = less + 1 := Nat.exists_eq_succ_of_ne_zero (by omega)
      cases chain with
      | @next _ _ _ rest code chain =>
          obtain ⟨task, runs, ofCode, ofLine⟩ := exists_task_of_code code
          obtain ⟨command, invocation, filled, calls, invoked⟩ := exists_call_of_handOn named.1 line
          have literal : task.code[0]? = some (.literal (handOn next)) := by rw [ofCode]; rfl
          have step : Machine.step task {} = .command command := by
            simp only [Machine.step, literal, ofLine, filled]
          have inside : 0 < task.code.length := by
            rw [ofCode]
            exact Nat.succ_pos _
          have down' : (tellExtra (Invocation.ofLine line) s).interrupted = false := by
            obtain ⟨events, extra, -⟩ := exists_tellExtra (Invocation.ofLine line) s
            rw [extra.interrupted, down]
          have chain' : context.rules.Chain (Invocation.ofLine invocation).name names := by
            rwa [invoked]
          obtain ⟨a, outer, t, reaches, hands⟩ := ih chain' named.2 (Nat.lt_of_succ_lt_succ deep)
            (s := RunState.tell _ _) down'
          refine ⟨a, outer ++ [_], t,
            .inside runs patient (.refl _ _) inside down' step calls reaches, ?_⟩
          rw [List.reverse_concat]
          exact .cons literal hands

/-- Words that functions hand on are kept, through any number of functions. The line that hands them
on to the next one always is a call, and what it calls has the name of that function and all slots
as they were. So at each moment of a call at which all waiting functions hand their words on, each
of the functions has the words of the first one. There is such a moment with the last function of a
chain being run, if calls may lie as deep as the chain is long. -/
theorem words_are_kept (line : Text) (names : List Text)
    (named : ∀ name ∈ names, isFunctionName name) :
    (∃ callee, (∀ inv, (Invocation.ofLine line).HandedOn names inv ↔ inv = callee) ∧
        callee.name = names.getLast?.getD (Invocation.ofLine line).name ∧
        callee.arguments = (Invocation.ofLine line).arguments ∧
        callee.slots = (Invocation.ofLine line).slots) ∧
      ∀ {η : Type} (context : CallContext η) depth s,
        (∀ a outer t, context.Reaches depth line s a outer t →
          List.Forall₂ Activation.HandsOnTo outer.reverse names →
            (a :: outer).reverse.map (·.task.invocation) =
              ((Invocation.ofLine line).name :: names).map
                (⟨·, (Invocation.ofLine line).arguments⟩)) ∧
          (context.rules.Chain (Invocation.ofLine line).name names → names.length < depth →
            1 < context.patience → s.interrupted = false →
              ∃ a outer t, context.Reaches depth line s a outer t ∧
                List.Forall₂ Activation.HandsOnTo outer.reverse names) := by
  refine ⟨⟨_, fun inv => Invocation.handedOn_iff (Invocation.isWord_of_mem_arguments line) named,
    rfl, rfl, Invocation.slots_congr rfl⟩, fun context depth s => ⟨?_, ?_⟩⟩
  · intro a outer t reaches hands
    exact reaches.invocations hands named
  · intro chain deep patient down
    exact exists_reaches_of_chain chain named deep patient down

end CallContext

namespace Session

open CallContext

/-- Three functions, each of which hands its words on to the next one. -/
def handingOn : Text :=
  ("function:f\x7b\n<g ~0\nb\n\x7d\nfunction:g\x7b\n<h ~0\n\x7d\n" ++
    "function:h\x7b\nb ~1~0\n\x7d\n").toList

/-- What comes of a load of them. -/
def loadHandingOn : LoadResult := (Loaded.fresh []).loadText ⟨{}, {}⟩ handingOn [] {} #[]

/-- Words that look like references and commands, and more of them than have numbers. -/
def manyWords : Text := "f ~1  <b\t3 4 5 6 7 8 9 ten ~".toList

theorem words_are_kept_twice :
    let session := withLoaded loadHandingOn.loaded
    let first := Invocation.ofLine manyWords
    let names := [['g'], ['h']]
    (∀ name ∈ names, isFunctionName name) ∧
      (∃ callee, (∀ inv, first.HandedOn names inv ↔ inv = callee) ∧ callee.slots = first.slots) ∧
      session.context.rules.Chain ['f'] names ∧ session.runState.interrupted = false ∧
      ∃ a outer t, session.context.Reaches 3 manyWords session.runState a outer t ∧
        (a :: outer).reverse.map (·.task.invocation) =
          [⟨['f'], first.arguments⟩, ⟨['g'], first.arguments⟩, ⟨['h'], first.arguments⟩] := by
  intro session first names
  have named : ∀ name ∈ names, isFunctionName name := by decide
  obtain ⟨⟨callee, only, -, -, slots⟩, calls⟩ := words_are_kept manyWords names named
  obtain ⟨moments, reached⟩ := calls session.context 3 session.runState
  have chain : session.context.rules.Chain ['f'] names := by
    have codes : session.context.rules.code? ['f'] =
          some [.literal (handOn ['g']), .literal ['b']] ∧
        session.context.rules.code? ['g'] = some [.literal (handOn ['h'])] ∧
        session.context.rules.code? ['h'] = some [.literal "b ~1~0".toList] := by
      decide +kernel
    exact .next codes.1 (.next codes.2.1 (.last codes.2.2))
  obtain ⟨a, outer, t, reaches, hands⟩ :=
    reached chain (by decide) (show 1 < Nat.pow 10 15 by decide) rfl
  exact ⟨named, ⟨callee, only, slots⟩, chain, rfl, a, outer, t, reaches,
    moments a outer t reaches hands⟩

end Session

end Ebrc
