import Ebrc.MailRules
import Ebrc.Proofs.Load.Trail
import Ebrc.Proofs.Program.Nesting

/-!
# The functions of a load

The rule of a function is added when its header is read, its lines are collected from then on, and
its closing line makes them its body. No other rule is added in between, so the rule whose body is
missing is always the last one. The lines are such that every closing line and every else stands in
a block, and so the body is nested, provided that the lines are proper.
-/

namespace Ebrc

/-- The function that a line stands in, and the letters of the blocks inside it. -/
def OpenBlock.function? : OpenBlock → Option (OpenFunction × List (Option Char))
  | .function (some f) inner => some (f, inner)
  | _ => Option.none

/-- A block of mail rules has a kind of them. -/
def OpenBlock.Filters (block : OpenBlock) : Prop :=
  ∀ kind, block = .filter kind → kind ∈ RuleTable.filterKinds

theorem OpenBlock.Filters.kind_ne_function {block : OpenBlock} {kind : RuleKind}
    (filters : block.Filters) (same : block = .filter kind) : kind ≠ .function := by
  rintro rfl
  exact absurd (filters _ same) (by decide)

theorem Rule.Fits.kind_ne_function {agents : List Text} {rule : Rule} (fits : rule.Fits agents) :
    rule.kind ≠ .function := by
  intro function
  have kind := fits.kind
  rw [function] at kind
  exact absurd kind (by decide)

/-- Lines that are kept one after the other, the last one first, and the blocks that they leave
open. Every line fits in some way. -/
inductive Line.Collected (limits : Limits) (Fit : Line → Prop) :
    List Line → List (Option Char) → Prop where
  | nil : Collected limits Fit [] []
  | cons {line : Line} {lines : List Line} {inner inner' : List (Option Char)} (fit : Fit line)
      (kept : Line.Kept limits line inner inner') (earlier : Collected limits Fit lines inner) :
      Collected limits Fit (line :: lines) inner'

/-- A rule that is no function, or that of a function with a name and with a body made of lines that
were collected up to its closing line. -/
def Rule.Whole (limits : Limits) (Fit : Line → Prop) (rule : Rule) : Prop :=
  rule.kind = .function → ∃ name lines code, rule.pattern = some name ∧
    Line.Collected limits Fit lines [] ∧ Program.ofLines lines.reverse = .ok code ∧
    rule.body = some (.sealed code)

/-! ## Nested bodies -/

section Nested

variable {limits : Limits} {line : Line} {inner inner' : List (Option Char)}

/-- A proper line that is kept is decoded into an instruction of the same nesting. -/
theorem Line.Kept.nest? {i : Instruction} (kept : Line.Kept limits line inner inner')
    (proper : Line.Proper line) (decoded : Instruction.decode line = .ok i) :
    i.nest? inner.length = some inner'.length := by
  cases kept with
  | text notOpening notClosing notBetween =>
      have literal : i = .literal line := by
        cases line with
        | nil =>
            cases decoded
            rfl
        | cons c rest =>
            have notOpen : c ≠ Line.openMark := fun same => notOpening (by rw [same]; rfl)
            have notClose : c ≠ Line.closeMark :=
              fun same => notClosing (proper.closing (by rw [same]; rfl))
            have notElse : c ≠ Line.elseMark :=
              fun same => notBetween (proper.between (by rw [same]; rfl))
            simp only [Instruction.decode, if_neg notClose, if_neg notElse, if_neg notOpen,
              Except.ok.injEq] at decoded
            exact decoded.symm
      rw [literal]
      rfl
  | opens opening letter room =>
      cases line with
      | nil => contradiction
      | cons c rest =>
          cases opening
          have read : (Block.ofLetter rest.head? rest.tail).map Instruction.opening = .ok i :=
            decoded
          obtain ⟨block, -, rfl⟩ := exists_of_map_eq_ok read
          rfl
  | closes closing =>
      rw [closing] at decoded
      cases decoded
      rfl
  | divides between admits =>
      rw [between] at decoded
      cases decoded
      rfl

/-- The lines collected so far are decoded into a program that leaves the same number of blocks
open. -/
theorem Line.Collected.nest? {lines : List Line} {code : Program}
    (collected : Line.Collected limits Line.Proper lines inner)
    (decoded : Program.ofLines lines.reverse = .ok code) : code.nest? 0 = some inner.length := by
  induction collected generalizing code with
  | nil =>
      cases decoded
      rfl
  | cons proper kept earlier ih =>
      rw [List.reverse_cons, Program.ofLines, List.mapM_append] at decoded
      obtain ⟨first, before, decoded⟩ := exists_of_bind_eq_ok decoded
      obtain ⟨last, single, decoded⟩ := exists_of_bind_eq_ok decoded
      cases decoded
      rw [List.mapM_cons] at single
      obtain ⟨i, here, single⟩ := exists_of_bind_eq_ok single
      cases single
      rw [Program.nest?_append, ih before, Option.bind_some, Program.nest?_cons,
        kept.nest? proper here]
      rfl

/-- The body of a function of proper lines is nested. -/
theorem Rule.Whole.nested {rule : Rule} (whole : rule.Whole limits Line.Proper)
    (function : rule.kind = .function) :
    ∃ name code, rule.pattern = some name ∧ rule.body = some (.sealed code) ∧ code.Nested := by
  obtain ⟨name, lines, code, named, collected, decoded, body⟩ := whole function
  exact ⟨name, code, named, body, collected.nest? decoded⟩

end Nested

/-! ## What a line does to the rules -/

/-- What a line that is no include does to the rules and to the function that it stands in. -/
inductive Lays (around : Surroundings) (here : Position) (line : Line) (p p' : Progress) :
    Prop where
  | nothing (rules : p'.loaded.rules = p.loaded.rules)
      (function : p'.block.function? = p.block.function?)
  | global {rule : Rule} (outside : p.block = .none) (same : p'.block = p.block)
      (rules : p'.loaded.rules = p.loaded.rules ++ [rule]) (fits : rule.Fits p.loaded.agents)
  | filter {rule : Rule} (block : p.block = .filter rule.kind) (same : p'.block = p.block)
      (rules : p'.loaded.rules = p.loaded.rules ++ [rule])
  | header {rule : Rule} {f : OpenFunction} (outside : p.block = .none)
      (block : p'.block = .function (some f) [])
      (rules : p'.loaded.rules = p.loaded.rules ++ [rule])
      (kind : rule.kind = .function) (named : rule.pattern = some f.name) (empty : f.body = [])
  | body {f : OpenFunction} {inner inner' : List (Option Char)}
      (before : p.block = .function (some f) inner)
      (kept : Line.Kept around.limits line inner inner')
      (block : p'.block = .function (some { f with body := line :: f.body }) inner')
      (rules : p'.loaded.rules = p.loaded.rules)
  | closing {f : OpenFunction} {code : Program} (before : p.block = .function (some f) [])
      (decoded : Program.ofLines f.body.reverse = .ok code) (block : p'.block = .none)
      (rules : p'.loaded.rules =
        p.loaded.rules.modifyLast fun rule => { rule with body := some (.sealed code) })

variable {around : Surroundings} {here : Position} {line : Line} {p p' : Progress}

theorem Reading.lays (reading : Reading around here line p p') :
    Lays around here line p p' := by
  cases reading with
  | void => exact .nothing rfl rfl
  | aside _ _ aside => exact .nothing aside.loaded.rules (by rw [aside.block])
  | imapFetch | cacheSize | agent | standard => exact .nothing rfl rfl
  | rule _ outside fits _ => exact .global outside rfl rfl fits
  | filterRule block => exact .filter block rfl rfl
  | setAccount _ block | flagAccount block | closeAccount block | setPlugin _ block
  | flagPlugin block | closePlugin block | setTable _ block | closeTable block
  | closeFilter block => exact .nothing rfl (by rw [block]; rfl)
  | start outside _ starts =>
      refine .nothing rfl ?_
      rw [outside]
      generalize line.tail.head? = letter at starts
      cases starts <;> rfl
  | startFunction outside => exact .header outside rfl rfl rfl rfl rfl
  | @keep function inner inner' block kept =>
      cases function with
      | none => exact .nothing rfl (by rw [block]; rfl)
      | some f => exact .body block kept rfl rfl
  | closeFunction block _ decoded => exact .closing block decoded rfl rfl

/-- A line leaves a block of mail rules a block of mail rules. -/
theorem Reading.filters (reading : Reading around here line p p') (before : p.block.Filters) :
    p'.block.Filters := by
  have stays (same : p'.block = p.block) : p'.block.Filters := by rwa [same]
  cases reading with
  | void => exact before
  | aside _ _ aside => exact stays aside.block
  | imapFetch | cacheSize | agent | rule | filterRule | standard => exact stays rfl
  | start outside opening starts =>
      rintro kind rfl
      generalize line.tail.head? = letter at starts
      cases starts <;> decide
  | _ =>
      intro kind same
      contradiction

/-! ## Functions along a load -/

namespace Progress

/-- Every function is whole but the one that the next line stands in. That one has the last rule. -/
def Whole (limits : Limits) (Fit : Line → Prop) (p : Progress) : Prop :=
  match p.block with
  | .function (some f) inner => ∃ rules rule, p.loaded.rules = rules ++ [rule] ∧
      (∀ rule ∈ rules, rule.Whole limits Fit) ∧ rule.pattern = some f.name ∧
      Line.Collected limits Fit f.body inner
  | _ => ∀ rule ∈ p.loaded.rules, rule.Whole limits Fit

variable {Fit : Line → Prop} {limits : Limits}

theorem whole_inside {f : OpenFunction} {inner : List (Option Char)}
    (block : p.block = .function (some f) inner) :
    p.Whole limits Fit ↔ ∃ rules rule, p.loaded.rules = rules ++ [rule] ∧
      (∀ rule ∈ rules, rule.Whole limits Fit) ∧ rule.pattern = some f.name ∧
      Line.Collected limits Fit f.body inner := by
  simp only [Whole, block]

theorem whole_outside (outside : p.block.function? = none) :
    p.Whole limits Fit ↔ ∀ rule ∈ p.loaded.rules, rule.Whole limits Fit := by
  unfold Whole
  cases block : p.block with
  | function function inner =>
      cases function with
      | none => rfl
      | some f =>
          rw [block] at outside
          contradiction
  | _ => rfl

theorem whole_congr (rules : p'.loaded.rules = p.loaded.rules)
    (function : p'.block.function? = p.block.function?) :
    p'.Whole limits Fit ↔ p.Whole limits Fit := by
  cases outside : p.block.function? with
  | none => rw [whole_outside outside, whole_outside (function.trans outside), rules]
  | some inside =>
      obtain ⟨f, inner⟩ := inside
      have block {p : Progress} (inside : p.block.function? = some (f, inner)) :
          p.block = .function (some f) inner := by
        unfold OpenBlock.function? at inside
        split at inside
        · rename_i here
          cases inside
          exact here
        · contradiction
      rw [whole_inside (block outside), whole_inside (block (function.trans outside)), rules]

/-- A rule that is no function leaves functions whole. -/
theorem whole_of_rule {rule : Rule} (outside : p.block.function? = none)
    (same : p'.block = p.block) (rules : p'.loaded.rules = p.loaded.rules ++ [rule])
    (other : rule.kind ≠ .function) (whole : p.Whole limits Fit) : p'.Whole limits Fit := by
  rw [whole_outside outside] at whole
  rw [whole_outside (by rw [same, outside]), rules]
  intro rule' among
  rcases List.mem_append.1 among with before | last
  · exact whole rule' before
  · rw [List.mem_singleton.1 last]
    exact fun function => absurd function other

/-- A line leaves functions whole. -/
theorem whole_of_lays (lays : Lays around here line p p') (fit : Fit line)
    (filters : p.block.Filters) (whole : p.Whole around.limits Fit) :
    p'.Whole around.limits Fit := by
  cases lays with
  | nothing rules function => exact (whole_congr rules function).2 whole
  | global outside same rules fits =>
      exact whole_of_rule (by rw [outside]; rfl) same rules fits.kind_ne_function whole
  | filter block same rules =>
      exact whole_of_rule (by rw [block]; rfl) same rules (filters.kind_ne_function block) whole
  | @header rule f outside block rules kind named empty =>
      rw [whole_outside (by rw [outside]; rfl)] at whole
      refine (whole_inside block).2 ⟨p.loaded.rules, rule, rules, whole, named, ?_⟩
      rw [empty]
      exact .nil
  | @body f inner inner' before kept block rules =>
      obtain ⟨others, rule, last, othersWhole, named, collected⟩ := (whole_inside before).1 whole
      refine (whole_inside block).2 ⟨others, rule, rules.trans last, othersWhole, named, ?_⟩
      exact .cons fit kept collected
  | @closing f code before decoded block rules =>
      obtain ⟨others, rule, last, othersWhole, named, collected⟩ := (whole_inside before).1 whole
      rw [last, RuleTable.modifyLast_append_singleton] at rules
      rw [whole_outside (by rw [block]; rfl), rules]
      intro rule' among
      rcases List.mem_append.1 among with before | closed
      · exact othersWhole rule' before
      · rw [List.mem_singleton.1 closed]
        exact fun _ => ⟨f.name, f.body, code, named, collected, decoded, rfl⟩

/-- A load stands in a block of mail rules only where they are of a kind of mail rules. -/
theorem Reads.filters {sights : List Sight} (reads : Reads around p sights p')
    (filters : p.block.Filters) : p'.block.Filters := by
  induction reads with
  | nil => exact filters
  | line other read later ih => exact ih ((reading_of_readLine other read).filters filters)
  | passed included later ih => exact ih filters
  | opened included read encoded later ih => exact ih filters

/-- A load leaves functions whole, all of whose lines fit. -/
theorem Reads.whole {sights : List Sight} (reads : Reads around p sights p')
    (fit : ∀ here line, .line here line ∈ sights → Fit line) (filters : p.block.Filters)
    (whole : p.Whole around.limits Fit) : p'.Whole around.limits Fit := by
  induction reads with
  | nil => exact whole
  | line other read later ih =>
      have reading := reading_of_readLine other read
      refine ih (fun here line among => fit here line (List.mem_cons_of_mem _ among))
        (reading.filters filters) ?_
      exact whole_of_lays reading.lays (fit _ _ (List.mem_cons_self ..)) filters whole
  | passed included later ih =>
      refine ih (fun here line among => fit here line (List.mem_cons_of_mem _ among)) filters ?_
      exact (whole_congr rfl rfl).2 whole
  | opened included read encoded later ih =>
      refine ih (fun here line among => ?_) filters ((whole_congr rfl rfl).2 whole)
      exact fit here line (List.mem_cons_of_mem _ (List.mem_cons_of_mem _ among))

end Progress

namespace Loaded

variable {text file : Text} {before : Loaded} {files : FileSystem} {log : EventLog}

/-- The end of a load leaves the rules as they are. -/
theorem rules_of_finish (finished : p.finish file = .ok p') :
    p'.loaded.rules = p.loaded.rules := by
  rw [(Progress.finish_eq_ok finished).2]
  split <;> rfl

/-- The functions of a load that succeeds are whole. -/
theorem whole_of_loadText {Fit : Line → Prop}
    (succeeded : (before.loadText around text file files log).fault = none)
    (fit : ∀ here line, .line here line ∈ before.trail around text file files log → Fit line) :
    ∀ rule ∈ (before.loadText around text file files log).loaded.rules,
      rule.Whole around.limits Fit := by
  obtain ⟨sights, p, p', trail, reads, outside, finished, loaded⟩ := reads_of_loadText succeeded
  rw [trail] at fit
  have whole : p.Whole around.limits Fit := by
    refine reads.whole (fun here line among => fit here line (List.mem_cons_of_mem _ among)) ?_ ?_
    · intro kind impossible
      contradiction
    · intro rule among
      contradiction
  have last : p.block.function? = none := by
    cases block : p.block with
    | function function inner =>
        cases function with
        | none => rfl
        | some f => exact absurd block (outside f inner)
    | _ => rfl
  rw [loaded, rules_of_finish finished]
  exact (Progress.whole_outside last).1 whole

/-- The functions of a load that succeeds have names and nested bodies, if no text that it opens
holds marks. -/
theorem functions_of_loadText
    (succeeded : (before.loadText around text file files log).fault = none)
    (unmarked : ∀ there opened, .opened there opened ∈ before.trail around text file files log →
      Text.Unmarked opened) :
    ∀ rule ∈ (before.loadText around text file files log).loaded.rules, rule.kind = .function →
      ∃ name code, rule.pattern = some name ∧ rule.body = some (.sealed code) ∧ code.Nested := by
  intro rule among function
  refine (whole_of_loadText succeeded ?_ rule among).nested function
  intro here line seen
  obtain ⟨there, opened, lines, inTrail, encoded, lineAmong⟩ := readFrom_of_mem_trail seen
  have clean := unmarked there opened inTrail
  exact (Encoding.encoded_of_mem_lines clean encoded line lineAmong).proper

end Loaded

end Ebrc
