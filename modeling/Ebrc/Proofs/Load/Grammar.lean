import Ebrc.Proofs.Load.Failure
import Ebrc.Proofs.Load.Includes

/-!
# The grammar of functions

A file of functions is a row of blank lines, comments and functions. The body of a function is a
tree of blocks in which a line between two branches stands in an if block only, and which is not too
deep. The loader does not know of this tree: it has a stack of letters and looks at one line at a
time. It accepts what the grammar has, and nothing else.
-/

namespace Ebrc

/-! ## The grammar -/

namespace Line

/-- The opening line of a block inside a function, and the letter of the block. -/
inductive Opens : Char → Line → Prop where
  | test {letter : Char} (test : letter ∈ BlockLetter.tests) : Opens letter (opening letter)
  | loop {digits : Text} (given : digits ≠ []) (decimal : ∀ c ∈ digits, Text.isDecimal c)
      (short : digits.length ≤ Encoding.phraseLength) :
      Opens BlockLetter.loop (opening BlockLetter.loop digits)

/-- A line of the kinds that functions are made of: text without an equals sign, or a header that
stands in a function or starts one. -/
inductive OfFunctions : Line → Prop where
  | text {line : Line} (plain : isControl line = false) (unassigned : '=' ∉ line) :
      OfFunctions line
  | close : OfFunctions close
  | between : OfFunctions between
  | opens {letter : Char} {line : Line} (opens : Opens letter line) : OfFunctions line
  | function {mark : Char} {name : Text} (marked : mark = mindfulMark ∨ mark = plainMark)
      (named : name ≠ []) (letters : ∀ c ∈ name, c.isAlphanum) :
      OfFunctions (opening BlockLetter.function (mark :: name))

/-- May a block of this letter have a second branch? -/
def isBranch (letter : Char) : Bool := letter = BlockLetter.ifOk || letter = BlockLetter.ifFailed

/-- Lines inside a function. So many blocks are open around them, the function being one, and the
innermost one may have a second branch or not. -/
inductive Body (nesting : Nat) : Nat → Bool → List Line → Prop where
  | nil {depth : Nat} {branch : Bool} : Body nesting depth branch []
  | text {depth : Nat} {branch : Bool} {line : Line} {rest : List Line}
      (plain : isControl line = false) (later : Body nesting depth branch rest) :
      Body nesting depth branch (line :: rest)
  | between {depth : Nat} {rest : List Line} (later : Body nesting depth true rest) :
      Body nesting depth true (between :: rest)
  | block {depth : Nat} {branch : Bool} {letter : Char} {opener : Line} {inner rest : List Line}
      (opens : Opens letter opener) (room : depth + 1 < nesting)
      (inside : Body nesting (depth + 1) (isBranch letter) inner)
      (later : Body nesting depth branch rest) :
      Body nesting depth branch (opener :: (inner ++ close :: rest))

/-- What the first line of a function says, and its number. -/
structure FunctionHeader where
  name : Text
  mindful : Bool
  number : Nat
  deriving Repr, DecidableEq

/-- Blank lines, comments and functions, of which the first line has this number. A function is a
block itself. -/
inductive Functions (nesting : Nat) : Nat → List Line → List FunctionHeader → Prop where
  | nil {number : Nat} : Functions nesting number [] []
  | void {number : Nat} {line : Line} {rest : List Line} {headers : List FunctionHeader}
      (void : isVoid line) (later : Functions nesting (number + 1) rest headers) :
      Functions nesting number (line :: rest) headers
  | function {number : Nat} {mark : Char} {name : Text} {body rest : List Line}
      {headers : List FunctionHeader} (room : 1 < nesting) (inside : Body nesting 1 false body)
      (later : Functions nesting (number + (body.length + 2)) rest headers) :
      Functions nesting number
        (opening BlockLetter.function (mark :: name) :: (body ++ close :: rest))
        (⟨name, mark = mindfulMark, number⟩ :: headers)

end Line

/-- The rule is that of a function with this header. -/
structure Rule.Declares (rule : Rule) (header : Line.FunctionHeader) : Prop where
  kind : rule.kind = .function
  named : rule.pattern = some header.name
  mindful : rule.mindful = header.mindful
  line : rule.line = header.number

/-! ## Lines of functions -/

namespace Line

variable {line : Line} {letter : Char}

theorem Opens.header (opens : Opens letter line) : line.Header := by
  cases opens with
  | test test => exact .test test
  | loop given decimal short => exact .loop given decimal short

theorem Opens.opening (opens : Opens letter line) :
    line.head? = some openMark ∧ line.tail.head? = some letter := by
  cases opens <;> exact ⟨rfl, rfl⟩

/-- The letter of a block inside a function is none of a block that stands on its own. -/
theorem Opens.inner (opens : Opens letter line) :
    Progress.isTopLevel (some letter) = false ∧
      Progress.admitsElse (some letter) = isBranch letter := by
  cases opens with
  | test test =>
      simp only [BlockLetter.tests, List.mem_cons, List.not_mem_nil, or_false] at test
      rcases test with rfl | rfl | rfl | rfl | rfl | rfl <;> decide
  | loop => decide

theorem OfFunctions.encoded (ofFunctions : line.OfFunctions) : line.Encoded := by
  cases ofFunctions with
  | text plain => exact .inl plain
  | close => exact .inr .close
  | between => exact .inr .between
  | opens opens => exact .inr opens.header
  | function marked named letters => exact .inr (.function marked named letters)

theorem Header.unassigned (header : line.Header) : '=' ∉ line := by
  cases header with
  | close => decide
  | between => decide
  | record among | test among =>
      simp only [BlockLetter.records, BlockLetter.tests, List.mem_cons, List.not_mem_nil,
        or_false] at among
      rcases among with rfl | rfl | rfl | rfl | rfl | rfl <;> decide
  | loop _ decimal =>
      intro among
      simp only [Line.opening, List.mem_cons] at among
      rcases among with impossible | impossible | among
      · exact absurd impossible (by decide)
      · exact absurd impossible (by decide)
      · exact absurd (decimal _ among) (by decide)
  | function marked _ letters =>
      intro among
      simp only [Line.opening, List.mem_cons] at among
      rcases among with impossible | impossible | rfl | among
      · exact absurd impossible (by decide)
      · exact absurd impossible (by decide)
      · exact absurd marked (by decide)
      · exact absurd (letters _ among) (by decide)

theorem OfFunctions.unassigned (ofFunctions : line.OfFunctions) : '=' ∉ line := by
  cases ofFunctions with
  | text _ unassigned => exact unassigned
  | close => exact Header.close.unassigned
  | between => exact Header.between.unassigned
  | opens opens => exact opens.header.unassigned
  | function marked named letters => exact (Header.function marked named letters).unassigned

theorem splitAssignment?_of_unassigned (unassigned : '=' ∉ line) :
    splitAssignment? line = none := by
  have whole : (Text.cut '=' line).2 = none := by
    cases cut : (Text.cut '=' line).2 with
    | none => rfl
    | some after =>
        have joined := Text.append_cut '=' line
        rw [cut] at joined
        exact absurd (joined ▸ by simp) unassigned
  unfold splitAssignment?
  split
  · rfl
  · rename_i before after cut
    rw [cut] at whole
    contradiction

end Line

namespace Progress

variable {around : Surroundings} {here : Position} {line : Line} {p p' : Progress}
variable {includeFile : Position → Text → Progress → Except Stop Progress}

theorem include?_of_unassigned (unassigned : '=' ∉ line) : p.include? line = none := by
  unfold include?
  rw [Line.splitAssignment?_of_unassigned unassigned]
  split <;> trivial

/-- A line inside a function that is no assignment becomes part of the body, if it may. -/
theorem readLine_of_kept {function : Option OpenFunction} {inner inner' : List (Option Char)}
    (block : p.block = .function function inner) (unassigned : '=' ∉ line)
    (spoken : ¬Line.isVoid line) (kept : Line.Kept around.limits line inner inner') :
    p.readLine around includeFile here line = .ok (p.keepLine line function inner') := by
  have plain : p.readLine around includeFile here line =
      p.takePlain around.limits here line := by
    unfold readLine
    rw [if_neg spoken, Line.splitAssignment?_of_unassigned unassigned, takeLine_eq, block]
  rw [plain]
  cases kept with
  | text notOpening notClosing notBetween =>
      simp only [takePlain, if_neg notClosing, if_neg notBetween, if_pos notOpening, block]
  | opens opening letter room =>
      have notClosing : line ≠ Line.close := by
        rintro rfl
        exact absurd opening (by decide)
      have notBetween : line ≠ Line.between := by
        rintro rfl
        exact absurd opening (by decide)
      simp only [takePlain, if_neg notClosing, if_neg notBetween, opening, ne_eq,
        not_true_eq_false, if_false, openBlock, block, letter, Bool.false_eq_true,
        if_neg (Nat.not_le_of_lt room)]
  | closes closing => simp only [takePlain, if_pos closing, closeBlock, block]
  | divides between admits =>
      have notClosing : line ≠ Line.close := by
        rintro rfl
        exact absurd between (by decide)
      simp only [takePlain, if_neg notClosing, if_pos between, block, admits, if_true]

end Progress

/-! ## What the grammar has is accepted -/

/-- The function with these lines behind those that were collected before. -/
def OpenFunction.collect (lines : List Line) (f : OpenFunction) : OpenFunction :=
  { f with body := (lines.filter fun line => !Line.isVoid line).reverse ++ f.body }

theorem OpenFunction.collect_void {line : Line} {lines : List Line} {f : OpenFunction}
    (void : Line.isVoid line) : f.collect (line :: lines) = f.collect lines := by
  simp [collect, void]

theorem OpenFunction.collect_spoken {line : Line} {lines : List Line} {f : OpenFunction}
    (spoken : ¬Line.isVoid line) :
    f.collect (line :: lines) = { f with body := line :: f.body }.collect lines := by
  simp [collect, spoken]

theorem OpenFunction.collect_append {first second : List Line} {f : OpenFunction} :
    f.collect (first ++ second) = (f.collect first).collect second := by
  simp [collect]

/-- May the innermost block have a second branch? -/
def Line.inBranch : List (Option Char) → Bool
  | [] => false
  | letter :: _ => Progress.admitsElse letter

namespace Progress

variable {around : Surroundings} {p p' : Progress} {file : Text} {number : Nat}
variable {includeFile : Position → Text → Progress → Except Stop Progress}
variable {inner : List (Option Char)} {f : OpenFunction}

/-- The load stands in a function. -/
def inside (f : OpenFunction) (inner : List (Option Char)) (p : Progress) : Progress :=
  { p with block := .function (some f) inner }

/-- A line that is kept is collected, and the next ones are read behind it. -/
theorem readLines_of_kept {line : Line} {rest : List Line} {inner' : List (Option Char)}
    (unassigned : '=' ∉ line) (spoken : ¬Line.isVoid line)
    (kept : Line.Kept around.limits line inner inner') :
    readLines around includeFile file number (line :: rest) (p.inside f inner) =
      readLines around includeFile file (number + 1) rest
        (p.inside { f with body := line :: f.body } inner') := by
  rw [readLines, readLine_of_kept (p := p.inside f inner) rfl unassigned spoken kept]
  rfl

/-- The lines of a body are collected. -/
theorem readLines_of_body {depth : Nat} {branch : Bool} {lines : List Line}
    (body : Line.Body around.limits.nesting depth branch lines)
    (ofFunctions : ∀ line ∈ lines, line.OfFunctions) (deep : depth = inner.length + 1)
    (inBranch : branch = Line.inBranch inner) :
    readLines around includeFile file number lines (p.inside f inner) =
      .ok (p.inside (f.collect lines) inner) := by
  induction body generalizing inner f number with
  | nil => rfl
  | @text _ _ line rest plain later ih =>
      have unassigned := (ofFunctions line (List.mem_cons_self ..)).unassigned
      have others : ∀ line ∈ rest, line.OfFunctions := fun line among =>
        ofFunctions line (List.mem_cons_of_mem _ among)
      obtain ⟨notOpening, notClosing, notBetween⟩ := Line.isControl_eq_false_iff.1 plain
      by_cases void : Line.isVoid line
      · rw [OpenFunction.collect_void void, readLines, readLine, if_pos void]
        exact ih others deep inBranch
      · have kept : Line.Kept around.limits line inner inner :=
          .text notOpening (fun same => notClosing (by rw [same]; rfl))
            (fun same => notBetween (by rw [same]; rfl))
        rw [OpenFunction.collect_spoken void, readLines_of_kept unassigned void kept]
        exact ih others deep inBranch
  | @between _ rest later ih =>
      have others : ∀ line ∈ rest, line.OfFunctions := fun line among =>
        ofFunctions line (List.mem_cons_of_mem _ among)
      cases inner with
      | nil => contradiction
      | cons letter inner =>
          rw [OpenFunction.collect_spoken (by decide),
            readLines_of_kept Line.Header.between.unassigned (by decide)
              (.divides rfl inBranch.symm)]
          exact ih others deep inBranch
  | @block _ _ letter opener lines rest opens room inside later ih ih' =>
      have among {line : Line} (among : line ∈ lines ++ Line.close :: rest) : line.OfFunctions :=
        ofFunctions line (List.mem_cons_of_mem _ among)
      have spoken : ¬Line.isVoid opener := by
        cases opens with
        | test | loop => simp [Line.isVoid, Line.opening, Line.comment, Line.openMark]
      have kept : Line.Kept around.limits opener inner (some letter :: inner) := by
        rw [← opens.opening.2]
        exact .opens opens.opening.1 (by rw [opens.opening.2]; exact opens.inner.1) (by omega)
      have within : readLines around includeFile file (number + 1) lines
          (p.inside { f with body := opener :: f.body } (some letter :: inner)) =
            .ok (p.inside ({ f with body := opener :: f.body }.collect lines)
              (some letter :: inner)) :=
        ih (fun line there => among (List.mem_append_left _ there)) (by simp [deep])
          opens.inner.2.symm
      rw [readLines_of_kept opens.header.unassigned spoken kept, readLines_append, within,
        OpenFunction.collect_spoken spoken, OpenFunction.collect_append,
        OpenFunction.collect_spoken (by decide)]
      refine (readLines_of_kept Line.Header.close.unassigned (by decide) (.closes rfl)).trans ?_
      refine ih' (fun line there => among ?_) deep inBranch
      exact List.mem_append_right _ (List.mem_cons_of_mem _ there)

/-- The header of a function starts it outside of all blocks. -/
theorem readLine_of_header {here : Position} {mark : Char} {name : Text}
    (outside : p.block = .none) (unassigned : '=' ∉ mark :: name) :
    p.readLine around includeFile here (Line.opening BlockLetter.function (mark :: name)) =
      .ok ((p.modify (Loaded.addRule
        { kind := .function, pattern := some name, body := some .unsealed,
          mindful := mark = mindfulMark, line := here.line })).inside
            { name, line := here.line } []) := by
  have whole : '=' ∉ Line.opening BlockLetter.function (mark :: name) := by
    rintro (_ | ⟨_, _ | ⟨_, among⟩⟩)
    exact unassigned among
  have spoken : ¬Line.isVoid (Line.opening BlockLetter.function (mark :: name)) := by
    simp [Line.isVoid, Line.opening, Line.comment, Line.openMark]
  unfold readLine
  rw [if_neg spoken, Line.splitAssignment?_of_unassigned whole, takeLine_eq, outside]
  have notClosing : Line.opening BlockLetter.function (mark :: name) ≠ Line.close := by
    simp [Line.opening, Line.close]
  have notBetween : Line.opening BlockLetter.function (mark :: name) ≠ Line.between := by
    simp [Line.opening, Line.between]
  have opens : (Line.opening BlockLetter.function (mark :: name)).head? = some Line.openMark := rfl
  have topLevel : isTopLevel (Line.opening BlockLetter.function (mark :: name)).tail.head? := rfl
  simp only [takePlain, if_neg notClosing, if_neg notBetween, opens, ne_eq, not_true_eq_false,
    if_false, openBlock, outside, topLevel, if_true]
  simp [Line.opening, BlockLetter.function, startBlock, inside]

/-- The closing line of a function makes what has been collected its body. -/
theorem readLine_of_close {here : Position} {code : Program}
    (decoded : Program.ofLines f.body.reverse = .ok code) :
    (p.inside f []).readLine around includeFile here Line.close =
      .ok { p.modify fun s =>
          { s with
            rules := s.rules.modifyLast fun rule => { rule with body := some (.sealed code) } } with
        block := .none } := by
  unfold readLine
  rw [if_neg (by decide), Line.splitAssignment?_of_unassigned Line.Header.close.unassigned]
  simp only [inside, takeLine_eq, takePlain, if_true, closeBlock, closeFunction, Body.close,
    decoded]
  rfl

/-- What the grammar has is read, and each function leaves its rule. -/
theorem readLines_of_functions {lines : List Line} {headers : List Line.FunctionHeader}
    (functions : Line.Functions around.limits.nesting number lines headers)
    (ofFunctions : ∀ line ∈ lines, line.OfFunctions) (outside : p.block = .none) :
    ∃ p' rules, readLines around includeFile file number lines p = .ok p' ∧ p'.block = .none ∧
      p'.loaded.rules = p.loaded.rules ++ rules ∧ List.Forall₂ Rule.Declares rules headers := by
  induction functions generalizing p with
  | nil => exact ⟨p, [], rfl, outside, (List.append_nil _).symm, .nil⟩
  | void void later ih =>
      rw [readLines, readLine, if_pos void]
      exact ih (fun line among => ofFunctions line (List.mem_cons_of_mem _ among)) outside
  | @function number mark name body rest headers room inside later ih =>
      have among {line : Line} (among : line ∈ body ++ Line.close :: rest) : line.OfFunctions :=
        ofFunctions line (List.mem_cons_of_mem _ among)
      have unassigned : '=' ∉ mark :: name := by
        have whole := (ofFunctions _ (List.mem_cons_self ..)).unassigned
        intro there
        exact whole (List.mem_cons_of_mem _ (List.mem_cons_of_mem _ there))
      have inBody (line : Line) (there : line ∈ body) : line.OfFunctions :=
        among (List.mem_append_left _ there)
      let rule : Rule :=
        { kind := .function, pattern := some name, body := some .unsealed,
          mindful := mark = mindfulMark, line := number }
      let f : OpenFunction := { name, line := number }
      obtain ⟨code, decoded⟩ :
          ∃ code, Program.ofLines (f.collect body).body.reverse = .ok code := by
        refine Line.exists_ofLines fun line there => ?_
        simp only [OpenFunction.collect, List.append_nil, List.reverse_reverse, f] at there
        exact (inBody line (List.mem_filter.1 there).1).encoded
      let p₁ : Progress :=
        { (p.modify (Loaded.addRule rule)).modify fun s =>
            { s with
              rules := s.rules.modifyLast fun rule => { rule with body := some (.sealed code) } }
          with block := .none }
      have first : readLines around includeFile file number
          (Line.opening BlockLetter.function (mark :: name) :: (body ++ Line.close :: rest)) p =
            readLines around includeFile file (number + (body.length + 2)) rest p₁ :=
        calc readLines around includeFile file number
              (Line.opening BlockLetter.function (mark :: name) :: (body ++ Line.close :: rest)) p
          _ = readLines around includeFile file (number + 1) (body ++ Line.close :: rest)
                ((p.modify (Loaded.addRule rule)).inside f []) := by
              rw [readLines, readLine_of_header outside unassigned]
              rfl
          _ = readLines around includeFile file (number + 1 + body.length) (Line.close :: rest)
                ((p.modify (Loaded.addRule rule)).inside (f.collect body) []) := by
              rw [readLines_append, readLines_of_body inside inBody rfl rfl]
              rfl
          _ = readLines around includeFile file (number + (body.length + 2)) rest p₁ := by
              rw [readLines, readLine_of_close decoded,
                show number + 1 + body.length + 1 = number + (body.length + 2) by omega]
              rfl
      obtain ⟨p', rules, read, outside', after, declares⟩ := ih (p := p₁)
        (fun line there => among (List.mem_append_right _ (List.mem_cons_of_mem _ there))) rfl
      refine ⟨p', { rule with body := some (.sealed code) } :: rules, first.trans read, outside',
        ?_, .cons ⟨rfl, rfl, rfl, rfl⟩ declares⟩
      have sealed : p₁.loaded.rules =
          p.loaded.rules ++ [{ rule with body := some (.sealed code) }] :=
        RuleTable.modifyLast_append_singleton _ _ _
      rw [after, sealed, List.append_assoc]
      rfl

end Progress

/-! ## What is accepted is in the grammar -/

section Sound

variable {around : Surroundings} {here : Position} {line : Line} {p p' : Progress}
variable {f : OpenFunction} {inner : List (Option Char)}

theorem Line.isControl_of_void (void : Line.isVoid line) : Line.isControl line = false := by
  rcases isVoid_iff.1 void with rfl | rfl <;> decide

theorem Line.OfFunctions.plain (ofFunctions : line.OfFunctions)
    (notOpening : line.head? ≠ some openMark) (notClosing : line ≠ Line.close)
    (notBetween : line ≠ Line.between) : isControl line = false := by
  cases ofFunctions with
  | text plain => exact plain
  | close => exact absurd rfl notClosing
  | between => exact absurd rfl notBetween
  | opens opens => exact absurd opens.opening.1 notOpening
  | function => exact absurd rfl notOpening

/-- The opening line of a block that may stand in a function. -/
theorem Line.OfFunctions.opens_of_inner (ofFunctions : line.OfFunctions)
    (opening : line.head? = some openMark)
    (inner : Progress.isTopLevel line.tail.head? = false) :
    ∃ letter, line.tail.head? = some letter ∧ Opens letter line := by
  cases ofFunctions with
  | text plain => exact absurd opening (isControl_eq_false_iff.1 plain).1
  | close => exact absurd opening (by decide)
  | between => exact absurd opening (by decide)
  | opens opens => exact ⟨_, opens.opening.2, opens⟩
  | function =>
      have impossible : Progress.isTopLevel (some BlockLetter.function) = false := inner
      exact absurd impossible (by decide)

/-- A line of a function that is read outside of all blocks is void or starts a function. -/
theorem Reading.outside (reading : Reading around here line p p') (ofFunctions : line.OfFunctions)
    (outside : p.block = .none) :
    (Line.isVoid line ∧ p'.block = .none) ∨
      ∃ mark name f, line = Line.opening BlockLetter.function (mark :: name) ∧
        p'.block = .function (some f) [] := by
  have unassigned := Line.splitAssignment?_of_unassigned ofFunctions.unassigned
  cases reading with
  | void void => exact .inl ⟨void, outside⟩
  | aside assigned | imapFetch assigned | cacheSize assigned | agent assigned | rule assigned
  | setAccount assigned | setPlugin assigned | setTable assigned =>
      rw [unassigned] at assigned
      contradiction
  | filterRule block | flagAccount block | standard block | closeAccount block | flagPlugin block
  | closePlugin block | closeTable block | closeFilter block | keep block | closeFunction block =>
      rw [outside] at block
      contradiction
  | start _ opening starts =>
      cases ofFunctions with
      | text plain => exact absurd opening (Line.isControl_eq_false_iff.1 plain).1
      | close => exact absurd opening (by decide)
      | between => exact absurd opening (by decide)
      | opens opens =>
          have inner := opens.inner.1
          rw [← opens.opening.2] at inner
          generalize line.tail.head? = letter at starts inner
          cases starts <;> exact absurd inner (by decide)
      | function => exact absurd rfl starts.letter_ne_function
  | startFunction _ opening letter =>
      cases ofFunctions with
      | text plain => exact absurd opening (Line.isControl_eq_false_iff.1 plain).1
      | close => exact absurd opening (by decide)
      | between => exact absurd opening (by decide)
      | opens opens =>
          have inner := opens.inner.1
          rw [← opens.opening.2, letter] at inner
          exact absurd inner (by decide)
      | function => exact .inr ⟨_, _, _, rfl, rfl⟩

/-- A line that is read in a function is void, or becomes part of it, or closes it. -/
theorem Reading.inFunction (reading : Reading around here line p p')
    (block : p.block = .function (some f) inner) :
    (Line.isVoid line ∧ p' = p) ∨
      (∃ inner', Line.Kept around.limits line inner inner' ∧
        p' = p.keepLine line (some f) inner') ∨
      (line = Line.close ∧ inner = [] ∧ p'.block = .none ∧
        ∃ code, Program.ofLines f.body.reverse = .ok code ∧ p'.loaded.rules =
          p.loaded.rules.modifyLast fun rule => { rule with body := some (.sealed code) }) := by
  cases reading with
  | void void => exact .inl ⟨void, rfl⟩
  | keep block' kept =>
      rw [block] at block'
      cases block'
      exact .inr (.inl ⟨_, kept, rfl⟩)
  | closeFunction block' closes decoded =>
      rw [block] at block'
      cases block'
      exact .inr (.inr ⟨closes, rfl, rfl, _, decoded, rfl⟩)
  | aside _ outside | imapFetch _ outside | cacheSize _ outside | agent _ outside
  | rule _ outside | start outside | startFunction outside =>
      rw [block] at outside
      contradiction
  | filterRule block' | setAccount _ block' | flagAccount block' | standard block'
  | closeAccount block' | setPlugin _ block' | flagPlugin block' | closePlugin block'
  | setTable _ block' | closeTable block' | closeFilter block' =>
      rw [block] at block'
      contradiction

/-- Lines that close the blocks that are open in a function, and the function. -/
inductive Line.Closes (nesting : Nat) : List (Option Char) → List Line → Prop where
  | last {lines : List Line} (body : Body nesting 1 false lines) :
      Closes nesting [] (lines ++ [close])
  | inner {letter : Option Char} {inner : List (Option Char)} {lines rest : List Line}
      (body : Body nesting (inner.length + 2) (Progress.admitsElse letter) lines)
      (outer : Closes nesting inner rest) :
      Closes nesting (letter :: inner) (lines ++ close :: rest)

/-- What may stand in front of a body may stand in front of lines that close it. -/
theorem Line.Closes.prepend {nesting : Nat} {lines : List Line}
    (closes : Closes nesting inner lines) (first : List Line)
    (extends' : ∀ rest, Body nesting (inner.length + 1) (inBranch inner) rest →
      Body nesting (inner.length + 1) (inBranch inner) (first ++ rest)) :
    Closes nesting inner (first ++ lines) := by
  cases closes with
  | last body =>
      rw [← List.append_assoc]
      exact .last (extends' _ body)
  | inner body outer =>
      rw [← List.append_assoc]
      exact .inner (extends' _ body) outer

theorem Line.Closes.cons_void {nesting : Nat} {lines : List Line}
    (closes : Closes nesting inner lines) (void : isVoid line) :
    Closes nesting inner (line :: lines) :=
  closes.prepend [line] fun _ => .text (isControl_of_void void)

/-- A line that is kept stands in front of lines that close what is open behind it. -/
theorem Line.Closes.cons_kept {lines : List Line} {inner' : List (Option Char)}
    (closes : Closes around.limits.nesting inner' lines) (ofFunctions : line.OfFunctions)
    (kept : Kept around.limits line inner inner') :
    Closes around.limits.nesting inner (line :: lines) := by
  cases kept with
  | text notOpening notClosing notBetween =>
      have text := ofFunctions.plain notOpening notClosing notBetween
      exact closes.prepend [line] fun _ => .text text
  | opens opening letter room =>
      obtain ⟨letter, first, opens⟩ := ofFunctions.opens_of_inner opening letter
      rw [first] at closes
      cases closes with
      | @inner _ _ lines rest inside outer =>
          have shape : line :: (lines ++ close :: rest) = (line :: (lines ++ [close])) ++ rest := by
            simp
          rw [shape]
          refine outer.prepend _ fun rest later => ?_
          rw [opens.inner.2] at inside
          have block := Body.block opens (by omega) inside later
          simpa using block
  | closes closing =>
      subst closing
      exact .inner .nil closes
  | @divides letter inner between admits =>
      subst between
      refine closes.prepend [Line.between] fun rest later => ?_
      have branch : inBranch (letter :: inner) = true := admits
      rw [branch] at later ⊢
      exact .between later

/-- The header of a function stands in front of lines that close it and of other functions. -/
theorem Line.Closes.functions {nesting number : Nat} {mark : Char} {name : Text}
    {body rest : List Line} {headers : List FunctionHeader} (closes : Closes nesting [] body)
    (deep : 1 < nesting) (later : Functions nesting (number + 1 + body.length) rest headers) :
    Functions nesting number (opening BlockLetter.function (mark :: name) :: (body ++ rest))
      (⟨name, mark = mindfulMark, number⟩ :: headers) := by
  cases closes with
  | @last lines inside =>
      have length : number + 1 + (lines ++ [close]).length = number + (lines.length + 2) := by
        simp
        omega
      rw [length] at later
      rw [List.append_assoc]
      exact .function deep inside later

/-- Lines of functions that are read without a fault, and that leave no function open, are in the
grammar: as a whole if they start outside of all blocks, and otherwise behind the lines that close
the function which they start in. -/
theorem Progress.functions_of_readLines {file : Text} {number : Nat} {lines : List Line}
    {includeFile : Position → Text → Progress → Except Stop Progress}
    (deep : 1 < around.limits.nesting) (ofFunctions : ∀ line ∈ lines, line.OfFunctions)
    (read : readLines around includeFile file number lines p = .ok p')
    (closed : ∀ f inner, p'.block ≠ .function (some f) inner) :
    (p.block = .none → ∃ headers, Line.Functions around.limits.nesting number lines headers) ∧
      ∀ f inner, p.block = .function (some f) inner → ∃ body rest headers, lines = body ++ rest ∧
        Line.Closes around.limits.nesting inner body ∧
        Line.Functions around.limits.nesting (number + body.length) rest headers := by
  induction lines generalizing number p with
  | nil =>
      cases read
      exact ⟨fun _ => ⟨[], .nil⟩, fun f inner block => absurd block (closed f inner)⟩
  | cons line rest ih =>
      obtain ⟨p₁, first, later⟩ := exists_of_bind_eq_ok read
      have here := ofFunctions line (List.mem_cons_self ..)
      have reading := reading_of_readLine (include?_of_unassigned here.unassigned) first
      have others := ih (fun line among => ofFunctions line (List.mem_cons_of_mem _ among)) later
      constructor
      · intro outside
        rcases reading.outside here outside with ⟨void, same⟩ | ⟨mark, name, f, rfl, block⟩
        · obtain ⟨headers, functions⟩ := others.1 same
          exact ⟨headers, .void void functions⟩
        · obtain ⟨body, rest, headers, rfl, closes, functions⟩ := others.2 f [] block
          exact ⟨_, closes.functions deep functions⟩
      · intro f inner block
        have before {f₁ : OpenFunction} {inner₁ : List (Option Char)}
            (block₁ : p₁.block = .function (some f₁) inner₁)
            (closes : ∀ body, Line.Closes around.limits.nesting inner₁ body →
              Line.Closes around.limits.nesting inner (line :: body)) :
            ∃ body behind headers, line :: rest = body ++ behind ∧
              Line.Closes around.limits.nesting inner body ∧
              Line.Functions around.limits.nesting (number + body.length) behind headers := by
          obtain ⟨body, behind, headers, rfl, closes', functions⟩ := others.2 f₁ inner₁ block₁
          refine ⟨line :: body, behind, headers, rfl, closes body closes', ?_⟩
          rwa [List.length_cons, Nat.add_comm body.length, ← Nat.add_assoc]
        rcases reading.inFunction block with
          ⟨void, rfl⟩ | ⟨inner₁, kept, rfl⟩ | ⟨rfl, rfl, outside, -⟩
        · exact before block fun _ closes => closes.cons_void void
        · exact before rfl fun _ closes => closes.cons_kept here kept
        · obtain ⟨headers, functions⟩ := others.1 outside
          exact ⟨[Line.close], rest, headers, rfl, .last .nil, functions⟩

end Sound

namespace Loaded

/-- The loader accepts exactly the grammar of functions, and each function that it accepts leaves
one rule, in order. -/
theorem readRoot_iff_functions (around : Surroundings) (deep : 2 ≤ around.limits.nesting)
    (file : Text) (before : Loaded) (files : FileSystem) (log : EventLog) (lines : List Line)
    (ofFunctions : ∀ line ∈ lines, line.OfFunctions) :
    ((∃ p', before.readRoot around file lines files log = .ok p') ↔
      ∃ headers, Line.Functions around.limits.nesting 1 lines headers) ∧
      ∀ p' headers, before.readRoot around file lines files log = .ok p' →
        Line.Functions around.limits.nesting 1 lines headers →
          List.Forall₂ Rule.Declares p'.loaded.rules headers := by
  obtain ⟨includeFile, whole⟩ := Progress.exists_readFile_eq around around.limits.includeDepth
  have accepted (headers : List Line.FunctionHeader)
      (functions : Line.Functions around.limits.nesting 1 lines headers) :
      ∃ p', before.readRoot around file lines files log = .ok p' ∧
        List.Forall₂ Rule.Declares p'.loaded.rules headers := by
    have start : (before.begin file files log).block = .none := rfl
    obtain ⟨p, rules, read, outside, after, declares⟩ :=
      Progress.readLines_of_functions functions ofFunctions start
    have ended : p.endFile file = .ok p := by simp only [Progress.endFile, outside]
    obtain ⟨p', finished⟩ : ∃ p', p.finish file = .ok p' := by
      simp only [Progress.finish, outside]
      exact ⟨_, rfl⟩
    refine ⟨p', ?_, ?_⟩
    · rw [readRoot, whole, Progress.readAll, read]
      exact (congrArg (· >>= Progress.finish file) ended).trans finished
    · rw [rules_of_finish finished, after]
      exact declares
  refine ⟨⟨?_, ?_⟩, ?_⟩
  · rintro ⟨p', read⟩
    obtain ⟨p₁, read, -⟩ := exists_of_bind_eq_ok read
    have closed := Progress.outside_of_readFile read
    rw [whole] at read
    obtain ⟨p₂, read, ended⟩ := exists_of_bind_eq_ok read
    rw [(Progress.endFile_eq_ok ended).1] at closed
    exact (Progress.functions_of_readLines deep ofFunctions read closed).1 rfl
  · rintro ⟨headers, functions⟩
    obtain ⟨p', read, -⟩ := accepted headers functions
    exact ⟨p', read⟩
  · intro p' headers read functions
    obtain ⟨p'', read', declares⟩ := accepted headers functions
    cases read.symm.trans read'
    exact declares

/-- Two functions, of which one has a block with two branches. -/
def twoFunctions : List Line :=
  [Line.opening 'f' ['+', 'a'], Line.opening 'I', ['x'], Line.between, Line.close, Line.close,
    Line.comment, Line.opening 'f' [':', 'b'], Line.close]

theorem readRoot_of_twoFunctions :
    2 ≤ ({} : Limits).nesting ∧ (∀ line ∈ twoFunctions, line.OfFunctions) ∧
      ∃ p', (fresh ['a']).readRoot ⟨{}, {}⟩ ['r'] twoFunctions {} #[] = .ok p' ∧
        List.Forall₂ Rule.Declares p'.loaded.rules [⟨['a'], true, 1⟩, ⟨['b'], false, 8⟩] := by
  have deep : 2 ≤ ({} : Limits).nesting := by decide
  have ofFunctions : ∀ line ∈ twoFunctions, line.OfFunctions := by
    simp only [twoFunctions, List.forall_mem_cons]
    exact ⟨.function (.inl rfl) (by decide) (List.forall_mem_singleton.2 rfl),
      .opens (.test (by decide)), .text rfl (by decide), .between, .close, .close,
      .text rfl (by decide), .function (.inr rfl) (by decide) (List.forall_mem_singleton.2 rfl),
      .close, by simp⟩
  have branches : Line.Body 20 1 false
      (Line.opening 'I' :: ([['x'], Line.between] ++ Line.close :: [])) :=
    .block (.test (by decide)) (by decide) (.text rfl (.between .nil)) .nil
  have last : Line.Functions 20 7
      (Line.comment :: (Line.opening 'f' [':', 'b'] :: ([] ++ Line.close :: [])))
      [⟨['b'], false, 8⟩] :=
    .void rfl (.function (by decide) .nil .nil)
  have functions : Line.Functions 20 1 twoFunctions [⟨['a'], true, 1⟩, ⟨['b'], false, 8⟩] :=
    .function (by decide) branches last
  have both := readRoot_iff_functions ⟨{}, {}⟩ deep ['r'] (fresh ['a']) {} #[]
    twoFunctions ofFunctions
  obtain ⟨p', read⟩ := both.1.2 ⟨_, functions⟩
  exact ⟨deep, ofFunctions, p', read, both.2 p' _ read functions⟩

end Loaded

end Ebrc
