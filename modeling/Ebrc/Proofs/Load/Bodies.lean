import Ebrc.Proofs.Load.DefaultAccount
import Ebrc.Proofs.Load.Grammar

/-!
# The bodies of functions

The lines of a function are those from its header to the line that closes it, which is the first one
at which more blocks have been closed than opened. They come from as many source lines, and the body
of the function is what these are decoded into, one by one. Blank lines and comments are left out,
and a command is its source line without the indentation and the carriage return at the end.
-/

namespace Ebrc

/-! ## Lines of a file and their sources -/

namespace Line

/-- Does the line open a block? -/
def isOpening (line : Line) : Bool := line.head? = some openMark

/-- Does the line close a block? -/
def isClosing (line : Line) : Bool := line = close

/-- Does the line start a function? -/
def isFunctionHeader (line : Line) : Bool :=
  line.isOpening && line.tail.head? = some BlockLetter.function

/-- Of the lines behind a header, so many of whose inner blocks are open, this is the first one at
which more blocks have been closed than opened. -/
structure ClosesAt (inner : Nat) (lines : List Line) (n : Nat) : Prop where
  exceeds : inner + (lines.take (n + 1)).countP isOpening < (lines.take (n + 1)).countP isClosing
  first : ∀ m ≤ n, (lines.take m).countP isClosing ≤ inner + (lines.take m).countP isOpening

end Line

/-- Is a source line blank or a comment? -/
def Encoding.isSilent (source : Text) : Bool :=
  (plain source).isEmpty || (plain source).head? = some '#'

/-- The instruction is what a source line is decoded into. A command is the line as it stands, but
for its indentation and a carriage return at its end. -/
structure Encoding.Decodes (maxName : Int) (source : Text) (i : Instruction) : Prop where
  decoded : ∃ line, encodeLine maxName source = .ok line ∧ Instruction.decode line = .ok i
  command : ∀ template, i = .literal template → template = plain source

/-- The functions of a text are among the rules, in their order, and there are no others. The body
of each is what the source lines between its header and its closing line are decoded into. -/
structure Loaded.KeepsFunctions (maxName : Int) (text : Text) (lines : List Line) (s : Loaded) :
    Prop where
  bodies : ∀ i mark name,
    lines[i]? = some (Line.opening BlockLetter.function (mark :: name)) →
      ∃ n rule code, Line.ClosesAt 0 (lines.drop (i + 1)) n ∧
        (s.rules.ofKinds [.function])[(lines.take i).countP Line.isFunctionHeader]? = some rule ∧
        rule.Declares ⟨name, mark = mindfulMark, i + 1⟩ ∧ rule.body = some (.sealed code) ∧
        List.Forall₂ (Encoding.Decodes maxName)
          ((((Text.lines text).drop (i + 1)).take n).filter (!Encoding.isSilent ·)) code
  number : (s.rules.ofKinds [.function]).length = lines.countP Line.isFunctionHeader

/-! ## Closing lines -/

namespace Line

variable {line : Line} {lines : List Line} {inner inner' n : Nat}

/-- The line in front of others opens a block or closes one, or does neither. -/
theorem ClosesAt.cons (closes : ClosesAt inner' lines n)
    (balance : inner' + (if isClosing line then 1 else 0) =
      inner + (if isOpening line then 1 else 0)) : ClosesAt inner (line :: lines) (n + 1) where
  exceeds := by
    have exceeds := closes.exceeds
    rw [List.take_succ_cons, List.countP_cons, List.countP_cons]
    omega
  first m le := by
    cases m with
    | zero => exact Nat.zero_le _
    | succ m =>
        have first := closes.first m (by omega)
        rw [List.take_succ_cons, List.countP_cons, List.countP_cons]
        omega

theorem closesAt_close : ClosesAt 0 (close :: lines) 0 where
  exceeds := by simp [isOpening, isClosing, close, openMark, closeMark]
  first m le := by simp [Nat.le_zero.1 le]

theorem Kept.balance {limits : Limits} {inner inner' : List (Option Char)}
    (kept : Kept limits line inner inner') :
    inner'.length + (if isClosing line then 1 else 0) =
      inner.length + (if isOpening line then 1 else 0) := by
  cases kept with
  | text notOpening notClosing => simp [isOpening, isClosing, notOpening, notClosing]
  | opens opening =>
      have notClosing : line ≠ close := by
        rintro rfl
        exact absurd opening (by decide)
      simp [isOpening, isClosing, opening, notClosing]
  | closes closing =>
      rw [closing]
      simp [isOpening, isClosing, close, openMark, closeMark]
  | divides between =>
      rw [between]
      simp [isOpening, isClosing, Line.between, close, openMark, closeMark, elseMark]

theorem balance_of_void (void : isVoid line) :
    inner + (if isClosing line then 1 else 0) = inner + (if isOpening line then 1 else 0) := by
  rcases isVoid_iff.1 void with rfl | rfl
  · rfl
  · rfl

/-- The header of a function has a mark and a name. -/
theorem Encoded.exists_functionHeader (encoded : line.Encoded) (header : line.isFunctionHeader) :
    ∃ mark name, line = opening BlockLetter.function (mark :: name) := by
  simp only [isFunctionHeader, isOpening, Bool.and_eq_true, decide_eq_true_eq] at header
  obtain ⟨opens, letter⟩ := header
  rcases encoded with text | header
  · exact absurd opens (isControl_eq_false_iff.1 text).1
  · cases header with
    | close => contradiction
    | between => contradiction
    | record among | test among =>
        simp only [opening, List.tail_cons, List.head?_cons, Option.some.injEq] at letter
        subst letter
        exact absurd among (by decide)
    | loop => exact absurd letter (by simp [opening, BlockLetter.loop, BlockLetter.function])
    | function => exact ⟨_, _, rfl⟩

end Line

/-! ## Functions among the rules -/

namespace RuleTable

variable {rules : RuleTable} {rule : Rule} {f : Rule → Rule}

theorem length_functions_append (function : rule.kind = .function) :
    ((rules ++ [rule] : RuleTable).ofKinds [.function]).length =
      (rules.ofKinds [.function]).length + 1 := by
  simp [ofKinds, function]

theorem length_functions_append_of_ne (other : rule.kind ≠ .function) :
    ((rules ++ [rule] : RuleTable).ofKinds [.function]).length =
      (rules.ofKinds [.function]).length := by
  simp [ofKinds, other]

theorem modifyLast_append {others : RuleTable} (given : others ≠ []) :
    (rules ++ others : RuleTable).modifyLast f = rules ++ others.modifyLast f := by
  obtain ⟨first, last, rfl⟩ := List.eq_nil_or_concat' others |>.resolve_left given
  rw [← List.append_assoc, modifyLast_append_singleton, modifyLast_append_singleton,
    List.append_assoc]

theorem length_ofKinds_modifyLast {kinds : List RuleKind}
    (same : ∀ rule, (f rule).kind = rule.kind) :
    ((rules.modifyLast f).ofKinds kinds).length = (rules.ofKinds kinds).length := by
  rcases List.eq_nil_or_concat' rules with rfl | ⟨first, last, rfl⟩
  · rfl
  · rw [modifyLast_append_singleton, ofKinds_append, ofKinds_append, List.length_append,
      List.length_append]
    simp only [ofKinds, List.filter_cons, List.filter_nil, same]
    split <;> rfl

end RuleTable

/-! ## Lines in turn -/

section Turn

variable {around : Surroundings} {here : Position} {line : Line} {p p' : Progress}

theorem Reading.files (reading : Reading around here line p p') :
    p'.loaded.files = p.loaded.files := by
  cases reading with
  | aside _ _ aside => exact aside.loaded.files
  | _ => rfl

/-- A function starts at its header, outside of all blocks. -/
theorem Reading.ofHeader {mark : Char} {name : Text}
    (reading : Reading around here (Line.opening BlockLetter.function (mark :: name)) p p') :
    p.block = .none ∧ p' = (p.modify (Loaded.addRule
      { kind := .function, pattern := some name, body := some .unsealed,
        mindful := mark = mindfulMark, line := here.line })).inside
          { name, line := here.line } [] := by
  have opens : (Line.opening BlockLetter.function (mark :: name)).head? = some Line.openMark := rfl
  have control : Line.isControl (Line.opening BlockLetter.function (mark :: name)) = true := rfl
  have notClosing : Line.opening BlockLetter.function (mark :: name) ≠ Line.close := by
    simp [Line.opening, Line.close]
  cases reading with
  | startFunction outside =>
      refine ⟨outside, ?_⟩
      simp [Line.opening, Progress.inside]
  | void void =>
      rw [Line.isControl_of_void void] at control
      contradiction
  | aside assigned | imapFetch assigned | cacheSize assigned | agent assigned | rule assigned
  | setAccount assigned | setPlugin assigned | setTable assigned =>
      exact absurd (isAlpha_of_splitAssignment assigned _ opens) (by decide)
  | filterRule _ text =>
      rw [control] at text
      contradiction
  | flagAccount _ flagged | standard _ flagged =>
      rw [AccountFlag.isControl_of_ofLine? flagged] at control
      contradiction
  | flagPlugin _ flagged =>
      rw [PluginFlag.isControl_of_ofLine? flagged] at control
      contradiction
  | closeAccount _ closes | closePlugin _ closes | closeTable _ closes | closeFilter _ closes
  | closeFunction _ closes => exact absurd closes notClosing
  | start _ _ starts => exact absurd rfl starts.letter_ne_function
  | keep _ kept =>
      cases kept with
      | text notOpening => exact absurd opens notOpening
      | opens _ letter => exact absurd letter (by simp [Line.opening, Progress.isTopLevel,
          BlockLetter.topLevel])
      | closes closing => exact absurd closing notClosing
      | divides between => exact absurd between (by simp [Line.opening, Line.between])

/-- A line that is no header of a function adds no function. -/
theorem Reading.length_functions (reading : Reading around here line p p')
    (filters : p.block.Filters) (other : line.isFunctionHeader = false) :
    (p'.loaded.rules.ofKinds [.function]).length =
      (p.loaded.rules.ofKinds [.function]).length := by
  cases reading with
  | aside _ _ aside => rw [aside.loaded.rules]
  | rule _ _ fits => exact RuleTable.length_functions_append_of_ne fits.kind_ne_function
  | filterRule block =>
      exact RuleTable.length_functions_append_of_ne (filters.kind_ne_function block)
  | startFunction _ opening letter =>
      simp [Line.isFunctionHeader, Line.isOpening, opening, letter] at other
  | closeFunction => exact RuleTable.length_ofKinds_modifyLast fun _ => rfl
  | _ => rfl

namespace Progress

/-- Lines of a file, of which the first has this number, are read one after the other, and nothing
else is read in between. -/
inductive InTurn (around : Surroundings) (file : Text) :
    Nat → List Line → Progress → Progress → Prop where
  | nil {number : Nat} (p : Progress) : InTurn around file number [] p p
  | cons {number : Nat} {line : Line} {rest : List Line} {p p₁ p' : Progress}
      (reading : Reading around ⟨file, number⟩ line p p₁) (silent : Line.isVoid line → p₁ = p)
      (later : InTurn around file (number + 1) rest p₁ p') :
      InTurn around file number (line :: rest) p p'

variable {file : Text} {number : Nat} {lines : List Line}

theorem GoesThrough.length_files_le {room : Nat} {visits : List Visit}
    (through : GoesThrough around room file number lines p visits p') :
    p.loaded.files.length ≤ p'.loaded.files.length := by
  induction through with
  | nil => exact Nat.le_refl _
  | line other read later ih =>
      rwa [(reading_of_readLine other read).files] at ih
  | passed included unopened later ih => exact ih
  | opened included opens inside later ih ih' =>
      refine Nat.le_trans ?_ (Nat.le_trans ih ih')
      simp

/-- A load that opens no other file reads the lines of its file in turn. -/
theorem GoesThrough.inTurn {room : Nat} {visits : List Visit}
    (through : GoesThrough around room file number lines p visits p')
    (alone : p'.loaded.files = p.loaded.files) : InTurn around file number lines p p' := by
  induction through with
  | nil => exact .nil _
  | line other read later ih =>
      have reading := reading_of_readLine other read
      refine .cons reading (fun void => ?_) (ih (alone.trans reading.files.symm))
      rw [readLine, if_pos void] at read
      cases read
      rfl
  | @passed _ _ _ _ line _ p _ _ event included unopened later ih =>
      obtain ⟨outside, word, assigned, -⟩ := include?_eq_some included
      have aside : Aside p (p.tell event) := ⟨rfl, .rfl⟩
      have spoken := not_void_of_include included
      exact .cons (.aside assigned outside aside) (fun void => absurd void spoken) (ih alone)
  | opened included opens inside later ih ih' =>
      have inner := inside.length_files_le
      have outer := later.length_files_le
      rw [alone] at outer
      simp only [modify, List.length_append, List.length_singleton] at inner
      omega

/-- A line somewhere among those that are read in turn. -/
theorem InTurn.split {i : Nat} (inTurn : InTurn around file number lines p p')
    (there : lines[i]? = some line) :
    ∃ p₁ p₂, InTurn around file number (lines.take i) p p₁ ∧
      Reading around ⟨file, number + i⟩ line p₁ p₂ ∧
      InTurn around file (number + i + 1) (lines.drop (i + 1)) p₂ p' := by
  induction inTurn generalizing i with
  | nil => contradiction
  | @cons number _ rest p p₁ p' reading silent later ih =>
      cases i with
      | zero =>
          cases there
          exact ⟨p, p₁, .nil p, reading, later⟩
      | succ i =>
          obtain ⟨q₁, q₂, before, here, behind⟩ := ih there
          rw [Nat.add_right_comm number 1 i] at here behind
          exact ⟨q₁, q₂, .cons reading silent before, here, behind⟩

/-- Every header of a function adds one function, and no other line adds any. -/
theorem InTurn.length_functions (inTurn : InTurn around file number lines p p')
    (encoded : ∀ line ∈ lines, line.Encoded) (filters : p.block.Filters) :
    (p'.loaded.rules.ofKinds [.function]).length =
      (p.loaded.rules.ofKinds [.function]).length + lines.countP Line.isFunctionHeader := by
  induction inTurn with
  | nil => rfl
  | @cons _ line _ _ _ _ reading _ later ih =>
      have others := ih (fun line among => encoded line (List.mem_cons_of_mem _ among))
        (reading.filters filters)
      rw [others, List.countP_cons]
      cases header : line.isFunctionHeader with
      | false =>
          rw [reading.length_functions filters header]
          rfl
      | true =>
          obtain ⟨mark, name, rfl⟩ :=
            (encoded line (List.mem_cons_self ..)).exists_functionHeader header
          obtain ⟨-, rfl⟩ := reading.ofHeader
          rw [Nat.add_comm (List.countP ..), ← Nat.add_assoc]
          exact congrArg (· + _) (RuleTable.length_functions_append rfl)

/-- These rules stand first, and a function that is open has one of the others. -/
def Extends (first : RuleTable) (p : Progress) : Prop :=
  ∃ more, p.loaded.rules = first ++ more ∧ (p.block.function? = none ∨ more ≠ [])

theorem Extends.lays {first : RuleTable} (extends' : p.Extends first)
    (lays : Lays around here line p p') : p'.Extends first := by
  obtain ⟨more, before, sealed⟩ := extends'
  have given {f : OpenFunction} {inner : List (Option Char)}
      (block : p.block = .function (some f) inner) : more ≠ [] := by
    refine sealed.resolve_left fun outside => ?_
    rw [block] at outside
    contradiction
  cases lays with
  | nothing rules function => exact ⟨more, rules.trans before, by rwa [function]⟩
  | @global rule _ _ rules | @filter rule _ _ rules | @header rule _ _ _ rules =>
      refine ⟨more ++ [rule], ?_, .inr (by simp)⟩
      rw [rules, before, List.append_assoc]
  | body block _ _ rules => exact ⟨more, rules.trans before, .inr (given block)⟩
  | closing block _ outside rules =>
      rw [before, RuleTable.modifyLast_append (given block)] at rules
      exact ⟨_, rules, .inl (by rw [outside]; rfl)⟩

theorem InTurn.extends {first : RuleTable} (inTurn : InTurn around file number lines p p')
    (extends' : p.Extends first) : p'.Extends first := by
  induction inTurn with
  | nil => exact extends'
  | cons reading silent later ih => exact ih (extends'.lays reading.lays)

/-- Lines that are read in turn, from one inside a function on, close the function if they leave
none open. The lines up to the closing one are collected, and what they are decoded into is its
body. No later line changes that. -/
theorem InTurn.exists_body {f : OpenFunction} {inner : List (Option Char)}
    (inTurn : InTurn around file number lines p p')
    (block : p.block = .function (some f) inner)
    (closed : ∀ f inner, p'.block ≠ .function (some f) inner) :
    ∃ n code more, Line.ClosesAt inner.length lines n ∧
      Program.ofLines (f.collect (lines.take n)).body.reverse = .ok code ∧
      p'.loaded.rules = (p.loaded.rules.modifyLast
        fun rule => { rule with body := some (.sealed code) }) ++ more := by
  induction inTurn generalizing f inner with
  | nil => exact absurd block (closed f inner)
  | @cons number line rest p p₁ p' reading silent later ih =>
      by_cases void : Line.isVoid line
      · rw [silent void] at ih
        obtain ⟨n, code, more, closes, decoded, rules⟩ := ih block closed
        refine ⟨n + 1, code, more, closes.cons (Line.balance_of_void void), ?_, rules⟩
        rw [List.take_succ_cons, OpenFunction.collect_void void]
        exact decoded
      · rcases reading.inFunction block with
          ⟨impossible, -⟩ | ⟨inner₁, kept, rfl⟩ | ⟨rfl, rfl, outside, code, decoded, rules⟩
        · exact absurd impossible void
        · have inside : (p.keepLine line (some f) inner₁).block =
              .function (some { f with body := line :: f.body }) inner₁ := rfl
          obtain ⟨n, code, more, closes, decoded, rules⟩ := ih inside closed
          refine ⟨n + 1, code, more, closes.cons kept.balance, ?_, rules⟩
          rw [List.take_succ_cons, OpenFunction.collect_spoken void]
          exact decoded
        · have sealed : p₁.Extends p₁.loaded.rules :=
            ⟨[], (List.append_nil _).symm, .inl (by rw [outside]; rfl)⟩
          obtain ⟨more, rules', -⟩ := later.extends sealed
          exact ⟨0, code, more, Line.closesAt_close, decoded, rules ▸ rules'⟩

/-- A header among lines that are read in turn adds a rule, and the lines up to the closing one make
its body. -/
theorem InTurn.exists_rule {i : Nat} {mark : Char} {name : Text}
    (inTurn : InTurn around file number lines p p')
    (closed : ∀ f inner, p'.block ≠ .function (some f) inner)
    (there : lines[i]? = some (Line.opening BlockLetter.function (mark :: name))) :
    ∃ n rule code p₁ more, Line.ClosesAt 0 (lines.drop (i + 1)) n ∧
      Program.ofLines (((lines.drop (i + 1)).take n).filter fun line => !Line.isVoid line) =
        .ok code ∧
      rule.Declares ⟨name, mark = mindfulMark, number + i⟩ ∧ rule.body = some (.sealed code) ∧
      InTurn around file number (lines.take i) p p₁ ∧
      p'.loaded.rules = p₁.loaded.rules ++ rule :: more := by
  obtain ⟨p₁, p₂, earlier, here, later⟩ := inTurn.split there
  obtain ⟨-, rfl⟩ := here.ofHeader
  obtain ⟨n, code, more, closes, decoded, rules⟩ := later.exists_body rfl closed
  let header : Rule :=
    { kind := .function, pattern := some name, body := some .unsealed,
      mindful := mark = mindfulMark, line := number + i }
  let rule : Rule := { header with body := some (.sealed code) }
  refine ⟨n, rule, code, p₁, more, closes, ?_, ⟨rfl, rfl, rfl, rfl⟩, rfl, earlier, ?_⟩
  · simpa [OpenFunction.collect] using decoded
  · have sealed : (p₁.loaded.rules ++ [header]).modifyLast
        (fun rule => { rule with body := some (.sealed code) }) = p₁.loaded.rules ++ [rule] :=
      RuleTable.modifyLast_append_singleton _ _ _
    calc p'.loaded.rules
      _ = (p₁.loaded.rules ++ [header]).modifyLast
            (fun rule => { rule with body := some (.sealed code) }) ++ more := rules
      _ = p₁.loaded.rules ++ rule :: more := by
          rw [sealed, List.append_assoc]
          rfl

end Progress

end Turn

/-! ## Sources -/

theorem Line.Header.isControl {line : Line} (header : line.Header) :
    Line.isControl line = true := by
  cases header <;> rfl

/-- A command is a line without a mark. -/
theorem Instruction.decode_eq_literal {line : Line} {template : Text}
    (decoded : decode line = .ok (.literal template)) :
    Line.isControl line = false ∧ template = line := by
  cases line with
  | nil =>
      cases decoded
      exact ⟨rfl, rfl⟩
  | cons c rest =>
      simp only [decode] at decoded
      split at decoded
      · cases decoded
      rename_i notClosing
      split at decoded
      · cases decoded
      rename_i notBetween
      split at decoded
      · obtain ⟨block, -, impossible⟩ := exists_of_map_eq_ok decoded
        contradiction
      rename_i notOpening
      cases decoded
      exact ⟨by simp [Line.isControl, notOpening, notClosing, notBetween], rfl⟩

namespace Encoding

variable {maxName : Int} {source : Text} {line : Line}

/-- A line says nothing if its source says nothing, and only then. -/
theorem isVoid_eq_isSilent (encoded : encodeLine maxName source = .ok line) :
    Line.isVoid line = isSilent source := by
  rcases encodeLine_cases encoded with ⟨comment, rfl⟩ | ⟨other, ⟨-, rfl⟩ | found⟩
  · simp [isSilent, comment, Line.isVoid]
  · have notComment : plain source ≠ Line.comment := by
      intro same
      rw [same] at other
      contradiction
    simp [isSilent, other, Line.isVoid, notComment]
  · have control := (header_of_header? (length_phrase_le _) found).isControl
    have spoken : ¬Line.isVoid line := by
      intro void
      rw [Line.isControl_of_void void] at control
      contradiction
    have given : plain source ≠ [] := by
      intro empty
      rw [empty] at found
      have nothing : header? maxName (phrase []) = .ok none := rfl
      cases nothing.symm.trans found
    simp [isSilent, other, given, spoken]

/-- A line that says something is decoded as its source is. -/
theorem decodes_of_decode {i : Instruction} (encoded : encodeLine maxName source = .ok line)
    (spoken : ¬Line.isVoid line) (decoded : Instruction.decode line = .ok i) :
    Decodes maxName source i where
  decoded := ⟨line, encoded, decoded⟩
  command := by
    rintro template rfl
    obtain ⟨text, rfl⟩ := Instruction.decode_eq_literal decoded
    rcases encodeLine_cases encoded with ⟨-, rfl⟩ | ⟨-, ⟨-, same⟩ | found⟩
    · exact absurd rfl spoken
    · exact same
    · rw [(header_of_header? (length_phrase_le _) found).isControl] at text
      contradiction

/-- What the lines are decoded into that say something is decoded from their sources. -/
theorem forall₂_decodes {sources : List Text} {lines : List Line} {code : Program}
    (encoded : List.Forall₂ (fun source line => encodeLine maxName source = .ok line) sources lines)
    (decoded : Program.ofLines (lines.filter fun line => !Line.isVoid line) = .ok code) :
    List.Forall₂ (Decodes maxName) (sources.filter (!isSilent ·)) code := by
  induction encoded generalizing code with
  | nil =>
      cases decoded
      exact .nil
  | @cons source line _ _ here _ ih =>
      have same := isVoid_eq_isSilent here
      cases void : Line.isVoid line with
      | true =>
          rw [List.filter_cons_of_neg (by simp [void])] at decoded
          rw [List.filter_cons_of_neg (by simp [← same, void])]
          exact ih decoded
      | false =>
          rw [List.filter_cons_of_pos (by simp [void]), Program.ofLines, List.mapM_cons] at decoded
          rw [List.filter_cons_of_pos (by simp [← same, void])]
          obtain ⟨i, first, decoded⟩ := exists_of_bind_eq_ok decoded
          obtain ⟨rest, others, decoded⟩ := exists_of_bind_eq_ok decoded
          cases decoded
          exact .cons (decodes_of_decode here (by simp [void]) first) (ih others)

end Encoding

/-! ## Loads of one file -/

namespace Loaded

variable {around : Surroundings} {text file : Text} {before : Loaded} {files : FileSystem}
variable {log : EventLog}

/-- A load that opens no other file reads its lines in turn, and ends outside of all functions. -/
theorem inTurn_of_loadText
    (succeeded : (before.loadText around text file files log).fault = none)
    (alone : (before.loadText around text file files log).loaded.files = [file]) :
    ∃ lines p, Encoding.lines text file around.limits.functionName = .ok lines ∧
      Progress.InTurn around file 1 lines (before.begin file files log) p ∧
      (∀ f inner, p.block ≠ .function (some f) inner) ∧
      (before.loadText around text file files log).loaded.rules = p.loaded.rules := by
  obtain ⟨lines, p, p', encoded, read, finished, result⟩ := readFile_of_loadText succeeded
  rw [result] at alone ⊢
  have same : p.loaded.files = [file] := by
    rw [← alone, (Progress.finish_eq_ok finished).2]
    split <;> rfl
  exact ⟨lines, p, encoded, (Progress.goesThrough_of_readFile read).inTurn same,
    Progress.outside_of_readFile read, rules_of_finish finished⟩

/-- The functions of a text without marks, from which no other file is opened, keep their bodies
through the encoding and the load. -/
theorem keepsFunctions_of_succeeded (around : Surroundings) (text file : Text) (before : Loaded)
    (files : FileSystem) (log : EventLog) (unmarked : text.Unmarked)
    (succeeded : (before.loadText around text file files log).fault = none)
    (alone : (before.loadText around text file files log).loaded.files = [file]) :
    ∃ lines, Encoding.lines text file around.limits.functionName = .ok lines ∧
      (before.loadText around text file files log).loaded.KeepsFunctions
        around.limits.functionName text lines := by
  obtain ⟨lines, p', encoded, inTurn, closed, rules⟩ := inTurn_of_loadText succeeded alone
  have all := Encoding.encoded_of_mem_lines unmarked encoded
  have filters : (before.begin file files log).block.Filters := by
    intro kind impossible
    contradiction
  have none : (before.begin file files log).loaded.rules = [] := rfl
  refine ⟨lines, encoded, ⟨fun i mark name there => ?_, ?_⟩⟩
  · obtain ⟨n, rule, code, p₁, more, closes, decoded, declares, body, earlier, final⟩ :=
      inTurn.exists_rule closed there
    have position : (lines.take i).countP Line.isFunctionHeader =
        (p₁.loaded.rules.ofKinds [.function]).length := by
      have inAll (line : Line) (among : line ∈ lines.take i) : line.Encoded :=
        all line (List.mem_of_mem_take among)
      rw [earlier.length_functions inAll filters, none]
      exact (Nat.zero_add _).symm
    have kept : RuleTable.ofKinds (rule :: more) [.function] =
        rule :: RuleTable.ofKinds more [.function] :=
      List.filter_cons_of_pos (by simp [declares.kind])
    have sources := List.forall₂_take n
      (List.forall₂_drop (i + 1) (Encoding.forall₂_of_lines encoded))
    rw [Nat.add_comm] at declares
    refine ⟨n, rule, code, closes, ?_, declares, body, Encoding.forall₂_decodes sources decoded⟩
    rw [rules, final, position, RuleTable.ofKinds_append, kept,
      List.getElem?_append_right (Nat.le_refl _), Nat.sub_self]
    rfl
  · rw [rules, inTurn.length_functions all filters, none]
    exact Nat.zero_add _

/-- Two functions with comments, blank lines and carriage returns. The first one has a block inside,
and a line stands between the two. -/
def commentedFunctions : Text :=
  Text.unlines ["function+a \x7b".toList, "# a comment".toList, "\t b km \r".toList,
    "if (*) \x7b".toList, [], "q".toList, "\x7d".toList, "#".toList, "\x7d".toList,
    "cachesize=7".toList, "function:b\x7b\r".toList, " \t".toList, "  q".toList, "\x7d".toList]

theorem keepsFunctions_of_commentedFunctions :
    commentedFunctions.Unmarked ∧
      ((fresh ['a']).loadText ⟨{}, {}⟩ commentedFunctions ['r'] {} #[]).fault = none ∧
      ((fresh ['a']).loadText ⟨{}, {}⟩ commentedFunctions ['r'] {} #[]).loaded.files =
        [['r']] ∧
      ∃ lines, Encoding.lines commentedFunctions ['r'] ({} : Limits).functionName = .ok lines ∧
        KeepsFunctions ({} : Limits).functionName commentedFunctions lines
          ((fresh ['a']).loadText ⟨{}, {}⟩ commentedFunctions ['r'] {} #[]).loaded := by
  have unmarked : commentedFunctions.Unmarked := by decide +kernel
  have succeeded :
      ((fresh ['a']).loadText ⟨{}, {}⟩ commentedFunctions ['r'] {} #[]).fault = none := by
    decide +kernel
  have alone :
      ((fresh ['a']).loadText ⟨{}, {}⟩ commentedFunctions ['r'] {} #[]).loaded.files =
        [['r']] := by
    decide +kernel
  exact ⟨unmarked, succeeded, alone, keepsFunctions_of_succeeded ⟨{}, {}⟩ commentedFunctions ['r']
    (fresh ['a']) {} #[] unmarked succeeded alone⟩

end Loaded

end Ebrc
