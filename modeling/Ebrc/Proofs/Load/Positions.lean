import Ebrc.Proofs.Load.Bodies
import Ebrc.Proofs.Load.Failure
import Ebrc.Proofs.Load.LineByLine

/-!
# Where rules and faults stand

Rules and faults name a line of a file. A load notes down the line that it stands at, and the files
that it opens have numbers of their own, so the line named is the one of the file in which the rule
is written, or that is at fault, however deep that file is included. Rules stand in the order in
which a load comes to their lines. Only of a function that is left open is it not the line that the
load stands at, but the header, which is then in the file that has ended.
-/

namespace Ebrc

open Progress

variable {around : Surroundings}

/-! ## Lines of texts -/

/-- The visit is to the line of this text that has its number, counted from 1. -/
structure Visit.IsLineOf (maxName : Int) (text : Text) (visit : Visit) : Prop where
  positive : 0 < visit.here.line
  source : ∃ source, (Text.lines text)[visit.here.line - 1]? = some source ∧
    Encoding.encodeLine maxName source = .ok visit.line

namespace Encoding

variable {maxName : Int} {text file : Text}

/-- From the one of this number on, these are the encoded lines of a text. -/
def LinesFrom (maxName : Int) (text file : Text) (number : Nat) (later : List Line) : Prop :=
  ∃ earlier, lines text file maxName = .ok (earlier ++ later) ∧ number = earlier.length + 1

theorem linesFrom_one {encoded : List Line} (all : lines text file maxName = .ok encoded) :
    LinesFrom maxName text file 1 encoded :=
  ⟨[], all, rfl⟩

namespace LinesFrom

variable {number : Nat} {line : Line} {later : List Line}

theorem tail (lines : LinesFrom maxName text file number (line :: later)) :
    LinesFrom maxName text file (number + 1) later := by
  obtain ⟨earlier, all, rfl⟩ := lines
  exact ⟨earlier ++ [line], by simpa using all, by simp⟩

theorem length (lines : LinesFrom maxName text file number later) :
    (Text.lines text).length + 1 = number + later.length := by
  obtain ⟨earlier, all, rfl⟩ := lines
  rw [(forall₂_of_lines all).length_eq, List.length_append]
  omega

/-- The first of the lines is the one of the source with this number. -/
theorem isLineOf {room : Nat} {p : Progress}
    (lines : LinesFrom maxName text file number (line :: later)) :
    Visit.IsLineOf maxName text ⟨⟨file, number⟩, line, room, p⟩ := by
  obtain ⟨earlier, all, rfl⟩ := lines
  have sources := forall₂_of_lines all
  have inside : earlier.length < (earlier ++ line :: later).length := by simp
  have inside' : earlier.length < (Text.lines text).length := by rwa [sources.length_eq]
  refine ⟨Nat.succ_pos _, (Text.lines text)[earlier.length], List.getElem?_eq_getElem inside', ?_⟩
  simpa using sources.get inside' inside

end LinesFrom

end Encoding

/-! ## What a line adds -/

/-- The rule without its body, which comes later than the rest of it. -/
def Rule.withoutBody (rule : Rule) : Rule := { rule with body := none }

/-- The rule that is added by the line of a visit. -/
def Visit.added? (around : Surroundings) (visit : Visit) : Option Rule :=
  match visit.before.readLine around (fun _ _ p => .ok p) visit.here visit.line with
  | .ok p => p.loaded.rules[visit.before.loaded.rules.length]?
  | .error _ => none

section Reading

variable {here : Position} {line : Line} {p p' : Progress}

theorem RuleTable.map_withoutBody_modifyLast (rules : RuleTable) (body : Option Body) :
    (rules.modifyLast fun rule => { rule with body }).map Rule.withoutBody =
      rules.map Rule.withoutBody := by
  rcases List.eq_nil_or_concat rules with rfl | ⟨others, last, rfl⟩
  · rfl
  · rw [List.concat_eq_append, modifyLast_append_singleton]
    simp [Rule.withoutBody]

/-- A line adds no rule, or one that notes down where the line is; the header of a function adds the
rule of the function. -/
theorem Reading.rules_cases (reading : Reading around here line p p') :
    p'.loaded.rules.map Rule.withoutBody = p.loaded.rules.map Rule.withoutBody ∨
      ∃ rule, p'.loaded.rules = p.loaded.rules ++ [rule] ∧ rule.line = (here.line : Int) ∧
        (p.block.Filters → rule.kind = .function →
          line.isFunctionHeader ∧ rule.pattern = some (line.drop 3)) := by
  cases reading with
  | aside _ _ aside => exact .inl (by rw [aside.loaded.rules])
  | rule _ _ fits position =>
      exact .inr ⟨_, rfl, position, fun _ function => absurd function fits.kind_ne_function⟩
  | filterRule block =>
      exact .inr ⟨_, rfl, rfl, fun filters function =>
        absurd function (OpenBlock.Filters.kind_ne_function filters block)⟩
  | startFunction _ opening letter =>
      refine .inr ⟨_, rfl, rfl, fun _ _ => ⟨?_, rfl⟩⟩
      simp [Line.isFunctionHeader, Line.isOpening, opening, letter]
  | closeFunction => exact .inl (RuleTable.map_withoutBody_modifyLast _ _)
  | _ => exact .inl rfl

/-- A line behind which a function is open stands in it, or is its header. -/
theorem Reading.function_cases (reading : Reading around here line p p') {f' : OpenFunction}
    {inner' : List (Option Char)} (inside : p'.block = .function (some f') inner') :
    (∃ f inner, p.block = .function (some f) inner ∧ f'.name = f.name ∧ f'.line = f.line) ∨
      line.isFunctionHeader ∧ f'.name = line.drop 3 ∧ f'.line = here.line := by
  have stays (same : p'.block = p.block) :
      ∃ f inner, p.block = .function (some f) inner ∧ f'.name = f.name ∧ f'.line = f.line :=
    ⟨f', inner', same.symm.trans inside, rfl, rfl⟩
  cases reading with
  | void => exact .inl (stays rfl)
  | aside _ _ aside => exact .inl (stays aside.block)
  | imapFetch | cacheSize | agent | rule | filterRule | standard => exact .inl (stays rfl)
  | start _ _ starts =>
      simp only at inside
      subst inside
      generalize line.tail.head? = letter at starts
      cases starts
  | startFunction _ opening letter =>
      cases inside
      refine .inr ⟨?_, rfl, rfl⟩
      simp [Line.isFunctionHeader, Line.isOpening, opening, letter]
  | @keep function inner _ block kept =>
      cases function with
      | none => cases inside
      | some f =>
          cases inside
          exact .inl ⟨f, inner, block, rfl, rfl⟩
  | _ => cases inside

end Reading

namespace Visit

variable {v : Text} {rule : Rule} (visit : Visit)

/-- An include adds no rule by itself. -/
theorem added?_of_include (included : visit.before.include? visit.line = some v) :
    visit.added? around = none := by
  unfold added?
  rw [readLine_of_include included]
  exact List.getElem?_eq_none_iff.2 (Nat.le_refl _)

theorem added?_of_error {stop : Stop}
    (fails : visit.before.readLine around (fun _ _ p => .ok p) visit.here visit.line =
      .error stop) : visit.added? around = none := by
  unfold added?
  rw [fails]

theorem added?_of_stops {stop : Stop} (stops : visit.Stops around stop) :
    visit.added? around = none := by
  cases included : visit.before.include? visit.line with
  | some v => exact visit.added?_of_include included
  | none =>
      have fails := stops.line (.inl (by simp [isInclude, included]))
      rw [readLine_of_other included _ fun _ _ p => .ok p] at fails
      exact visit.added?_of_error fails

/-- What is added to the rules by the line of a visit. -/
theorem rules_of_readLine {p : Progress} (other : visit.before.include? visit.line = none)
    (read : visit.before.readLine around (fun _ _ p => .ok p) visit.here visit.line = .ok p) :
    p.loaded.rules.map Rule.withoutBody =
      visit.before.loaded.rules.map Rule.withoutBody ++
        (visit.added? around).toList.map Rule.withoutBody := by
  unfold added?
  simp only [read]
  rcases (reading_of_readLine other read).rules_cases with same | ⟨rule, rules, -⟩
  · have short : p.loaded.rules.length = visit.before.loaded.rules.length := by
      simpa using congrArg List.length same
    rw [List.getElem?_eq_none_iff.2 short.le, same]
    simp
  · rw [rules]
    simp

/-- The rules that are added by the lines of these visits, without their bodies. -/
def rules (around : Surroundings) (visits : List Visit) : List Rule :=
  (visits.filterMap (·.added? around)).map Rule.withoutBody

theorem rules_cons (visits : List Visit) : rules around (visit :: visits) =
    (visit.added? around).toList.map Rule.withoutBody ++ rules around visits := by
  cases added : visit.added? around <;> simp [rules, added]

theorem rules_append (first second : List Visit) :
    rules around (first ++ second) = rules around first ++ rules around second := by
  simp [rules]

variable {visit}

/-- A rule that is added notes down where its line is. -/
theorem placed_of_added? (filters : visit.before.block.Filters)
    (added : visit.added? around = some rule) :
    rule.line = (visit.here.line : Int) ∧ (rule.kind = .function →
      visit.line.isFunctionHeader ∧ rule.pattern = some (visit.line.drop 3)) := by
  cases included : visit.before.include? visit.line with
  | some v =>
      rw [visit.added?_of_include included] at added
      contradiction
  | none =>
      unfold added? at added
      cases read : visit.before.readLine around (fun _ _ p => .ok p) visit.here visit.line with
      | error stop => simp [read] at added
      | ok p =>
          simp only [read] at added
          rcases (reading_of_readLine included read).rules_cases with same | ⟨last, rules, placed⟩
          · have short : p.loaded.rules.length = visit.before.loaded.rules.length := by
              simpa using congrArg List.length same
            rw [List.getElem?_eq_none_iff.2 short.le] at added
            contradiction
          · simp only [rules, List.getElem?_concat_length, Option.some.injEq] at added
            subst added
            exact ⟨placed.1, placed.2 filters⟩

end Visit

/-! ## Along the course of a load -/

/-- A load reads this text of a file: it starts from it, or a visit opens the file, which holds this
text. -/
inductive Visit.ReadsFile (around : Surroundings) (file text : Text) (visits : List Visit) :
    Text → Text → Prop where
  | root : ReadsFile around file text visits file text
  | opened {visit : Visit} {path : Path} {lines : List Line} {text' : Text}
      (among : visit ∈ visits) (opens : visit.Opens around path lines)
      (read : visit.before.files.readText path = .ok text') :
      ReadsFile around file text visits path.toText text'

theorem Visit.ReadsFile.mono {file text file' text' : Text} {visits more : List Visit}
    (reads : Visit.ReadsFile around file text visits file' text') (subset : visits ⊆ more) :
    Visit.ReadsFile around file text more file' text' := by
  cases reads with
  | root => exact .root
  | opened among opens read => exact .opened (subset among) opens read

/-- What is read in a file that a visit opens is read by the whole load. -/
theorem Visit.ReadsFile.inside {file text text₁ file' text' : Text} {visits inner : List Visit}
    {visit : Visit} {path : Path} {lines : List Line} (among : visit ∈ visits)
    (opens : visit.Opens around path lines) (read : visit.before.files.readText path = .ok text₁)
    (subset : inner ⊆ visits)
    (reads : Visit.ReadsFile around path.toText text₁ inner file' text') :
    Visit.ReadsFile around file text visits file' text' := by
  cases reads with
  | root => exact .opened among opens read
  | opened amongInner opens' read' => exact .opened (subset amongInner) opens' read'

/-- A function whose header is this visit is left open by its file, of which these visits are the
rest; and this is the fault that is told. -/
structure Visit.LeftOpen (maxName : Int) (text : Text) (header : Visit) (later : List Visit)
    (error : ConfigError) : Prop where
  isLine : header.IsLineOf maxName text
  heads : header.line.isFunctionHeader
  name : error.fault = .functionLeftOpen (header.line.drop 3)
  path : error.path = some header.here.file
  line : error.line = some header.here.line
  rest : later.map (·.here) =
    (List.range' (header.here.line + 1) later.length).map (Position.mk header.here.file)
  whole : (Text.lines text).length = header.here.line + later.length

/-- How far a load has come, whether it goes on or stops. -/
def Progress.reached : Except Stop Progress → Progress
  | .ok p => p
  | .error stop => stop.progress

namespace Progress

variable {room number : Nat} {file text : Text} {lines earlier : List Line} {p p' : Progress}
variable {visits : List Visit} {r : Except Stop Progress}

/-- The rules are those that are added by the lines that are come to, in this order. -/
theorem Course.rules (course : Course around room file number lines p visits r) :
    (reached r).loaded.rules.map Rule.withoutBody =
      p.loaded.rules.map Rule.withoutBody ++ Visit.rules around visits := by
  induction course with
  | ended p =>
      cases ended : p.endFile _ with
      | ok p' => simp [reached, (endFile_eq_ok ended).1, Visit.rules]
      | error stop =>
          obtain ⟨f, inner, -, rfl⟩ := endFile_eq_error ended
          simp [reached, Visit.rules]
  | @line room number file line _ p p₁ _ _ other read later ih =>
      rw [ih, Visit.rules_cons, ← List.append_assoc,
        Visit.rules_of_readLine ⟨⟨file, number⟩, line, room, p⟩ other read]
  | @stopped room number file line _ p stop stops =>
      rw [Visit.rules_cons, Visit.added?_of_stops _ stops]
      simp [reached, Visit.rules, stops.here.agrees.rules]
  | @passed room number file _ line _ p _ _ _ included unopened later ih =>
      rw [ih, Visit.rules_cons, Visit.added?_of_include ⟨⟨file, number⟩, line, room, p⟩ included]
      rfl
  | @opened room number file _ line _ _ p p₁ _ _ _ _ included opens inside later ihInside ih =>
      have between : p₁.loaded.rules.map Rule.withoutBody = _ := ihInside
      rw [ih, between, Visit.rules_cons, Visit.rules_append,
        Visit.added?_of_include ⟨⟨file, number⟩, line, room + 1, p⟩ included]
      simp
  | @within room number file _ line _ _ p _ _ _ included opens inside ih =>
      rw [ih, Visit.rules_cons,
        Visit.added?_of_include ⟨⟨file, number⟩, line, room + 1, p⟩ included]
      rfl

/-- Every line that is come to is the one with its number in the file that it is in. -/
theorem Course.exists_isLineOf (course : Course around room file number lines p visits r)
    (encoded : Encoding.LinesFrom around.limits.functionName text file number lines) :
    ∀ visit ∈ visits, ∃ text', Visit.ReadsFile around file text visits visit.here.file text' ∧
      visit.IsLineOf around.limits.functionName text' := by
  induction course generalizing text with
  | ended p => simp
  | line other read later ih =>
      refine List.forall_mem_cons.2 ⟨⟨text, .root, encoded.isLineOf⟩, fun visit among => ?_⟩
      obtain ⟨text', reads, isLine⟩ := ih encoded.tail visit among
      exact ⟨text', reads.mono (List.subset_cons_self ..), isLine⟩
  | stopped stops => exact List.forall_mem_singleton.2 ⟨text, .root, encoded.isLineOf⟩
  | passed included unopened later ih =>
      refine List.forall_mem_cons.2 ⟨⟨text, .root, encoded.isLineOf⟩, fun visit among => ?_⟩
      obtain ⟨text', reads, isLine⟩ := ih encoded.tail visit among
      exact ⟨text', reads.mono (List.subset_cons_self ..), isLine⟩
  | opened included opens inside later ihInside ih =>
      refine List.forall_mem_cons.2 ⟨⟨text, .root, encoded.isLineOf⟩, fun visit among => ?_⟩
      rcases List.mem_append.1 among with among | among
      · obtain ⟨text₁, read, encoded₁⟩ := opens.read
        obtain ⟨text', reads, isLine⟩ := ihInside (Encoding.linesFrom_one encoded₁) visit among
        refine ⟨text', reads.inside (List.mem_cons_self ..) opens read ?_, isLine⟩
        exact fun _ within => List.mem_cons_of_mem _ (List.mem_append_left _ within)
      · obtain ⟨text', reads, isLine⟩ := ih encoded.tail visit among
        refine ⟨text', reads.mono ?_, isLine⟩
        exact fun _ behind => List.mem_cons_of_mem _ (List.mem_append_right _ behind)
  | within included opens inside ih =>
      refine List.forall_mem_cons.2 ⟨⟨text, .root, encoded.isLineOf⟩, fun visit among => ?_⟩
      obtain ⟨text₁, read, encoded₁⟩ := opens.read
      obtain ⟨text', reads, isLine⟩ := ih (Encoding.linesFrom_one encoded₁) visit among
      exact ⟨text', reads.inside (List.mem_cons_self ..) opens read (List.subset_cons_self ..),
        isLine⟩

/-- A file that is read to its end ends outside of all functions. -/
theorem Course.outside (course : Course around room file number lines p visits r)
    (done : r = .ok p') (f : OpenFunction) (inner : List (Option Char)) :
    p'.block ≠ .function (some f) inner := by
  induction course with
  | ended p =>
      obtain ⟨rfl, outside⟩ := endFile_eq_ok done
      exact outside f inner
  | line _ _ _ ih | passed _ _ _ ih => exact ih done
  | opened _ _ _ _ _ ih => exact ih done
  | stopped | within => contradiction

/-- A course that stops ends with the line that stops it, or with the end of a file that leaves a
function open. -/
theorem Course.exists_last {stop : Stop}
    (course : Course around room file number lines p visits r) (stopped : r = .error stop) :
    (∃ earlier visit, visits = earlier ++ [visit] ∧ visit.Stops around stop) ∨
      ∃ error name, stop.fault = .config error ∧ error.fault = .functionLeftOpen name := by
  induction course with
  | ended p =>
      obtain ⟨f, inner, -, rfl⟩ := endFile_eq_error stopped
      exact .inr ⟨_, _, rfl, rfl⟩
  | @line room number file line _ p _ _ _ other read later ih
  | @passed room number file _ line _ p _ _ _ included unopened later ih =>
      refine (ih stopped).imp_left ?_
      rintro ⟨earlier, visit, rfl, stops⟩
      exact ⟨⟨⟨file, number⟩, line, room, p⟩ :: earlier, visit, rfl, stops⟩
  | stopped stops =>
      cases stopped
      exact .inl ⟨[], _, rfl, stops⟩
  | @opened room number file _ line _ _ p _ inner _ _ _ included opens inside later ihInside ih =>
      refine (ih stopped).imp_left ?_
      rintro ⟨earlier, visit, rfl, stops⟩
      exact ⟨⟨⟨file, number⟩, line, room + 1, p⟩ :: (inner ++ earlier), visit, by simp, stops⟩
  | @within room number file _ line _ _ p _ _ _ included opens inside ih =>
      refine (ih stopped).imp_left ?_
      rintro ⟨earlier, visit, rfl, stops⟩
      exact ⟨⟨⟨file, number⟩, line, room + 1, p⟩ :: earlier, visit, rfl, stops⟩

/-- If the end of a file leaves a function open, then it is the one that was open before these lines
of the file, or the header is among the lines that are come to. -/
theorem Course.leftOpen {stop : Stop} {error : ConfigError} {name : Text}
    (course : Course around room file number lines p visits r)
    (encoded : Encoding.LinesFrom around.limits.functionName text file number lines)
    (stopped : r = .error stop) (fault : stop.fault = .config error)
    (about : error.fault = .functionLeftOpen name) :
    (∃ f inner, p.block = .function (some f) inner ∧
        error = ⟨.functionLeftOpen f.name, some file, some f.line⟩ ∧
        visits.map (·.here) = (List.range' number visits.length).map (Position.mk file) ∧
        visits.length = lines.length) ∨
      ∃ earlier header later text', visits = earlier ++ header :: later ∧
        Visit.ReadsFile around file text visits header.here.file text' ∧
        header.LeftOpen around.limits.functionName text' later error := by
  induction course generalizing text with
  | ended p =>
      obtain ⟨f, inner, block, rfl⟩ := endFile_eq_error stopped
      cases fault
      exact .inl ⟨f, inner, block, rfl, rfl, rfl⟩
  | @line room number file line rest p _ visits _ other read later ih =>
      rcases ih encoded.tail stopped with
        ⟨f', inner', inside, rfl, heres, length⟩ |
          ⟨earlier, header, behind, text', rfl, reads, left⟩
      · rcases (reading_of_readLine other read).function_cases inside with
          ⟨f, inner, block, name, line⟩ | ⟨heads, name, line⟩
        · refine .inl ⟨f, inner, block, by rw [name, line], ?_, by simp [length]⟩
          simp [heres, List.range'_succ]
        · have whole := encoded.length
          refine .inr ⟨[], _, visits, text, rfl, .root, encoded.isLineOf, heads, by rw [name], rfl,
            by rw [line], heres, ?_⟩
          simp only [List.length_cons] at whole ⊢
          omega
      · exact .inr ⟨⟨⟨file, number⟩, _, room, p⟩ :: earlier, header, behind, text', rfl,
          reads.mono (List.subset_cons_self ..), left⟩
  | stopped stops =>
      cases stopped
      exact absurd about (stops.here.closed fault)
  | @passed room number file _ line _ p _ _ _ included unopened later ih =>
      have outside := (include?_eq_some included).1
      rcases ih encoded.tail stopped with
        ⟨f, inner, inside, -⟩ | ⟨earlier, header, behind, text', rfl, reads, left⟩
      · cases outside.symm.trans inside
      · exact .inr ⟨⟨⟨file, number⟩, line, room, p⟩ :: earlier, header, behind, text', rfl,
          reads.mono (List.subset_cons_self ..), left⟩
  | @opened room number file _ line _ _ p _ within _ _ _ included opens inside later ihInside ih =>
      rcases ih encoded.tail stopped with
        ⟨f, inner, open', -⟩ | ⟨earlier, header, behind, text', rfl, reads, left⟩
      · exact absurd open' (inside.outside rfl f inner)
      · refine .inr ⟨⟨⟨file, number⟩, line, room + 1, p⟩ :: (within ++ earlier), header, behind,
          text', by simp, reads.mono ?_, left⟩
        exact fun _ among => List.mem_cons_of_mem _ (List.mem_append_right _ among)
  | @within room number file _ line _ _ p _ _ _ included opens inside ih =>
      have outside := (include?_eq_some included).1
      obtain ⟨text₁, read, encoded₁⟩ := opens.read
      rcases ih (Encoding.linesFrom_one encoded₁) stopped with
        ⟨f, inner, open', -⟩ | ⟨earlier, header, behind, text', rfl, reads, left⟩
      · cases outside.symm.trans open'
      · exact .inr ⟨⟨⟨file, number⟩, line, room + 1, p⟩ :: earlier, header, behind, text', rfl,
          reads.inside (List.mem_cons_self ..) opens read (List.subset_cons_self ..), left⟩

end Progress

/-! ## Loads -/

/-- A fault that names a line is about the one that the load stands at: a line of the text that
cannot be encoded, before any line is come to, or the last line that is come to. But a fault of a
function that is left open names the header, in the file that has ended. -/
inductive ConfigError.PlacedAt (around : Surroundings) (file text : Text) (visits : List Visit)
    (error : ConfigError) (n : Nat) : Prop where
  | encoding {earlier later : List Text} {source : Text} (unread : visits = [])
      (split : Text.lines text = earlier ++ source :: later)
      (accepted : ∀ other ∈ earlier, ∃ line,
        Encoding.encodeLine around.limits.functionName other = .ok line)
      (refused : Encoding.encodeLine around.limits.functionName source = .error error.fault)
      (path : error.path = some file) (number : n = earlier.length + 1)
  | reading {earlier : List Visit} {visit : Visit} {p : Progress}
      (last : visits = earlier ++ [visit])
      (fails : visit.before.readLine around (refuseInclude around) visit.here visit.line =
        .error ⟨.config error, p⟩)
      (path : error.path = some visit.here.file) (number : n = visit.here.line)
      (other : ∀ name, error.fault ≠ .functionLeftOpen name)
  | ending {earlier later : List Visit} {header : Visit} {text' : Text}
      (split : visits = earlier ++ header :: later)
      (source : Visit.ReadsFile around file text visits header.here.file text')
      (leftOpen : header.LeftOpen around.limits.functionName text' later error)
      (number : n = header.here.line)

namespace Loaded

variable {text file : Text} {before : Loaded} {files : FileSystem} {log : EventLog}

/-- A load of a text keeps the places of its lines. The visits are those of a course through the
files, and each is one to the line of a source text that it names. The rules, which a fault of the
configuration would clear away, are those that the visited lines add, in the order of the visits.
Each of them notes down the place of its line. A fault that names a line names the right one. -/
structure KeepsPlaces (around : Surroundings) (text file : Text) (before : Loaded)
    (files : FileSystem) (log : EventLog) (result : LoadResult) : Prop where
  order : ∀ lines, Encoding.lines text file around.limits.functionName = .ok lines →
    Progress.Course around around.limits.includeDepth file 1 lines (before.begin file files log)
      (before.visits around text file files log)
      (readFile around around.limits.includeDepth file lines (before.begin file files log))
  sources : ∀ visit ∈ before.visits around text file files log, ∃ text',
    Visit.ReadsFile around file text (before.visits around text file files log)
      visit.here.file text' ∧ visit.IsLineOf around.limits.functionName text'
  rules : (∀ error, result.fault ≠ some (.config error)) →
    result.loaded.rules.map Rule.withoutBody =
      Visit.rules around (before.visits around text file files log)
  cleared : ∀ error, result.fault = some (.config error) → result.loaded.rules = []
  places : ∀ visit ∈ before.visits around text file files log,
    ∀ rule, visit.added? around = some rule → rule.line = (visit.here.line : Int) ∧
      (rule.kind = .function → visit.line.isFunctionHeader ∧
        rule.pattern = some (visit.line.drop 3))
  fault : ∀ error n, result.fault = some (.config error) → error.line = some n →
    error.PlacedAt around file text (before.visits around text file files log) n

/-- The visits of a load are those of its course. -/
theorem course_readFile {lines : List Line}
    (encoded : Encoding.lines text file around.limits.functionName = .ok lines) :
    Progress.Course around around.limits.includeDepth file 1 lines (before.begin file files log)
      (before.visits around text file files log)
      (readFile around around.limits.includeDepth file lines (before.begin file files log)) := by
  rw [visits, encoded]
  exact Progress.course_readFile

/-- The rules that are left by a load that is not stopped by a fault of the configuration. -/
theorem rules_loadText {lines : List Line}
    (encoded : Encoding.lines text file around.limits.functionName = .ok lines)
    (kept : ∀ error,
      (before.loadText around text file files log).fault ≠ some (.config error)) :
    (before.loadText around text file files log).loaded.rules =
      (reached (readFile around around.limits.includeDepth file lines
        (before.begin file files log))).loaded.rules := by
  rw [loadText_of_lines encoded] at kept ⊢
  unfold readRoot at kept ⊢
  cases read : readFile around around.limits.includeDepth file lines
      (before.begin file files log) with
  | error stop =>
      obtain ⟨fault, p⟩ := stop
      cases fault with
      | config error => simp [read, bind, Except.bind] at kept
      | crash c => rfl
  | ok p =>
      cases finished : p.finish file with
      | ok p' => simp [reached, bind, Except.bind, finished, rules_of_finish finished]
      | error stop =>
          rw [finish_eq_error finished] at finished
          simp [read, bind, Except.bind, finished] at kept

/-- A fault of the configuration that names a line has stopped the reading of the files. -/
theorem stopped_of_loadText {lines : List Line} {error : ConfigError} {n : Nat}
    (encoded : Encoding.lines text file around.limits.functionName = .ok lines)
    (fault : (before.loadText around text file files log).fault = some (.config error))
    (line : error.line = some n) : ∃ p,
      readFile around around.limits.includeDepth file lines (before.begin file files log) =
        .error ⟨.config error, p⟩ := by
  rw [loadText_of_lines encoded] at fault
  unfold readRoot at fault
  cases read : readFile around around.limits.includeDepth file lines
      (before.begin file files log) with
  | error stop =>
      obtain ⟨fault', p⟩ := stop
      cases fault' with
      | config error' =>
          simp only [read, bind, Except.bind, Option.some.injEq, LoadFault.config.injEq] at fault
          exact ⟨p, by rw [fault]⟩
      | crash c => simp [read, bind, Except.bind] at fault
  | ok p =>
      cases finished : p.finish file with
      | ok p' => simp [read, bind, Except.bind, finished] at fault
      | error stop =>
          rw [finish_eq_error finished] at finished
          simp only [read, bind, Except.bind, finished, Option.some.injEq, LoadFault.config.injEq]
            at fault
          rw [← fault] at line
          contradiction

theorem keepsPlaces_loadText : before.KeepsPlaces around text file files log
    (before.loadText around text file files log) := by
  cases encoded : Encoding.lines text file around.limits.functionName with
  | error error =>
      have unread : before.visits around text file files log = [] := by
        rw [visits, encoded]
      have result : before.loadText around text file files log =
          ⟨some (.config error), before.reset, files, log⟩ := by
        rw [loadText, encoded]
      rw [result]
      refine ⟨by simp [encoded], by simp [unread], fun kept => absurd rfl (kept error), ?_,
        by simp [unread], ?_⟩
      · intro _ _
        rfl
      · intro error' n told number
        cases told
        obtain ⟨earlier, source, later, split, accepted, refused, path, line⟩ :=
          Encoding.exists_of_lines_eq_error encoded
        rw [line] at number
        exact .encoding unread split accepted refused path (Option.some.inj number).symm
  | ok lines =>
      have course : Progress.Course around _ file 1 lines (before.begin file files log) _ _ :=
        course_readFile encoded
      have linesFrom := Encoding.linesFrom_one encoded
      refine ⟨?_, course.exists_isLineOf linesFrom, ?_, ?_, ?_, ?_⟩
      · intro lines' again
        cases encoded.symm.trans again
        exact course
      · intro kept
        rw [rules_loadText encoded kept, course.rules]
        rfl
      · intro error failed
        rw [fresh_of_config failed]
        rfl
      · intro visit among rule added
        obtain ⟨sights, -, earlier, later, -, reads⟩ := leadsTo_of_mem_visits among
        have filters : (before.begin file files log).block.Filters := by
          intro kind impossible
          contradiction
        exact visit.placed_of_added? (reads.filters filters) added
      · intro error n fault line
        obtain ⟨p, stopped⟩ := stopped_of_loadText encoded fault line
        rcases course.exists_last stopped with
          ⟨earlier, visit, last, stops⟩ | ⟨error', name, same, about⟩
        · refine .reading last (stops.line (.inr ⟨error, rfl⟩)) (stops.here.file rfl)
            (stops.here.line rfl line) fun name => stops.here.closed rfl
        · cases same
          rcases course.leftOpen linesFrom stopped rfl about with
            ⟨f, inner, inside, -⟩ | ⟨earlier, header, later, text', split, source, left⟩
          · contradiction
          · rw [left.line] at line
            exact .ending split source left (Option.some.inj line).symm

/-- Positions point at the right file and line, in every load over every tree of includes, whether
it succeeds or not. A load of a file does as the load of its text does, or cannot read it; then
nothing is loaded, and no line is named. -/
theorem keepsPlaces (around : Surroundings) (file : Text) (before : Loaded) (files : FileSystem)
    (log : EventLog) :
    (∀ text, before.KeepsPlaces around text file files log
      (before.loadText around text file files log)) ∧
    match files.readText (Path.ofText file) with
    | .ok text =>
      before.KeepsPlaces around text file files log (before.load around file files log)
    | .error _ =>
      (before.load around file files log).loaded.rules = [] ∧
        ∀ error, (before.load around file files log).fault = some (.config error) →
          error.line = none := by
  refine ⟨fun text => keepsPlaces_loadText, ?_⟩
  cases read : files.readText (Path.ofText file) with
  | ok text =>
      simp only [load, read]
      exact keepsPlaces_loadText
  | error reason =>
      cases reason with
      | badPath => simp [load, read, reset, fresh]
      | _ =>
          simp only [load, read]
          refine ⟨rfl, ?_⟩
          rintro error ⟨⟩
          rfl

/-- A function that an included file leaves open, behind an include of a file that it can read. -/
def leftOpenInside : FileSystem :=
  let bytes (text : String) : List UInt8 := text.toList.map fun c => c.toNat.toUInt8
  { entries := [
      ([['r']], .file (bytes "nojs=a.b\ninclude=m\nnojs=c.d\n")),
      ([['m']], .file (bytes "include=n\n\nfunction:f\x7b\nbw\n")),
      ([['n']], .file (bytes "# no more\nnovs=e.f\n"))] }

example : ((fresh ['a']).load ⟨{}, {}⟩ ['r'] leftOpenInside #[]).fault =
    some (.config ⟨.functionLeftOpen ['f'], some ['m'], some 3⟩) := by
  decide +kernel

end Loaded

end Ebrc
