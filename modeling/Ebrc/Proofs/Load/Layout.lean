import Ebrc.Proofs.Load.Bodies
import Ebrc.Proofs.Load.Includes
import Ebrc.Proofs.Text.Lines
import Mathlib.Logic.Relation

/-!
# Layout does not matter

Blank lines, comments, indentation and the ends of lines are the layout of an rc file. Texts that
differ in layout are encoded into the same lines but for void ones, or both are refused. Void lines
are passed over wherever they stand, in the body of a function as in a filter, so both texts load
the same but for the numbers of the lines that made the rules.
-/

namespace Ebrc

/-! ## Changes of the layout -/

/-- A change of the layout of a text at one place. -/
inductive Text.LayoutEdit : Text → Text → Prop where
  /-- A blank line or a comment is put between lines. -/
  | insert {before after line : Text} (whole : before.Whole) (single : '\n' ∉ line)
      (clean : '\x00' ∉ line) (silent : Encoding.isSilent line) :
      LayoutEdit (before ++ after) (before ++ (line ++ '\n' :: after))
  /-- Blanks are put in front of a line. -/
  | indent {before after blanks : Text} (whole : before.Whole)
      (blank : ∀ c ∈ blanks, Text.isLineBlank c) :
      LayoutEdit (before ++ after) (before ++ (blanks ++ after))
  | addFinal {t : Text} : LayoutEdit t (t ++ ['\n'])
  | dropFinal {t : Text} : LayoutEdit (t ++ ['\n']) t
  /-- A line that ends in a line feed gets a carriage return in front of it. -/
  | addReturn {before after : Text} (unreturned : before.getLast? ≠ some '\r') :
      LayoutEdit (before ++ '\n' :: after) (before ++ '\r' :: '\n' :: after)

/-- The source lines are encoded alike, one by one, but for silent ones in between. -/
inductive Encoding.SameButSilent : List Text → List Text → Prop where
  | nil : SameButSilent [] []
  | keep {source source' : Text} {rest rest' : List Text}
      (same : ∀ maxName, encodeLine maxName source' = encodeLine maxName source)
      (later : SameButSilent rest rest') : SameButSilent (source :: rest) (source' :: rest')
  | insert {source : Text} {rest rest' : List Text} (clean : '\x00' ∉ source)
      (silent : isSilent source) (later : SameButSilent rest rest') :
      SameButSilent rest (source :: rest')
  | drop {source : Text} {rest rest' : List Text} (clean : '\x00' ∉ source)
      (silent : isSilent source) (later : SameButSilent rest rest') :
      SameButSilent (source :: rest) rest'

/-! ## Outcomes of which one is changed -/

section Alike

variable {ε ε' α : Type} {Same : α → α → Prop} {f : α → α} {r r' : Except ε α}

theorem Alike.map_left (alike : Alike Same r r') (next : ∀ a b, Same a b → Same (f a) b) :
    Alike Same (r.map f) r' := by
  cases alike with
  | ok same => exact .ok (next _ _ same)
  | error => exact .error

theorem Alike.map_right (alike : Alike Same r r') (next : ∀ a b, Same a b → Same a (f b)) :
    Alike Same r (r'.map f) := by
  cases alike with
  | ok same => exact .ok (next _ _ same)
  | error => exact .error

theorem Alike.mapError {g : ε → ε'} (alike : Alike Same r r') :
    Alike Same (r.mapError g) (r'.mapError g) := by
  cases alike with
  | ok same => exact .ok same
  | error => exact .error

theorem Alike.symm (alike : Alike Same r r') (symm : ∀ a b, Same a b → Same b a) :
    Alike Same r' r := by
  cases alike with
  | ok same => exact .ok (symm _ _ same)
  | error => exact .error

end Alike

/-! ## Source lines -/

namespace Encoding

variable {maxName : Int} {source source' : Text} {rest rest' : List Text}

theorem SameButSilent.refl (sources : List Text) : SameButSilent sources sources := by
  induction sources with
  | nil => exact .nil
  | cons source rest ih => exact .keep (fun _ => rfl) ih

theorem SameButSilent.append (sources : List Text) (same : SameButSilent rest rest') :
    SameButSilent (sources ++ rest) (sources ++ rest') := by
  induction sources with
  | nil => exact same
  | cons source sources ih => exact .keep (fun _ => rfl) ih

/-- Null characters and what is left without the outward form decide what a line is encoded into. -/
theorem encodeLine_congr (null : '\x00' ∈ source' ↔ '\x00' ∈ source)
    (same : plain source' = plain source) :
    encodeLine maxName source' = encodeLine maxName source := by
  have contains : source'.contains '\x00' = source.contains '\x00' := by
    rw [Bool.eq_iff_iff, List.contains_iff_mem, List.contains_iff_mem]
    exact null
  unfold plain at same
  unfold encodeLine
  rw [contains, same]

theorem encodeLine_silent (clean : '\x00' ∉ source) (silent : isSilent source) :
    ∃ line, encodeLine maxName source = .ok line ∧ Line.isVoid line := by
  have accepted : ∃ line, encodeLine maxName source = .ok line := by
    unfold isSilent plain at silent
    unfold encodeLine
    rw [if_neg (by rwa [List.contains_iff_mem])]
    dsimp only
    split
    · exact ⟨_, rfl⟩
    · rename_i other
      simp only [other, decide_false, Bool.or_false, List.isEmpty_iff] at silent
      rw [silent]
      exact ⟨_, rfl⟩
  obtain ⟨line, encoded⟩ := accepted
  exact ⟨line, encoded, (isVoid_eq_isSilent encoded).trans silent⟩

/-! ## Edits and lines -/

theorem dropReturn_append {front t : Text} (given : t ≠ []) :
    dropReturn (front ++ t) = front ++ dropReturn t := by
  induction front with
  | nil => rfl
  | cons c front ih =>
      rw [List.cons_append, dropReturn_cons (.inr (by simp [given])), ih, List.cons_append]

/-- Indentation is dropped. -/
theorem plain_append {blanks : Text} (blank : ∀ c ∈ blanks, Text.isLineBlank c) (source : Text) :
    plain (blanks ++ source) = plain source := by
  have stripped (t : Text) : Text.stripLeft Text.isLineBlank (blanks ++ t) =
      Text.stripLeft Text.isLineBlank t := List.dropWhile_append_of_pos blank
  unfold plain
  cases source with
  | nil =>
      have bare : dropReturn (blanks ++ []) = blanks ++ dropReturn [] := by
        rw [List.append_nil, dropReturn_eq_self]
        · exact (List.append_nil _).symm
        · intro last
          exact absurd (blank _ (List.mem_of_getLast? last)) (by decide)
      rw [bare, stripped]
  | cons c source => rw [dropReturn_append (List.cons_ne_nil c source), stripped]

theorem not_mem_of_blank {blanks : Text} {c : Char} (blank : ∀ c ∈ blanks, Text.isLineBlank c)
    (other : Text.isLineBlank c = false) : c ∉ blanks := by
  intro among
  rw [blank c among] at other
  contradiction

theorem encodeLine_indent {blanks : Text} (blank : ∀ c ∈ blanks, Text.isLineBlank c) :
    encodeLine maxName (blanks ++ source) = encodeLine maxName source := by
  refine encodeLine_congr ?_ (plain_append blank source)
  simp [not_mem_of_blank blank (c := '\x00') rfl]

theorem encodeLine_return (unreturned : source.getLast? ≠ some '\r') :
    encodeLine maxName (source ++ ['\r']) = encodeLine maxName source := by
  refine encodeLine_congr (by simp) ?_
  unfold plain
  rw [dropReturn_append_return, dropReturn_eq_self unreturned]

theorem sameButSilent_indent {blanks : Text} (blank : ∀ c ∈ blanks, Text.isLineBlank c)
    (t : Text) : SameButSilent (Text.lines t) (Text.lines (blanks ++ t)) := by
  have feedless : '\n' ∉ blanks := not_mem_of_blank blank rfl
  rcases Text.exists_first_line t with absent | ⟨l, rest, absent, rfl⟩
  · have absent' : '\n' ∉ blanks ++ t := by simp [feedless, absent]
    rw [Text.lines_of_not_mem absent, Text.lines_of_not_mem absent']
    by_cases empty : t = []
    · -- Blanks behind the last line are a blank line of their own.
      rw [empty, if_pos rfl, List.append_nil]
      split
      · exact .nil
      · refine .insert (not_mem_of_blank blank rfl) ?_ .nil
        have nothing := plain_append blank []
        rw [List.append_nil] at nothing
        rw [isSilent, nothing]
        rfl
    · rw [if_neg empty, if_neg (by simp [empty])]
      exact .keep (fun _ => encodeLine_indent blank) .nil
  · have absent' : '\n' ∉ blanks ++ l := by simp [feedless, absent]
    rw [← List.append_assoc, Text.lines_append_cons absent, Text.lines_append_cons absent']
    exact .keep (fun _ => encodeLine_indent blank) (.refl _)

/-- A change of the layout leaves the lines as they are encoded, but for silent ones. -/
theorem sameButSilent_of_edit {t t' : Text} (edit : t.LayoutEdit t') :
    SameButSilent (Text.lines t) (Text.lines t') := by
  have final (t : Text) : Text.lines (t ++ ['\n']) = Text.lines t ∨
      Text.lines (t ++ ['\n']) = Text.lines t ++ [[]] := by
    by_cases whole : t.Whole
    · exact .inr (Text.lines_append whole ['\n'])
    · exact .inl (Text.lines_append_feed whole)
  cases edit with
  | insert whole single clean silent =>
      rw [Text.lines_append whole, Text.lines_append whole, Text.lines_append_cons single]
      exact .append _ (.insert clean silent (.refl _))
  | indent whole blank =>
      rw [Text.lines_append whole, Text.lines_append whole]
      exact .append _ (sameButSilent_indent blank _)
  | addFinal =>
      rcases final t with same | more
      · rw [same]
        exact .refl _
      · rw [more]
        conv in (Text.lines t) => rw [← List.append_nil (Text.lines t)]
        exact .append _ (.insert List.not_mem_nil rfl .nil)
  | dropFinal =>
      rcases final t' with same | more
      · rw [same]
        exact .refl _
      · rw [more]
        have appended : SameButSilent (Text.lines t' ++ [[]]) (Text.lines t' ++ []) :=
          .append _ (.drop List.not_mem_nil rfl .nil)
        rwa [List.append_nil] at appended
  | @addReturn before after unreturned =>
      obtain ⟨front, l, whole, single, rfl⟩ := Text.exists_last_line before
      have single' : '\n' ∉ l ++ ['\r'] := by simp [single]
      have unreturned' : l.getLast? ≠ some '\r' := by
        intro last
        rw [List.getLast?_append, last] at unreturned
        exact unreturned rfl
      have shape : l ++ '\r' :: '\n' :: after = (l ++ ['\r']) ++ '\n' :: after := by simp
      rw [List.append_assoc, List.append_assoc, shape, Text.lines_append whole,
        Text.lines_append whole, Text.lines_append_cons single, Text.lines_append_cons single']
      exact .append _ (.keep (fun _ => encodeLine_return unreturned') (.refl _))

/-! ## Encoded lines -/

/-- The lines that say something. -/
def spoken (lines : List Line) : List Line := lines.filter (!Line.isVoid ·)

theorem spoken_void {line : Line} {lines : List Line} (void : Line.isVoid line) :
    spoken (line :: lines) = spoken lines := List.filter_cons_of_neg (by simp [void])

/-- The lines of two encodings that say something are the same. -/
def SpeakAlike (lines lines' : List Line) : Prop := spoken lines' = spoken lines

theorem encodeFrom_cons {line : Line} {number : Nat}
    (encoded : encodeLine maxName source = .ok line) :
    encodeFrom maxName number (source :: rest) =
      (encodeFrom maxName (number + 1) rest).map (line :: ·) := by
  rw [encodeFrom, encoded]

/-- Source lines that are encoded alike but for silent ones are all accepted, or both are refused,
and the lines that say something are the same. -/
theorem SameButSilent.alike {sources sources' : List Text} (same : SameButSilent sources sources')
    {number number' : Nat} :
    Alike SpeakAlike (encodeFrom maxName number sources) (encodeFrom maxName number' sources') := by
  induction same generalizing number number' with
  | nil => exact .ok rfl
  | @keep source source' _ _ same _ ih =>
      unfold encodeFrom
      rw [same]
      cases encodeLine maxName source with
      | error fault => exact .error
      | ok line =>
          refine ih.map fun lines lines' spoken => ?_
          simp only [SpeakAlike, Encoding.spoken, List.filter_cons] at spoken ⊢
          rw [spoken]
  | insert clean silent _ ih =>
      obtain ⟨line, encoded, void⟩ : ∃ line, encodeLine maxName _ = .ok line ∧ Line.isVoid line :=
        encodeLine_silent clean silent
      rw [encodeFrom_cons encoded]
      exact ih.map_right fun _ _ spoken => (spoken_void void).trans spoken
  | drop clean silent _ ih =>
      obtain ⟨line, encoded, void⟩ : ∃ line, encodeLine maxName _ = .ok line ∧ Line.isVoid line :=
        encodeLine_silent clean silent
      rw [encodeFrom_cons encoded]
      exact ih.map_left fun _ _ spoken => spoken.trans (spoken_void void).symm

/-- Texts that differ in layout are encoded into the same lines but for void ones, or both are
refused. -/
theorem alike_lines {t t' file : Text} (edits : Relation.ReflTransGen Text.LayoutEdit t t') :
    Alike SpeakAlike (lines t file maxName) (lines t' file maxName) := by
  have once {t t' : Text} (same : SameButSilent (Text.lines t) (Text.lines t')) :
      Alike SpeakAlike (lines t file maxName) (lines t' file maxName) :=
    same.alike.mapError
  induction edits with
  | refl => exact once (.refl _)
  | tail _ edit ih =>
      have back := (once (sameButSilent_of_edit edit)).symm fun _ _ => Eq.symm
      exact ih.join back fun _ _ _ first second => second.symm.trans first

end Encoding

/-! ## Lines that say the same -/

/-- What is loaded, without the lines that made the rules. -/
def Loaded.unnumbered (s : Loaded) : Loaded := { s with rules := s.rules.map Rule.unplaced }

namespace Progress

/-- Two loads have come equally far, up to places and events, and have read the same files. -/
structure Same (p q : Progress) : Prop where
  like : p.Like q
  read : q.loaded.files = p.loaded.files

variable {around : Surroundings} {p q : Progress} {here there : Position} {line : Line}
  {file v : Text} {number number' : Nat} {lines lines' : List Line}

theorem Same.refl (p : Progress) : p.Same p := ⟨rfl, rfl⟩

theorem Same.join {r : Progress} (first : p.Same r) (second : q.Same r) : p.Same q where
  like := second.like.symm.trans first.like
  read := second.read.symm.trans first.read

theorem Same.unnumbered (same : p.Same q) : q.loaded.unnumbered = p.loaded.unnumbered := by
  have unplaced : q.loaded.unplaced = p.loaded.unplaced := congrArg (·.loaded) same.like
  have whole (s : Loaded) : s.unnumbered = { s.unplaced with files := s.files } := rfl
  rw [whole, whole, unplaced, same.read]

theorem Same.include? (same : p.Same q) : q.include? line = p.include? line := by
  rw [← include?_unplaced, show q.unplaced = p.unplaced from same.like, include?_unplaced]

/-- What two states do alike, that are the same, they do the same if it reads no other file. -/
theorem Same.of_alike {r r' : Except Stop Progress} (same : p.Same q) (alike : Alike Like r r')
    (kept : ∀ {p'}, r = .ok p' → p'.loaded.files = p.loaded.files)
    (kept' : ∀ {q'}, r' = .ok q' → q'.loaded.files = q.loaded.files) : Alike Same r r' := by
  cases alike with
  | ok like => exact .ok ⟨like, (kept' rfl).trans (same.read.trans (kept rfl).symm)⟩
  | error => exact .error

theorem Same.readLine (same : p.Same q) (other : p.include? line = none)
    {includeFile includeFile' : Position → Text → Progress → Except Stop Progress} :
    Alike Same (p.readLine around includeFile here line)
      (q.readLine around includeFile' there line) :=
  same.of_alike (same.like.readLine other) (fun done => (reading_of_readLine other done).files)
    fun done => (reading_of_readLine (same.include?.trans other) done).files

theorem readLine_void (void : Line.isVoid line)
    {includeFile : Position → Text → Progress → Except Stop Progress} :
    p.readLine around includeFile here line = .ok p := if_pos void

theorem Same.endFile (same : p.Same q) : Alike Same (p.endFile file) (q.endFile file) :=
  same.of_alike same.like.endFile (fun done => by rw [(endFile_eq_ok done).1])
    fun done => by rw [(endFile_eq_ok done).1]

theorem Same.finish (same : p.Same q) : Alike Same (p.finish file) (q.finish file) := by
  have kept {p p' : Progress} (done : p.finish file = .ok p') :
      p'.loaded.files = p.loaded.files := by
    rw [(finish_eq_ok done).2]
    split <;> rfl
  exact same.of_alike same.like.finish kept kept

/-! ## Files -/

section Lines

variable {includeFile : Position → Text → Progress → Except Stop Progress}

/-- The include may be read from the same progress on, wherever it stands in the file. -/
def IncludesAlike (includeFile : Position → Text → Progress → Except Stop Progress)
    (file : Text) : Prop :=
  ∀ number number' v p q, Same p q →
    Alike Same (includeFile ⟨file, number⟩ v p) (includeFile ⟨file, number'⟩ v q)

/-- Lines do what those of them do that say something. -/
theorem Same.readLines_spoken (includes : IncludesAlike includeFile file) (same : p.Same q) :
    Alike Same (readLines around includeFile file number lines p)
      (readLines around includeFile file number' (Encoding.spoken lines) q) := by
  -- Behind a void line the numbers differ, so both are left free.
  induction lines generalizing number number' p q with
  | nil => exact .ok same
  | cons line rest ih =>
      by_cases void : Line.isVoid line
      · rw [Encoding.spoken_void void, readLines, readLine_void void]
        exact ih same
      · have spoken : Encoding.spoken (line :: rest) = line :: Encoding.spoken rest :=
          List.filter_cons_of_pos (by simp [void])
        rw [spoken, readLines, readLines]
        refine Alike.bind ?_ fun _ _ same => ih same
        cases included : p.include? line with
        | none => exact same.readLine included
        | some v =>
            rw [readLine_of_include included, readLine_of_include (same.include?.trans included)]
            exact includes _ _ _ _ _ same

theorem Same.readAll (includes : IncludesAlike includeFile file) (same : p.Same q)
    (spoken : Encoding.SpeakAlike lines lines') :
    Alike Same (readAll around includeFile file lines p)
      (readAll around includeFile file lines' q) := by
  have first : Alike Same (readLines around includeFile file 1 lines p)
      (readLines around includeFile file 1 (Encoding.spoken lines) q) :=
    same.readLines_spoken includes
  have second : Alike Same (readLines around includeFile file 1 lines' q)
      (readLines around includeFile file 1 (Encoding.spoken lines') q) :=
    (Same.refl q).readLines_spoken includes
  rw [spoken] at second
  exact (first.join second fun _ _ _ => Same.join).bind fun _ _ same => same.endFile

end Lines

/-- The same path or the same lines, and the same progress. -/
def SameWith {α : Type} (a b : α × Progress) : Prop := b.1 = a.1 ∧ a.2.Same b.2

theorem Same.includedPath (same : p.Same q) {env : Environment} :
    Alike SameWith (p.includedPath env ⟨file, number⟩ v)
      (q.includedPath env ⟨file, number'⟩ v) := by
  unfold Progress.includedPath expandPath
  dsimp only
  cases Environment.remaining? (env.expand v) with
  | some name => exact .ok ⟨rfl, same.like, same.read⟩
  | none =>
      cases env.expandHome (Path.ofText (env.expand v)) with
      | error reason => exact .error
      | ok path => exact .ok ⟨rfl, same⟩

theorem Same.openInclude (same : p.Same q) {limits : Limits} {path : Path} :
    Alike SameWith (p.openInclude limits ⟨file, number⟩ path)
      (q.openInclude limits ⟨file, number'⟩ path) := by
  have files : q.files = p.files := congrArg (·.files) same.like
  unfold Progress.openInclude
  dsimp only
  rw [files]
  cases p.files.readText path with
  | error reason =>
      cases reason with
      | badPath => exact .error
      | _ => exact .ok ⟨rfl, same.like, same.read⟩
  | ok text =>
      dsimp only
      cases Encoding.lines text path.toText limits.functionName with
      | error error => exact .ok ⟨rfl, same.like, same.read⟩
      | ok lines =>
          refine .ok ⟨rfl, same.like, ?_⟩
          simp only [modify_loaded, same.read]

theorem includesAlike_refuseInclude : IncludesAlike (refuseInclude around) file := by
  intro number number' v p q same
  refine same.includedPath.bind ?_
  rintro ⟨_, p₁⟩ ⟨path?, q₁⟩ ⟨rfl, same⟩
  cases path? with
  | none => exact .ok same
  | some path => exact alike_stop

theorem includesAlike_followInclude {read : Text → List Line → Progress → Except Stop Progress}
    (reads : ∀ {file lines p q}, Same p q → Alike Same (read file lines p) (read file lines q)) :
    IncludesAlike (followInclude around read) file := by
  intro number number' v p q same
  refine same.includedPath.bind ?_
  rintro ⟨_, p₁⟩ ⟨path?, q₁⟩ ⟨rfl, same⟩
  cases path? with
  | none => exact .ok same
  | some path =>
      refine same.openInclude.bind ?_
      rintro ⟨_, p₂⟩ ⟨lines?, q₂⟩ ⟨rfl, same⟩
      cases lines? with
      | none => exact .ok same
      | some lines => exact reads same

/-- Files whose lines say the same are read the same from the same progress on. -/
theorem Same.readFile {depth : Nat} (same : p.Same q) (spoken : Encoding.SpeakAlike lines lines') :
    Alike Same (readFile around depth file lines p) (readFile around depth file lines' q) := by
  induction depth generalizing file lines lines' p q with
  | zero => exact same.readAll includesAlike_refuseInclude spoken
  | succ depth ih =>
      exact same.readAll (includesAlike_followInclude fun same => ih same rfl) spoken

end Progress

/-! ## Loads -/

namespace Loaded

variable {around : Surroundings} {text text' file : Text} {before : Loaded} {files : FileSystem}
  {log : EventLog}

/-- The lines that say something decide how a load ends. -/
theorem exists_readRoot_of_spoken {lines lines' : List Line} {p : Progress}
    (spoken : Encoding.SpeakAlike lines lines')
    (read : before.readRoot around file lines files log = .ok p) :
    ∃ q, before.readRoot around file lines' files log = .ok q ∧ p.Same q := by
  obtain ⟨p₁, read, finished⟩ := exists_of_bind_eq_ok read
  obtain ⟨q₁, read', same⟩ := ((Progress.Same.refl _).readFile spoken).exists_ok read
  obtain ⟨q, finished', same⟩ := same.finish.exists_ok finished
  refine ⟨q, ?_, same⟩
  rw [readRoot, read']
  exact finished'

/-- The lines that say something decide what is loaded. -/
theorem loadText_of_alike
    (alike : Alike Encoding.SpeakAlike (Encoding.lines text file around.limits.functionName)
      (Encoding.lines text' file around.limits.functionName))
    (succeeded : (before.loadText around text file files log).fault = none) :
    (before.loadText around text' file files log).fault = none ∧
      (before.loadText around text' file files log).loaded.unnumbered =
        (before.loadText around text file files log).loaded.unnumbered ∧
      (before.loadText around text' file files log).files =
        (before.loadText around text file files log).files := by
  obtain ⟨lines, p, p', encoded, read, finished, result⟩ := readFile_of_loadText succeeded
  obtain ⟨lines', encoded', spoken⟩ := alike.exists_ok encoded
  have root : before.readRoot around file lines files log = .ok p' := by
    rw [readRoot, read]
    exact finished
  obtain ⟨q', root', same⟩ := exists_readRoot_of_spoken spoken root
  rw [result, loadText_of_lines encoded', root']
  exact ⟨rfl, same.unnumbered, congrArg (·.files) same.like⟩

/-- Texts that differ in layout are both loaded or both refused, and the same is loaded from both,
up to the lines that made the rules. -/
theorem loadText_layout (edits : Relation.ReflTransGen Text.LayoutEdit text text') :
    ((before.loadText around text' file files log).fault = none ↔
        (before.loadText around text file files log).fault = none) ∧
      ((before.loadText around text file files log).fault = none →
        (before.loadText around text' file files log).loaded.unnumbered =
            (before.loadText around text file files log).loaded.unnumbered ∧
          (before.loadText around text' file files log).files =
            (before.loadText around text file files log).files) := by
  have alike : Alike Encoding.SpeakAlike
      (Encoding.lines text file around.limits.functionName)
      (Encoding.lines text' file around.limits.functionName) := Encoding.alike_lines edits
  refine ⟨⟨fun succeeded => ?_, fun succeeded => ?_⟩, fun succeeded => ?_⟩
  · exact (loadText_of_alike (alike.symm fun _ _ => Eq.symm) succeeded).1
  · exact (loadText_of_alike alike succeeded).1
  · exact (loadText_of_alike alike succeeded).2

/-- A function and a filter, once with a comment in the body, indentation, a carriage return and no
line feed at the end. -/
theorem loadText_layout_function :
    let text := "function+a\x7b\nb km\n\x7d\nfromfilter\x7b\na>b\n\x7d\n".toList
    let text' := "function+a\x7b\n# c\n\t b km\n\x7d\nfromfilter\x7b\r\na>b\n\x7d".toList
    Relation.ReflTransGen Text.LayoutEdit text text' ∧
      ((fresh ['a']).loadText ⟨{}, {}⟩ text ['r'] {} #[]).fault = none ∧
      ((fresh ['a']).loadText ⟨{}, {}⟩ text' ['r'] {} #[]).loaded.unnumbered =
        ((fresh ['a']).loadText ⟨{}, {}⟩ text ['r'] {} #[]).loaded.unnumbered := by
  intro text text'
  have commented : Text.LayoutEdit text
      "function+a\x7b\n# c\nb km\n\x7d\nfromfilter\x7b\na>b\n\x7d\n".toList :=
    @Text.LayoutEdit.insert "function+a\x7b\n".toList _ "# c".toList (by decide +kernel)
      (by decide) (by decide) (by decide)
  have indented : Text.LayoutEdit _
      "function+a\x7b\n# c\n\t b km\n\x7d\nfromfilter\x7b\na>b\n\x7d\n".toList :=
    @Text.LayoutEdit.indent "function+a\x7b\n# c\n".toList
      "b km\n\x7d\nfromfilter\x7b\na>b\n\x7d\n".toList "\t ".toList (by decide +kernel)
      (List.all_eq_true.1 rfl)
  have returned : Text.LayoutEdit _
      "function+a\x7b\n# c\n\t b km\n\x7d\nfromfilter\x7b\r\na>b\n\x7d\n".toList :=
    @Text.LayoutEdit.addReturn "function+a\x7b\n# c\n\t b km\n\x7d\nfromfilter\x7b".toList
      "a>b\n\x7d\n".toList (by decide +kernel)
  have edits : Relation.ReflTransGen Text.LayoutEdit text text' :=
    (((Relation.ReflTransGen.single commented).tail indented).tail returned).tail
      (.dropFinal (t := text'))
  have succeeded :
      ((fresh ['a']).loadText ⟨{}, {}⟩ text ['r'] {} #[]).fault = none := by
    decide +kernel
  exact ⟨edits, succeeded, ((loadText_layout edits).2 succeeded).1⟩

end Loaded

end Ebrc
