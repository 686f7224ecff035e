import Ebrc.Load
import Ebrc.Proofs.Load.Marks
import Ebrc.Proofs.Load.Reading

/-!
# The trail of a load

A load comes across lines and opens included files, one inside another. Its trail is all of that in
the order in which it happens, in one row. A load that succeeds is a row of single readings along
its trail: each of them reads a line that includes nothing, passes over an include, or opens a file,
whose lines are the next ones on the trail. So what every single reading keeps, a whole load keeps,
however its files include one another.
-/

namespace Ebrc

/-- Something that a load comes across. -/
inductive Sight where
  /-- A line that is read. -/
  | line (here : Position) (line : Line)
  /-- A file that is opened. -/
  | opened (file text : Text)
  deriving Repr, DecidableEq

/-- The text holds no marks, if it is one that is opened. -/
def Sight.Unmarked : Sight → Prop
  | .line _ _ => True
  | .opened _ text => Text.Unmarked text

instance : DecidablePred Sight.Unmarked
  | .line _ _ => inferInstanceAs (Decidable True)
  | .opened _ text => inferInstanceAs (Decidable (Text.Unmarked text))

namespace Progress

/-! ## Trails -/

/-- The trail of the lines of a file, of which the first has this number. -/
def lineTrail (around : Surroundings)
    (includeFile : Position → Text → Progress → Except Stop Progress)
    (includeTrail : Position → Text → Progress → List Sight) (file : Text) :
    Nat → List Line → Progress → List Sight
  | _, [], _ => []
  | number, line :: rest, p =>
    let included := match p.include? line with
      | some v => includeTrail ⟨file, number⟩ v p
      | none => []
    let later := match p.readLine around includeFile ⟨file, number⟩ line with
      | .ok p => lineTrail around includeFile includeTrail file (number + 1) rest p
      | .error _ => []
    .line ⟨file, number⟩ line :: (included ++ later)

/-- The trail of an include: the file that is opened, and what is come across in it. -/
def includeTrail (around : Surroundings) (trail : Text → List Line → Progress → List Sight)
    (here : Position) (v : Text) (p : Progress) : List Sight :=
  match p.includedPath around.environment here v with
  | .ok (some path, p) =>
    match p.files.readText path, p.openInclude around.limits here path with
    | .ok text, .ok (some lines, p) => .opened path.toText text :: trail path.toText lines p
    | _, _ => []
  | _ => []

/-- The trail of a file that may include others this many deep. -/
def trail (around : Surroundings) : Nat → Text → List Line → Progress → List Sight
  | 0, file => lineTrail around (refuseInclude around) (fun _ _ _ => []) file 1
  | depth + 1, file =>
    lineTrail around (followInclude around (readFile around depth))
      (includeTrail around (trail around depth)) file 1

/-! ## Single readings -/

variable {around : Surroundings} {p p' p₁ : Progress} {line : Line} {here : Position} {v : Text}

theorem includedPath_cases {path? : Option Path} {env : Environment}
    (told : p.includedPath env here v = .ok (path?, p')) :
    (∃ event, path? = none ∧ p' = p.tell event) ∨ (∃ path, path? = some path ∧ p' = p) := by
  unfold includedPath expandPath at told
  cases remaining : Environment.remaining? (env.expand v) with
  | some name =>
      simp only [remaining, Except.map, Option.map_none, Except.ok.injEq, Prod.mk.injEq] at told
      obtain ⟨rfl, rfl⟩ := told
      exact .inl ⟨_, rfl, rfl⟩
  | none =>
      simp only [remaining] at told
      cases expanded : env.expandHome (Path.ofText (env.expand v)) with
      | error crash =>
          rw [expanded] at told
          contradiction
      | ok path =>
          simp only [expanded, Except.map, Option.map_some, Except.ok.injEq, Prod.mk.injEq] at told
          obtain ⟨rfl, rfl⟩ := told
          exact .inr ⟨_, rfl, rfl⟩

theorem openInclude_cases {limits : Limits} {path : Path} {lines? : Option (List Line)}
    (opened : p.openInclude limits here path = .ok (lines?, p')) :
    (∃ event, lines? = none ∧ p' = p.tell event) ∨
      ∃ text lines, lines? = some lines ∧ p.files.readText path = .ok text ∧
        Encoding.lines text path.toText limits.functionName = .ok lines ∧
        p' = p.modify fun s => { s with files := s.files ++ [path.toText] } := by
  unfold openInclude at opened
  cases read : p.files.readText path with
  | error reason =>
      cases reason with
      | badPath =>
          rw [read] at opened
          contradiction
      | _ =>
          simp only [read, Except.ok.injEq, Prod.mk.injEq] at opened
          obtain ⟨rfl, rfl⟩ := opened
          exact .inl ⟨_, rfl, rfl⟩
  | ok text =>
      simp only [read] at opened
      cases encoded : Encoding.lines text path.toText limits.functionName with
      | error error =>
          simp only [encoded, Except.ok.injEq, Prod.mk.injEq] at opened
          obtain ⟨rfl, rfl⟩ := opened
          exact .inl ⟨_, rfl, rfl⟩
      | ok lines =>
          simp only [encoded, Except.ok.injEq, Prod.mk.injEq] at opened
          obtain ⟨rfl, rfl⟩ := opened
          exact .inr ⟨text, lines, rfl, rfl, encoded, rfl⟩

/-- A file ends outside of all functions that have a header. -/
theorem endFile_eq_ok {file : Text} (ended : p.endFile file = .ok p') :
    p' = p ∧ ∀ f inner, p.block ≠ .function (some f) inner := by
  unfold endFile at ended
  split at ended
  · contradiction
  · rename_i outside
    cases ended
    exact ⟨rfl, outside⟩

/-! ## Loads as rows of single readings -/

/-- Single readings along a trail lead from one progress to another. -/
inductive Reads (around : Surroundings) : Progress → List Sight → Progress → Prop where
  | nil (p : Progress) : Reads around p [] p
  /-- A line that is no include is read. -/
  | line {p p₁ p' : Progress} {here : Position} {line : Line} {sights : List Sight}
      (other : p.include? line = none)
      (read : p.readLine around (fun _ _ p => .ok p) here line = .ok p₁)
      (later : Reads around p₁ sights p') : Reads around p (.line here line :: sights) p'
  /-- An include is passed over. -/
  | passed {p p' : Progress} {here : Position} {line : Line} {v : Text} {event : Event}
      {sights : List Sight} (included : p.include? line = some v)
      (later : Reads around (p.tell event) sights p') :
      Reads around p (.line here line :: sights) p'
  /-- An include opens a file. -/
  | opened {p p' : Progress} {here : Position} {line : Line} {v text : Text} {path : Path}
      {lines : List Line} {sights : List Sight} (included : p.include? line = some v)
      (read : p.files.readText path = .ok text)
      (encoded : Encoding.lines text path.toText around.limits.functionName = .ok lines)
      (later : Reads around (p.modify fun s => { s with files := s.files ++ [path.toText] })
        sights p') :
      Reads around p (.line here line :: .opened path.toText text :: sights) p'

theorem Reads.append {first second : List Sight} (reads : Reads around p first p₁)
    (later : Reads around p₁ second p') : Reads around p (first ++ second) p' := by
  induction reads with
  | nil => exact later
  | line other read _ ih => exact .line other read (ih later)
  | passed included _ ih => exact .passed included (ih later)
  | opened included read encoded _ ih => exact .opened included read encoded (ih later)

/-- The lines of a file are read along their trail, if includes are. -/
theorem reads_of_readLines
    {includeFile : Position → Text → Progress → Except Stop Progress}
    {includeTrail : Position → Text → Progress → List Sight}
    (includes : ∀ {here line v p p'}, p.include? line = some v → includeFile here v p = .ok p' →
      Reads around p (.line here line :: includeTrail here v p) p')
    {file : Text} {number : Nat} {lines : List Line}
    (read : readLines around includeFile file number lines p = .ok p') :
    Reads around p (lineTrail around includeFile includeTrail file number lines p) p' := by
  induction lines generalizing number p with
  | nil =>
      cases read
      exact .nil _
  | cons line rest ih =>
      unfold readLines at read
      cases first : p.readLine around includeFile ⟨file, number⟩ line with
      | error stop =>
          rw [first] at read
          contradiction
      | ok p₁ =>
          rw [first] at read
          have later := ih read
          unfold lineTrail
          simp only [first]
          cases included : p.include? line with
          | none =>
              rw [readLine_of_other included includeFile (fun _ _ p => .ok p)] at first
              exact .line included first later
          | some v =>
              rw [readLine_of_include included] at first
              exact (includes included first).append later

/-- All lines of a file are read along their trail, if includes are. -/
theorem reads_of_readAll
    {includeFile : Position → Text → Progress → Except Stop Progress}
    {includeTrail : Position → Text → Progress → List Sight}
    (includes : ∀ {here line v p p'}, p.include? line = some v → includeFile here v p = .ok p' →
      Reads around p (.line here line :: includeTrail here v p) p')
    {file : Text} {lines : List Line}
    (read : readAll around includeFile file lines p = .ok p') :
    Reads around p (lineTrail around includeFile includeTrail file 1 lines p) p' := by
  obtain ⟨p₁, linesRead, ended⟩ := exists_of_bind_eq_ok read
  rw [(endFile_eq_ok ended).1]
  exact reads_of_readLines includes linesRead

/-- An include that is refused is passed over, if the load goes on. -/
theorem reads_of_refuseInclude (included : p.include? line = some v)
    (refused : refuseInclude around here v p = .ok p') :
    Reads around p [.line here line] p' := by
  obtain ⟨⟨path?, p₁⟩, told, rest⟩ := exists_of_bind_eq_ok refused
  rcases includedPath_cases told with ⟨event, rfl, rfl⟩ | ⟨path, rfl, rfl⟩
  · cases rest
    exact .passed included (.nil _)
  · contradiction

/-- An include is followed along the trail of the file that it opens. -/
theorem reads_of_followInclude
    {read : Text → List Line → Progress → Except Stop Progress}
    {trail : Text → List Line → Progress → List Sight}
    (reads : ∀ {file lines p p'}, read file lines p = .ok p' →
      Reads around p (trail file lines p) p')
    (included : p.include? line = some v)
    (followed : followInclude around read here v p = .ok p') :
    Reads around p (.line here line :: includeTrail around trail here v p) p' := by
  obtain ⟨⟨path?, p₁⟩, told, rest⟩ := exists_of_bind_eq_ok followed
  unfold includeTrail
  rcases includedPath_cases told with ⟨event, rfl, rfl⟩ | ⟨path, rfl, rfl⟩
  · cases rest
    rw [told]
    exact .passed included (.nil _)
  · obtain ⟨⟨lines?, p₂⟩, opened, rest⟩ := exists_of_bind_eq_ok rest
    simp only [told, opened]
    rcases openInclude_cases opened with
      ⟨event, rfl, rfl⟩ | ⟨text, lines, rfl, read, encoded, rfl⟩
    · cases rest
      cases p₁.files.readText path <;> exact .passed included (.nil _)
    · simp only [read]
      exact .opened included read encoded (reads rest)

/-- A file is read along its trail. -/
theorem reads_of_readFile {depth : Nat} {file : Text} {lines : List Line}
    (read : readFile around depth file lines p = .ok p') :
    Reads around p (trail around depth file lines p) p' := by
  induction depth generalizing file lines p p' with
  | zero => exact reads_of_readAll reads_of_refuseInclude read
  | succ depth ih => exact reads_of_readAll (reads_of_followInclude ih) read

/-- At every depth a file is read with some way to deal with includes. -/
theorem exists_readFile_eq (around : Surroundings) (depth : Nat) :
    ∃ includeFile, ∀ file lines p,
      readFile around depth file lines p = readAll around includeFile file lines p := by
  cases depth with
  | zero => exact ⟨_, fun _ _ _ => rfl⟩
  | succ depth => exact ⟨_, fun _ _ _ => rfl⟩

theorem outside_of_readFile {depth : Nat} {file : Text} {lines : List Line}
    (read : readFile around depth file lines p = .ok p') :
    ∀ f inner, p'.block ≠ .function (some f) inner := by
  obtain ⟨includeFile, whole⟩ := exists_readFile_eq around depth
  rw [whole] at read
  obtain ⟨p₁, -, ended⟩ := exists_of_bind_eq_ok read
  obtain ⟨rfl, outside⟩ := endFile_eq_ok ended
  exact outside

/-- A load ends outside of all account blocks, and the first account is the default one if no other
is. -/
theorem finish_eq_ok {file : Text} (finished : p.finish file = .ok p') :
    (∀ a, p.block ≠ .account a) ∧ p'.loaded =
      if p.loaded.accounts ≠ [] ∧ p.loaded.defaultAccount = 0 then
        { p.loaded with defaultAccount := 1 }
      else p.loaded := by
  unfold finish at finished
  split at finished
  · rename_i outside
    cases finished
    exact ⟨by simp [outside], rfl⟩
  · rename_i inside
    cases finished
    exact ⟨by simp [inside], rfl⟩
  · contradiction

/-! ## Where lines come from -/

/-- A line is one of those of a file on a trail. -/
def ReadFrom (limits : Limits) (sights : List Sight) (line : Line) : Prop :=
  ∃ file text lines, .opened file text ∈ sights ∧
    Encoding.lines text file limits.functionName = .ok lines ∧ line ∈ lines

theorem ReadFrom.mono {limits : Limits} {sights more : List Sight}
    (readFrom : ReadFrom limits sights line) (subset : ∀ sight ∈ sights, sight ∈ more) :
    ReadFrom limits more line := by
  obtain ⟨file, text, lines, opened, encoded, among⟩ := readFrom
  exact ⟨file, text, lines, subset _ opened, encoded, among⟩

theorem readFrom_lineTrail {includeFile : Position → Text → Progress → Except Stop Progress}
    {includeTrail : Position → Text → Progress → List Sight}
    (includes : ∀ {here there v p line}, .line there line ∈ includeTrail here v p →
      ReadFrom around.limits (includeTrail here v p) line)
    {file : Text} {number : Nat} {lines : List Line} {there : Position}
    (seen : .line there line ∈
      lineTrail around includeFile includeTrail file number lines p) :
    line ∈ lines ∨ ReadFrom around.limits
      (lineTrail around includeFile includeTrail file number lines p) line := by
  induction lines generalizing number p with
  | nil => contradiction
  | cons first rest ih =>
      unfold lineTrail at seen ⊢
      rcases List.mem_cons.1 seen with here | seen
      · cases here
        exact .inl (List.mem_cons_self ..)
      rcases List.mem_append.1 seen with inside | later
      · cases included : p.include? first with
        | none =>
            rw [included] at inside
            contradiction
        | some v =>
            simp only [included] at inside
            refine .inr ((includes inside).mono fun sight among => ?_)
            exact List.mem_cons_of_mem _ (List.mem_append_left _ among)
      · cases read : p.readLine around includeFile ⟨file, number⟩ first with
        | error stop =>
            rw [read] at later
            contradiction
        | ok p₁ =>
            simp only [read] at later
            rcases ih later with among | readFrom
            · exact .inl (List.mem_cons_of_mem _ among)
            · refine .inr (readFrom.mono fun sight among => ?_)
              exact List.mem_cons_of_mem _ (List.mem_append_right _ among)

/-- A line on the trail of a file is a line of the file or of one that is opened on the trail. -/
theorem readFrom_trail {depth : Nat} {file : Text} {lines : List Line} {there : Position}
    (seen : .line there line ∈ trail around depth file lines p) :
    line ∈ lines ∨ ReadFrom around.limits (trail around depth file lines p) line := by
  induction depth generalizing file lines p line there with
  | zero => exact readFrom_lineTrail (fun inside => absurd inside (List.not_mem_nil)) seen
  | succ depth ih =>
      refine readFrom_lineTrail ?_ seen
      intro here there v p line inside
      unfold includeTrail at inside ⊢
      split at inside
      · rename_i path p₁ told
        split at inside
        · rename_i text lines p₂ read opened
          rcases openInclude_cases opened with
            ⟨event, impossible, -⟩ | ⟨text', lines', same, read', encoded, -⟩
          · contradiction
          · cases same
            rw [read] at read'
            cases read'
            rcases List.mem_cons.1 inside with impossible | seen
            · contradiction
            · rcases ih seen with among | readFrom
              · exact ⟨_, _, _, List.mem_cons_self .., encoded, among⟩
              · exact readFrom.mono fun sight among => List.mem_cons_of_mem _ among
        · contradiction
      · contradiction

end Progress

namespace Loaded

variable {around : Surroundings} {text file : Text} {before : Loaded} {files : FileSystem}
variable {log : EventLog}

/-- The trail of a load of an rc file whose text is at hand. The file itself is opened first. -/
def trail (around : Surroundings) (text file : Text) (before : Loaded) (files : FileSystem)
    (log : EventLog) : List Sight :=
  match Encoding.lines text file around.limits.functionName with
  | .error _ => []
  | .ok lines =>
    .opened file text ::
      Progress.trail around around.limits.includeDepth file lines (before.begin file files log)

/-- Read these lines as those of a file from which a load starts. -/
def readRoot (around : Surroundings) (file : Text) (lines : List Line) (before : Loaded)
    (files : FileSystem) (log : EventLog) : Except Stop Progress :=
  Progress.readFile around around.limits.includeDepth file lines (before.begin file files log) >>=
    (·.finish file)

/-- A load reads the encoded lines of its text. -/
theorem loadText_of_lines {lines : List Line}
    (encoded : Encoding.lines text file around.limits.functionName = .ok lines) :
    before.loadText around text file files log =
      match before.readRoot around file lines files log with
      | .ok p => ⟨none, p.loaded, p.files, p.log.push (p.loaded.report file)⟩
      | .error ⟨.config error, p⟩ => ⟨some (.config error), p.loaded.reset, p.files, p.log⟩
      | .error ⟨.crash crash, p⟩ => ⟨some (.crash crash), p.loaded, p.files, p.log⟩ := by
  rw [loadText, encoded]
  rfl

/-- A load that succeeds reads its file and comes to an end. -/
theorem readFile_of_loadText
    (succeeded : (before.loadText around text file files log).fault = none) :
    ∃ lines p p', Encoding.lines text file around.limits.functionName = .ok lines ∧
      Progress.readFile around around.limits.includeDepth file lines
        (before.begin file files log) = .ok p ∧ p.finish file = .ok p' ∧
      before.loadText around text file files log =
        ⟨none, p'.loaded, p'.files, p'.log.push (p'.loaded.report file)⟩ := by
  cases encoded : Encoding.lines text file around.limits.functionName with
  | error error =>
      rw [loadText, encoded] at succeeded
      contradiction
  | ok lines =>
      rw [loadText_of_lines encoded] at succeeded ⊢
      cases whole : before.readRoot around file lines files log with
      | error stop =>
          rw [whole] at succeeded
          obtain ⟨fault, p⟩ := stop
          cases fault <;> contradiction
      | ok p' =>
          obtain ⟨p, read, finished⟩ := exists_of_bind_eq_ok whole
          exact ⟨lines, p, p', rfl, read, finished, rfl⟩

/-- A load that succeeds reads its trail and comes to an end there, outside of all functions. -/
theorem reads_of_loadText
    (succeeded : (before.loadText around text file files log).fault = none) :
    ∃ sights p p', before.trail around text file files log = .opened file text :: sights ∧
      Progress.Reads around (before.begin file files log) sights p ∧
      (∀ f inner, p.block ≠ .function (some f) inner) ∧ p.finish file = .ok p' ∧
      (before.loadText around text file files log).loaded = p'.loaded := by
  obtain ⟨lines, p, p', encoded, read, finished, result⟩ := readFile_of_loadText succeeded
  refine ⟨_, p, p', ?_, Progress.reads_of_readFile read, Progress.outside_of_readFile read,
    finished, by rw [result]⟩
  rw [trail, encoded]

/-- Every line on the trail of a load is a line of a file that is opened on it. -/
theorem readFrom_of_mem_trail {here : Position} {line : Line}
    (seen : .line here line ∈ before.trail around text file files log) :
    Progress.ReadFrom around.limits (before.trail around text file files log) line := by
  unfold trail at seen ⊢
  cases encoded : Encoding.lines text file around.limits.functionName with
  | error error =>
      rw [encoded] at seen
      contradiction
  | ok lines =>
      simp only [encoded] at seen
      rcases List.mem_cons.1 seen with impossible | seen
      · contradiction
      · rcases Progress.readFrom_trail seen with among | readFrom
        · exact ⟨_, _, _, List.mem_cons_self .., encoded, among⟩
        · exact readFrom.mono fun sight among => List.mem_cons_of_mem _ among

end Loaded

end Ebrc
