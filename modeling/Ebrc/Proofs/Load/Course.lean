import Ebrc.Proofs.Load.Crashes
import Ebrc.Proofs.Load.Stops

/-!
# The course of a load

A load comes to the lines of a file one after the other, and between an include that opens a file
and the line behind it to the lines of that file. Whatever comes of it, the course that it has taken
until then is the same: it ends behind the last line, or with the line that stops it, or with a file
whose end does.
-/

namespace Ebrc

/-! ## Visits that open files or stop -/

/-- The include of this visit opens the file at this path, which has these lines. -/
structure Visit.Opens (around : Surroundings) (visit : Visit) (path : Path) (lines : List Line) :
    Prop where
  named : ∃ v named, visit.before.include? visit.line = some v ∧
    around.environment.Names v named ∧ path = (Path.ofText visit.here.file).parent ++ named
  read : ∃ text, visit.before.files.readText path = .ok text ∧
    Encoding.lines text path.toText around.limits.functionName = .ok lines

/-- The line of this visit is the one at which a load stops: it cannot be read. (An include may also
name a path at which the load crashes.) -/
structure Visit.Stops (around : Surroundings) (visit : Visit) (stop : Stop) : Prop where
  here : stop.At visit.here visit.before
  line : visit.isInclude = false ∨ (∃ error, stop.fault = .config error) →
    visit.before.readLine around (Progress.refuseInclude around) visit.here visit.line =
      .error stop

namespace Progress

/-- The course of a load through the lines of a file, from one of this number on, with the lines
that are come to and what comes of it. -/
inductive Course (around : Surroundings) :
    Nat → Text → Nat → List Line → Progress → List Visit → Except Stop Progress → Prop where
  | ended {room number : Nat} {file : Text} (p : Progress) :
      Course around room file number [] p [] (p.endFile file)
  | line {room number : Nat} {file : Text} {line : Line} {rest : List Line} {p p₁ : Progress}
      {visits : List Visit} {r : Except Stop Progress} (other : p.include? line = none)
      (read : p.readLine around (fun _ _ p => .ok p) ⟨file, number⟩ line = .ok p₁)
      (later : Course around room file (number + 1) rest p₁ visits r) :
      Course around room file number (line :: rest) p (⟨⟨file, number⟩, line, room, p⟩ :: visits) r
  /-- The line is the last one that is come to. -/
  | stopped {room number : Nat} {file : Text} {line : Line} {rest : List Line} {p : Progress}
      {stop : Stop} (stops : Visit.Stops around ⟨⟨file, number⟩, line, room, p⟩ stop) :
      Course around room file number (line :: rest) p [⟨⟨file, number⟩, line, room, p⟩]
        (.error stop)
  /-- An include is passed over whose file cannot be opened. -/
  | passed {room number : Nat} {file v : Text} {line : Line} {rest : List Line} {p : Progress}
      {visits : List Visit} {event : Event} {r : Except Stop Progress}
      (included : p.include? line = some v)
      (unopened : ∀ path lines, ¬Visit.Opens around ⟨⟨file, number⟩, line, room, p⟩ path lines)
      (later : Course around room file (number + 1) rest (p.tell event) visits r) :
      Course around room file number (line :: rest) p (⟨⟨file, number⟩, line, room, p⟩ :: visits) r
  | opened {room number : Nat} {file v : Text} {line : Line} {rest lines : List Line}
      {p p₁ : Progress} {inner visits : List Visit} {path : Path} {r : Except Stop Progress}
      (included : p.include? line = some v)
      (opens : Visit.Opens around ⟨⟨file, number⟩, line, room + 1, p⟩ path lines)
      (inside : Course around room path.toText 1 lines
        (p.modify fun s => { s with files := s.files ++ [path.toText] }) inner (.ok p₁))
      (later : Course around (room + 1) file (number + 1) rest p₁ visits r) :
      Course around (room + 1) file number (line :: rest) p
        (⟨⟨file, number⟩, line, room + 1, p⟩ :: (inner ++ visits)) r
  /-- The file that the include opens is the last one that is come to. -/
  | within {room number : Nat} {file v : Text} {line : Line} {rest lines : List Line}
      {p : Progress} {inner : List Visit} {path : Path} {stop : Stop}
      (included : p.include? line = some v)
      (opens : Visit.Opens around ⟨⟨file, number⟩, line, room + 1, p⟩ path lines)
      (inside : Course around room path.toText 1 lines
        (p.modify fun s => { s with files := s.files ++ [path.toText] }) inner (.error stop)) :
      Course around (room + 1) file number (line :: rest) p
        (⟨⟨file, number⟩, line, room + 1, p⟩ :: inner) (.error stop)

variable {around : Surroundings} {p p' p₁ : Progress} {line : Line} {here : Position}
variable {v file : Text} {room number : Nat} {lines rest : List Line}

/-! ## Every load takes its course -/

/-- An include that opens a file names its path and is not passed over. -/
theorem told_of_opens {visit : Visit} {path : Path} (opens : visit.Opens around path lines)
    (included : visit.before.include? visit.line = some v) :
    visit.before.includedPath around.environment visit.here v = .ok (some path, visit.before) ∧
      ∃ p', visit.before.openInclude around.limits visit.here path = .ok (some lines, p') := by
  obtain ⟨⟨v', named, included', names, rfl⟩, text, read, encoded⟩ := opens
  cases included.symm.trans included'
  refine ⟨includedPath_eq_some_iff.2 ⟨named, names, rfl, rfl⟩, ?_⟩
  unfold openInclude
  simp only [read, encoded]
  exact ⟨_, rfl⟩

/-- An include that names a file crashes at its path, if it stops at all. -/
theorem openInclude_eq_error {limits : Limits} {path : Path} {stop : Stop}
    (stopped : p.openInclude limits here path = .error stop) :
    stop = ⟨.crash (.file .badPath), p⟩ := by
  unfold openInclude at stopped
  dsimp only at stopped
  split at stopped
  · exact (Except.error.inj stopped).symm
  · contradiction
  · split at stopped <;> contradiction

/-- The lines of a file take their course, if includes do. -/
theorem course_readLines
    {includeFile : Position → Text → Progress → Except Stop Progress}
    {includeVisits : Position → Text → Progress → List Visit}
    (includes : ∀ {number line v p rest} {visits : Progress → List Visit}
      {result : Progress → Except Stop Progress}, p.include? line = some v →
      (∀ p₁, includeFile ⟨file, number⟩ v p = .ok p₁ →
        Course around room file (number + 1) rest p₁ (visits p₁) (result p₁)) →
      Course around room file number (line :: rest) p
        (⟨⟨file, number⟩, line, room, p⟩ :: (includeVisits ⟨file, number⟩ v p ++
          match includeFile ⟨file, number⟩ v p with
          | .ok p₁ => visits p₁
          | .error _ => []))
        (includeFile ⟨file, number⟩ v p >>= result)) :
    Course around room file number lines p
      (lineVisits around includeFile includeVisits room file number lines p)
      (readLines around includeFile file number lines p >>= (·.endFile file)) := by
  induction lines generalizing number p with
  | nil => exact .ended p
  | cons line rest ih =>
      unfold readLines lineVisits
      rw [bind_assoc]
      cases included : p.include? line with
      | some v =>
          rw [readLine_of_include included]
          exact includes included fun p₁ _ => ih
      | none =>
          cases read : p.readLine around includeFile ⟨file, number⟩ line with
          | ok p₁ =>
              rw [readLine_of_other included includeFile (fun _ _ p => .ok p)] at read
              exact .line included read ih
          | error stop =>
              refine .stopped ⟨stopsAt_readLine included stop read, fun _ => ?_⟩
              rw [← read]
              exact readLine_of_other included _ _

/-- An include that is refused stops the load, unless it is passed over. -/
theorem course_refuseInclude {visits : Progress → List Visit}
    {result : Progress → Except Stop Progress} (included : p.include? line = some v)
    (later : ∀ p₁, refuseInclude around ⟨file, number⟩ v p = .ok p₁ →
      Course around room file (number + 1) rest p₁ (visits p₁) (result p₁)) :
    Course around room file number (line :: rest) p
      (⟨⟨file, number⟩, line, room, p⟩ :: ([] ++
        match refuseInclude around ⟨file, number⟩ v p with
        | .ok p₁ => visits p₁
        | .error _ => []))
      (refuseInclude around ⟨file, number⟩ v p >>= result) := by
  cases refused : refuseInclude around ⟨file, number⟩ v p with
  | error stop =>
      refine .stopped ⟨stopsAt_refuseInclude stop refused, fun _ => ?_⟩
      rw [← refused]
      exact readLine_of_include included _
  | ok p₁ =>
      have goesOn := later p₁ refused
      obtain ⟨⟨path?, p₂⟩, told, done⟩ := exists_of_bind_eq_ok refused
      rcases includedPath_cases told with ⟨event, rfl, rfl⟩ | ⟨path, rfl, rfl⟩
      · cases done
        refine .passed included (fun path lines opens => ?_) goesOn
        cases told.symm.trans (told_of_opens opens included).1
      · contradiction

/-- An include that is followed stops the load, is passed over, or has a file read. -/
theorem followInclude_cases (included : p.include? line = some v) (room : Nat)
    (read : Text → List Line → Progress → Except Stop Progress)
    (inner : Text → List Line → Progress → List Visit) :
    (∃ stop, followInclude around read here v p = .error stop ∧
        includeVisits around inner here v p = [] ∧
        Visit.Stops around ⟨here, line, room, p⟩ stop) ∨
      (∃ event, followInclude around read here v p = .ok (p.tell event) ∧
        includeVisits around inner here v p = [] ∧
        ∀ path lines, ¬Visit.Opens around ⟨here, line, room, p⟩ path lines) ∨
      ∃ path lines, Visit.Opens around ⟨here, line, room, p⟩ path lines ∧
        followInclude around read here v p = read path.toText lines
          (p.modify fun s => { s with files := s.files ++ [path.toText] }) ∧
        includeVisits around inner here v p = inner path.toText lines
          (p.modify fun s => { s with files := s.files ++ [path.toText] }) := by
  unfold followInclude includeVisits
  cases told : p.includedPath around.environment here v with
  | error stop =>
      refine .inl ⟨stop, rfl, rfl, stopsAt_includedPath .rfl stop told, fun _ => ?_⟩
      rw [readLine_of_include included, refuseInclude, told]
      rfl
  | ok told' =>
      obtain ⟨path?, p₁⟩ := told'
      rcases includedPath_cases told with ⟨event, rfl, rfl⟩ | ⟨path, rfl, rfl⟩
      · refine .inr (.inl ⟨event, rfl, rfl, fun path lines opens => ?_⟩)
        cases told.symm.trans (told_of_opens opens included).1
      simp only [bind, Except.bind]
      cases opened : p₁.openInclude around.limits here path with
      | error stop =>
          refine .inl ⟨stop, rfl, rfl, stopsAt_openInclude stop opened, ?_⟩
          rw [openInclude_eq_error opened]
          rintro (other | ⟨error, impossible⟩)
          · simp [Visit.isInclude, included] at other
          · contradiction
      | ok opened' =>
          obtain ⟨lines?, p₂⟩ := opened'
          rcases openInclude_cases opened with
            ⟨event, rfl, rfl⟩ | ⟨text, lines, rfl, readText, encoded, rfl⟩
          · refine .inr (.inl ⟨event, rfl, rfl, fun path' lines opens => ?_⟩)
            obtain ⟨told', p₂, opened'⟩ := told_of_opens opens included
            cases told.symm.trans told'
            cases opened.symm.trans opened'
          · obtain ⟨named, names, same, -⟩ := includedPath_eq_some_iff.1 told
            exact .inr (.inr ⟨path, lines, ⟨⟨v, named, included, names, same⟩, text, readText,
              encoded⟩, rfl, rfl⟩)

/-- An include that is followed takes the course of the file that it opens. -/
theorem course_followInclude
    {read : Text → List Line → Progress → Except Stop Progress}
    {inner : Text → List Line → Progress → List Visit}
    (inside : ∀ {file lines p}, Course around room file 1 lines p (inner file lines p)
      (read file lines p))
    {visits : Progress → List Visit} {result : Progress → Except Stop Progress}
    (included : p.include? line = some v)
    (later : ∀ p₁, followInclude around read ⟨file, number⟩ v p = .ok p₁ →
      Course around (room + 1) file (number + 1) rest p₁ (visits p₁) (result p₁)) :
    Course around (room + 1) file number (line :: rest) p
      (⟨⟨file, number⟩, line, room + 1, p⟩ ::
        (includeVisits around inner ⟨file, number⟩ v p ++
          match followInclude around read ⟨file, number⟩ v p with
          | .ok p₁ => visits p₁
          | .error _ => []))
      (followInclude around read ⟨file, number⟩ v p >>= result) := by
  rcases followInclude_cases included (room + 1) read inner with
    ⟨stop, followed, visited, stops⟩ | ⟨event, followed, visited, unopened⟩ |
      ⟨path, lines, opens, followed, visited⟩
  · rw [followed, visited]
    exact .stopped stops
  · rw [followed, visited]
    exact .passed included unopened (later _ followed)
  · rw [followed, visited]
    have course : Course around room path.toText 1 lines _ _ (read path.toText lines
        (p.modify fun s => { s with files := s.files ++ [path.toText] })) := inside
    cases done : read path.toText lines
        (p.modify fun s => { s with files := s.files ++ [path.toText] }) with
    | ok p₁ =>
        rw [done] at course followed
        exact .opened included opens course (later _ followed)
    | error stop =>
        rw [done] at course
        simp only [List.append_nil]
        exact .within included opens course

/-- A file takes its course, whatever comes of it. -/
theorem course_readFile {depth : Nat} :
    Course around depth file 1 lines p (visits around depth file lines p)
      (readFile around depth file lines p) := by
  induction depth generalizing file lines p with
  | zero => exact course_readLines course_refuseInclude
  | succ depth ih => exact course_readLines (course_followInclude ih)

/-! ## What has been done on a course -/

/-- The end of a file stops a load in a function, and tells where its header stands. -/
theorem endFile_eq_error {stop : Stop} (stopped : p.endFile file = .error stop) :
    ∃ f inner, p.block = .function (some f) inner ∧
      stop = ⟨.config ⟨.functionLeftOpen f.name, some file, some f.line⟩, p⟩ := by
  unfold endFile at stopped
  split at stopped
  · rename_i f inner block
    exact ⟨f, inner, block, (Except.error.inj stopped).symm⟩
  · contradiction

/-- Single readings lead to what comes of a course. A load that stops has loaded what it had come
to by them. -/
theorem Course.exists_reads {visits : List Visit} {r : Except Stop Progress}
    (course : Course around room file number lines p visits r) :
    ∃ sights p', Reads around p sights p' ∧
      (r = .ok p' ∨ ∃ stop, r = .error stop ∧ p'.loaded.Agrees stop.progress.loaded) := by
  induction course with
  | ended p =>
      refine ⟨[], p, .nil p, ?_⟩
      cases ended : p.endFile _ with
      | ok p' => exact .inl (by rw [(endFile_eq_ok ended).1])
      | error stop =>
          obtain ⟨f, inner, -, rfl⟩ := endFile_eq_error ended
          exact .inr ⟨_, rfl, .rfl⟩
  | line other read later ih =>
      obtain ⟨sights, p', reads, came⟩ := ih
      exact ⟨_, p', .line other read reads, came⟩
  | stopped stops => exact ⟨[], _, .nil _, .inr ⟨_, rfl, stops.here.agrees⟩⟩
  | @passed _ number file _ line _ p _ _ _ included unopened later ih =>
      obtain ⟨sights, p', reads, came⟩ := ih
      have all : Reads around p (.line ⟨file, number⟩ line :: sights) p' := .passed included reads
      exact ⟨_, p', all, came⟩
  | @opened _ number file _ line _ _ p p₁ _ _ path _ included opens inside later ihInside ih =>
      obtain ⟨text, read, encoded⟩ := opens.read
      obtain ⟨within, p₂, readsInside, same | ⟨stop, impossible, -⟩⟩ := ihInside
      · cases same
        obtain ⟨sights, p', reads, came⟩ := ih
        have all : Reads around p (.line ⟨file, number⟩ line :: .opened path.toText text ::
            (within ++ sights)) p' :=
          .opened included read encoded (readsInside.append reads)
        exact ⟨_, p', all, came⟩
      · contradiction
  | @within _ number file _ line _ _ p _ path _ included opens inside ih =>
      obtain ⟨text, read, encoded⟩ := opens.read
      obtain ⟨sights, p', reads, came⟩ := ih
      have all : Reads around p (.line ⟨file, number⟩ line :: .opened path.toText text :: sights)
          p' :=
        .opened included read encoded reads
      exact ⟨_, p', all, came⟩

end Progress

namespace Loaded

variable {around : Surroundings} {text file : Text} {before : Loaded} {files : FileSystem}
variable {log : EventLog}

theorem finish_eq_error {p : Progress} {stop : Stop} (stopped : p.finish file = .error stop) :
    stop = ⟨.config ⟨.blockLeftOpen, some file, none⟩, p⟩ := by
  unfold Progress.finish at stopped
  split at stopped
  · contradiction
  · contradiction
  · exact (Except.error.inj stopped).symm

/-- A load that stops has loaded what single readings load. -/
theorem reads_of_stopped {lines : List Line} {stop : Stop}
    (stopped : before.readRoot around file lines files log = .error stop) :
    ∃ sights p, Progress.Reads around (before.begin file files log) sights p ∧
      p.loaded.Agrees stop.progress.loaded := by
  unfold readRoot at stopped
  have course : Progress.Course around around.limits.includeDepth file 1 lines
      (before.begin file files log) _ _ := Progress.course_readFile
  obtain ⟨sights, p, reads, ended | ⟨stop', early, agrees⟩⟩ := course.exists_reads
  · rw [ended] at stopped
    have last := finish_eq_error stopped
    exact ⟨sights, p, reads, by rw [last]; exact .rfl⟩
  · rw [early] at stopped
    cases stopped
    exact ⟨sights, p, reads, agrees⟩

end Loaded

end Ebrc
