import Ebrc.Proofs.Load.Course
import Ebrc.Proofs.Load.Places

/-!
# Includes are transparent

A load that succeeds reads each file that it opens from the first line to the last one at the place
of its include, and goes on with the line behind the include. So what it loads is what the lines in
the order of the visits would load, written into one file, without the includes among them.
-/

namespace Ebrc

variable {around : Surroundings}

/-! ## Complete visits -/

namespace Progress

/-- The visits go through the lines of a file, from one of this number on, and lead from one
progress to another: every line is visited once, in order, and between an include that opens a file
and the line behind it come visits that go through the lines of that file, from the first one on. -/
inductive GoesThrough (around : Surroundings) :
    Nat → Text → Nat → List Line → Progress → List Visit → Progress → Prop where
  | nil {room number : Nat} {file : Text} (p : Progress) :
      GoesThrough around room file number [] p [] p
  | line {room number : Nat} {file : Text} {line : Line} {rest : List Line} {p p₁ p' : Progress}
      {visits : List Visit} (other : p.include? line = none)
      (read : p.readLine around (fun _ _ p => .ok p) ⟨file, number⟩ line = .ok p₁)
      (later : GoesThrough around room file (number + 1) rest p₁ visits p') :
      GoesThrough around room file number (line :: rest) p
        (⟨⟨file, number⟩, line, room, p⟩ :: visits) p'
  /-- An include is passed over whose file cannot be opened. -/
  | passed {room number : Nat} {file v : Text} {line : Line} {rest : List Line} {p p' : Progress}
      {visits : List Visit} {event : Event} (included : p.include? line = some v)
      (unopened : ∀ path lines, ¬Visit.Opens around ⟨⟨file, number⟩, line, room, p⟩ path lines)
      (later : GoesThrough around room file (number + 1) rest (p.tell event) visits p') :
      GoesThrough around room file number (line :: rest) p
        (⟨⟨file, number⟩, line, room, p⟩ :: visits) p'
  | opened {room number : Nat} {file v : Text} {line : Line} {rest lines : List Line}
      {p p₁ p' : Progress} {inner visits : List Visit} {path : Path}
      (included : p.include? line = some v)
      (opens : Visit.Opens around ⟨⟨file, number⟩, line, room + 1, p⟩ path lines)
      (inside : GoesThrough around room path.toText 1 lines
        (p.modify fun s => { s with files := s.files ++ [path.toText] }) inner p₁)
      (later : GoesThrough around (room + 1) file (number + 1) rest p₁ visits p') :
      GoesThrough around (room + 1) file number (line :: rest) p
        (⟨⟨file, number⟩, line, room + 1, p⟩ :: (inner ++ visits)) p'

variable {p p' p₁ : Progress} {line : Line} {v file : Text} {room number : Nat}

/-- A course that leads to the end of a file goes through its lines. -/
theorem Course.goesThrough {lines : List Line} {visits : List Visit} {r : Except Stop Progress}
    (course : Course around room file number lines p visits r) (done : r = .ok p') :
    GoesThrough around room file number lines p visits p' := by
  induction course generalizing p' with
  | ended p =>
      obtain ⟨rfl, -⟩ := endFile_eq_ok done
      exact .nil _
  | line other read _ ih => exact .line other read (ih done)
  | stopped => contradiction
  | passed included unopened _ ih => exact .passed included unopened (ih done)
  | opened included opens _ _ ihInside ih => exact .opened included opens (ihInside rfl) (ih done)
  | within => contradiction

/-- A file that is read without a fault is gone through. -/
theorem goesThrough_of_readFile {depth : Nat} {lines : List Line}
    (read : readFile around depth file lines p = .ok p') :
    GoesThrough around depth file 1 lines p (visits around depth file lines p) p' :=
  course_readFile.goesThrough read

/-! ## Without includes -/

/-- The lines that are visited, without the includes. -/
def withoutIncludes (visits : List Visit) : List Line :=
  (visits.filter fun visit => !visit.isInclude).map (·.line)

theorem withoutIncludes_append (first second : List Visit) :
    withoutIncludes (first ++ second) = withoutIncludes first ++ withoutIncludes second := by
  simp [withoutIncludes]

theorem withoutIncludes_line {here : Position} {visits : List Visit}
    (other : p.include? line = none) :
    withoutIncludes (⟨here, line, room, p⟩ :: visits) = line :: withoutIncludes visits := by
  simp [withoutIncludes, Visit.isInclude, other]

theorem withoutIncludes_include {here : Position} {visits : List Visit}
    (included : p.include? line = some v) :
    withoutIncludes (⟨here, line, room, p⟩ :: visits) = withoutIncludes visits := by
  simp [withoutIncludes, Visit.isInclude, included]

theorem readLines_append {includeFile : Position → Text → Progress → Except Stop Progress}
    {first second : List Line} : readLines around includeFile file number (first ++ second) p =
      readLines around includeFile file number first p >>=
        readLines around includeFile file (number + first.length) second := by
  induction first generalizing number p with
  | nil => rfl
  | cons line rest ih =>
      rw [List.cons_append, readLines, readLines, bind_assoc]
      congr
      funext p
      rw [ih, List.length_cons, Nat.add_right_comm, Nat.add_assoc]

/-- Files that are gone through do what the visited lines do in one file, without the includes. -/
theorem GoesThrough.exists_readLines {lines : List Line} {visits : List Visit}
    (through : GoesThrough around room file number lines p visits p') {q : Progress}
    (like : p.Like q) {f : Text} (start : Nat)
    (includeFile : Position → Text → Progress → Except Stop Progress) :
    ∃ q', readLines around includeFile f start (withoutIncludes visits) q = .ok q' ∧
      p'.Like q' := by
  induction through generalizing q start with
  | nil => exact ⟨q, rfl, like⟩
  | @line _ number file line _ p p₁ _ visits other read later ih =>
      have alike : Alike Like (p.readLine around (fun _ _ p => .ok p) ⟨file, number⟩ line)
          (q.readLine around includeFile ⟨f, start⟩ line) :=
        like.readLine other
      obtain ⟨q₁, read', like₁⟩ := alike.exists_ok read
      obtain ⟨q', rest, like'⟩ := ih like₁ (start + 1)
      refine ⟨q', ?_, like'⟩
      rw [withoutIncludes_line other, readLines, read']
      exact rest
  | passed included unopened later ih =>
      rw [withoutIncludes_include included]
      exact ih like start
  | @opened _ _ _ _ _ _ _ _ _ _ inner visits path included opens inside later ih ih' =>
      obtain ⟨q₁, read, like₁⟩ := ih like start
      obtain ⟨q', rest, like'⟩ := ih' like₁ (start + (withoutIncludes inner).length)
      refine ⟨q', ?_, like'⟩
      rw [withoutIncludes_include included, withoutIncludes_append, readLines_append, read]
      exact rest

end Progress

namespace Loaded

variable {text file : Text} {before : Loaded} {files : FileSystem} {log : EventLog}

/-- The visits of a load go through all files, and the same is loaded from the visited lines in one
file, without the includes among them. -/
structure ReadsAsOneFile (around : Surroundings) (text file : Text) (before : Loaded)
    (files : FileSystem) (log : EventLog) (result : LoadResult) : Prop where
  goesThrough : ∃ lines p p', Encoding.lines text file around.limits.functionName = .ok lines ∧
    Progress.GoesThrough around around.limits.includeDepth file 1 lines
      (before.begin file files log) (before.visits around text file files log) p ∧
    p.finish file = .ok p' ∧ result.loaded = p'.loaded ∧ result.files = p'.files
  oneFile : ∃ q, before.readRoot around file
      (Progress.withoutIncludes (before.visits around text file files log)) files log = .ok q ∧
    q.loaded.unplaced = result.loaded.unplaced ∧ q.files = result.files

/-- If a load goes through all files, then the visited lines can be read in one file. -/
theorem exists_readRoot {depth : Nat} {lines : List Line} {visits : List Visit} {p p' : Progress}
    (through : Progress.GoesThrough around depth file 1 lines (before.begin file files log)
      visits p)
    (ended : p.endFile file = .ok p) (finished : p.finish file = .ok p') :
    ∃ q, before.readRoot around file (Progress.withoutIncludes visits) files log = .ok q ∧
      p'.Like q := by
  obtain ⟨includeFile, whole⟩ := Progress.exists_readFile_eq around around.limits.includeDepth
  have start : (before.begin file files log).Like (before.begin file files log) := rfl
  obtain ⟨q, read, like⟩ := through.exists_readLines (f := file) start 1 includeFile
  obtain ⟨q₁, ended', like⟩ := like.endFile.exists_ok ended
  obtain ⟨q₂, finished', like⟩ := like.finish.exists_ok finished
  refine ⟨q₂, ?_, like⟩
  rw [readRoot, whole, Progress.readAll, read]
  exact (congrArg (· >>= Progress.finish file) ended').trans finished'

theorem readsAsOneFile_of_loadText
    (succeeded : (before.loadText around text file files log).fault = none) :
    before.ReadsAsOneFile around text file files log
      (before.loadText around text file files log) := by
  obtain ⟨lines, p, p', encoded, read, finished, result⟩ := readFile_of_loadText succeeded
  have through := Progress.goesThrough_of_readFile read
  have visited : before.visits around text file files log =
      Progress.visits around around.limits.includeDepth file lines
        (before.begin file files log) := by
    simp only [visits, encoded]
  have ended : p.endFile file = .ok p := by
    unfold Progress.endFile
    split
    · rename_i f inner block
      exact absurd block (Progress.outside_of_readFile read f inner)
    · rfl
  obtain ⟨q, readRoot, like⟩ := exists_readRoot through ended finished
  rw [← visited] at through readRoot
  rw [result]
  exact ⟨⟨lines, p, p', encoded, through, finished, rfl, rfl⟩, q, readRoot,
    congrArg (·.loaded) like, congrArg (·.files) like⟩

/-- Includes are transparent. A load that succeeds, whether the text is at hand or is read from a
file, reads every file that it opens completely, at the place of its include, and loads the same
as the visited lines in one file would, up to the places that are noted down. -/
theorem readsAsOneFile_of_succeeded (around : Surroundings) (file : Text) (before : Loaded)
    (files : FileSystem) (log : EventLog) :
    (∀ text, (before.loadText around text file files log).fault = none →
      before.ReadsAsOneFile around text file files log
        (before.loadText around text file files log)) ∧
      ((before.load around file files log).fault = none →
        ∃ text, files.readText (Path.ofText file) = .ok text ∧
          before.ReadsAsOneFile around text file files log
            (before.load around file files log)) := by
  constructor
  · intro text succeeded
    exact readsAsOneFile_of_loadText succeeded
  · intro succeeded
    cases read : files.readText (Path.ofText file) with
    | ok text =>
        simp only [load, read] at succeeded ⊢
        exact ⟨text, rfl, readsAsOneFile_of_loadText succeeded⟩
    | error reason =>
        unfold load at succeeded
        rw [read] at succeeded
        cases reason <;> contradiction

/-- An account block that starts in an included file, behind an include of no file, and ends in the
file that includes it. -/
def splitAccount : FileSystem :=
  let bytes (text : String) : List UInt8 := text.toList.map fun c => c.toNat.toUInt8
  { entries := [
      ([['r']], .file (bytes "agent=b\ninclude=m\nreply=f\n\x7d\nagentsite=c.d 1\n")),
      ([['m']], .file (bytes ("agentsite=c.d 1\ninclude=n\nmail\x7b\ninserver=a\noutserver=b\n" ++
        "login=c\npassword=d\nfrom=e\n")))] }

theorem readsAsOneFile_of_splitAccount :
    ∃ text, splitAccount.readText (Path.ofText ['r']) = .ok text ∧
      (fresh ['a']).ReadsAsOneFile ⟨{}, {}⟩ text ['r'] splitAccount #[]
        ((fresh ['a']).load ⟨{}, {}⟩ ['r'] splitAccount #[]) := by
  have succeeded : ((fresh ['a']).load ⟨{}, {}⟩ ['r'] splitAccount #[]).fault = none := by
    decide +kernel
  exact (readsAsOneFile_of_succeeded ⟨{}, {}⟩ ['r'] (fresh ['a']) splitAccount #[]).2 succeeded

end Loaded

end Ebrc
