import Ebrc.Proofs.Load.Trail

/-!
# The lines that a load comes to

A load comes to the lines of its files one after the other, those of an included file behind the
line that includes it, and it has come some way when it stands before each of them. These visits are
the lines on the trail of the load, also of one that stops, and up to each of them the load is a row
of single readings.
-/

namespace Ebrc

/-- A line that a load comes to. -/
structure Visit where
  here : Position
  line : Line
  /-- How deep files may still include one another there. -/
  room : Nat
  /-- How far the load has come by then. -/
  before : Progress
  deriving Repr, DecidableEq

namespace Visit

/-- The line on the trail. -/
def sight (visit : Visit) : Sight := .line visit.here visit.line

/-- Does the line include another file, or would it but for a fault of the path? -/
def isInclude (visit : Visit) : Bool := (visit.before.include? visit.line).isSome

end Visit

namespace Progress

/-! ## Visits -/

/-- The visits to the lines of a file, of which the first has this number. -/
def lineVisits (around : Surroundings)
    (includeFile : Position → Text → Progress → Except Stop Progress)
    (includeVisits : Position → Text → Progress → List Visit) (room : Nat) (file : Text) :
    Nat → List Line → Progress → List Visit
  | _, [], _ => []
  | number, line :: rest, p =>
    let included := match p.include? line with
      | some v => includeVisits ⟨file, number⟩ v p
      | none => []
    let later := match p.readLine around includeFile ⟨file, number⟩ line with
      | .ok p => lineVisits around includeFile includeVisits room file (number + 1) rest p
      | .error _ => []
    ⟨⟨file, number⟩, line, room, p⟩ :: (included ++ later)

/-- The visits of an include: those to the lines of the file that is opened. -/
def includeVisits (around : Surroundings) (visits : Text → List Line → Progress → List Visit)
    (here : Position) (v : Text) (p : Progress) : List Visit :=
  match p.includedPath around.environment here v with
  | .ok (some path, p) =>
    match p.openInclude around.limits here path with
    | .ok (some lines, p) => visits path.toText lines p
    | _ => []
  | _ => []

/-- The visits to the lines of a file that may include others this many deep. -/
def visits (around : Surroundings) : Nat → Text → List Line → Progress → List Visit
  | 0, file => lineVisits around (refuseInclude around) (fun _ _ _ => []) 0 file 1
  | depth + 1, file =>
    lineVisits around (followInclude around (readFile around depth))
      (includeVisits around (visits around depth)) (depth + 1) file 1

/-! ## Visits along the trail -/

variable {around : Surroundings} {p p' : Progress} {line : Line} {here : Position} {v : Text}

/-- The visit lies on a trail, and the readings before it lead up to it. -/
def LeadsTo (around : Surroundings) (p : Progress) (trail : List Sight) (visit : Visit) : Prop :=
  ∃ sights later, trail = sights ++ visit.sight :: later ∧ Reads around p sights visit.before

theorem LeadsTo.append {p₁ : Progress} {first second : List Sight} {visit : Visit}
    (reads : Reads around p first p₁) (leads : LeadsTo around p₁ second visit) :
    LeadsTo around p (first ++ second) visit := by
  obtain ⟨sights, later, rfl, after⟩ := leads
  exact ⟨first ++ sights, later, (List.append_assoc ..).symm, reads.append after⟩

theorem LeadsTo.append_right {first : List Sight} {visit : Visit}
    (leads : LeadsTo around p first visit) (second : List Sight) :
    LeadsTo around p (first ++ second) visit := by
  obtain ⟨sights, later, rfl, before⟩ := leads
  exact ⟨sights, later ++ second, by simp, before⟩

theorem leadsTo_lineVisits
    {includeFile : Position → Text → Progress → Except Stop Progress}
    {includeTrail : Position → Text → Progress → List Sight}
    {includeVisits : Position → Text → Progress → List Visit}
    (includes : ∀ {here line v p p'}, p.include? line = some v → includeFile here v p = .ok p' →
      Reads around p (.line here line :: includeTrail here v p) p')
    (inside : ∀ {here line v p}, p.include? line = some v → ∀ visit ∈ includeVisits here v p,
      LeadsTo around p (.line here line :: includeTrail here v p) visit)
    {room number : Nat} {file : Text} {lines : List Line} {visit : Visit}
    (among : visit ∈ lineVisits around includeFile includeVisits room file number lines p) :
    LeadsTo around p (lineTrail around includeFile includeTrail file number lines p) visit := by
  induction lines generalizing number p with
  | nil => contradiction
  | cons line rest ih =>
      unfold lineVisits at among
      unfold lineTrail
      rcases List.mem_cons.1 among with rfl | among
      · exact ⟨[], _, rfl, .nil p⟩
      cases included : p.include? line with
      | none =>
          simp only [included, List.nil_append] at among ⊢
          cases read : p.readLine around includeFile ⟨file, number⟩ line with
          | error stop =>
              rw [read] at among
              contradiction
          | ok p₁ =>
              simp only [read] at among ⊢
              rw [readLine_of_other included includeFile (fun _ _ p => .ok p)] at read
              exact (ih among).append (.line included read (.nil p₁))
      | some v =>
          simp only [included] at among ⊢
          rcases List.mem_append.1 among with among | among
          · exact (inside included visit among).append_right _
          · cases read : p.readLine around includeFile ⟨file, number⟩ line with
            | error stop =>
                rw [read] at among
                contradiction
            | ok p₁ =>
                simp only [read] at among ⊢
                rw [readLine_of_include included] at read
                exact (ih among).append (includes included read)

/-- A visit of an include is one to a line of the file that is opened. -/
theorem exists_of_mem_includeVisits {visits : Text → List Line → Progress → List Visit}
    {here : Position} {v : Text} {visit : Visit}
    (among : visit ∈ includeVisits around visits here v p) :
    ∃ path p₁ lines p₂, p.includedPath around.environment here v = .ok (some path, p₁) ∧
      p₁.openInclude around.limits here path = .ok (some lines, p₂) ∧
      visit ∈ visits path.toText lines p₂ := by
  unfold includeVisits at among
  split at among
  · rename_i path p₁ told
    split at among
    · rename_i lines p₂ opened
      exact ⟨path, p₁, lines, p₂, told, opened, among⟩
    · contradiction
  · contradiction

/-- A visit lies on the trail of its file. -/
theorem leadsTo_visits {depth : Nat} {file : Text} {lines : List Line} {visit : Visit}
    (among : visit ∈ visits around depth file lines p) :
    LeadsTo around p (trail around depth file lines p) visit := by
  induction depth generalizing file lines p visit with
  | zero =>
      refine leadsTo_lineVisits reads_of_refuseInclude ?_ among
      intro _ _ _ _ _ visit impossible
      contradiction
  | succ depth ih =>
      refine leadsTo_lineVisits (reads_of_followInclude reads_of_readFile) ?_ among
      intro here line v p included visit inside
      obtain ⟨path, p₁, lines, p₂, told, opened, inside⟩ := exists_of_mem_includeVisits inside
      unfold includeTrail
      rcases includedPath_cases told with ⟨event, impossible, -⟩ | ⟨path', same, rfl⟩
      · contradiction
      cases same
      rcases openInclude_cases opened with
        ⟨event, impossible, -⟩ | ⟨text, lines', same, read, encoded, rfl⟩
      · contradiction
      cases same
      simp only [told, opened, read]
      have first : Reads around p₁ [.line here line, .opened path.toText text] _ :=
        .opened included read encoded (.nil _)
      exact LeadsTo.append first (ih inside)

end Progress

namespace Loaded

variable {around : Surroundings} {text file : Text} {before : Loaded} {files : FileSystem}
variable {log : EventLog}

/-- The visits of a load of an rc file whose text is at hand. -/
def visits (around : Surroundings) (text file : Text) (before : Loaded) (files : FileSystem)
    (log : EventLog) : List Visit :=
  match Encoding.lines text file around.limits.functionName with
  | .error _ => []
  | .ok lines =>
    Progress.visits around around.limits.includeDepth file lines (before.begin file files log)

/-- A visit of a load lies on its trail. -/
theorem leadsTo_of_mem_visits {visit : Visit}
    (among : visit ∈ before.visits around text file files log) :
    ∃ sights, before.trail around text file files log = .opened file text :: sights ∧
      Progress.LeadsTo around (before.begin file files log) sights visit := by
  unfold visits at among
  unfold trail
  cases encoded : Encoding.lines text file around.limits.functionName with
  | error error =>
      rw [encoded] at among
      contradiction
  | ok lines =>
      simp only [encoded] at among ⊢
      exact ⟨_, rfl, Progress.leadsTo_visits among⟩

end Loaded

end Ebrc
