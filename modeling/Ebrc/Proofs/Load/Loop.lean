import Ebrc.Proofs.Load.Failure
import Mathlib.Data.List.Lex
import Mathlib.Order.WithBot

/-!
# Reading file by file

A load can be seen as a loop. It keeps the files that are open, one inside another, and each turn
reads a line of the innermost one, opens a file on top of it, or ends it. The loop does what the
recursion over includes does, so it ends whatever files include one another, and no deeper than the
limit. Each turn leads to a later place: the places are ordered by the numbers of the lines, those
of the outermost file first, and a place inside an included file comes before the next line of the
file around it. So no place is come to twice, and each open file is read to its end once at most.
-/

namespace Ebrc

/-- A file that is being read: the number of its next line, and the lines that are left of it. -/
structure OpenFile where
  file : Text
  number : Nat := 1
  rest : List Line
  deriving Repr, DecidableEq

namespace OpenFile

/-- The next line of each file, that of the innermost file first. -/
def places (files : List OpenFile) : List Position := files.map fun f => ⟨f.file, f.number⟩

/-- The numbers of the lines, that of the outermost file first. -/
def numbers (files : List OpenFile) : List (WithTop Nat) :=
  (files.map fun f => WithTop.some f.number).reverse

@[simp] theorem numbers_cons (file : OpenFile) (outer : List OpenFile) :
    numbers (file :: outer) = numbers outer ++ [WithTop.some file.number] := by
  simp [numbers]

/-- The place of the next line among all others. What stands for a file inside the innermost one is
later than all lines of such a file. -/
def address (files : List OpenFile) : List (WithTop Nat) := numbers files ++ [⊤]

end OpenFile

namespace Progress

variable {around : Surroundings} {p p' p₁ : Progress} {here : Position} {v : Text}
variable {files files' files₁ outer : List OpenFile} {n : Nat}

/-! ## The loop -/

/-- The file that an include opens when so many are open around it. -/
def openedBy (around : Surroundings) (depth : Nat) (here : Position) (v : Text) (p : Progress) :
    Except Stop (Option OpenFile × Progress) := do
  match ← p.includedPath around.environment here v with
  | (none, p) => .ok (none, p)
  | (some path, p) =>
    if around.limits.includeDepth ≤ depth then
      p.stop here (.includedTooDeep around.limits.includeDepth)
    else
      match ← p.openInclude around.limits here path with
      | (none, p) => .ok (none, p)
      | (some lines, p) => .ok (some { file := path.toText, rest := lines }, p)

/-- One turn of the loop: the files that are open then. -/
def turn (around : Surroundings) (file : OpenFile) (outer : List OpenFile) (p : Progress) :
    Except Stop (List OpenFile × Progress) :=
  match file.rest with
  | [] => (p.endFile file.file).map fun p => (outer, p)
  | line :: rest =>
    let here : Position := ⟨file.file, file.number⟩
    let after : OpenFile := ⟨file.file, file.number + 1, rest⟩
    match p.include? line with
    | none => (p.readLine around (fun _ _ p => .ok p) here line).map fun p => (after :: outer, p)
    | some v =>
      (p.openedBy around outer.length here v).map fun (child?, p) =>
        (child?.toList ++ after :: outer, p)

/-- A number of turns. The loop is at its end when no file is open. -/
inductive Turns (around : Surroundings) :
    Nat → List OpenFile → Progress → List OpenFile → Progress → Prop where
  | refl (files : List OpenFile) (p : Progress) : Turns around 0 files p files p
  | head {n : Nat} {file : OpenFile} {outer files₁ files' : List OpenFile} {p p₁ p' : Progress}
      (first : p.turn around file outer = .ok (files₁, p₁))
      (later : Turns around n files₁ p₁ files' p') :
      Turns around (n + 1) (file :: outer) p files' p'

/-- The loop comes to where only some of the files are open, or stops before. -/
def LeavesWith (around : Surroundings) (files : List OpenFile) (p : Progress)
    (outer : List OpenFile) : Except Stop Progress → Prop
  | .ok p' => ∃ n, Turns around n files p outer p'
  | .error stop => ∃ n file inside p₁,
      Turns around n files p (file :: inside) p₁ ∧ p₁.turn around file inside = .error stop

theorem Turns.trans {k : Nat} (first : Turns around n files p files₁ p₁)
    (later : Turns around k files₁ p₁ files' p') : Turns around (n + k) files p files' p' := by
  induction first with
  | refl => simpa using later
  | head turned _ ih =>
      rw [Nat.add_right_comm]
      exact .head turned (ih later)

namespace LeavesWith

variable {r : Except Stop Progress}

theorem of_turns (turns : Turns around n files p files₁ p₁)
    (leaves : LeavesWith around files₁ p₁ outer r) : LeavesWith around files p outer r := by
  cases r with
  | ok p' =>
      obtain ⟨k, later⟩ := leaves
      exact ⟨n + k, turns.trans later⟩
  | error stop =>
      obtain ⟨k, file, inside, p', later, stopped⟩ := leaves
      exact ⟨n + k, file, inside, p', turns.trans later, stopped⟩

/-- A single turn. -/
theorem of_turn {file : OpenFile} (turned : p.turn around file outer = r.map fun p => (files', p)) :
    LeavesWith around (file :: outer) p files' r := by
  cases r with
  | ok p' => exact ⟨1, .head turned (.refl ..)⟩
  | error stop => exact ⟨0, file, outer, p, .refl .., turned⟩

theorem bind {f : Progress → Except Stop Progress} (leaves : LeavesWith around files p files₁ r)
    (next : ∀ p', r = .ok p' → LeavesWith around files₁ p' outer (f p')) :
    LeavesWith around files p outer (r >>= f) := by
  cases r with
  | ok p' =>
      obtain ⟨n, turns⟩ := leaves
      exact (next p' rfl).of_turns turns
  | error stop => exact leaves

end LeavesWith

/-! ## The loop and the recursion -/

/-- No file is opened where as many as allowed are open. -/
theorem openedBy_of_full {depth : Nat} (full : around.limits.includeDepth ≤ depth) :
    p.openedBy around depth here v = (refuseInclude around here v p).map fun p => (none, p) := by
  unfold openedBy refuseInclude
  cases told : p.includedPath around.environment here v with
  | error stop => rfl
  | ok result =>
      obtain ⟨path?, p₁⟩ := result
      cases path? with
      | none => rfl
      | some path => exact if_pos full

/-- A file is opened only where there is room, and it is read from its first line. -/
theorem openedBy_child {depth : Nat} {child : OpenFile}
    (opened : p.openedBy around depth here v = .ok (some child, p')) :
    depth < around.limits.includeDepth ∧ child.number = 1 := by
  obtain ⟨⟨path?, p₁⟩, told, opened⟩ := exists_of_bind_eq_ok opened
  cases path? with
  | none => cases opened
  | some path =>
      simp only at opened
      split at opened
      · contradiction
      rename_i room
      obtain ⟨⟨lines?, p₂⟩, -, opened⟩ := exists_of_bind_eq_ok opened
      cases lines? with
      | none => cases opened
      | some lines =>
          cases opened
          exact ⟨Nat.lt_of_not_le room, rfl⟩

/-- A file that is opened is read, and the lines of the file around it go on behind it. -/
theorem followInclude_eq {depth : Nat} (room : depth < around.limits.includeDepth)
    (read : Text → List Line → Progress → Except Stop Progress) :
    followInclude around read here v p =
      p.openedBy around depth here v >>= fun (child?, p) =>
        match child? with
        | none => .ok p
        | some child => read child.file child.rest p := by
  unfold openedBy followInclude
  cases told : p.includedPath around.environment here v with
  | error stop => rfl
  | ok result =>
      obtain ⟨path?, p₁⟩ := result
      cases path? with
      | none => rfl
      | some path =>
          change (p₁.openInclude around.limits here path >>= _) =
            (if around.limits.includeDepth ≤ depth then _ else _) >>= _
          rw [if_neg (Nat.not_le.2 room)]
          cases p₁.openInclude around.limits here path with
          | error stop => rfl
          | ok result =>
              obtain ⟨lines?, p₂⟩ := result
              cases lines? with
              | none => rfl
              | some lines => rfl

/-- Lines that are left of a file are read, and the file is left, if the includes among them lead to
the lines behind them. -/
theorem leaves_readLines {includeFile : Position → Text → Progress → Except Stop Progress}
    {file : Text} (includes : ∀ number line rest v p, p.include? line = some v →
      LeavesWith around (⟨file, number, line :: rest⟩ :: outer) p
        (⟨file, number + 1, rest⟩ :: outer) (includeFile ⟨file, number⟩ v p))
    (number : Nat) (lines : List Line) (p : Progress) :
    LeavesWith around (⟨file, number, lines⟩ :: outer) p outer
      (readLines around includeFile file number lines p >>= (·.endFile file)) := by
  induction lines generalizing number p with
  | nil => exact .of_turn rfl
  | cons line rest ih =>
      have first : LeavesWith around (⟨file, number, line :: rest⟩ :: outer) p
          (⟨file, number + 1, rest⟩ :: outer)
          (p.readLine around includeFile ⟨file, number⟩ line) := by
        cases included : p.include? line with
        | none =>
            rw [readLine_of_other included includeFile (fun _ _ p => .ok p)]
            refine .of_turn ?_
            simp only [turn, included]
        | some v =>
            rw [readLine_of_include included]
            exact includes number line rest v p included
      rw [readLines, bind_assoc]
      exact first.bind fun p₁ _ => ih (number + 1) p₁

/-- How an include is dealt with where files may still be opened this many deep. -/
def includeWithin (around : Surroundings) : Nat → Position → Text → Progress → Except Stop Progress
  | 0 => refuseInclude around
  | room + 1 => followInclude around (readFile around room)

theorem readFile_eq (around : Surroundings) (room : Nat) (file : Text) (lines : List Line)
    (p : Progress) : readFile around room file lines p =
      readLines around (includeWithin around room) file 1 lines p >>= (·.endFile file) := by
  cases room <;> rfl

/-- Whatever is open around a file, the loop reads the lines that are left of it as the recursion
does, and then goes on with the file around it. -/
theorem leaves_file {room : Nat} (level : outer.length + room = around.limits.includeDepth)
    (file : OpenFile) (p : Progress) :
    LeavesWith around (file :: outer) p outer
      (readLines around (includeWithin around room) file.file file.number file.rest p >>=
        (·.endFile file.file)) := by
  induction room generalizing file p outer with
  | zero =>
      refine leaves_readLines (fun number line rest v p included => .of_turn ?_) _ _ p
      have full : around.limits.includeDepth ≤ outer.length := by omega
      simp only [turn, included, openedBy_of_full full, includeWithin]
      cases refuseInclude around ⟨file.file, number⟩ v p <;> rfl
  | succ room ih =>
      refine leaves_readLines (fun number line rest v p included => ?_) _ _ p
      have below : outer.length < around.limits.includeDepth := by omega
      rw [includeWithin, followInclude_eq below]
      cases opened : p.openedBy around outer.length ⟨file.file, number⟩ v with
      | error stop =>
          refine .of_turn ?_
          simp only [turn, included, opened]
          rfl
      | ok result =>
          obtain ⟨child?, p₁⟩ := result
          have turned : p.turn around ⟨file.file, number, line :: rest⟩ outer =
              .ok (child?.toList ++ ⟨file.file, number + 1, rest⟩ :: outer, p₁) := by
            simp only [turn, included, opened]
            rfl
          refine LeavesWith.of_turns (.head turned (.refl ..)) ?_
          cases child? with
          | none => exact ⟨0, .refl ..⟩
          | some child =>
              have deeper : (⟨file.file, number + 1, rest⟩ :: outer : List OpenFile).length + room =
                  around.limits.includeDepth := by
                rw [List.length_cons]
                omega
              have inside := ih deeper child p₁
              rw [(openedBy_child opened).2, ← readFile_eq] at inside
              exact inside

/-! ## Places -/

/-- What a turn does to the files that are open: it ends the innermost one, goes on to its next line,
or opens a file if there is room. -/
theorem turn_cases {file : OpenFile} (turned : p.turn around file outer = .ok (files', p')) :
    files' = outer ∨ ∃ rest, files' = ⟨file.file, file.number + 1, rest⟩ :: outer ∨
      ∃ child, child.number = 1 ∧ outer.length < around.limits.includeDepth ∧
        files' = child :: ⟨file.file, file.number + 1, rest⟩ :: outer := by
  unfold turn at turned
  split at turned
  · obtain ⟨p₁, -, same⟩ := exists_of_map_eq_ok turned
    cases same
    exact .inl rfl
  · rename_i line rest _
    dsimp only at turned
    split at turned
    · obtain ⟨p₁, -, same⟩ := exists_of_map_eq_ok turned
      cases same
      exact .inr ⟨rest, .inl rfl⟩
    · obtain ⟨⟨child?, p₁⟩, opened, same⟩ := exists_of_map_eq_ok turned
      cases same
      cases child? with
      | none => exact .inr ⟨rest, .inl rfl⟩
      | some child =>
          obtain ⟨room, first⟩ := openedBy_child opened
          exact .inr ⟨rest, .inr ⟨child, first, room, rfl⟩⟩

/-- No file is opened deeper than the limit. -/
theorem Turns.length_le (turns : Turns around n files p files' p')
    (start : files.length ≤ around.limits.includeDepth + 1) :
    files'.length ≤ around.limits.includeDepth + 1 := by
  induction turns with
  | refl => exact start
  | head turned _ ih =>
      refine ih ?_
      rcases turn_cases turned with rfl | ⟨rest, rfl | ⟨child, -, room, rfl⟩⟩
      · exact Nat.le_of_succ_le start
      · exact start
      · exact Nat.succ_le_succ room

/-- A turn leads to a later place. -/
theorem address_lt_of_turn {file : OpenFile} (turned : p.turn around file outer = .ok (files', p')) :
    OpenFile.address (file :: outer) < OpenFile.address files' := by
  have behind {first second : List (WithTop Nat)} (lt : first < second) :
      OpenFile.numbers outer ++ first < OpenFile.numbers outer ++ second :=
    List.Lex.append_left _ lt _
  have next : WithTop.some file.number < WithTop.some (file.number + 1) :=
    WithTop.coe_lt_coe.2 (Nat.lt_succ_self _)
  unfold OpenFile.address
  rcases turn_cases turned with rfl | ⟨rest, rfl | ⟨child, -, room, rfl⟩⟩
  · rw [OpenFile.numbers_cons, List.append_assoc]
    exact behind (.rel (WithTop.coe_lt_top _))
  · simp only [OpenFile.numbers_cons, List.append_assoc]
    exact behind (.rel next)
  · simp only [OpenFile.numbers_cons, List.append_assoc]
    exact behind (.rel next)

/-- Turns lead to a later place. -/
theorem Turns.address_lt (turns : Turns around (n + 1) files p files' p') :
    OpenFile.address files < OpenFile.address files' := by
  induction n generalizing files p with
  | zero =>
      cases turns with
      | head turned later =>
          cases later
          exact address_lt_of_turn turned
  | succ n ih =>
      cases turns with
      | head turned later => exact lt_trans (address_lt_of_turn turned) (ih later)

/-- No place is come to twice. -/
theorem Turns.places_ne (turns : Turns around (n + 1) files p files' p') :
    OpenFile.places files' ≠ OpenFile.places files := by
  intro same
  have number (files : List OpenFile) : OpenFile.numbers files =
      ((OpenFile.places files).map fun here => WithTop.some here.line).reverse := by
    simp [OpenFile.numbers, OpenFile.places, Function.comp_def]
  have later := turns.address_lt
  rw [OpenFile.address, OpenFile.address, number files', same, ← number files] at later
  exact lt_irrefl _ later

/-! ## Too deep -/

/-- After a turn the loop comes to the same end. -/
theorem LeavesWith.of_turned {r : Except Stop Progress} {file : OpenFile}
    (turned : p.turn around file outer = .ok (files₁, p₁))
    (leaves : LeavesWith around (file :: outer) p [] r) : LeavesWith around files₁ p₁ [] r := by
  cases r with
  | ok p' =>
      obtain ⟨k, all⟩ := leaves
      cases all with
      | head turned' later =>
          cases turned.symm.trans turned'
          exact ⟨_, later⟩
  | error stop =>
      obtain ⟨k, file', inside, p', all, stopped⟩ := leaves
      cases all with
      | refl =>
          rw [turned] at stopped
          contradiction
      | head turned' later =>
          cases turned.symm.trans turned'
          exact ⟨_, file', inside, p', later, stopped⟩

/-- After some turns the loop comes to the same end. -/
theorem LeavesWith.after {r : Except Stop Progress} (turns : Turns around n files p files' p')
    (leaves : LeavesWith around files p [] r) : LeavesWith around files' p' [] r := by
  induction turns with
  | refl => exact leaves
  | head turned _ ih => exact ih (leaves.of_turned turned)

theorem LeavesWith.eq_error {r : Except Stop Progress} {file : OpenFile} {stop : Stop}
    (stopped : p.turn around file outer = .error stop)
    (leaves : LeavesWith around (file :: outer) p [] r) : r = .error stop := by
  cases r with
  | ok p' =>
      obtain ⟨k, all⟩ := leaves
      cases all with
      | head turned _ =>
          rw [stopped] at turned
          contradiction
  | error stop' =>
      obtain ⟨k, file', inside, p', all, stopped'⟩ := leaves
      cases all with
      | refl =>
          cases stopped'.symm.trans stopped
          rfl
      | head turned _ =>
          rw [stopped] at turned
          contradiction

/-- Why a load stops at an include for which there is no room: it is refused, unless the home
directory in its path is not known. -/
def depthFault (around : Surroundings) (here : Position) (v : Text) : LoadFault :=
  match around.environment.expandHome (Path.ofText (around.environment.expand v)) with
  | .ok _ => .config
      ⟨.includedTooDeep around.limits.includeDepth, some here.file, some here.line⟩
  | .error crash => .crash crash

theorem turn_of_full {name : Text} {number : Nat} {line : Line} {rest : List Line}
    (full : outer.length = around.limits.includeDepth) (included : p.include? line = some v)
    (defined : Environment.remaining? (around.environment.expand v) = none) :
    p.turn around ⟨name, number, line :: rest⟩ outer =
      .error ⟨depthFault around ⟨name, number⟩ v, p⟩ := by
  simp only [turn, included, openedBy_of_full (Nat.le_of_eq full.symm), refuseInclude,
    includedPath, expandPath, defined, depthFault]
  cases around.environment.expandHome (Path.ofText (around.environment.expand v)) <;> rfl

end Progress

/-- A load that fails because there is no room for an include: the include is refused, unless the
home directory in its path is not known. -/
structure LoadResult.FailsAtLimit (around : Surroundings) (here : Position) (v : Text)
    (result : LoadResult) : Prop where
  refused : (∀ c, ¬around.environment.Homeless v c) → result.fault = some (.config
    ⟨.includedTooDeep around.limits.includeDepth, some here.file, some here.line⟩)
  crash : ∀ c, result.fault = some (.crash c) ↔ around.environment.Homeless v c

theorem LoadResult.failsAtLimit {around : Surroundings} {here : Position} {v : Text}
    {result : LoadResult} (defined : Environment.remaining? (around.environment.expand v) = none)
    (failed : result.fault = some (Progress.depthFault around here v)) :
    result.FailsAtLimit around here v := by
  have homeless (c : Crash) : around.environment.Homeless v c ↔
      around.environment.expandHome (Path.ofText (around.environment.expand v)) = .error c := by
    rw [Environment.homeless_iff]
    exact and_iff_right defined
  unfold Progress.depthFault at failed
  cases home : around.environment.expandHome (Path.ofText (around.environment.expand v)) with
  | ok path =>
      rw [home] at failed
      refine ⟨fun _ => failed, fun c => ?_⟩
      rw [failed, homeless, home]
      simp
  | error reason =>
      rw [home] at failed
      refine ⟨fun known => absurd ((homeless reason).2 home) (known reason), fun c => ?_⟩
      rw [failed, homeless, home]
      simp

namespace Loaded

open Progress

/-- The loop of a load comes to its end, whatever files there are, and what it comes to is what the
load makes of its files. At every turn no more files are open than the limit allows. No place is
come to twice. Each file that is open is read to its end, and the file around it is gone on with
from where it stands, unless the load stops before. An include that there is no room for, and whose
variables are defined, makes the load fail: it is refused, or the load crashes because the home
directory in its path is not known. -/
theorem loop_ends (around : Surroundings) (text file : Text) (before : Loaded) (files : FileSystem)
    (log : EventLog) {lines : List Line}
    (encoded : Encoding.lines text file around.limits.functionName = .ok lines) :
    (∃ r, LeavesWith around [{ file, rest := lines }] (before.begin file files log) [] r ∧
      before.readRoot around file lines files log = r >>= (·.finish file)) ∧
      ∀ n opened p,
        Turns around n [{ file, rest := lines }] (before.begin file files log) opened p →
        opened.length ≤ around.limits.includeDepth + 1 ∧
        (∀ k later p', Turns around (k + 1) opened p later p' →
          OpenFile.places later ≠ OpenFile.places opened) ∧
        (∀ inner outer, opened = inner :: outer → ∃ r, LeavesWith around opened p outer r) ∧
        ∀ name number line rest outer v, opened = ⟨name, number, line :: rest⟩ :: outer →
          outer.length = around.limits.includeDepth → p.include? line = some v →
          Environment.remaining? (around.environment.expand v) = none →
          (before.loadText around text file files log).FailsAtLimit around ⟨name, number⟩ v := by
  have room : ([] : List OpenFile).length + around.limits.includeDepth =
      around.limits.includeDepth := Nat.zero_add _
  have whole := leaves_file room { file, rest := lines } (before.begin file files log)
  rw [← readFile_eq] at whole
  refine ⟨⟨_, whole, rfl⟩, fun n opened p turns => ?_⟩
  have bound : opened.length ≤ around.limits.includeDepth + 1 :=
    turns.length_le (Nat.succ_le_succ (Nat.zero_le _))
  refine ⟨bound, fun k later p' further => further.places_ne, ?_, ?_⟩
  · rintro inner outer rfl
    have enough : outer.length ≤ around.limits.includeDepth := Nat.le_of_succ_le_succ bound
    exact ⟨_, leaves_file (Nat.add_sub_cancel' enough) inner p⟩
  · rintro name number line rest outer v rfl full included defined
    have stopped : p.turn around ⟨name, number, line :: rest⟩ outer = _ :=
      turn_of_full full included defined
    have failed : before.readRoot around file lines files log =
        .error ⟨depthFault around ⟨name, number⟩ v, p⟩ := by
      rw [readRoot, (whole.after turns).eq_error stopped]
      rfl
    refine LoadResult.failsAtLimit defined ?_
    rw [loadText_of_lines encoded, failed]
    cases depthFault around ⟨name, number⟩ v <;> rfl

/-- A file with an include. -/
def withInclude (included : String) : FileSystem :=
  { entries := [
      ([['m']], .file (("include = " ++ included ++ "\n").toList.map fun c => c.toNat.toUInt8))] }

/-- Where the rc file may include others, which may include none. -/
def onceDeep : Surroundings :=
  ⟨{ includeDepth := 1 }, { bindings := [("HOME".toList, "home".toList)] }⟩

theorem loop_ends_onceDeep :
    let start := (fresh []).begin ['q'] (withInclude "m") #[]
    let inside := start.modify fun s => { s with files := s.files ++ [['m']] }
    Encoding.lines "include = m\n".toList ['q'] onceDeep.limits.functionName =
        .ok ["include = m".toList] ∧
      (∃ r, LeavesWith onceDeep [{ file := ['q'], rest := ["include = m".toList] }] start [] r) ∧
      Turns onceDeep 1 [{ file := ['q'], rest := ["include = m".toList] }] start
        [⟨['m'], 1, ["include = m".toList]⟩, ⟨['q'], 2, []⟩] inside ∧
      inside.include? "include = m".toList = some ['m'] ∧
      Environment.remaining? (onceDeep.environment.expand ['m']) = none ∧
      ((fresh []).loadText onceDeep "include = m\n".toList ['q'] (withInclude "m")
        #[]).FailsAtLimit onceDeep ⟨['m'], 1⟩ ['m'] := by
  intro start inside
  have encoded : Encoding.lines "include = m\n".toList ['q'] onceDeep.limits.functionName =
      .ok ["include = m".toList] := by decide +kernel
  have turned : start.turn onceDeep { file := ['q'], rest := ["include = m".toList] } [] =
      .ok ([⟨['m'], 1, ["include = m".toList]⟩, ⟨['q'], 2, []⟩], inside) := by decide +kernel
  have included : inside.include? "include = m".toList = some ['m'] := by decide +kernel
  have defined : Environment.remaining? (onceDeep.environment.expand ['m']) = none := by
    decide +kernel
  obtain ⟨⟨r, ends, -⟩, states⟩ := loop_ends onceDeep "include = m\n".toList ['q'] (fresh [])
    (withInclude "m") #[] encoded
  have once : Turns onceDeep 1 _ start _ inside := .head turned (.refl ..)
  obtain ⟨-, -, -, full⟩ := states 1 _ _ once
  exact ⟨encoded, ⟨r, ends⟩, once, included, defined,
    full _ _ _ _ _ _ rfl rfl included defined⟩

/-- At the limit, an include of a file in the home directory of somebody who is not known makes the
load crash. -/
theorem crash_of_homeless :
    let files := withInclude "~nosuchuser/x"
    let start := (fresh []).begin ['q'] files #[]
    let inside := start.modify fun s => { s with files := s.files ++ [['m']] }
    Turns onceDeep 1 [{ file := ['q'], rest := ["include = m".toList] }] start
        [⟨['m'], 1, ["include = ~nosuchuser/x".toList]⟩, ⟨['q'], 2, []⟩] inside ∧
      inside.include? "include = ~nosuchuser/x".toList = some "~nosuchuser/x".toList ∧
      Environment.remaining? (onceDeep.environment.expand "~nosuchuser/x".toList) = none ∧
      ((fresh []).loadText onceDeep "include = m\n".toList ['q'] files #[]).fault =
        some (.crash .noHome) := by
  intro files start inside
  have turned : start.turn onceDeep { file := ['q'], rest := ["include = m".toList] } [] =
      .ok ([⟨['m'], 1, ["include = ~nosuchuser/x".toList]⟩, ⟨['q'], 2, []⟩], inside) := by
    decide +kernel
  refine ⟨.head turned (.refl ..), ?_, ?_, ?_⟩
  · decide +kernel
  · decide +kernel
  · decide +kernel

end Loaded

end Ebrc
