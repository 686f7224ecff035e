import Ebrc.FileSystem

/-!
# What a file system refuses

Whoever asks what stands at a path gets an answer also where there is nothing. There is none in two
cases: the path is too long, or it leads through a directory that may not be searched. What is read
or made fails for more reasons, among them that no file can have the path.
-/

namespace Ebrc

theorem map_eq_error_iff {ε α β : Type} {r : Except ε α} {f : α → β} {e : ε} :
    r.map f = .error e ↔ r = .error e := by
  cases r <;> simp [Except.map]

namespace FileSystem

variable {files : FileSystem} {path : Path} {reason : FileError} {here : Location}

/-! ## Asking what is there -/

/-- The file system does not say what stands at a path, because the path is too long, or because a
directory on the way may not be searched. -/
def Refuses (files : FileSystem) (path : Path) (reason : FileError) : Prop :=
  files.locate path = .error reason ∧ (reason = .nameTooLong ∨ reason = .denied)

theorem probe_eq_error_iff : files.probe path = .error reason ↔ files.Refuses path reason := by
  unfold probe Refuses
  cases located : files.locate path with
  | ok here => simp
  | error fault => cases fault <;> cases reason <;> simp

/-- A name in a directory that may not be searched. -/
example : ({ entries := [([['d']], .directory)], forbidden := [([['d']], .search)] } :
    FileSystem).Refuses (.ofText "d/x".toList) .denied :=
  ⟨rfl, .inr rfl⟩

theorem isDirectory_eq_error_iff :
    files.isDirectory path = .error reason ↔ files.Refuses path reason := by
  rw [isDirectory, map_eq_error_iff, probe_eq_error_iff]

theorem isFile_eq_error_iff : files.isFile path = .error reason ↔ files.Refuses path reason := by
  rw [isFile, map_eq_error_iff, probe_eq_error_iff]

theorem pathExists_eq_error_iff :
    files.pathExists path = .error reason ↔ files.Refuses path reason := by
  rw [pathExists, map_eq_error_iff, probe_eq_error_iff]

/-- A path leads to a file if and only if it leads to a location at which there is one. -/
theorem isFile_eq_true_iff :
    files.isFile path = .ok true ↔
      ∃ here content, files.locate path = .ok here ∧ files.entry? here = some (.file content) := by
  unfold isFile probe
  cases files.locate path with
  | error fault => cases fault <;> simp [Except.map]
  | ok here =>
      cases entry : files.entry? here with
      | none => simp [Except.map, entry]
      | some found => cases found <;> simp [Except.map, entry]

/-! ## Reading -/

/-- A file is read unless that is forbidden. -/
theorem readText_of_file {content : List UInt8} (located : files.locate path = .ok here)
    (entry : files.entry? here = some (.file content)) :
    files.readText path = if files.forbids here .read then .error .denied
      else .ok (Text.unifyNewlines (Text.decodeUtf8 content)) := by
  unfold readText read
  rw [located]
  simp only [bind, Except.bind, entry]
  split <;> rfl

/-- What is read is a file. -/
theorem isFile_of_readText {text : Text} (read : files.readText path = .ok text) :
    files.isFile path = .ok true := by
  unfold readText FileSystem.read at read
  rw [isFile_eq_true_iff]
  cases located : files.locate path with
  | error fault => simp [located, bind, Except.bind, Except.map] at read
  | ok here =>
      refine ⟨here, ?_⟩
      cases entry : files.entry? here with
      | none => simp [located, entry, bind, Except.bind, Except.map] at read
      | some found =>
          cases found with
          | file content => exact ⟨content, rfl, rfl⟩
          | directory =>
              simp only [located, entry, bind, Except.bind] at read
              split at read <;> cases read

/-! ## Bad paths -/

theorem canRead_eq_error_iff :
    files.canRead path = .error reason ↔
      reason = .badPath ∧ files.locate path = .error .badPath := by
  unfold canRead
  cases located : files.locate path with
  | ok here => simp
  | error fault => cases fault <;> simp [eq_comm]

/-- Once a path is located it is not bad, whatever fails then. -/
theorem bind_locate_eq_badPath_iff {α : Type} {act : Location → Except FileError α}
    (sound : ∀ here, act here ≠ .error .badPath) :
    files.locate path >>= act = .error .badPath ↔ files.locate path = .error .badPath := by
  cases files.locate path with
  | ok here => simp [bind, Except.bind, sound]
  | error fault => simp [bind, Except.bind]

theorem openForAppend_eq_badPath_iff :
    files.openForAppend path = .error .badPath ↔ files.locate path = .error .badPath := by
  refine bind_locate_eq_badPath_iff fun here => ?_
  repeat' split
  all_goals simp

theorem makeDirectory_eq_badPath_iff :
    files.makeDirectory path = .error .badPath ↔ files.locate path = .error .badPath := by
  refine bind_locate_eq_badPath_iff fun here => ?_
  repeat' split
  all_goals simp

theorem readText_eq_badPath_iff :
    files.readText path = .error .badPath ↔ files.locate path = .error .badPath := by
  rw [readText, map_eq_error_iff]
  refine bind_locate_eq_badPath_iff fun here => ?_
  repeat' split
  all_goals simp

theorem enter_ne_badPath {name : Text} : files.enter here name ≠ .error .badPath := by
  unfold enter
  repeat' split
  all_goals simp

theorem foldlM_enter_ne_badPath {names : List Text} :
    names.foldlM files.enter here ≠ .error .badPath := by
  induction names generalizing here with
  | nil => simp [pure, Except.pure]
  | cons name rest ih =>
      rw [List.foldlM_cons]
      cases entered : files.enter here name with
      | ok there => exact ih
      | error fault =>
          intro impossible
          cases impossible
          exact enter_ne_badPath entered

/-- A path is bad because of a null character in it. -/
theorem locate_eq_badPath_iff :
    files.locate path = .error .badPath ↔ '\x00' ∈ path.toText := by
  unfold locate
  by_cases null : '\x00' ∈ path.toText
  · simp [null]
  · rw [if_neg (by simpa using null)]
    split
    · simp [null]
    · simp [null, foldlM_enter_ne_badPath]

end FileSystem

end Ebrc
