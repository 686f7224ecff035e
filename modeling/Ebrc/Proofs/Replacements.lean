import Ebrc.Proofs.FileSystem
import Ebrc.Proofs.Text.Pieces
import Ebrc.Replacements
import Mathlib.Algebra.Ring.Nat

/-!
# The last line about a URL

Each replacement that is read is put in front of those that were read before, and the first one for
a URL is taken. So of all the lines of all the lists that have been read, the last one about a URL
tells the file. A list adds as many replacements as it has valid lines, and where there is no file,
none. But a file system can refuse to say whether there is a file, since its path is too long or
leads through a directory that may not be searched, and it can keep a file from being read; then
nothing is read at all.
-/

namespace Ebrc

namespace Replacement

variable {line : Text} {r : Replacement}

/-! ## Lines -/

/-- The line names a file and, behind its first colon, the URL for which the file is used. It is no
comment, and the URL has no query. -/
structure WrittenIn (r : Replacement) (line : Text) : Prop where
  parts : line = r.file ++ ':' :: r.url
  first : ':' ∉ r.file
  query : '?' ∉ r.url
  comment : line.head? ≠ some '#'

theorem WrittenIn.cut_eq (written : r.WrittenIn line) :
    Text.cut ':' line = (r.file, some r.url) :=
  Text.cut_eq_some_iff.2 ⟨written.parts, written.first⟩

theorem WrittenIn.ofLine_eq (written : r.WrittenIn line) : ofLine line = .ok (some r) := by
  have loud : ¬(line = [] ∨ line.head? = some '#') := by
    intro silent
    cases silent with
    | inl empty => exact absurd (empty.symm.trans written.parts) (by simp)
    | inr comment => exact written.comment comment
  have plain : ¬r.url.contains '?' := by simpa using written.query
  unfold ofLine
  rw [if_neg loud, written.cut_eq]
  exact if_neg plain

theorem writtenIn_of_ofLine (read : ofLine line = .ok (some r)) : r.WrittenIn line := by
  unfold ofLine at read
  by_cases silent : line = [] ∨ line.head? = some '#'
  · rw [if_pos silent] at read
    cases read
  rw [if_neg silent] at read
  cases cut : Text.cut ':' line with
  | mk file url? =>
      rw [cut] at read
      cases url? with
      | none => cases read
      | some url =>
          dsimp only at read
          by_cases query : url.contains '?'
          · rw [if_pos query] at read
            cases read
          · rw [if_neg query] at read
            cases read
            obtain ⟨parts, first⟩ := Text.cut_eq_some_iff.1 cut
            exact ⟨parts, first, by simpa using query, fun comment => silent (.inr comment)⟩

/-- The replacement that a line makes. -/
def ofLine? (line : Text) : Option Replacement :=
  match ofLine line with
  | .ok r => r
  | .error _ => none

theorem ofLine?_eq_some_iff : ofLine? line = some r ↔ r.WrittenIn line := by
  constructor
  · intro made
    apply writtenIn_of_ofLine
    unfold ofLine? at made
    cases read : ofLine line with
    | ok r? =>
        rw [read] at made
        exact congrArg Except.ok made
    | error fault =>
        rw [read] at made
        cases made
  · intro written
    unfold ofLine?
    rw [written.ofLine_eq]

/-- There is a replacement in the line. -/
def Valid (line : Text) : Prop := ∃ r : Replacement, r.WrittenIn line

theorem isSome_ofLine?_iff : (ofLine? line).isSome ↔ Valid line := by
  rw [Option.isSome_iff_exists]
  exact exists_congr fun _ => ofLine?_eq_some_iff

instance : DecidablePred Valid := fun _ => decidable_of_iff _ isSome_ofLine?_iff

end Replacement

namespace Replacements

/-! ## Looking for a URL -/

section Lines

variable {lines : List Text} {line url file : Text}

/-- The line has a replacement for the URL. -/
def About (url line : Text) : Prop := ∃ file, Replacement.WrittenIn ⟨url, file⟩ line

/-- The last one of the lines about the URL names the file. -/
def LastNames (lines : List Text) (url file : Text) : Prop :=
  ∃ front line behind, lines = front ++ line :: behind ∧
    Replacement.WrittenIn ⟨url, file⟩ line ∧ ∀ later ∈ behind, ¬About url later

/-- The URL without its query. -/
def base (url : Text) : Text := url.takeWhile (· ≠ '?')

theorem any_ofLine?_iff : (Replacement.ofLine? line).any (·.url = url) ↔ About url line := by
  rw [Option.any_eq_true]
  constructor
  · intro found
    obtain ⟨r, read, same⟩ := found
    rw [decide_eq_true_eq] at same
    subst same
    exact ⟨r.file, Replacement.ofLine?_eq_some_iff.1 read⟩
  · intro about
    obtain ⟨file, written⟩ := about
    exact ⟨_, Replacement.ofLine?_eq_some_iff.2 written, decide_eq_true rfl⟩

instance (url : Text) : DecidablePred (About url) := fun _ => decidable_of_iff _ any_ofLine?_iff

/-- Of the lines, the last one about the URL is what is found. -/
theorem find?_reverse_ofLines (lines : List Text) (url : Text) :
    find? (ofLines lines).reverse url =
      ((lines.reverse.find? (About (base url) ·)).bind Replacement.ofLine?).map (·.file) := by
  have test : (fun line => (Replacement.ofLine? line).any (·.url = base url)) =
      fun line => decide (About (base url) line) := by
    funext line
    rw [Bool.eq_iff_iff, any_ofLine?_iff, decide_eq_true_eq]
  unfold find? ofLines
  rw [Text.fst_cut, ← List.filterMap_reverse]
  exact congrArg (Option.map _) (List.find?_filterMap.trans (by rw [← test]; rfl))

/-- The file is told by the last line about the URL. -/
theorem find?_eq_some_iff :
    find? (ofLines lines).reverse url = some file ↔ LastNames lines (base url) file := by
  rw [find?_reverse_ofLines]
  simp only [Option.map_eq_some_iff, Option.bind_eq_some_iff, List.find?_eq_some_iff_append,
    decide_eq_true_eq, Bool.not_eq_true', decide_eq_false_iff_not]
  constructor
  · intro found
    obtain ⟨r, ⟨line, ⟨about, behind, front, parts, others⟩, read⟩, rfl⟩ := found
    have url : r.url = base url := by simpa [read] using any_ofLine?_iff.2 about
    refine ⟨front.reverse, line, behind.reverse, ?_, ?_, by simpa using others⟩
    · rw [← List.reverse_reverse lines, parts]
      simp
    · rw [← url]
      exact Replacement.ofLine?_eq_some_iff.1 read
  · intro last
    obtain ⟨front, line, behind, rfl, written, others⟩ := last
    refine ⟨_, ⟨line, ⟨⟨file, written⟩, behind.reverse, front.reverse, by simp, ?_⟩,
      Replacement.ofLine?_eq_some_iff.2 written⟩, rfl⟩
    simpa using others

/-- No file is told just if no line is about the URL. -/
theorem find?_eq_none_iff :
    find? (ofLines lines).reverse url = none ↔ ∀ line ∈ lines, ¬About (base url) line := by
  rw [find?_reverse_ofLines, Option.map_eq_none_iff, Option.bind_eq_none_iff]
  constructor
  · intro none line among about
    obtain ⟨last, found⟩ : ∃ last, lines.reverse.find? (About (base url) ·) = some last := by
      rw [← Option.isSome_iff_exists, List.find?_isSome]
      exact ⟨line, List.mem_reverse.2 among, decide_eq_true about⟩
    have test := List.find?_some found
    obtain ⟨file, written⟩ := of_decide_eq_true test
    have read := Replacement.ofLine?_eq_some_iff.2 written
    rw [none last found] at read
    contradiction
  · intro none line found
    have among := List.mem_reverse.1 (List.mem_of_find?_eq_some found)
    have test := List.find?_some found
    exact absurd (of_decide_eq_true test) (none line among)

theorem base_append {query : Text} (plain : '?' ∉ url) : base (url ++ '?' :: query) = base url := by
  have taken : ∀ c ∈ url, decide (c ≠ '?') = true := by
    intro c among
    exact decide_eq_true (ne_of_mem_of_not_mem among plain)
  unfold base
  rw [List.takeWhile_append_of_pos taken, List.takeWhile_eq_self_iff.2 taken]
  simp

theorem length_ofLines (lines : List Text) :
    (ofLines lines).length = lines.countP Replacement.Valid := by
  have test : (fun line => (Replacement.ofLine? line).isSome) =
      fun line => decide (Replacement.Valid line) := by
    funext line
    rw [Bool.eq_iff_iff, Replacement.isSome_ofLine?_iff, decide_eq_true_eq]
  rw [← test]
  exact List.length_filterMap_eq_countP

theorem ofLines_append (lines more : List Text) :
    ofLines (lines ++ more) = ofLines lines ++ ofLines more :=
  List.filterMap_append

end Lines

/-! ## Reading lists -/

/-- A path at which a list of replacements is looked for, and the file system at that time. -/
structure Place where
  files : FileSystem
  path : Path

namespace Place

/-- The list is not read, although it may be there. -/
inductive Refused (place : Place) : FileError → Prop where
  /-- The file system does not say what stands at the path. -/
  | path {reason : FileError} (refuses : place.files.Refuses place.path reason) :
      Refused place reason
  /-- A file stands there that may not be read. -/
  | file {here : Location} {content : List UInt8}
      (located : place.files.locate place.path = .ok here)
      (entry : place.files.entry? here = some (.file content))
      (forbidden : place.files.forbids here .read) : Refused place .denied

/-- The lines of the list, if there is a file and it may be read. -/
def lines (place : Place) : List Text :=
  match place.files.readText place.path with
  | .ok text => Text.allLines text
  | .error _ => []

variable {place : Place}

theorem lines_eq_nil (unread : ∀ text, place.files.readText place.path ≠ .ok text) :
    place.lines = [] := by
  unfold lines
  cases read : place.files.readText place.path with
  | error fault => rfl
  | ok text => exact absurd read (unread text)

theorem Refused.unread {reason : FileError} (refused : place.Refused reason) (text : Text) :
    place.files.readText place.path ≠ .ok text := by
  intro read
  cases refused with
  | path refuses =>
      have asked := FileSystem.isFile_eq_error_iff.2 refuses
      rw [FileSystem.isFile_of_readText read] at asked
      cases asked
  | file located entry forbidden =>
      rw [FileSystem.readText_of_file located entry, if_pos forbidden] at read
      cases read

/-- There is a file, and it is read; or there is none, and no lines. -/
theorem isFile_cases (unrefused : ∀ reason, ¬place.Refused reason) :
    (∃ text, place.files.isFile place.path = .ok true ∧
      place.files.readText place.path = .ok text) ∨
    place.files.isFile place.path = .ok false ∧ place.lines = [] := by
  cases asked : place.files.isFile place.path with
  | error reason => exact absurd (.path (FileSystem.isFile_eq_error_iff.1 asked)) (unrefused reason)
  | ok there =>
      cases there with
      | true =>
          left
          obtain ⟨here, content, located, entry⟩ := FileSystem.isFile_eq_true_iff.1 asked
          have allowed : ¬place.files.forbids here .read := fun forbidden =>
            unrefused _ (.file located entry forbidden)
          exact ⟨_, rfl, (FileSystem.readText_of_file located entry).trans (if_neg allowed)⟩
      | false =>
          right
          refine ⟨rfl, lines_eq_nil fun text read => ?_⟩
          rw [FileSystem.isFile_of_readText read] at asked
          cases asked

end Place

variable {place : Place}

theorem readList_of_refused (table : Replacements) {reason : FileError}
    (refused : place.Refused reason) : table.readList place.files place.path = .error reason := by
  unfold readList
  cases refused with
  | path refuses =>
      rw [FileSystem.isFile_eq_error_iff.2 refuses]
      rfl
  | file located entry forbidden =>
      rw [FileSystem.isFile_eq_true_iff.2 ⟨_, _, located, entry⟩,
        FileSystem.readText_of_file located entry, if_pos forbidden]
      rfl

/-- Unless it is refused, the replacements of a list are put in front of the others. -/
theorem readList_eq_ok (table : Replacements) (unrefused : ∀ reason, ¬place.Refused reason) :
    table.readList place.files place.path =
      .ok ⟨(ofLines place.lines).reverse ++ table, place.lines.countP Replacement.Valid,
        eventsFrom place.path.toText 1 place.lines⟩ := by
  unfold readList
  rcases Place.isFile_cases unrefused with ⟨text, file, read⟩ | ⟨absent, none⟩
  · have lines : place.lines = Text.allLines text := by
      unfold Place.lines
      rw [read]
    rw [file, read, lines, ← length_ofLines]
    rfl
  · rw [absent, none]
    rfl

/-- The table after a list has been read, or could not be. -/
def readAt (table : Replacements) (place : Place) : Replacements :=
  match table.readList place.files place.path with
  | .ok result => result.table
  | .error _ => table

/-- A list puts its replacements in front of the others. -/
theorem readAt_eq (table : Replacements) (place : Place) :
    table.readAt place = (ofLines place.lines).reverse ++ table := by
  unfold readAt
  by_cases refused : ∃ reason, place.Refused reason
  · obtain ⟨reason, refused⟩ := refused
    rw [readList_of_refused table refused, Place.lines_eq_nil refused.unread]
    rfl
  · rw [readList_eq_ok table (not_exists.1 refused)]

/-- Lists put theirs in front of the others one after the other. -/
theorem foldl_readAt (table : Replacements) (places : List Place) :
    places.foldl readAt table = (ofLines (places.flatMap Place.lines)).reverse ++ table := by
  induction places generalizing table with
  | nil => rfl
  | cons place places ih =>
      rw [List.foldl_cons, ih, readAt_eq, List.flatMap_cons, ofLines_append, List.reverse_append,
        List.append_assoc]

/-- Lists that are read one after the other make a table in which the last line counts. -/
structure LastLineCounts (places : List Place) : Prop where
  /-- Whatever has been read before, the number of valid lines of a list is told. -/
  told : ∀ (table : Replacements), ∀ place ∈ places, (∀ reason, ¬place.Refused reason) →
    ∃ events, table.readList place.files place.path =
      .ok ⟨table.readAt place, place.lines.countP Replacement.Valid, events⟩
  /-- A list that is refused makes reading fail. It has no lines, and the table stays as it was. -/
  refused : ∀ (table : Replacements), ∀ place ∈ places, ∀ reason, place.Refused reason →
    table.readList place.files place.path = .error reason ∧ place.lines = [] ∧
      table.readAt place = table
  /-- The table has as many replacements as there are valid lines in all lists. -/
  length : (places.foldl readAt []).length =
    (places.map fun place => place.lines.countP Replacement.Valid).sum
  /-- The last line about a URL, its query left out, tells the file. -/
  found : ∀ url file, (places.foldl readAt []).find? url = some file ↔
    LastNames (places.flatMap Place.lines) (base url) file
  /-- No file is told just if no line is about the URL. -/
  missing : ∀ url, (places.foldl readAt []).find? url = none ↔
    ∀ line ∈ places.flatMap Place.lines, ¬About (base url) line
  /-- A query makes no difference. -/
  query : ∀ url q, '?' ∉ url →
    (places.foldl readAt []).find? (url ++ '?' :: q) = (places.foldl readAt []).find? url

/-- A list that is read twice, with a line about the same URL after it. -/
example :
    let bytes (text : String) : List UInt8 := text.toList.map fun c => c.toNat.toUInt8
    let files : FileSystem := { entries := [
      ([['r']], .file (bytes "a:u\n#b:u\nc\nd:u?v\ne:u")),
      ([['s']], .file (bytes "f:w:x\n"))] }
    let places : List Place := [⟨files, .ofText ['r']⟩, ⟨files, .ofText ['s']⟩]
    (places.foldl readAt []).find? "u?q".toList = some ['e'] ∧
      (places.foldl readAt []).find? "w:x".toList = some ['f'] := by
  decide +kernel

end Replacements

end Ebrc
