import Ebrc.Proofs.Load.Separation

/-!
# Line by line

The encoding goes from line to line and carries nothing over but the number of the line. So a text
that ends in a line feed is encoded apart from what stands behind it: what is encoded is put
together like the texts, and the fault that is told is the one of the first line at fault, wherever
the text is cut. Every source line has one encoded line, also when the encoded text is taken apart
again.
-/

namespace Ebrc

/-- The same error so many lines further down. -/
def ConfigError.shift (n : Nat) (e : ConfigError) : ConfigError :=
  { e with line := e.line.map (· + n) }

namespace Encoding

variable {maxName : Int} {text text' file source encoded : Text} {sources others : List Text}

/-! ## Rows of lines -/

/-- Further down the same lines are encoded alike, and the same fault is told further down. -/
theorem encodeFrom_add (number n : Nat) (sources : List Text) :
    encodeFrom maxName (number + n) sources =
      (encodeFrom maxName number sources).mapError fun (fault, line) => (fault, line + n) := by
  induction sources generalizing number with
  | nil => rfl
  | cons source rest ih =>
      rw [encodeFrom, encodeFrom]
      cases encodeLine maxName source with
      | error fault => rfl
      | ok line =>
          dsimp only
          rw [Nat.add_right_comm, ih]
          cases encodeFrom maxName (number + 1) rest <;> rfl

theorem encodeFrom_append (number : Nat) (sources others : List Text) :
    encodeFrom maxName number (sources ++ others) =
      match encodeFrom maxName number sources with
      | .error fault => .error fault
      | .ok encoded =>
        (encodeFrom maxName (number + sources.length) others).map (encoded ++ ·) := by
  induction sources generalizing number with
  | nil =>
      rw [List.nil_append, encodeFrom, List.length_nil, Nat.add_zero]
      cases encodeFrom maxName number others <;> rfl
  | cons source rest ih =>
      rw [List.cons_append, encodeFrom, encodeFrom]
      cases encodeLine maxName source with
      | error fault => rfl
      | ok line =>
          dsimp only
          rw [ih, List.length_cons, Nat.add_right_comm number 1, Nat.add_assoc number]
          cases encodeFrom maxName (number + 1) rest with
          | error fault => rfl
          | ok encoded =>
              cases encodeFrom maxName (number + (rest.length + 1)) others <;> rfl

/-- A text that cannot be encoded has a first line at fault, and this is the one that is told. -/
theorem exists_of_lines_eq_error {error : ConfigError}
    (failed : lines text file maxName = .error error) :
    ∃ earlier source later, Text.lines text = earlier ++ source :: later ∧
      (∀ other ∈ earlier, ∃ line, encodeLine maxName other = .ok line) ∧
      encodeLine maxName source = .error error.fault ∧ error.path = some file ∧
      error.line = some (earlier.length + 1) := by
  have fromLine {number : Nat} {sources : List Text} {fault : ConfigFault × Nat}
      (failed : encodeFrom maxName number sources = .error fault) :
      ∃ earlier source later, sources = earlier ++ source :: later ∧
        (∀ other ∈ earlier, ∃ line, encodeLine maxName other = .ok line) ∧
        encodeLine maxName source = .error fault.1 ∧ fault.2 = number + earlier.length := by
    induction sources generalizing number with
    | nil => contradiction
    | cons source rest ih =>
        unfold encodeFrom at failed
        cases first : encodeLine maxName source with
        | error fault' =>
            rw [first] at failed
            cases failed
            exact ⟨[], source, rest, rfl, by simp, first, rfl⟩
        | ok line =>
            simp only [first] at failed
            cases others : encodeFrom maxName (number + 1) rest with
            | ok lines =>
                rw [others] at failed
                contradiction
            | error fault' =>
                rw [others] at failed
                cases failed
                obtain ⟨earlier, source', later, rfl, accepted, refused, counted⟩ := ih others
                refine ⟨source :: earlier, source', later, rfl,
                  List.forall_mem_cons.2 ⟨⟨line, first⟩, accepted⟩, refused, ?_⟩
                rw [counted, List.length_cons]
                omega
  unfold lines at failed
  cases encoded : encodeFrom maxName 1 (Text.lines text) with
  | ok lines =>
      rw [encoded] at failed
      contradiction
  | error fault =>
      rw [encoded] at failed
      cases failed
      obtain ⟨earlier, source, later, split, accepted, refused, counted⟩ := fromLine encoded
      refine ⟨earlier, source, later, split, accepted, refused, rfl, ?_⟩
      rw [Nat.add_comm, ← counted]

/-! ## Texts -/

theorem lines_append_eq (whole : text.Whole) (text' file : Text) :
    lines (text ++ text') file maxName =
      match lines text file maxName, lines text' file maxName with
      | .error e, _ => .error e
      | .ok _, .error e => .error (e.shift (Text.lines text).length)
      | .ok first, .ok second => .ok (first ++ second) := by
  unfold lines
  rw [Text.lines_append whole, encodeFrom_append, encodeFrom_add]
  cases encodeFrom maxName 1 (Text.lines text) with
  | error fault => rfl
  | ok first => cases encodeFrom maxName 1 (Text.lines text') <;> rfl

theorem encode_append (whole : text.Whole) (text' file : Text) :
    encode (text ++ text') file maxName =
      match encode text file maxName, encode text' file maxName with
      | .error e, _ => .error e
      | .ok _, .error e => .error (e.shift (Text.lines text).length)
      | .ok first, .ok second => .ok (first ++ second) := by
  unfold encode
  rw [lines_append_eq whole]
  cases lines text file maxName with
  | error e => rfl
  | ok first =>
      cases lines text' file maxName with
      | error e => rfl
      | ok second => simp [Except.map, Text.unlines]

/-- Taken apart again, an encoded text has the encoded lines. -/
theorem lines_of_encode (accepted : encode text file maxName = .ok encoded) :
    lines text file maxName = .ok (Text.lines encoded) := by
  unfold encode at accepted
  cases result : lines text file maxName with
  | error e =>
      rw [result] at accepted
      contradiction
  | ok encodedLines =>
      rw [result] at accepted
      cases accepted
      have single : ∀ line ∈ encodedLines, '\n' ∉ line := by
        intro line among
        obtain ⟨source, there, here⟩ := exists_source (forall₂_of_lines result) among
        exact not_mem_of_encodeLine (Text.not_mem_of_mem_lines there) here
      rw [Text.lines_unlines single]

/-- In an encoded text each source line is encoded at its place. -/
theorem exists_line_of_encode {i : Nat} (accepted : encode text file maxName = .ok encoded)
    (here : (Text.lines text)[i]? = some source) :
    ∃ line, (Text.lines encoded)[i]? = some line ∧ encodeLine maxName source = .ok line := by
  have all := forall₂_of_lines (lines_of_encode accepted)
  obtain ⟨inside, rfl⟩ := List.getElem?_eq_some_iff.1 here
  have inside' : i < (Text.lines encoded).length := by rwa [← all.length_eq]
  exact ⟨_, List.getElem?_eq_getElem inside', by simpa using all.get inside inside'⟩

/-- Of a text that is refused the first line at fault is told. -/
theorem exists_fault_of_encode {e : ConfigError} (refused : encode text file maxName = .error e) :
    ∃ earlier source later, Text.lines text = earlier ++ source :: later ∧
      (∀ other ∈ earlier, ∃ line, encodeLine maxName other = .ok line) ∧
      encodeLine maxName source = .error e.fault ∧ e.path = some file ∧
      e.line = some (earlier.length + 1) := by
  unfold encode at refused
  cases result : lines text file maxName with
  | error e' =>
      rw [result] at refused
      cases refused
      exact exists_of_lines_eq_error result
  | ok encodedLines =>
      rw [result] at refused
      contradiction

/-- A text with a line at fault is refused because of this line or an earlier one. -/
theorem exists_error_of_encodeLine {i : Nat} {fault : ConfigFault} (file : Text)
    (here : (Text.lines text)[i]? = some source)
    (atFault : encodeLine maxName source = .error fault) :
    ∃ e n, encode text file maxName = .error e ∧ e.path = some file ∧ e.line = some n ∧
      n ≤ i + 1 ∧ (n = i + 1 → e.fault = fault) := by
  cases result : encode text file maxName with
  | ok encoded =>
      obtain ⟨line, -, accepted⟩ := exists_line_of_encode result here
      rw [atFault] at accepted
      contradiction
  | error e =>
      obtain ⟨earlier, source', later, parts, accepted, refused, path, line⟩ :=
        exists_fault_of_encode result
      rw [parts] at here
      refine ⟨e, _, rfl, path, line, ?_, fun last => ?_⟩
      · by_contra beyond
        rw [List.getElem?_append_left (by omega)] at here
        obtain ⟨line, encoded⟩ := accepted source (List.mem_of_getElem? here)
        rw [atFault] at encoded
        contradiction
      · obtain rfl : earlier.length = i := by omega
        rw [List.getElem?_append_right (Nat.le_refl _), Nat.sub_self, List.getElem?_cons_zero,
          Option.some.injEq] at here
        rw [here, atFault] at refused
        cases refused
        rfl

/-- Texts of which the first one ends in a line feed are encoded together just if both are encoded
alone, and the encoded texts are put together like the texts. The fault of the first one comes
first, and that of the second one is told so many lines further down as the first one has. Whatever
is encoded has one encoded line for each source line, in their order. -/
theorem encode_line_by_line (whole : text.Whole) (text' file : Text) (maxName : Int) :
    ((∃ both, encode (text ++ text') file maxName = .ok both) ↔
        (∃ first, encode text file maxName = .ok first) ∧
          ∃ second, encode text' file maxName = .ok second) ∧
      (∀ first second, encode text file maxName = .ok first →
        encode text' file maxName = .ok second →
          encode (text ++ text') file maxName = .ok (first ++ second)) ∧
      (∀ e, encode text file maxName = .error e →
        encode (text ++ text') file maxName = .error e) ∧
      (∀ first e, encode text file maxName = .ok first → encode text' file maxName = .error e →
        ∃ n, e.line = some n ∧ encode (text ++ text') file maxName =
          .error { e with line := some (n + (Text.lines text).length) }) ∧
      ∀ source encoded, encode source file maxName = .ok encoded →
        (Text.lines encoded).length = (Text.lines source).length ∧
          List.Forall₂ (fun source line => encodeLine maxName source = .ok line)
            (Text.lines source) (Text.lines encoded) := by
  rw [encode_append whole]
  refine ⟨?_, ?_, ?_, ?_, ?_⟩
  · cases encode text file maxName with
    | error e => simp
    | ok first => cases encode text' file maxName <;> simp
  · rintro first second here there
    rw [here, there]
  · rintro e refused
    rw [refused]
  · rintro first e here refused
    obtain ⟨earlier, -, -, -, -, -, -, line⟩ := exists_fault_of_encode refused
    rw [here, refused]
    exact ⟨_, line, by simp [ConfigError.shift, line]⟩
  · intro source encoded accepted
    have all := forall₂_of_lines (lines_of_encode accepted)
    exact ⟨all.length_eq.symm, all⟩

/-- A text with a blank last line, and one whose second line is at fault. -/
theorem encode_line_by_line_twice :
    let text := "mail\x7b\r\n#\n\n".toList
    let text' := "\x7d\nfunction:\x7b".toList
    let e : ConfigError := ⟨.functionUnnamed, some ['r'], some 2⟩
    Text.Whole text ∧ encode text ['r'] 10 = .ok "\u0081m\n#\n\n".toList ∧
      encode text' ['r'] 10 = .error e ∧
      encode (text ++ text) ['r'] 10 = .ok "\u0081m\n#\n\n\u0081m\n#\n\n".toList ∧
      ∃ n, e.line = some n ∧
        encode (text ++ text') ['r'] 10 = .error { e with line := some (n + 3) } := by
  intro text text' e
  have whole : Text.Whole text := by decide
  have accepted : encode text ['r'] 10 = .ok "\u0081m\n#\n\n".toList := rfl
  have refused : encode text' ['r'] 10 = .error e := rfl
  obtain ⟨-, joined, -, -, -⟩ := encode_line_by_line whole text ['r'] 10
  obtain ⟨-, -, -, further, -⟩ := encode_line_by_line whole text' ['r'] 10
  exact ⟨whole, accepted, refused, joined _ _ accepted accepted, further _ _ accepted refused⟩

end Encoding

end Ebrc
