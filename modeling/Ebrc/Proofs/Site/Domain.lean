import Ebrc.Proofs.Text.Ascii
import Ebrc.Proofs.Text.Glob
import Ebrc.Proofs.Text.Pieces
import Ebrc.SitePattern
import Mathlib.Data.List.Forall2
import Mathlib.Data.List.TakeWhile

/-!
# Domain patterns match whole labels

A domain pattern is about labels, never about a part of one. The matcher counts labels from the end
of a host, or lets the pattern slide over them. Said without counting: the host can be taken apart
into labels in front, labels that match those of the pattern one by one, and labels behind, of which
there are none unless the pattern ends in a dot. So a host inside a domain is matched like the
domain, and a host whose name only ends like that of the domain is not.
-/

namespace Ebrc

namespace SitePattern

variable {pattern host front first : Text} {patterns hostLabels before here behind : List Text}

/-- A host in small letters, without the dots at its end. -/
def hostName (host : Text) : Text := Text.stripRight (· = '.') (Text.lower host)

/-- A pattern in small letters, without the dots in front. -/
def stem (pattern : Text) : Text := Text.stripLeft (· = '.') (Text.lower pattern)

/-- The labels of a host. -/
def labelsOfHost (host : Text) : List Text := Text.split '.' (hostName host)

/-- The labels of a pattern. Dots at its end do not count either. -/
def labelsOfPattern (pattern : Text) : List Text :=
  Text.split '.' (Text.stripRight (· = '.') (stem pattern))

/-- Somewhere among the labels of a host there are some that match those of a pattern, one by one,
and behind them there are no more, unless the pattern ends in a dot. A pattern of dots has no
labels. -/
structure Names (pattern host : Text) : Prop where
  given : ∃ c ∈ pattern, c ≠ '.'
  placed : ∃ before here behind, labelsOfHost host = before ++ (here ++ behind) ∧
    List.Forall₂ Glob.Matches (labelsOfPattern pattern) here ∧
    (behind = [] ∨ pattern.getLast? = some '.')

/-! ## Rows of labels -/

theorem labelsMatch_iff (enough : patterns.length ≤ hostLabels.length) :
    labelsMatch patterns hostLabels ↔ ∃ here behind, hostLabels = here ++ behind ∧
      List.Forall₂ Glob.Matches patterns here := by
  induction patterns generalizing hostLabels with
  | nil => exact ⟨fun _ => ⟨[], hostLabels, rfl, .nil⟩, fun _ => rfl⟩
  | cons pattern patterns ih =>
      cases hostLabels with
      | nil => simp at enough
      | cons label rest =>
          rw [labelsMatch, Bool.and_eq_true, Glob.isMatch_iff, ih (Nat.le_of_succ_le_succ enough)]
          constructor
          · intro both
            obtain ⟨first, here, behind, rfl, later⟩ := both
            exact ⟨label :: here, behind, rfl, .cons first later⟩
          · intro placed
            obtain ⟨here, behind, parts, all⟩ := placed
            cases all with
            | cons first later =>
                obtain ⟨rfl, rfl⟩ := List.cons.inj parts
                exact ⟨first, _, behind, rfl, later⟩

theorem matchesSomewhere_iff : matchesSomewhere patterns hostLabels ↔
    ∃ before here behind, hostLabels = before ++ (here ++ behind) ∧
      List.Forall₂ Glob.Matches patterns here := by
  induction hostLabels with
  | nil =>
      rw [matchesSomewhere, List.isEmpty_iff]
      constructor
      · intro none
        subst none
        exact ⟨[], [], [], rfl, .nil⟩
      · intro placed
        obtain ⟨before, here, behind, parts, all⟩ := placed
        rw [List.nil_eq, List.append_eq_nil_iff, List.append_eq_nil_iff] at parts
        rw [parts.2.1] at all
        cases all
        rfl
  | cons label rest ih =>
      rw [matchesSomewhere, Bool.or_eq_true, Bool.and_eq_true, decide_eq_true_eq, ih]
      constructor
      · intro either
        rcases either with ⟨enough, matched⟩ | ⟨before, here, behind, rfl, all⟩
        · obtain ⟨here, behind, parts, all⟩ := (labelsMatch_iff enough).1 matched
          exact ⟨[], here, behind, parts, all⟩
        · exact ⟨label :: before, here, behind, rfl, all⟩
      · intro placed
        obtain ⟨before, here, behind, parts, all⟩ := placed
        cases before with
        | nil =>
            have enough : patterns.length ≤ (label :: rest).length := by
              rw [parts, all.length_eq]
              simp
            exact .inl ⟨enough, (labelsMatch_iff enough).2 ⟨here, behind, parts, all⟩⟩
        | cons other before =>
            obtain ⟨rfl, rfl⟩ := List.cons.inj parts
            exact .inr ⟨before, here, behind, rfl, all⟩

/-- The last labels match just if the labels can be taken apart with none behind. -/
theorem labelsMatch_drop_iff (enough : patterns.length ≤ hostLabels.length) :
    labelsMatch patterns (hostLabels.drop (hostLabels.length - patterns.length)) ↔
      ∃ before here, hostLabels = before ++ here ∧ List.Forall₂ Glob.Matches patterns here := by
  have rest : (hostLabels.drop (hostLabels.length - patterns.length)).length = patterns.length := by
    rw [List.length_drop]
    omega
  rw [labelsMatch_iff (Nat.le_of_eq rest.symm)]
  constructor
  · intro matched
    obtain ⟨here, behind, parts, all⟩ := matched
    -- As many labels are left as the pattern has, which leaves none for behind.
    have none : behind = [] := by
      have lengths := congrArg List.length parts
      rw [rest, List.length_append, ← all.length_eq] at lengths
      exact List.eq_nil_of_length_eq_zero (by omega)
    rw [none, List.append_nil] at parts
    refine ⟨hostLabels.take (hostLabels.length - patterns.length), here, ?_, all⟩
    rw [← parts, List.take_append_drop]
  · intro placed
    obtain ⟨before, here, rfl, all⟩ := placed
    refine ⟨here, [], ?_, all⟩
    rw [all.length_eq, List.length_append, Nat.add_sub_cancel, List.drop_left, List.append_nil]

/-! ## Patterns and hosts -/

theorem toLower_eq_dot_iff (c : Char) : c.toLower = '.' ↔ c = '.' := by
  induction c using Text.toLower_induction with
  | capital => decide +revert
  | kept c kept => rw [kept]

/-- Nothing is left of a pattern just if it consists of dots. -/
theorem stem_eq_nil_iff (ascii : pattern.IsAscii) :
    stem pattern = [] ↔ ¬∃ c ∈ pattern, c ≠ '.' := by
  rw [stem, Text.stripLeft, List.dropWhile_eq_nil_iff, Text.lower_of_ascii ascii]
  simp [toLower_eq_dot_iff]

/-- Making letters small changes no dot at the end. -/
theorem getLast?_lower_eq_dot_iff (ascii : pattern.IsAscii) :
    (Text.lower pattern).getLast? = some '.' ↔ pattern.getLast? = some '.' := by
  rw [Text.lower_of_ascii ascii, List.getLast?_map]
  cases pattern.getLast? with
  | none => simp
  | some c => simp [toLower_eq_dot_iff]

/-- Nor does leaving out the dots in front, if anything is left. -/
theorem getLast?_stem (ascii : pattern.IsAscii) (given : ∃ c ∈ pattern, c ≠ '.') :
    (stem pattern).getLast? = some '.' ↔ pattern.getLast? = some '.' := by
  have left : stem pattern ≠ [] := fun empty => (stem_eq_nil_iff ascii).1 empty given
  rw [← getLast?_lower_eq_dot_iff ascii]
  obtain ⟨dots, parts⟩ : stem pattern <:+ Text.lower pattern := List.dropWhile_suffix _
  rw [← parts, List.getLast?_append_of_ne_nil _ left]

/-- The labels of a pattern are looked for at the end of those of a host, or anywhere. -/
theorem matchesHost_eq (pattern host : Text) : matchesHost pattern host =
    if stem pattern = [] then false
    else if (labelsOfHost host).length < (labelsOfPattern pattern).length then false
    else if (stem pattern).getLast? = some '.' then
      matchesSomewhere (labelsOfPattern pattern) (labelsOfHost host)
    else labelsMatch (labelsOfPattern pattern) ((labelsOfHost host).drop
      ((labelsOfHost host).length - (labelsOfPattern pattern).length)) :=
  rfl

/-- The matcher finds the labels of a pattern in a host just if they are there. -/
theorem matchesHost_iff (ascii : pattern.IsAscii) :
    matchesHost pattern host ↔ Names pattern host := by
  rw [matchesHost_eq]
  by_cases given : ∃ c ∈ pattern, c ≠ '.'
  · have ends := getLast?_stem ascii given
    rw [if_neg fun empty => (stem_eq_nil_iff ascii).1 empty given]
    by_cases enough : (labelsOfPattern pattern).length ≤ (labelsOfHost host).length
    · rw [if_neg (Nat.not_lt.2 enough)]
      by_cases anywhere : pattern.getLast? = some '.'
      · rw [if_pos (ends.2 anywhere), matchesSomewhere_iff]
        constructor
        · intro placed
          obtain ⟨before, here, behind, parts, all⟩ := placed
          exact ⟨given, before, here, behind, parts, all, .inr anywhere⟩
        · intro named
          obtain ⟨before, here, behind, parts, all, -⟩ := named.placed
          exact ⟨before, here, behind, parts, all⟩
      · rw [if_neg (anywhere ∘ ends.1), labelsMatch_drop_iff enough]
        constructor
        · intro placed
          obtain ⟨before, here, parts, all⟩ := placed
          exact ⟨given, before, here, [], by rw [parts, List.append_nil], all, .inl rfl⟩
        · intro named
          obtain ⟨before, here, behind, parts, all, last⟩ := named.placed
          rw [last.resolve_right anywhere, List.append_nil] at parts
          exact ⟨before, here, parts, all⟩
    · rw [if_pos (Nat.not_le.1 enough)]
      simp only [Bool.false_eq_true, false_iff]
      intro named
      obtain ⟨before, here, behind, parts, all, -⟩ := named.placed
      apply enough
      rw [parts, all.length_eq]
      simp
      omega
  · rw [if_pos ((stem_eq_nil_iff ascii).2 given)]
    simp only [Bool.false_eq_true, false_iff]
    intro named
    exact given named.given

/-! ## Longer names -/

theorem hostName_of_open (ascii : host.IsAscii) (closed : host.getLast? ≠ some '.') :
    hostName host = Text.lower host := by
  apply Text.stripRight_eq_self_of_last
  intro c last
  rw [decide_eq_false_iff_not]
  intro dot
  rw [Option.mem_def, dot, getLast?_lower_eq_dot_iff ascii] at last
  exact closed last

/-- Labels in front of a host come before its own. -/
theorem labelsOfHost_append (asciiFront : front.IsAscii) (ascii : host.IsAscii) (given : host ≠ [])
    (closed : host.getLast? ≠ some '.') :
    labelsOfHost (front ++ '.' :: host) =
      Text.split '.' (Text.lower front) ++ labelsOfHost host := by
  have dotted : Text.IsAscii ('.' :: host) := Text.isAscii_cons.2 ⟨by decide, ascii⟩
  have small : Text.lower ('.' :: host) = '.' :: Text.lower host := by
    rw [Text.lower_of_ascii dotted, Text.lower_of_ascii ascii, List.map_cons]
    rfl
  have longer : (front ++ '.' :: host).getLast? ≠ some '.' := by
    rwa [List.getLast?_append_of_ne_nil _ (List.cons_ne_nil _ _),
      List.getLast?_cons_of_ne_nil given]
  unfold labelsOfHost
  rw [hostName_of_open (Text.isAscii_append.2 ⟨asciiFront, dotted⟩) longer,
    hostName_of_open ascii closed, Text.lower_append asciiFront dotted, small,
    Text.split_append_cons]

/-- A host inside a domain has the labels of the domain. -/
theorem Names.inside (named : Names pattern host) (asciiFront : front.IsAscii)
    (ascii : host.IsAscii) (given : host ≠ []) (closed : host.getLast? ≠ some '.') :
    Names pattern (front ++ '.' :: host) := by
  obtain ⟨before, here, behind, parts, all, last⟩ := named.placed
  refine ⟨named.given, Text.split '.' (Text.lower front) ++ before, here, behind, ?_, all, last⟩
  rw [labelsOfHost_append asciiFront ascii given closed, parts, List.append_assoc]

/-- If a name goes on in front of the text of a pattern, without a dot between them, the label at
the seam has to match as a whole. -/
theorem Names.exists_matches_seam (named : Names pattern host) (ascii : pattern.IsAscii)
    (closed : pattern.getLast? ≠ some '.') {c : Char} (other : c ≠ '.')
    (longer : hostName host = front ++ c :: stem pattern) :
    ∃ first ∈ (labelsOfPattern pattern).head?, ∃ more, Glob.Matches first (more ++ c :: first) := by
  have whole : Text.stripRight (· = '.') (stem pattern) = stem pattern := by
    apply Text.stripRight_eq_self_of_last
    intro d last
    rw [decide_eq_false_iff_not]
    intro dot
    rw [Option.mem_def, dot, getLast?_stem ascii named.given] at last
    exact closed last
  obtain ⟨before, here, behind, parts, all, last⟩ := named.placed
  have ends : behind = [] := last.resolve_right closed
  rw [ends, List.append_nil, labelsOfHost, longer] at parts
  unfold labelsOfPattern at all ⊢
  rw [whole] at all ⊢
  cases labels : Text.split '.' (stem pattern) with
  | nil => exact absurd labels (Text.split_ne_nil '.' _)
  | cons first rest =>
      rcases List.eq_nil_or_concat' (Text.split '.' front) with none | ⟨others, more, inFront⟩
      · exact absurd none (Text.split_ne_nil '.' front)
      -- The first label of the pattern is only the end of the label in the host.
      have seam : Text.split '.' (c :: stem pattern) = (c :: first) :: rest := by
        rw [Text.split, if_neg other, labels]
      rw [Text.split_append_of_seam inFront seam] at parts
      rw [labels] at all
      have lengths : ((more ++ c :: first) :: rest).length = here.length := by
        rw [← all.length_eq]
        rfl
      rw [← (List.append_inj' parts lengths).2] at all
      cases all with
      | cons matched => exact ⟨first, rfl, more, matched⟩

/-- A domain pattern is about whole labels. -/
structure WholeLabels (pattern host : Text) : Prop where
  /-- A host is matched just if the labels of the pattern are among its own. -/
  found : matchesHost pattern host ↔ Names pattern host
  /-- A host inside of one that is matched is matched too. -/
  inside : matchesHost pattern host → host ≠ [] → host.getLast? ≠ some '.' →
    ∀ front : Text, front.IsAscii → matchesHost pattern (front ++ '.' :: host)
  /-- If the name of a host goes on in front of the text of a pattern, without a dot between them,
  only a glob that takes the whole label at the seam makes a match. -/
  seam : pattern.getLast? ≠ some '.' → ∀ front c, c ≠ '.' →
    hostName host = front ++ c :: stem pattern → matchesHost pattern host →
      ∃ first ∈ (labelsOfPattern pattern).head?, ∃ more, Glob.Matches first (more ++ c :: first)
  /-- So a host whose name only ends like the pattern, in the middle of a label, is not matched if
  there is no wildcard in this label of the pattern. -/
  apart : pattern.getLast? ≠ some '.' → (∀ first ∈ (labelsOfPattern pattern).head?,
    Glob.Plain first) → ∀ front c, c ≠ '.' → hostName host = front ++ c :: stem pattern →
      matchesHost pattern host = false

/-- Whole labels are matched, each by its own glob, at the end of a host or, if the pattern ends in
a dot, anywhere in it. So labels in front of a host lose no match, and a host whose name only ends
with the text of a pattern is not matched. -/
theorem whole_labels (pattern host : Text) (ascii : pattern.IsAscii) (asciiHost : host.IsAscii) :
    WholeLabels pattern host where
  found := matchesHost_iff ascii
  inside matched given closed front asciiFront := by
    rw [matchesHost_iff ascii] at matched ⊢
    exact matched.inside asciiFront asciiHost given closed
  seam closed front c other longer matched :=
    ((matchesHost_iff ascii).1 matched).exists_matches_seam ascii closed other longer
  apart closed plain front c other longer := by
    rw [← Bool.not_eq_true, matchesHost_iff ascii]
    intro named
    obtain ⟨first, here, more, matched⟩ := named.exists_matches_seam ascii closed other longer
    have lengths := congrArg List.length (matched.eq_of_plain (plain first here))
    rw [List.length_append, List.length_cons] at lengths
    omega

/-- A host inside a domain, and one whose name ends like the domain. -/
theorem whole_labels_example :
    let pattern := ".Example.com".toList
    let host := "WWW.example.com".toList
    let other := "badexample.com".toList
    Text.IsAscii pattern ∧ Text.IsAscii host ∧ Text.IsAscii other ∧ Names pattern host ∧
      matchesHost pattern ("a.b".toList ++ '.' :: host) ∧ matchesHost pattern other = false := by
  intro pattern host other
  have ascii : Text.IsAscii pattern := by decide
  have asciiHost : Text.IsAscii host := by decide
  have asciiOther : Text.IsAscii other := by decide
  have matched : matchesHost pattern host := by decide +kernel
  have whole := whole_labels pattern host ascii asciiHost
  refine ⟨ascii, asciiHost, asciiOther, whole.found.1 matched, ?_, ?_⟩
  · exact whole.inside matched (by decide) (by decide) "a.b".toList (by decide)
  · exact (whole_labels pattern other ascii asciiOther).apart (by decide) (by decide +kernel)
      "ba".toList 'd' (by decide) (by decide +kernel)

end SitePattern

end Ebrc
