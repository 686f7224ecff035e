import Ebrc.Proofs.Site.Domain
import Ebrc.Proofs.Site.HostAndPath
import Ebrc.Proofs.Text.Case

/-!
# Domains with a dot inside

A domain has two labels at least just if a dot in it stands between other characters; a dot at one
of its ends makes no label. Small letters change nothing about that. A pattern is found on as many
labels of a host as its domain has. So the dots of the domain tell whether one label is enough.
-/

namespace Ebrc

namespace Text

variable {sep : Char} {t : Text}

/-! ## Dots between the ends of a text -/

/-- A dot has characters that are no dots in front of it and behind it. -/
def HasInnerDot (t : Text) : Prop :=
  ∃ front behind, t = front ++ '.' :: behind ∧ (∃ c ∈ front, c ≠ '.') ∧ ∃ c ∈ behind, c ≠ '.'

theorem two_le_length_split_iff : 2 ≤ (split sep t).length ↔ sep ∈ t := by
  induction t with
  | nil => simp [split]
  | cons c t ih =>
      rw [split]
      by_cases here : c = sep
      · have one : 1 ≤ (split sep t).length := List.length_pos_of_ne_nil (split_ne_nil sep t)
        rw [if_pos here, List.length_cons, here]
        exact iff_of_true (Nat.succ_le_succ one) (List.mem_cons_self ..)
      · rw [if_neg here, List.mem_cons, or_iff_right (Ne.symm here), ← ih]
        cases parts : split sep t with
        | nil => exact absurd parts (split_ne_nil sep t)
        | cons piece pieces => rfl

theorem stripRight_dots_ne_nil_iff : stripRight (· = '.') t ≠ [] ↔ ∃ c ∈ t, c ≠ '.' := by
  rw [Ne, stripRight_eq_nil_iff]
  simp

/-- Of the dots those are left that do not end the text. -/
theorem dot_mem_stripRight_iff :
    '.' ∈ stripRight (· = '.') t ↔
      ∃ front behind, t = front ++ '.' :: behind ∧ ∃ c ∈ behind, c ≠ '.' := by
  constructor
  · intro left
    induction t with
    | nil => contradiction
    | cons c t ih =>
        rw [stripRight] at left
        cases rest : stripRight (· = '.') t with
        | nil =>
            rw [rest] at left
            by_cases dot : c = '.'
            · rw [decide_eq_true dot] at left
              contradiction
            · rw [decide_eq_false dot] at left
              exact absurd (List.mem_singleton.1 left).symm dot
        | cons d others =>
            rw [rest] at left
            rcases List.mem_cons.1 left with rfl | later
            · have other : stripRight (· = '.') t ≠ [] := by simp [rest]
              exact ⟨[], t, rfl, stripRight_dots_ne_nil_iff.1 other⟩
            · obtain ⟨front, behind, rfl, other⟩ := ih (by rwa [rest])
              exact ⟨c :: front, behind, rfl, other⟩
  · intro placed
    obtain ⟨front, behind, rfl, other⟩ := placed
    have kept : stripRight (· = '.') ('.' :: behind) = '.' :: stripRight (· = '.') behind :=
      stripRight_append (s := ['.']) (stripRight_dots_ne_nil_iff.2 other)
    rw [stripRight_append (by rw [kept]; exact List.cons_ne_nil _ _), kept]
    simp

/-- The dots that are left between the ends of a text are its inner dots. -/
theorem dot_mem_strip_iff : '.' ∈ strip (· = '.') t ↔ HasInnerDot t := by
  rw [strip, dot_mem_stripRight_iff, stripLeft]
  constructor
  · intro placed
    obtain ⟨front, behind, parts, other⟩ := placed
    have whole : t = t.takeWhile (· = '.') ++ front ++ '.' :: behind := by
      rw [List.append_assoc, ← parts, List.takeWhile_append_dropWhile]
    refine ⟨_, behind, whole, ?_, other⟩
    have first := List.head?_dropWhile_not (p := (· = '.')) t
    rw [parts] at first
    -- The text that is left in front begins with no dot, so it cannot be empty.
    cases front with
    | nil => simp at first
    | cons c front => exact ⟨c, by simp, by simpa using first⟩
  · intro inner
    obtain ⟨front, behind, rfl, earlier, other⟩ := inner
    have left : front.dropWhile (· = '.') ≠ [] := by
      rw [Ne, List.dropWhile_eq_nil_iff]
      simpa using earlier
    refine ⟨front.dropWhile (· = '.'), behind, ?_, other⟩
    rw [List.dropWhile_append, if_neg (by simpa using left)]

/-- Without the dots at its ends a text has two pieces at least just if it has a dot inside. -/
theorem two_le_length_split_strip_iff :
    2 ≤ (split '.' (strip (· = '.') t)).length ↔ HasInnerDot t := by
  rw [two_le_length_split_iff, dot_mem_strip_iff]

instance (t : Text) : Decidable (HasInnerDot t) := decidable_of_iff _ two_le_length_split_strip_iff

/-! ## Small letters -/

variable {pieces : List Text}

theorem dot_mem_flatten_iff (each : List.Forall₂ KeepsDots pieces t) :
    '.' ∈ pieces.flatten ↔ '.' ∈ t := by
  induction each with
  | nil => rfl
  | @cons piece c pieces t keeps later ih =>
      have here : '.' ∈ piece ↔ '.' = c := by
        constructor
        · intro among
          exact ((keeps.2 _ among).1 rfl).symm
        · rintro rfl
          obtain ⟨first, among⟩ := List.exists_mem_of_ne_nil piece keeps.1
          rwa [(keeps.2 first among).2 rfl] at among
      rw [List.flatten_cons, List.mem_append, List.mem_cons, ih, here]

/-- The dots in front are stripped with their pieces. -/
theorem exists_pieces_stripLeft (each : List.Forall₂ KeepsDots pieces t) :
    ∃ kept, List.Forall₂ KeepsDots kept (stripLeft (· = '.') t) ∧
      stripLeft (· = '.') pieces.flatten = kept.flatten := by
  induction each with
  | nil => exact ⟨[], .nil, rfl⟩
  | @cons piece c pieces t keeps later ih =>
      unfold stripLeft at ih ⊢
      by_cases dot : c = '.'
      · obtain ⟨kept, rest, parts⟩ := ih
        have dots : ∀ d ∈ piece, decide (d = '.') = true := by
          intro d among
          exact decide_eq_true ((keeps.2 d among).2 dot)
        rw [List.dropWhile_cons_of_pos (by simpa using dot), List.flatten_cons,
          List.dropWhile_append_of_pos dots]
        exact ⟨kept, rest, parts⟩
      · obtain ⟨given, same⟩ := keeps
        cases piece with
        | nil => contradiction
        | cons d piece =>
            have other : ¬d = '.' := fun first => dot ((same d (List.mem_cons_self ..)).1 first)
            rw [List.dropWhile_cons_of_neg (by simpa using dot)]
            refine ⟨(d :: piece) :: pieces, .cons ⟨given, same⟩ later, ?_⟩
            exact List.dropWhile_cons_of_neg (by simpa using other)

/-- So are the dots at the end. -/
theorem exists_pieces_stripRight (each : List.Forall₂ KeepsDots pieces t) :
    ∃ kept, List.Forall₂ KeepsDots kept (stripRight (· = '.') t) ∧
      stripRight (· = '.') pieces.flatten = kept.flatten := by
  induction each with
  | nil => exact ⟨[], .nil, rfl⟩
  | @cons piece c pieces t keeps later ih =>
      obtain ⟨kept, rest, parts⟩ := ih
      rw [List.flatten_cons, stripRight]
      generalize stripRight (· = '.') t = stripped at rest ⊢
      cases rest with
      | nil =>
          rw [stripRight_append_of_all (stripRight_eq_nil_iff.1 parts)]
          by_cases dot : c = '.'
          · have dots : ∀ d ∈ piece, decide (d = '.') = true := by
              intro d among
              exact decide_eq_true ((keeps.2 d among).2 dot)
            rw [stripRight_eq_nil_iff.2 dots, decide_eq_true dot]
            exact ⟨[], .nil, rfl⟩
          · have last : ∀ d ∈ piece.getLast?, decide (d = '.') = false := by
              intro d among
              apply decide_eq_false
              exact fun same => dot ((keeps.2 d (List.mem_of_getLast? among)).1 same)
            rw [stripRight_eq_self_of_last last, decide_eq_false dot]
            exact ⟨[piece], .cons keeps .nil, by simp⟩
      | @cons first d kept others keepsFirst rest =>
          have left : stripRight (· = '.') pieces.flatten ≠ [] := by
            rw [parts]
            simp [keepsFirst.1]
          rw [stripRight_append left, parts]
          exact ⟨piece :: first :: kept, .cons keeps (.cons keepsFirst rest), rfl⟩

/-- A text has a dot inside just if it has one in small letters. -/
theorem hasInnerDot_lower_iff : HasInnerDot (lower t) ↔ HasInnerDot t := by
  obtain ⟨pieces, each, parts⟩ := exists_pieces_lower t
  obtain ⟨left, eachLeft, partsLeft⟩ := exists_pieces_stripLeft each
  obtain ⟨kept, eachKept, partsKept⟩ := exists_pieces_stripRight eachLeft
  rw [← dot_mem_strip_iff, ← dot_mem_strip_iff, parts, strip, partsLeft, partsKept]
  exact dot_mem_flatten_iff eachKept

end Text

namespace SitePattern

variable {pattern host url : Text}

/-- These labels of a host, one behind the other, match those of a domain one by one. -/
def FoundOn (domain host : Text) (here : List Text) : Prop :=
  ∃ before behind, labelsOfHost host = before ++ (here ++ behind) ∧
    List.Forall₂ Glob.Matches (labelsOfPattern domain) here

/-- A domain has two labels at least just if it has a dot inside. -/
theorem two_le_length_labelsOfPattern_iff :
    2 ≤ (labelsOfPattern pattern).length ↔ Text.HasInnerDot pattern := by
  rw [← Text.hasInnerDot_lower_iff]
  exact Text.two_le_length_split_strip_iff

/-- It is found on as many labels as it has. -/
theorem FoundOn.two_le_length_iff {here : List Text} (found : FoundOn pattern host here) :
    2 ≤ here.length ↔ Text.HasInnerDot pattern := by
  obtain ⟨before, behind, parts, all⟩ := found
  rw [← all.length_eq, two_le_length_labelsOfPattern_iff]

theorem exists_foundOn_of_matchesHost (matched : matchesHost pattern host) :
    ∃ here, FoundOn pattern host here := by
  rw [matchesHost_eq] at matched
  by_cases empty : stem pattern = []
  · rw [if_pos empty] at matched
    contradiction
  rw [if_neg empty] at matched
  by_cases few : (labelsOfHost host).length < (labelsOfPattern pattern).length
  · rw [if_pos few] at matched
    contradiction
  rw [if_neg few] at matched
  by_cases anywhere : (stem pattern).getLast? = some '.'
  · rw [if_pos anywhere, matchesSomewhere_iff] at matched
    obtain ⟨before, here, behind, parts, all⟩ := matched
    exact ⟨here, before, behind, parts, all⟩
  · rw [if_neg anywhere, labelsMatch_drop_iff (Nat.not_lt.1 few)] at matched
    obtain ⟨before, here, parts, all⟩ := matched
    exact ⟨here, before, [], by rw [parts, List.append_nil], all⟩

/-- The domain of a pattern is found on the host of a URL. -/
theorem exists_foundOn_of_matchesUrl (matched : matchesUrl pattern url) :
    ∃ protocol host here, Url.protocolAndHost url = .ok (protocol, host) ∧
      FoundOn (domain pattern) host here := by
  cases site : Url.protocolAndHost url with
  | error fault =>
      unfold matchesUrl at matched
      rw [site] at matched
      simp at matched
  | ok parts =>
      obtain ⟨protocol, host⟩ := parts
      rw [matchesUrl_of_ok site, fitsSite, Bool.and_eq_true] at matched
      obtain ⟨here, found⟩ := exists_foundOn_of_matchesHost matched.1
      exact ⟨protocol, host, here, rfl, found⟩

end SitePattern

end Ebrc
