import Ebrc.Proofs.Load.Trail

/-!
# The default account of a load

The lines of an account block, as they stand on the trail of a load, tell whether it is the default
account. A line that says so is looked at when the account itself is not loaded yet, and counts for
the one that will be next. So what is known between two lines is about the account blocks that have
been come across, the open one included.
-/

namespace Ebrc

/-- The line that makes an account the default one. -/
def Line.standard : Line := "default".toList

/-- The account blocks come across so far: the lines of the closed ones and of the open one. -/
structure AccountBlocks where
  closed : List (List Line) := []
  current : Option (List Line) := none
  deriving Repr, DecidableEq

namespace AccountBlocks

/-- Does a line open an account block? -/
def Opens (line : Line) : Prop :=
  line.head? = some Line.openMark ∧ line.tail.head? = some BlockLetter.mail

instance (line : Line) : Decidable (Opens line) := inferInstanceAs (Decidable (_ ∧ _))

/-- Come across a line. -/
def readLine (blocks : AccountBlocks) (line : Line) : AccountBlocks :=
  match blocks.current with
  | none => if Opens line then { blocks with current := some [] } else blocks
  | some lines =>
    if line = Line.close then ⟨blocks.closed ++ [lines], none⟩
    else { blocks with current := some (lines ++ [line]) }

/-- Come across something. -/
def see (blocks : AccountBlocks) : Sight → AccountBlocks
  | .line _ line => blocks.readLine line
  | .opened _ _ => blocks

/-- All blocks, the open one last. -/
def all (blocks : AccountBlocks) : List (List Line) := blocks.closed ++ blocks.current.toList

end AccountBlocks

/-- The lines of the account blocks on a trail. -/
def accountBlocks (sights : List Sight) : List (List Line) :=
  (sights.foldl AccountBlocks.see {}).closed

/-! ## What a line does about accounts -/

/-- What a line that is no include does about accounts. -/
inductive OnAccounts (line : Line) (p p' : Progress) : Prop where
  | elsewhere (before : ∀ a, p.block ≠ .account a) (after : ∀ a, p'.block ≠ .account a)
      (other : ¬AccountBlocks.Opens line) (accounts : p'.loaded.accounts = p.loaded.accounts)
      (default : p'.loaded.defaultAccount = p.loaded.defaultAccount)
  | opens {a : Account} (before : ∀ a, p.block ≠ .account a) (after : p'.block = .account a)
      (opening : AccountBlocks.Opens line) (accounts : p'.loaded.accounts = p.loaded.accounts)
      (default : p'.loaded.defaultAccount = p.loaded.defaultAccount)
  | fills {a a' : Account} (before : p.block = .account a) (after : p'.block = .account a')
      (notClosing : line ≠ Line.close) (other : line ≠ Line.standard)
      (accounts : p'.loaded.accounts = p.loaded.accounts)
      (default : p'.loaded.defaultAccount = p.loaded.defaultAccount)
  | standard {a : Account} (before : p.block = .account a) (after : p'.block = .account a)
      (standard : line = Line.standard)
      (first : p.loaded.defaultAccount = 0 ∨
        p.loaded.defaultAccount = p.loaded.accounts.length + 1)
      (accounts : p'.loaded.accounts = p.loaded.accounts)
      (default : p'.loaded.defaultAccount = p.loaded.accounts.length + 1)
  | closes {a : Account} (before : p.block = .account a) (after : p'.block = .none)
      (closing : line = Line.close)
      (accounts : p'.loaded.accounts = p.loaded.accounts ++ [a.withDefaults])
      (default : p'.loaded.defaultAccount = p.loaded.defaultAccount)

section Lines

variable {line : Line} {word v : Text}

theorem not_opens_close : ¬AccountBlocks.Opens Line.close := by decide

theorem not_opens_of_void (void : Line.isVoid line) : ¬AccountBlocks.Opens line := by
  rcases Line.isVoid_iff.1 void with rfl | rfl
  · decide
  · decide

theorem not_opens_of_not_control (text : Line.isControl line = false) :
    ¬AccountBlocks.Opens line := by
  rintro ⟨opening, -⟩
  cases line with
  | nil => contradiction
  | cons c rest =>
      cases opening
      simp [Line.isControl] at text

/-- A word starts the line that gives it a value. -/
theorem isAlpha_of_splitAssignment (assigned : splitAssignment? line = some (word, v)) :
    ∀ c ∈ line.head?, c.isAlpha := by
  cases line with
  | nil =>
      intro c impossible
      contradiction
  | cons c rest =>
      intro c' first
      cases first
      unfold splitAssignment? at assigned
      by_cases separator : c = '='
      · rw [Text.cut, if_pos separator] at assigned
        contradiction
      · rw [Text.cut, if_neg separator] at assigned
        cases after : (Text.cut '=' rest).2 with
        | none =>
            simp only [after] at assigned
            contradiction
        | some after' =>
            simp only [after] at assigned
            split at assigned
            · rename_i spelled
              rcases Text.stripRight_cons_cases Text.isLineBlank c (Text.cut '=' rest).1 with
                empty | ⟨letters, word⟩
              · simp [empty] at spelled
              · simp only [word, List.all_cons, Bool.and_eq_true] at spelled
                exact spelled.2.1
            · contradiction

theorem not_opens_of_splitAssignment (assigned : splitAssignment? line = some (word, v)) :
    ¬AccountBlocks.Opens line := by
  rintro ⟨opening, -⟩
  exact absurd (isAlpha_of_splitAssignment assigned _ opening) (by decide)

theorem ne_of_splitAssignment {other : Line} (assigned : splitAssignment? line = some (word, v))
    (text : splitAssignment? other = none) : line ≠ other := by
  rintro rfl
  rw [assigned] at text
  contradiction

theorem eq_standard_of_ofLine (flagged : AccountFlag.ofLine? line = some .standard) :
    line = Line.standard := by
  unfold AccountFlag.ofLine? at flagged
  by_cases standard : line = "default".toList
  · exact standard
  · rw [if_neg standard] at flagged
    repeat' split at flagged
    all_goals cases flagged

/-- A flag is spelled without a mark. -/
theorem AccountFlag.isControl_of_ofLine? {line : Text} {flag : AccountFlag}
    (flagged : ofLine? line = some flag) : Line.isControl line = false := by
  unfold ofLine? at flagged
  repeat' split at flagged
  all_goals first
    | (rename_i same; rw [same]; decide)
    | cases flagged

theorem PluginFlag.isControl_of_ofLine? {line : Text} {flag : PluginFlag}
    (flagged : ofLine? line = some flag) : Line.isControl line = false := by
  unfold ofLine? at flagged
  repeat' split at flagged
  all_goals first
    | (rename_i same; rw [same]; decide)
    | cases flagged

theorem not_opens_of_kept {limits : Limits} {inner inner' : List (Option Char)}
    (kept : Line.Kept limits line inner inner') : ¬AccountBlocks.Opens line := by
  rintro ⟨opening, mail⟩
  cases kept with
  | text notOpening => exact notOpening opening
  | opens _ letter =>
      rw [mail] at letter
      exact absurd letter (by decide)
  | closes closing =>
      rw [closing] at opening
      exact absurd opening (by decide)
  | divides between =>
      rw [between] at opening
      exact absurd opening (by decide)

end Lines

variable {around : Surroundings} {here : Position} {line : Line} {p p' : Progress}

theorem Reading.onAccounts (reading : Reading around here line p p') : OnAccounts line p p' := by
  have stays {other : OpenBlock} (before : p.block = other) (after : p'.block = other)
      (outside : ∀ a, other ≠ .account a) (notOpening : ¬AccountBlocks.Opens line)
      (accounts : p'.loaded.accounts = p.loaded.accounts)
      (default : p'.loaded.defaultAccount = p.loaded.defaultAccount) : OnAccounts line p p' := by
    refine .elsewhere ?_ ?_ notOpening accounts default
    · rw [before]
      exact outside
    · rw [after]
      exact outside
  cases reading with
  | void void =>
      cases block : p.block with
      | account a =>
          refine .fills block block ?_ ?_ rfl rfl
          · rintro rfl
            exact absurd void (by decide)
          · rintro rfl
            exact absurd void (by decide)
      | _ => exact stays block block (by simp) (not_opens_of_void void) rfl rfl
  | aside assigned outside aside =>
      exact stays outside (aside.block.trans outside) (by simp)
        (not_opens_of_splitAssignment assigned) aside.loaded.accounts aside.loaded.defaultAccount
  | imapFetch assigned outside | cacheSize assigned outside | agent assigned outside
  | rule assigned outside =>
      exact stays outside outside (by simp) (not_opens_of_splitAssignment assigned) rfl rfl
  | filterRule block text =>
      exact stays block block (by simp) (not_opens_of_not_control text) rfl rfl
  | setAccount assigned block =>
      exact .fills block rfl (ne_of_splitAssignment assigned rfl)
        (ne_of_splitAssignment assigned (by decide)) rfl rfl
  | @flagAccount a flag block flagged other =>
      refine .fills block rfl ?_ ?_ rfl rfl
      · rintro rfl
        have none : AccountFlag.ofLine? Line.close = none := by decide
        rw [none] at flagged
        contradiction
      · rintro rfl
        have same : AccountFlag.ofLine? Line.standard = some .standard := by decide
        rw [same, Option.some.injEq] at flagged
        exact other flagged.symm
  | standard block flagged first =>
      exact .standard block block (eq_standard_of_ofLine flagged) first rfl rfl
  | closeAccount block closes => exact .closes block rfl closes rfl rfl
  | setPlugin assigned block | setTable assigned block =>
      refine .elsewhere ?_ ?_ (not_opens_of_splitAssignment assigned) rfl rfl
      · simp [block]
      · simp
  | flagPlugin block flagged =>
      have text := PluginFlag.isControl_of_ofLine? flagged
      refine .elsewhere ?_ ?_ (not_opens_of_not_control text) rfl rfl
      · simp [block]
      · simp
  | closePlugin block closes | closeTable block closes | closeFilter block closes
  | closeFunction block closes =>
      refine .elsewhere ?_ ?_ (closes ▸ not_opens_close) rfl rfl
      · simp [block]
      · simp
  | start outside opening starts =>
      have before : ∀ a, p.block ≠ .account a := by simp [outside]
      by_cases mail : AccountBlocks.Opens line
      · rw [mail.2] at starts
        generalize same : some BlockLetter.mail = letter at starts
        cases starts with
        | account => exact .opens before rfl mail rfl rfl
        | letterless => contradiction
        | _ => exact absurd same (by decide)
      · refine .elsewhere before ?_ mail rfl rfl
        rintro a rfl
        generalize same : line.tail.head? = letter at starts
        cases starts
        exact mail ⟨opening, same⟩
  | startFunction outside _ letter =>
      refine .elsewhere ?_ ?_ ?_ rfl rfl
      · simp [outside]
      · simp
      · rintro ⟨-, mail⟩
        rw [letter] at mail
        exact absurd mail (by decide)
  | keep block kept =>
      refine .elsewhere ?_ ?_ (not_opens_of_kept kept) rfl rfl
      · simp [block]
      · simp [Progress.keepLine]

/-! ## The default account along a load -/

/-- What is known between two lines: each closed block has led to an account, the open one is the
block that the next line stands in, and the default account is the one whose block has asked for
it. -/
structure Progress.Follows (blocks : AccountBlocks) (p : Progress) : Prop where
  count : p.loaded.accounts.length = blocks.closed.length
  current : blocks.current.isSome ↔ ∃ a, p.block = .account a
  asked : ∀ i lines, blocks.all[i]? = some lines →
    (Line.standard ∈ lines ↔ p.loaded.defaultAccount = i + 1)
  known : p.loaded.defaultAccount ≤ blocks.all.length

namespace AccountBlocks

variable {blocks : AccountBlocks} {lines : List Line} {block : List Line} {i : Nat}

theorem getElem?_all (current : blocks.current = some lines) :
    blocks.all[i]? = some block ↔
      blocks.closed[i]? = some block ∨ i = blocks.closed.length ∧ block = lines := by
  rw [all, current, Option.toList_some]
  rcases Nat.lt_trichotomy i blocks.closed.length with before | rfl | behind
  · rw [List.getElem?_append_left before]
    simp [Nat.ne_of_lt before]
  · simp [eq_comm]
  · rw [List.getElem?_eq_none (by simp; omega), List.getElem?_eq_none (Nat.le_of_lt behind)]
    simp [Nat.ne_of_gt behind]

theorem all_of_none (current : blocks.current = none) : blocks.all = blocks.closed := by
  rw [all, current, Option.toList_none, List.append_nil]

section Lines

variable {line : Line}

theorem readLine_outside (current : blocks.current = none) (other : ¬Opens line) :
    blocks.readLine line = blocks := by
  simp only [readLine, current, if_neg other]

theorem readLine_opens (current : blocks.current = none) (opening : Opens line) :
    blocks.readLine line = { blocks with current := some [] } := by
  simp only [readLine, current, if_pos opening]

theorem readLine_inside (current : blocks.current = some lines) (notClosing : line ≠ Line.close) :
    blocks.readLine line = { blocks with current := some (lines ++ [line]) } := by
  simp only [readLine, current, if_neg notClosing]

theorem readLine_close (current : blocks.current = some lines) :
    blocks.readLine Line.close = ⟨blocks.closed ++ [lines], none⟩ := by
  simp only [readLine, current, if_true]

/-- A block that is closed keeps its place. -/
theorem all_readLine_close (current : blocks.current = some lines) :
    (blocks.readLine Line.close).all = blocks.all := by
  rw [readLine_close current, all_of_none rfl, all, current]
  rfl

end Lines

end AccountBlocks

namespace Progress

variable {blocks : AccountBlocks} {lines : List Line} {a : Account}

theorem Follows.current_eq_none (follows : p.Follows blocks)
    (outside : ∀ a, p.block ≠ .account a) : blocks.current = none := by
  cases current : blocks.current with
  | none => rfl
  | some lines =>
      obtain ⟨a, inside⟩ := follows.current.1 (by rw [current]; rfl)
      exact absurd inside (outside a)

theorem Follows.current_eq_some (follows : p.Follows blocks) (inside : p.block = .account a) :
    ∃ lines, blocks.current = some lines :=
  Option.isSome_iff_exists.1 (follows.current.2 ⟨a, inside⟩)

theorem Follows.asked_closed {i : Nat} (follows : p.Follows blocks)
    (there : blocks.closed[i]? = some lines) :
    Line.standard ∈ lines ↔ p.loaded.defaultAccount = i + 1 := by
  apply follows.asked
  rw [AccountBlocks.all, List.getElem?_append_left (List.getElem?_eq_some_iff.1 there).1]
  exact there

theorem Follows.asked_current (follows : p.Follows blocks) (current : blocks.current = some lines) :
    Line.standard ∈ lines ↔ p.loaded.defaultAccount = blocks.closed.length + 1 :=
  follows.asked _ _ ((AccountBlocks.getElem?_all current).2 (.inr ⟨rfl, rfl⟩))

theorem Follows.known_current (follows : p.Follows blocks)
    (current : blocks.current = some lines) :
    p.loaded.defaultAccount ≤ blocks.closed.length + 1 := by
  have known := follows.known
  rwa [AccountBlocks.all, current, List.length_append] at known

/-- A line outside of account blocks leaves what is known. -/
theorem Follows.elsewhere (follows : p.Follows blocks) (current : blocks.current = none)
    (outside : ∀ a, p'.block ≠ .account a) (accounts : p'.loaded.accounts = p.loaded.accounts)
    (default : p'.loaded.defaultAccount = p.loaded.defaultAccount) : p'.Follows blocks := by
  constructor
  · rw [accounts]
    exact follows.count
  · simp [current, outside]
  · rw [default]
    exact follows.asked
  · rw [default]
    exact follows.known

/-- The open block has other lines now. Then the default account is the one of that block or is
still the one of a closed block. -/
theorem Follows.inside (follows : p.Follows blocks) (inside : p'.block = .account a)
    (accounts : p'.loaded.accounts = p.loaded.accounts)
    (closed : ∀ i < blocks.closed.length,
      p.loaded.defaultAccount = i + 1 ↔ p'.loaded.defaultAccount = i + 1)
    (own : Line.standard ∈ lines ↔ p'.loaded.defaultAccount = blocks.closed.length + 1)
    (known : p'.loaded.defaultAccount ≤ blocks.closed.length + 1) :
    p'.Follows { blocks with current := some lines } := by
  constructor
  · rw [accounts]
    exact follows.count
  · simp [inside]
  · intro i block there
    rw [AccountBlocks.getElem?_all rfl] at there
    rcases there with before | ⟨rfl, rfl⟩
    · rw [follows.asked_closed before]
      exact closed i (List.getElem?_eq_some_iff.1 before).1
    · exact own
  · rw [AccountBlocks.all, List.length_append]
    exact known

/-- The closing line of an account block leaves what is known. -/
theorem Follows.close (follows : p.Follows blocks) (current : blocks.current = some lines)
    (outside : ∀ a, p'.block ≠ .account a)
    (accounts : p'.loaded.accounts = p.loaded.accounts ++ [a])
    (default : p'.loaded.defaultAccount = p.loaded.defaultAccount) :
    p'.Follows (blocks.readLine Line.close) := by
  constructor
  · rw [accounts, AccountBlocks.readLine_close current, List.length_append, List.length_append,
      follows.count]
    rfl
  · rw [AccountBlocks.readLine_close current]
    simp [outside]
  · rw [AccountBlocks.all_readLine_close current, default]
    exact follows.asked
  · rw [AccountBlocks.all_readLine_close current, default]
    exact follows.known

/-- A line leaves what is known. -/
theorem Follows.readLine (follows : p.Follows blocks) (turn : OnAccounts line p p') :
    p'.Follows (blocks.readLine line) := by
  cases turn with
  | elsewhere before after other accounts default =>
      have current := follows.current_eq_none before
      rw [AccountBlocks.readLine_outside current other]
      exact follows.elsewhere current after accounts default
  | opens before after opening accounts default =>
      have current := follows.current_eq_none before
      have known := follows.known
      rw [AccountBlocks.all_of_none current] at known
      rw [AccountBlocks.readLine_opens current opening]
      apply follows.inside after accounts
      · intro i _
        rw [default]
      · rw [default]
        simp only [List.not_mem_nil, false_iff]
        omega
      · rw [default]
        exact Nat.le_succ_of_le known
  | fills before after notClosing other accounts default =>
      obtain ⟨lines, current⟩ := follows.current_eq_some before
      rw [AccountBlocks.readLine_inside current notClosing]
      apply follows.inside after accounts
      · intro i _
        rw [default]
      · rw [default, ← follows.asked_current current]
        simp [other.symm]
      · rw [default]
        exact follows.known_current current
  | standard before after standard first accounts default =>
      obtain ⟨lines, current⟩ := follows.current_eq_some before
      have notClosing : line ≠ Line.close := by
        rw [standard]
        decide
      rw [follows.count] at first default
      rw [AccountBlocks.readLine_inside current notClosing]
      apply follows.inside after accounts
      · intro i earlier
        omega
      · simp [standard, default]
      · exact Nat.le_of_eq default
  | closes before after closing accounts default =>
      obtain ⟨lines, current⟩ := follows.current_eq_some before
      rw [closing]
      exact follows.close current (by simp [after]) accounts default

/-- A load leaves what is known. -/
theorem Reads.follows {sights : List Sight} (reads : Reads around p sights p')
    (follows : p.Follows blocks) : p'.Follows (sights.foldl AccountBlocks.see blocks) := by
  have includes {p : Progress} {blocks : AccountBlocks} {line : Line} {v : Text}
      (included : p.include? line = some v) (follows : p.Follows blocks) :
      blocks.readLine line = blocks := by
    obtain ⟨outside, word, assigned, -⟩ := include?_eq_some included
    exact AccountBlocks.readLine_outside (follows.current_eq_none (by simp [outside]))
      (not_opens_of_splitAssignment assigned)
  induction reads generalizing blocks with
  | nil => exact follows
  | line other read later ih =>
      exact ih (follows.readLine (reading_of_readLine other read).onAccounts)
  | passed included later ih =>
      apply ih
      rw [AccountBlocks.see, includes included follows]
      exact ⟨follows.count, follows.current, follows.asked, follows.known⟩
  | opened included read encoded later ih =>
      apply ih
      rw [AccountBlocks.see, includes included follows]
      exact ⟨follows.count, follows.current, follows.asked, follows.known⟩

end Progress

namespace Loaded

/-- The accounts are those of some blocks, and the default account is the one whose block asks for
it. It is the first one if none does, and there is none where there are no accounts. -/
structure Chooses (blocks : List (List Line)) (s : Loaded) : Prop where
  count : s.accounts.length = blocks.length
  none_iff : s.defaultAccount = 0 ↔ s.accounts = []
  asked : ∀ i lines, blocks[i]? = some lines → Line.standard ∈ lines → s.defaultAccount = i + 1
  first : s.accounts ≠ [] → (∀ lines ∈ blocks, Line.standard ∉ lines) → s.defaultAccount = 1

variable {blocks : AccountBlocks} {text file : Text} {before : Loaded} {files : FileSystem}
variable {log : EventLog}

/-- At the end of a load no account block is open, and the default account is settled. -/
theorem chooses_of_follows (follows : p.Follows blocks) (finished : p.finish file = .ok p') :
    p'.loaded.Chooses blocks.closed := by
  obtain ⟨outside, loaded⟩ := Progress.finish_eq_ok finished
  have all := AccountBlocks.all_of_none (follows.current_eq_none outside)
  have asked := follows.asked
  have known := follows.known
  have count := follows.count
  rw [all] at asked known
  rw [loaded]
  by_cases none : p.loaded.accounts ≠ [] ∧ p.loaded.defaultAccount = 0
  · obtain ⟨some, unsettled⟩ := none
    rw [if_pos ⟨some, unsettled⟩]
    constructor
    · exact count
    · simp [some]
    · intro i lines there standard
      rw [(asked i lines there).1 standard] at unsettled
      contradiction
    · intro _ _
      rfl
  · rw [if_neg none]
    constructor
    · exact count
    · constructor
      · intro unsettled
        exact Decidable.byContradiction fun some => none ⟨some, unsettled⟩
      · intro empty
        rw [empty, List.length_nil] at count
        omega
    · intro i lines there standard
      exact (asked i lines there).1 standard
    · intro some unasked
      -- The default account is settled, so its block has asked for it.
      obtain ⟨i, settled⟩ :=
        Nat.exists_eq_add_one_of_ne_zero fun unsettled => none ⟨some, unsettled⟩
      have inside : i < blocks.closed.length := by omega
      have there := List.getElem?_eq_getElem inside
      exact absurd ((asked i _ there).2 settled) (unasked _ (List.getElem_mem inside))

theorem chooses_of_loadText
    (succeeded : (before.loadText around text file files log).fault = none) :
    (before.loadText around text file files log).loaded.Chooses
      (accountBlocks (before.trail around text file files log)) := by
  obtain ⟨sights, p, p', trail, reads, -, finished, loaded⟩ := reads_of_loadText succeeded
  have start : (before.begin file files log).Follows {} := by
    refine ⟨rfl, ?_, ?_, Nat.le_refl 0⟩
    · simp [begin]
    · intro i lines there
      contradiction
  rw [trail, loaded]
  exact chooses_of_follows (reads.follows start) finished

end Loaded

end Ebrc
