import Ebrc.Proofs.Load.AccountEntries
import Ebrc.Proofs.Load.DefaultAccount
import Ebrc.Proofs.Load.Includes
import Ebrc.Proofs.Load.Unseen

/-!
# A mail block as a whole

From its header to its closing line a mail block adds one account, or the load stops. Which account
this is, and whether there is one, is a matter of what the lines of the block say as a whole.
-/

namespace Ebrc

/-! ## Lines -/

/-- Outcomes without the reasons of a failure follow one another. -/
theorem toOption_bind {ε α β : Type} (r : Except ε α) (f : α → Except ε β) :
    (r >>= f).toOption = r.toOption.bind fun a => (f a).toOption := by
  cases r <;> rfl

theorem toOption_map {ε α β : Type} (r : Except ε α) (f : α → β) :
    (r.map f).toOption = r.toOption.map f := by
  cases r <;> rfl

theorem toOption_eq_some {ε α : Type} {r : Except ε α} {a : α} :
    r.toOption = some a ↔ r = .ok a := by
  cases r <;> simp [Except.toOption]

/-- Can a line stand in a mail block, in front of its closing line? -/
def Line.isAccountLine (line : Line) : Bool := line.isVoid || (AccountEntry.ofLine? line).isSome

section Controls

variable {line : Line}

theorem AccountFlag.ofLine?_of_isControl (control : line.isControl) :
    AccountFlag.ofLine? line = none := by
  refine Option.eq_none_iff_forall_ne_some.2 fun flag flagged => ?_
  rw [isControl_of_ofLine? flagged] at control
  contradiction

theorem PluginFlag.ofLine?_of_isControl (control : line.isControl) :
    PluginFlag.ofLine? line = none := by
  refine Option.eq_none_iff_forall_ne_some.2 fun flag flagged => ?_
  rw [isControl_of_ofLine? flagged] at control
  contradiction

theorem AccountBlocks.Opens.isControl (opens : Opens line) : line.isControl :=
  Decidable.by_contra fun text => not_opens_of_not_control (Bool.eq_false_iff.2 text) opens

theorem AccountBlocks.Opens.unassigned (opens : Opens line) : splitAssignment? line = none :=
  Option.eq_none_iff_forall_ne_some.2 fun (_, _) split => not_opens_of_splitAssignment split opens

end Controls

/-- What a line of a mail block does to the account. -/
def AccountDraft.readLine (limit number : Nat) (draft : AccountDraft) (line : Line) :
    Option AccountDraft :=
  if line.isVoid then some draft else AccountEntry.ofLine? line >>= draft.enter limit number

namespace AccountEntry

theorem ofLine?_of_void {line : Line} (void : line.isVoid) : ofLine? line = none := by
  rcases Line.isVoid_iff.1 void with rfl | rfl
  · rfl
  · rfl

variable {limit number : Nat} {draft draft' : AccountDraft} {lines : List Line}

/-- Lines of a mail block do what their entries do. -/
theorem foldlM_readLine : lines.foldlM (AccountDraft.readLine limit number) draft = some draft' ↔
    (∀ line ∈ lines, line.isAccountLine) ∧
      (lines.filterMap ofLine?).foldlM (AccountDraft.enter limit number) draft = some draft' := by
  induction lines generalizing draft with
  | nil => simp
  | cons line lines ih =>
      rw [List.foldlM_cons, List.forall_mem_cons]
      by_cases void : line.isVoid
      · have here : draft.readLine limit number line = some draft := if_pos void
        rw [here, List.filterMap_cons_none (ofLine?_of_void void)]
        simpa [Line.isAccountLine, void] using ih
      · have here : draft.readLine limit number line = _ := if_neg void
        rw [here]
        cases entry : ofLine? line with
        | none => simp [Line.isAccountLine, void, entry]
        | some e =>
            rw [List.filterMap_cons_some entry, List.foldlM_cons]
            cases entered : draft.enter limit number e with
            | none => simp [entered]
            | some next => simpa [Line.isAccountLine, entry, entered] using ih

/-- What lines of a mail block say. -/
def ofLines (lines : List Line) : List AccountEntry := lines.filterMap ofLine?

/-- The lines are all that a mail block needs, from this default account on. -/
structure Complete (limit number standard : Nat) (inner : List Line) : Prop where
  lines : ∀ line ∈ inner, line.isAccountLine
  taken : Taken limit number standard (ofLines inner)
  complete : (Account.ofEntries (ofLines inner)).missing? = none

/-- Other lines that say the same are all that is needed as well. -/
theorem Complete.restate {standard : Nat} {inner inner' : List Line}
    (complete : Complete limit number standard inner)
    (lines : ∀ line ∈ inner', line.isVoid ∨ line ∈ inner)
    (restates : Restates (ofLines inner) (ofLines inner')) :
    Complete limit number standard inner' where
  lines line among := by
    rcases lines line among with void | there
    · rw [Line.isAccountLine, void, Bool.true_or]
    · exact complete.lines line there
  taken := restates.taken complete.taken
  complete := by rw [restates.missing?_eq]; exact complete.complete

end AccountEntry

namespace Progress

variable {around : Surroundings} {here : Position} {line : Line} {p p' : Progress}
  {includeFile : Position → Text → Progress → Except Stop Progress} {draft : AccountDraft}
  {file : Text} {number : Nat} {inner : List Line}

/-- A load inside of a mail block. -/
def withDraft (p : Progress) (draft : AccountDraft) : Progress :=
  { p with
    loaded := { p.loaded with defaultAccount := draft.standard }
    block := .account draft.account }

/-- The number of an account whose block is open. -/
def accountNumber (p : Progress) : Nat := p.loaded.accounts.length + 1

theorem toOption_orRefuse {α : Type} (r : Except Refusal α) :
    (p.orRefuse here r).toOption = r.toOption := by
  rcases r with (fault | crash) | a <;> rfl

theorem toOption_assign {includeFile : Text → Progress → Except Stop Progress} {word v : Text}
    {keyword : Keyword} :
    ((p.withDraft draft).assign around includeFile here word keyword v).toOption =
      match keyword with
      | .account k =>
        if v = [] then none
        else (draft.enter around.limits.recipients p.accountNumber (.value k v)).map p.withDraft
      | _ => none := by
  cases keyword with
  | account k =>
      by_cases given : v = []
      · subst given
        rfl
      · simp [assign, keywordFault?, given, withDraft, toOption_map, toOption_orRefuse,
          AccountDraft.enter, Function.comp_def]
  | plugin k | table k | everywhere k => rfl

theorem toOption_turnOn {flag : AccountFlag} :
    ((p.withDraft draft).turnOn here flag draft.account).toOption =
      (draft.enter around.limits.recipients p.accountNumber (.flag flag)).map p.withDraft := by
  cases flag with
  | standard =>
      have current : (p.withDraft draft).loaded.accounts.length + 1 = p.accountNumber := rfl
      have standard : (p.withDraft draft).loaded.defaultAccount = draft.standard := rfl
      unfold turnOn AccountDraft.enter
      simp only [current, standard]
      by_cases again : draft.standard = p.accountNumber
      · rw [if_pos again, if_pos (.inr again), ← again]
        rfl
      by_cases first : draft.standard = 0
      · rw [if_neg again, if_neg (not_not.2 first), if_pos (.inl first)]
        rfl
      · rw [if_neg again, if_pos first, if_neg (not_or.2 ⟨first, again⟩)]
        rfl
  | _ => rfl

theorem takePlain_inside (inside : line ≠ Line.close) :
    ((p.withDraft draft).takePlain around.limits here line).toOption = none := by
  unfold takePlain
  rw [if_neg inside]
  split
  · rfl
  split
  · rfl
  unfold openBlock
  dsimp only [withDraft]
  cases isTopLevel line.tail.head? <;> rfl

/-- A line of a mail block that does not close it changes the draft or is at fault. -/
theorem toOption_readLine (inside : line ≠ Line.close) :
    ((p.withDraft draft).readLine around includeFile here line).toOption =
      (draft.readLine around.limits.recipients p.accountNumber line).map p.withDraft := by
  unfold AccountDraft.readLine readLine AccountEntry.ofLine?
  by_cases void : line.isVoid
  · rw [if_pos void, if_pos void]
    rfl
  rw [if_neg void, if_neg void]
  have block : (p.withDraft draft).block = .account draft.account := rfl
  simp only [block]
  cases splitAssignment? line with
  | none =>
    simp only [takeLine_eq, block]
    cases AccountFlag.ofLine? line with
    | none => exact takePlain_inside inside
    | some flag => exact toOption_turnOn
  | some assignment =>
    obtain ⟨word, v⟩ := assignment
    dsimp only
    cases spelled : Keyword.ofWord? word with
    | none => rfl
    | some keyword =>
      dsimp only
      rw [toOption_assign]
      cases keyword with
      | account k =>
        dsimp only
        split <;> rfl
      | _ => rfl

/-- The lines of a mail block in front of its closing line make the draft or are at fault. -/
theorem toOption_readLines (inside : Line.close ∉ inner) :
    (readLines around includeFile file number inner (p.withDraft draft)).toOption =
      (inner.foldlM (AccountDraft.readLine around.limits.recipients p.accountNumber) draft).map
        p.withDraft := by
  induction inner generalizing draft number with
  | nil => rfl
  | cons line inner ih =>
      rw [List.mem_cons, not_or] at inside
      rw [readLines, toOption_bind, toOption_readLine (Ne.symm inside.1), List.foldlM_cons]
      cases draft.readLine around.limits.recipients p.accountNumber line with
      | none => rfl
      | some next => exact ih inside.2

/-- The header of a mail block opens a block. -/
theorem readLine_opens (opens : AccountBlocks.Opens line) :
    p.readLine around includeFile here line = p.openBlock around.limits here line := by
  have spoken : ¬line.isVoid := fun void => not_opens_of_void void opens
  have control := opens.isControl
  have notClosing : line ≠ Line.close := by
    rintro rfl
    exact not_opens_close opens
  have notBetween : line ≠ Line.between := by
    rintro rfl
    exact absurd opens (by decide)
  have plain : p.takePlain around.limits here line = p.openBlock around.limits here line := by
    rw [takePlain, if_neg notClosing, if_neg notBetween, if_neg (not_not.2 opens.1)]
  rw [← plain, readLine, if_neg spoken, control, opens.unassigned]
  cases block : p.block <;>
    simp [takeLine_eq, block, AccountFlag.ofLine?_of_isControl control,
      PluginFlag.ofLine?_of_isControl control]

/-- It does so outside of all blocks, while there is room for another account. -/
theorem readLine_opens_eq_ok (opens : AccountBlocks.Opens line) :
    p.readLine around includeFile here line = .ok p' ↔
      p.block = .none ∧ p.loaded.accounts.length < around.limits.accounts ∧
        p' = p.withDraft ⟨{}, p.loaded.defaultAccount⟩ := by
  have letter : line.tail.head? = some 'm' := opens.2
  have topLevel : isTopLevel (some 'm') = true := by decide
  have started : p.withDraft ⟨{}, p.loaded.defaultAccount⟩ = { p with block := .account {} } := rfl
  rw [readLine_opens opens, openBlock, letter, started]
  cases block : p.block with
  | none =>
      simp only [topLevel, if_true, startBlock]
      rcases Nat.lt_or_ge p.loaded.accounts.length around.limits.accounts with room | full
      · simp [room, Nat.not_le.2 room, @eq_comm _ p']
      · simp [full, Nat.not_lt.2 full, stop]
  | function => simp [topLevel, stop]
  | _ => simp [topLevel, OpenBlock.holder?, stop]

/-- The account of a draft is added. -/
def addAccount (p : Progress) (draft : AccountDraft) : Progress :=
  { p with
    loaded := { p.loaded with
      accounts := p.loaded.accounts ++ [draft.account.withDefaults]
      defaultAccount := draft.standard }
    block := .none }

/-- The closing line of a mail block adds the account, if nothing is missing. -/
theorem readLine_close_eq_ok :
    (p.withDraft draft).readLine around includeFile here Line.close = .ok p' ↔
      draft.account.missing? = none ∧ p' = p.addAccount draft := by
  have closes : (p.withDraft draft).readLine around includeFile here Line.close =
      (p.withDraft draft).closeBlock here Line.close := rfl
  rw [closes, closeBlock]
  cases missing : draft.account.missing? with
  | none => simp [withDraft, missing, addAccount, modify, @eq_comm _ p']
  | some word => simp [withDraft, missing, stop]

/-! ## Whole blocks -/

theorem readLines_append_eq_ok {first second : List Line} :
    readLines around includeFile file number (first ++ second) p = .ok p' ↔
      ∃ p₁, readLines around includeFile file number first p = .ok p₁ ∧
        readLines around includeFile file (number + first.length) second p₁ = .ok p' := by
  rw [readLines_append]
  constructor
  · exact exists_of_bind_eq_ok
  · rintro ⟨p₁, read, later⟩
    rw [read]
    exact later

/-- The lines of a mail block in front of its closing line fill an open block. -/
theorem readLines_inner (inside : Line.close ∉ inner) :
    readLines around includeFile file number inner (p.withDraft ⟨{}, p.loaded.defaultAccount⟩) =
        .ok p' ↔
      (∀ line ∈ inner, line.isAccountLine) ∧
        AccountEntry.Taken around.limits.recipients p.accountNumber p.loaded.defaultAccount
          (AccountEntry.ofLines inner) ∧
        p' = p.withDraft (.ofEntries p.accountNumber p.loaded.defaultAccount
          (AccountEntry.ofLines inner)) := by
  rw [← toOption_eq_some, toOption_readLines inside, Option.map_eq_some_iff]
  constructor
  · rintro ⟨draft, filled, rfl⟩
    obtain ⟨lines, entered⟩ := AccountEntry.foldlM_readLine.1 filled
    obtain ⟨taken, rfl⟩ := AccountEntry.foldlM_enter.1 entered
    exact ⟨lines, taken, rfl⟩
  · rintro ⟨lines, taken, rfl⟩
    have entered := AccountEntry.foldlM_enter.2 ⟨taken, rfl⟩
    exact ⟨_, AccountEntry.foldlM_readLine.2 ⟨lines, entered⟩, rfl⟩

/-- A mail block is read just if there is room for an account and its lines can make one, and then
this account is what it adds. -/
theorem readLines_block {header : Line} (opens : AccountBlocks.Opens header)
    (inside : Line.close ∉ inner) :
    readLines around includeFile file number (header :: (inner ++ [Line.close])) p = .ok p' ↔
      p.block = .none ∧ p.loaded.accounts.length < around.limits.accounts ∧
        AccountEntry.Complete around.limits.recipients p.accountNumber p.loaded.defaultAccount
          inner ∧
        p' = p.addAccount (.ofEntries p.accountNumber p.loaded.defaultAccount
          (AccountEntry.ofLines inner)) := by
  rw [readLines]
  constructor
  · intro read
    obtain ⟨p₁, opened, read⟩ := exists_of_bind_eq_ok read
    obtain ⟨outside, room, rfl⟩ := (readLine_opens_eq_ok opens).1 opened
    rw [readLines_append] at read
    obtain ⟨p₂, filled, read⟩ := exists_of_bind_eq_ok read
    obtain ⟨lines, taken, rfl⟩ := (readLines_inner inside).1 filled
    obtain ⟨p₃, closed, ended⟩ := exists_of_bind_eq_ok read
    obtain ⟨complete, rfl⟩ := readLine_close_eq_ok.1 closed
    cases ended
    exact ⟨outside, room, ⟨lines, taken, complete⟩, rfl⟩
  · rintro ⟨outside, room, ⟨lines, taken, complete⟩, rfl⟩
    rw [(readLine_opens_eq_ok opens).2 ⟨outside, room, rfl⟩]
    refine (readLines_append).trans ?_
    have closed : (p.withDraft (.ofEntries p.accountNumber p.loaded.defaultAccount
        (AccountEntry.ofLines inner))).readLine around includeFile
          ⟨file, number + 1 + inner.length⟩ Line.close = _ :=
      readLine_close_eq_ok.2 ⟨complete, rfl⟩
    rw [(readLines_inner inside).2 ⟨lines, taken, rfl⟩]
    exact congrArg (· >>= readLines around includeFile file _ []) closed

end Progress

/-! ## Source lines -/

namespace Encoding

variable {maxName : Int} {text file source header footer : Text} {sources inner : List Text}
  {encoded : List Line}

/-- The line that a source line is encoded as, unless it is at fault. -/
def lineOf (maxName : Int) (source : Text) : Line := (encodeLine maxName source).toOption.getD []

/-- What a source line says in a mail block. -/
def entryOf? (maxName : Int) (source : Text) : Option AccountEntry :=
  (encodeLine maxName source).toOption.bind AccountEntry.ofLine?

/-- The keyword that a source line gives a value to in a mail block. -/
def keyword? (maxName : Int) (source : Text) : Option AccountKeyword :=
  (entryOf? maxName source).bind AccountEntry.keyword?

/-- Source lines of a whole mail block: none but the last one closes it. -/
structure MailBlock (maxName : Int) (header : Text) (inner : List Text) (footer : Text) :
    Prop where
  opens : ∃ line, encodeLine maxName header = .ok line ∧ AccountBlocks.Opens line
  inside : ∀ source ∈ inner, encodeLine maxName source ≠ .ok Line.close
  closes : encodeLine maxName footer = .ok Line.close

/-- The encoded lines of a mail block. -/
def blockLines (maxName : Int) (header : Text) (inner : List Text) : List Line :=
  lineOf maxName header :: (inner.map (lineOf maxName) ++ [Line.close])

/-- A text that consists of a mail block with these lines. -/
def mailText (inner : List Text) : Text :=
  Text.unlines ("mail\x7b".toList :: (inner ++ ["\x7d".toList]))

theorem lineOf_eq {line : Line} (encoded : encodeLine maxName source = .ok line) :
    lineOf maxName source = line := by
  rw [lineOf, encoded]
  rfl

theorem encodeFrom_eq_ok_iff {number : Nat} : encodeFrom maxName number sources = .ok encoded ↔
    (∀ source ∈ sources, ∃ line, encodeLine maxName source = .ok line) ∧
      encoded = sources.map (lineOf maxName) := by
  induction sources generalizing number encoded with
  | nil => simp [encodeFrom, eq_comm]
  | cons source rest ih =>
      rw [encodeFrom, List.forall_mem_cons, List.map_cons]
      cases first : encodeLine maxName source with
      | error fault => simp
      | ok line =>
          rw [lineOf_eq first]
          constructor
          · intro all
            obtain ⟨others, later, rfl⟩ := exists_of_map_eq_ok all
            obtain ⟨sound, rfl⟩ := ih.1 later
            exact ⟨⟨⟨line, rfl⟩, sound⟩, rfl⟩
          · rintro ⟨⟨-, sound⟩, rfl⟩
            dsimp only
            rw [ih.2 ⟨sound, rfl⟩]
            rfl

theorem lines_eq_ok_iff : lines text file maxName = .ok encoded ↔
    (∀ source ∈ Text.lines text, ∃ line, encodeLine maxName source = .ok line) ∧
      encoded = (Text.lines text).map (lineOf maxName) := by
  have all := @encodeFrom_eq_ok_iff maxName (Text.lines text) encoded 1
  rw [← all, lines]
  cases encodeFrom maxName 1 (Text.lines text) <;> simp [Except.mapError]

theorem ofLines_map_lineOf : AccountEntry.ofLines (inner.map (lineOf maxName)) =
    inner.filterMap (entryOf? maxName) := by
  rw [AccountEntry.ofLines, List.filterMap_map]
  congr
  funext source
  rw [Function.comp_apply, lineOf, entryOf?]
  cases (encodeLine maxName source).toOption <;> rfl

namespace MailBlock

variable (block : MailBlock maxName header inner footer)
include block

theorem opens_header : AccountBlocks.Opens (lineOf maxName header) := by
  obtain ⟨line, encoded, opens⟩ := block.opens
  rwa [lineOf_eq encoded]

theorem not_mem_inner : Line.close ∉ inner.map (lineOf maxName) := by
  intro among
  obtain ⟨source, there, closes⟩ := List.mem_map.1 among
  have other := block.inside source there
  unfold lineOf at closes
  cases encoded : encodeLine maxName source with
  | error fault =>
      rw [encoded] at closes
      contradiction
  | ok line =>
      rw [encoded] at closes other
      exact other (congrArg _ closes)

/-- A mail block in a text is encoded as one. -/
theorem map_lineOf (earlier later : List Text) :
    (earlier ++ header :: (inner ++ footer :: later)).map (lineOf maxName) =
      earlier.map (lineOf maxName) ++
        (blockLines maxName header inner ++ later.map (lineOf maxName)) := by
  simp [blockLines, lineOf_eq block.closes]

/-- A mail block adds the account that its lines make. -/
theorem readLines_eq_ok {around : Surroundings} {number : Nat} {p p' : Progress}
    {includeFile : Position → Text → Progress → Except Stop Progress} :
    Progress.readLines around includeFile file number (blockLines maxName header inner) p =
        .ok p' ↔
      p.block = .none ∧ p.loaded.accounts.length < around.limits.accounts ∧
        AccountEntry.Complete around.limits.recipients p.accountNumber p.loaded.defaultAccount
          (inner.map (lineOf maxName)) ∧
        p' = p.addAccount (.ofEntries p.accountNumber p.loaded.defaultAccount
          (inner.filterMap (entryOf? maxName))) := by
  rw [blockLines, Progress.readLines_block block.opens_header block.not_mem_inner,
    ofLines_map_lineOf]

end MailBlock

end Encoding

/-! ## Lines in the place of others -/

namespace Loaded

variable {around : Surroundings} {file : Text} {before : Loaded} {files : FileSystem}
  {log : EventLog} {first part part' rest : List Line} {p' : Progress}

/-- If a load succeeds, as many other lines may take the place of some, as long as they differ in
nothing that a load looks at. -/
theorem exists_readRoot_of_part (length : part'.length = part.length)
    (read : before.readRoot around file (first ++ (part ++ rest)) files log = .ok p') :
    ∃ includeFile number p p₁,
      Progress.readLines around includeFile file number part p = .ok p₁ ∧
        ∀ unseen q₁, Progress.readLines around includeFile file number part' p = .ok q₁ →
          p₁.Beside unseen q₁ →
            ∃ q', before.readRoot around file (first ++ (part' ++ rest)) files log = .ok q' ∧
              p'.Beside unseen q' := by
  obtain ⟨includeFile, included, whole⟩ :=
    Progress.Beside.exists_readFile_eq_readAll around around.limits.includeDepth
  obtain ⟨p₃, read, finished⟩ := exists_of_bind_eq_ok read
  rw [whole] at read
  obtain ⟨p₂, read, ended⟩ := exists_of_bind_eq_ok read
  obtain ⟨p, front, read⟩ := Progress.readLines_append_eq_ok.1 read
  obtain ⟨p₁, within, behind⟩ := Progress.readLines_append_eq_ok.1 read
  refine ⟨includeFile, _, p, p₁, within, fun unseen q₁ within' beside => ?_⟩
  obtain ⟨q₂, behind', beside⟩ := (beside.readLines (included unseen)).exists_ok behind
  obtain ⟨q₃, ended', beside⟩ := beside.endFile.exists_ok ended
  obtain ⟨q', finished', beside⟩ := beside.finish.exists_ok finished
  refine ⟨q', ?_, beside⟩
  rw [← length] at behind'
  rw [readRoot, whole, Progress.readAll, Progress.readLines_append_eq_ok.2
    ⟨p, front, Progress.readLines_append_eq_ok.2 ⟨q₁, within', behind'⟩⟩]
  exact (congrArg (· >>= Progress.finish file) ended').trans finished'

/-! ## Mail blocks in a text -/

variable {text header footer : Text} {earlier inner later : List Text}

/-- A text with a mail block is loaded if its lines can be encoded and read. -/
theorem loadText_of_readRoot
    (block : Encoding.MailBlock around.limits.functionName header inner footer)
    (there : Text.lines text = earlier ++ header :: (inner ++ footer :: later))
    (sound : ∀ source ∈ Text.lines text, ∃ line,
      Encoding.encodeLine around.limits.functionName source = .ok line)
    (read : before.readRoot around file (earlier.map (Encoding.lineOf around.limits.functionName) ++
      (Encoding.blockLines around.limits.functionName header inner ++
        later.map (Encoding.lineOf around.limits.functionName))) files log = .ok p') :
    before.loadText around text file files log =
      ⟨none, p'.loaded, p'.files, p'.log.push (p'.loaded.report file)⟩ := by
  rw [← block.map_lineOf, ← there] at read
  rw [loadText_of_lines (Encoding.lines_eq_ok_iff.2 ⟨sound, rfl⟩), read]

theorem exists_readRoot_of_loadText
    (block : Encoding.MailBlock around.limits.functionName header inner footer)
    (there : Text.lines text = earlier ++ header :: (inner ++ footer :: later))
    (accepted : (before.loadText around text file files log).fault = none) :
    (∀ source ∈ Text.lines text, ∃ line,
      Encoding.encodeLine around.limits.functionName source = .ok line) ∧
      ∃ p', before.readRoot around file
        (earlier.map (Encoding.lineOf around.limits.functionName) ++
          (Encoding.blockLines around.limits.functionName header inner ++
            later.map (Encoding.lineOf around.limits.functionName))) files log = .ok p' ∧
        before.loadText around text file files log =
          ⟨none, p'.loaded, p'.files, p'.log.push (p'.loaded.report file)⟩ := by
  obtain ⟨lines, p, p', encoded, read, finished, result⟩ := readFile_of_loadText accepted
  obtain ⟨sound, rfl⟩ := Encoding.lines_eq_ok_iff.1 encoded
  refine ⟨sound, p', ?_, result⟩
  rw [← block.map_lineOf, ← there, readRoot, read]
  exact finished

end Loaded

end Ebrc
