import Ebrc.Proofs.Load.Layout
import Ebrc.Proofs.Load.MailBlock

/-!
# Values that are replaced

A keyword of a mail block may be given a value again, and then the last one counts. So the lines
with the earlier values could be left out. For the ports this is not the whole truth: a value
without a mark sets the port, but leaves it encrypted as an earlier value has asked for.
-/

namespace Ebrc

namespace AccountEntry

variable {entries later : List AccountEntry} {k : AccountKeyword} {e : AccountEntry}

/-- Does a later entry give the keyword another value? -/
def isReplaced (later : List AccountEntry) : AccountEntry → Bool
  | value k _ => k.isSingle && later.any (·.keyword? = some k)
  | flag _ => false

/-- The entries without the values that are replaced later on. -/
def lastValues : List AccountEntry → List AccountEntry
  | [] => []
  | e :: later => if e.isReplaced later then lastValues later else e :: lastValues later

theorem values_cons : values (e :: later) k = (value? k e).toList ++ values later k := by
  rw [values, List.filterMap_cons]
  cases value? k e <;> rfl

theorem recipients_cons :
    recipients (e :: later) = (recipient? e).toList ++ recipients later := by
  rw [recipients, List.filterMap_cons]
  cases recipient? e <;> rfl

theorem values_eq_nil_iff :
    values later k = [] ↔ later.any (·.keyword? = some k) = false := by
  rw [values, List.filterMap_eq_nil_iff, List.any_eq_false]
  refine forall₂_congr fun e _ => ?_
  cases e with
  | flag => simp [value?, keyword?]
  | value k' v => by_cases same : k' = k <;> simp [value?, keyword?, same]

theorem value?_eq_some {v : Text} (given : value? k e = some v) : e = .value k v := by
  cases e with
  | flag => cases given
  | value k' v' =>
      by_cases same : k' = k
      · rw [value?, if_pos same] at given
        cases given
        rw [same]
      · rw [value?, if_neg same] at given
        cases given

/-- Of the values of a keyword the last one is left. -/
theorem values_lastValues (single : k.isSingle) :
    values (lastValues entries) k = (values entries k).getLast?.toList := by
  induction entries with
  | nil => rfl
  | cons e later ih =>
      rw [lastValues, values_cons]
      cases given : value? k e with
      | none =>
          split
          · exact ih
          · rw [values_cons, given]
            exact ih
      | some v =>
          rw [value?_eq_some given, isReplaced, single, Bool.true_and]
          cases again : later.any (·.keyword? = some k) with
          | true =>
              have more : values later k ≠ [] := by
                rw [ne_eq, values_eq_nil_iff, again]
                decide
              rw [if_pos rfl, ih, Option.toList_some, List.singleton_append,
                List.getLast?_cons_of_ne_nil more]
          | false =>
              have last : values later k = [] := values_eq_nil_iff.2 again
              rw [if_neg (by decide), values_cons, ih, last]
              simp [value?]

theorem recipient?_of_isReplaced (replaced : e.isReplaced later) : recipient? e = none := by
  cases e with
  | flag => rfl
  | value k v =>
      cases k with
      | recipient => contradiction
      | _ => rfl

theorem recipients_lastValues : recipients (lastValues entries) = recipients entries := by
  induction entries with
  | nil => rfl
  | cons e later ih =>
      rw [lastValues, recipients_cons]
      split
      · rw [recipient?_of_isReplaced ‹_›]
        exact ih
      · rw [recipients_cons, ih]

theorem flag_mem_lastValues {f : AccountFlag} :
    .flag f ∈ lastValues entries ↔ .flag f ∈ entries := by
  induction entries with
  | nil => rfl
  | cons e later ih =>
      rw [lastValues, List.mem_cons]
      split
      · rename_i replaced
        have other : .flag f ≠ e := by
          rintro rfl
          contradiction
        rw [ih, or_iff_right other]
      · rw [List.mem_cons, ih]

/-- The last values say the same as all of them. -/
theorem restates_lastValues : Restates entries (lastValues entries) where
  subset k single := by
    rw [values_lastValues single]
    intro v among
    rw [Option.mem_toList] at among
    exact List.mem_of_getLast? among
  last k single := by
    rw [values_lastValues single]
    cases (values entries k).getLast? <;> rfl
  recipients := recipients_lastValues
  flags _ := flag_mem_lastValues

/-! ## Marks -/

/-- The encryption that the last value for a port asks for. -/
def lastTls (marks : List (Char × Tls)) (values : List Text) : Tls :=
  (values.getLast?.bind fun v => (Tls.unmark marks v).1).getD .none

/-- No mark in front of a port counts longer than the port behind it. -/
structure MarksLast (entries : List AccountEntry) : Prop where
  inPort : (lastMark? Tls.inMarks (values entries .inPort)).getD .none =
    lastTls Tls.inMarks (values entries .inPort)
  outPort : (lastMark? Tls.outMarks (values entries .outPort)).getD .none =
    lastTls Tls.outMarks (values entries .outPort)

theorem lastMark?_toList {marks : List (Char × Tls)} {last : Option Text} :
    lastMark? marks last.toList = last.bind fun v => (Tls.unmark marks v).1 := by
  cases last with
  | none => rfl
  | some v =>
      rw [Option.bind_some, Option.toList_some, lastMark?, List.filterMap_cons]
      cases (Tls.unmark marks v).1 <;> rfl

/-- The last values make the same account, but for the encryption of its ports: only the marks of
the last values are left. -/
theorem ofEntries_lastValues : Account.ofEntries (lastValues entries) =
    { Account.ofEntries entries with
      inTls := lastTls Tls.inMarks (values entries .inPort)
      outTls := lastTls Tls.outMarks (values entries .outPort) } := by
  rw [restates_lastValues.ofEntries_eq, values_lastValues rfl, values_lastValues rfl,
    lastMark?_toList, lastMark?_toList]
  rfl

/-- It is the same account just if it is a secure one or no mark counts longer than its port. -/
theorem withDefaults_lastValues_iff :
    (Account.ofEntries (lastValues entries)).withDefaults =
        (Account.ofEntries entries).withDefaults ↔
      .flag .secure ∈ entries ∨ MarksLast entries := by
  rw [ofEntries_lastValues]
  have secure : (Account.ofEntries entries).secure = decide (.flag .secure ∈ entries) := rfl
  by_cases flagged : .flag .secure ∈ entries
  · simp [Account.withDefaults, secure, flagged]
  · have marks : lastTls Tls.inMarks (values entries .inPort) = (Account.ofEntries entries).inTls ∧
        lastTls Tls.outMarks (values entries .outPort) = (Account.ofEntries entries).outTls ↔
          MarksLast entries :=
      ⟨fun same => ⟨same.1.symm, same.2.symm⟩,
        fun last => ⟨last.inPort.symm, last.outPort.symm⟩⟩
    simpa [Account.withDefaults, secure, flagged] using marks

end AccountEntry

/-! ## Lines that are left out -/

namespace Encoding

variable {maxName : Int} {header footer source : Text} {inner : List Text}

/-- Does a later line of a mail block replace the value that a source line gives? -/
def isReplaced (maxName : Int) (later : List Text) (source : Text) : Bool :=
  (entryOf? maxName source).any (·.isReplaced (later.filterMap (entryOf? maxName)))

/-- The lines of a mail block without those whose values are replaced by later ones. -/
def lastValues (maxName : Int) : List Text → List Text
  | [] => []
  | source :: later =>
    if isReplaced maxName later source then lastValues maxName later
    else source :: lastValues maxName later

/-- The lines of a mail block with empty lines in the place of those whose values are replaced. -/
def blankReplaced (maxName : Int) : List Text → List Text
  | [] => []
  | source :: later =>
    (if isReplaced maxName later source then [] else source) :: blankReplaced maxName later

theorem lastValues_sublist : (lastValues maxName inner).Sublist inner := by
  induction inner with
  | nil => exact .slnil
  | cons source later ih =>
      rw [lastValues]
      split
      · exact .cons _ ih
      · exact .cons_cons _ ih

theorem mem_of_mem_blankReplaced (among : source ∈ blankReplaced maxName inner) :
    source = [] ∨ source ∈ inner := by
  induction inner with
  | nil => contradiction
  | cons first later ih =>
      rw [blankReplaced, List.mem_cons] at among
      rcases among with rfl | there
      · split
        · exact .inl rfl
        · exact .inr (List.mem_cons_self ..)
      · exact (ih there).imp_right (List.mem_cons_of_mem _)

theorem entries_lastValues : (lastValues maxName inner).filterMap (entryOf? maxName) =
    AccountEntry.lastValues (inner.filterMap (entryOf? maxName)) := by
  induction inner with
  | nil => rfl
  | cons source later ih =>
      rw [lastValues, isReplaced]
      cases said : entryOf? maxName source with
      | none => simp [said, ih]
      | some e =>
          rw [List.filterMap_cons_some said, AccountEntry.lastValues, Option.any_some]
          split
          · exact ih
          · rw [List.filterMap_cons_some said, ih]

theorem entries_blankReplaced : (blankReplaced maxName inner).filterMap (entryOf? maxName) =
    (lastValues maxName inner).filterMap (entryOf? maxName) := by
  induction inner with
  | nil => rfl
  | cons source later ih =>
      rw [blankReplaced, lastValues]
      split
      · rw [List.filterMap_cons_none rfl, ih]
      · rw [List.filterMap_cons, List.filterMap_cons, ih]

theorem length_blankReplaced : (blankReplaced maxName inner).length = inner.length := by
  induction inner with
  | nil => rfl
  | cons source later ih => rw [blankReplaced, List.length_cons, List.length_cons, ih]

theorem spoken_blankReplaced : spoken ((blankReplaced maxName inner).map (lineOf maxName)) =
    spoken ((lastValues maxName inner).map (lineOf maxName)) := by
  induction inner with
  | nil => rfl
  | cons source later ih =>
      rw [blankReplaced, lastValues]
      split
      · rw [List.map_cons, spoken_void rfl, ih]
      · simp only [List.map_cons, spoken, List.filter_cons] at ih ⊢
        rw [ih]

namespace MailBlock

variable (block : MailBlock maxName header inner footer)
include block

theorem lastValues : MailBlock maxName header (lastValues maxName inner) footer :=
  ⟨block.opens, fun source among => block.inside source (lastValues_sublist.subset among),
    block.closes⟩

theorem blankReplaced : MailBlock maxName header (blankReplaced maxName inner) footer := by
  refine ⟨block.opens, fun source among => ?_, block.closes⟩
  rcases mem_of_mem_blankReplaced among with rfl | there
  · intro impossible
    cases impossible
  · exact block.inside source there

/-- With empty lines in the place of values that are replaced, the account of the last values is
added. -/
theorem readLines_blankReplaced {around : Surroundings} {file : Text} {number : Nat}
    {p p' : Progress} {includeFile : Position → Text → Progress → Except Stop Progress}
    (read : Progress.readLines around includeFile file number (blockLines maxName header inner) p =
      .ok p') :
    Progress.readLines around includeFile file number
      (blockLines maxName header (Encoding.blankReplaced maxName inner)) p =
        .ok (p.addAccount (.ofEntries p.accountNumber p.loaded.defaultAccount
          (AccountEntry.lastValues (inner.filterMap (entryOf? maxName))))) := by
  obtain ⟨outside, room, complete, -⟩ := block.readLines_eq_ok.1 read
  have entries : (Encoding.blankReplaced maxName inner).filterMap (entryOf? maxName) =
      AccountEntry.lastValues (inner.filterMap (entryOf? maxName)) := by
    rw [entries_blankReplaced, entries_lastValues]
  refine block.blankReplaced.readLines_eq_ok.2 ⟨outside, room, ?_, by rw [entries]⟩
  refine complete.restate (fun line among => ?_) ?_
  · obtain ⟨source, there, rfl⟩ := List.mem_map.1 among
    rcases mem_of_mem_blankReplaced there with rfl | there
    · exact .inl rfl
    · exact .inr (List.mem_map_of_mem there)
  · rw [ofLines_map_lineOf, ofLines_map_lineOf, entries]
    exact AccountEntry.restates_lastValues

end MailBlock

end Encoding

/-! ## Loads -/

/-- Behind these accounts one may be another. -/
def Unseen.account (front : List Account) (a a' : Account) : Unseen :=
  { nothing with
    Accounts := fun accounts accounts' =>
      ∃ back, accounts = front ++ a :: back ∧ accounts' = front ++ a' :: back
    length := by
      rintro _ _ ⟨back, rfl, rfl⟩
      simp
    append := by
      rintro _ _ added ⟨back, rfl, rfl⟩
      exact ⟨back ++ [added], List.append_assoc .., List.append_assoc ..⟩ }

/-- Two drafts leave loads that differ in the account that is added. -/
theorem Progress.beside_addAccount {p : Progress} {draft draft' : AccountDraft}
    (standard : draft'.standard = draft.standard) : (p.addAccount draft).Beside
      (.account p.loaded.accounts draft.account.withDefaults draft'.account.withDefaults)
      (p.addAccount draft') := by
  cases draft
  cases draft'
  cases standard
  exact .intro rfl ⟨[], rfl, rfl⟩

theorem Encoding.spoken_blockLines {maxName : Int} {header : Text} {inner : List Text} :
    spoken (blockLines maxName header (blankReplaced maxName inner)) =
      spoken (blockLines maxName header (lastValues maxName inner)) := by
  have same := @spoken_blankReplaced maxName inner
  simp only [blockLines, spoken, List.filter_cons, List.filter_append] at same ⊢
  rw [same]

open AccountEntry in
/-- What comes of a load and of one without the values that are replaced in a mail block. Everything
but the account of the block is the same, up to the lines that made the rules. The account has the
same values, recipients and flags, and its ports are encrypted as the marks of the last values ask
for. So it is the same account just if it is a secure one or no mark counts longer than its port. -/
structure LoadResult.SameButMarks (entries : List AccountEntry) (result result' : LoadResult) :
    Prop where
  fault : result'.fault = none
  files : result'.files = result.files
  accounts : ∃ front a a' back, result.loaded.accounts = front ++ a :: back ∧
    result'.loaded.unnumbered =
      { result.loaded.unnumbered with accounts := front ++ a' :: back } ∧
    a = (Account.ofEntries entries).withDefaults ∧
    a' = Account.withDefaults { Account.ofEntries entries with
      inTls := lastTls Tls.inMarks (values entries .inPort)
      outTls := lastTls Tls.outMarks (values entries .outPort) } ∧
    (a' = a ↔ .flag .secure ∈ entries ∨ MarksLast entries)

namespace Loaded

variable {around : Surroundings} {text text' file header footer : Text}
  {earlier inner later : List Text} {before : Loaded} {files : FileSystem} {log : EventLog}

/-- Without the values that are replaced in a mail block another account is added, and everything
else stays the same. -/
theorem exists_readRoot_lastValues {first rest : List Line} {p' : Progress}
    (block : Encoding.MailBlock around.limits.functionName header inner footer)
    (read : before.readRoot around file
      (first ++ (Encoding.blockLines around.limits.functionName header inner ++ rest)) files log =
        .ok p') :
    ∃ r', before.readRoot around file
        (first ++ (Encoding.blockLines around.limits.functionName header
          (Encoding.lastValues around.limits.functionName inner) ++ rest)) files log = .ok r' ∧
      r'.files = p'.files ∧ ∃ front back,
        p'.loaded.accounts = front ++ (Account.ofEntries
          (inner.filterMap (Encoding.entryOf? around.limits.functionName))).withDefaults :: back ∧
        r'.loaded.unnumbered = { p'.loaded.unnumbered with
          accounts := front ++ (Account.ofEntries (AccountEntry.lastValues
            (inner.filterMap (Encoding.entryOf? around.limits.functionName)))).withDefaults ::
              back } := by
  -- First with empty lines, so that all other lines keep their numbers.
  have length : (Encoding.blockLines around.limits.functionName header
      (Encoding.blankReplaced around.limits.functionName inner)).length =
      (Encoding.blockLines around.limits.functionName header inner).length := by
    simp [Encoding.blockLines, Encoding.length_blankReplaced]
  obtain ⟨includeFile, number, p, p₁, within, replace⟩ := exists_readRoot_of_part length read
  have within' := block.readLines_blankReplaced within
  obtain ⟨-, -, -, rfl⟩ := block.readLines_eq_ok.1 within
  obtain ⟨q', read', beside⟩ := replace _ _ within' (Progress.beside_addAccount (by
    simp only [AccountDraft.ofEntries, AccountEntry.flag_mem_lastValues]))
  -- Then without them.
  have spoken : Encoding.SpeakAlike
      (first ++ (Encoding.blockLines around.limits.functionName header
        (Encoding.blankReplaced around.limits.functionName inner) ++ rest))
      (first ++ (Encoding.blockLines around.limits.functionName header
        (Encoding.lastValues around.limits.functionName inner) ++ rest)) := by
    have block := @Encoding.spoken_blockLines around.limits.functionName header inner
    simp only [Encoding.SpeakAlike, Encoding.spoken, List.filter_append] at block ⊢
    rw [block]
  obtain ⟨r', read'', same⟩ := exists_readRoot_of_spoken spoken read'
  refine ⟨r', read'', (congrArg (·.files) same.like).trans beside.files, ?_⟩
  cases beside with
  | intro told added =>
      obtain ⟨back, accounts, accounts'⟩ := added
      refine ⟨p.loaded.accounts, back, accounts, ?_⟩
      rw [same.unnumbered, unnumbered, unnumbered, accounts']
      rfl

/-- The last value of a keyword of a mail block counts, but a mark in front of a port may count
longer than the port: if a text is accepted, it is accepted without the values that are replaced
later on in the block, and the same is loaded but for such marks. -/
theorem loadText_lastValues
    (block : Encoding.MailBlock around.limits.functionName header inner footer)
    (there : Text.lines text = earlier ++ header :: (inner ++ footer :: later))
    (there' : Text.lines text' = earlier ++
      header :: (Encoding.lastValues around.limits.functionName inner ++ footer :: later))
    (accepted : (before.loadText around text file files log).fault = none) :
    (before.loadText around text file files log).SameButMarks
      (inner.filterMap (Encoding.entryOf? around.limits.functionName))
      (before.loadText around text' file files log) := by
  obtain ⟨sound, p', read, loaded⟩ := exists_readRoot_of_loadText block there accepted
  have sound' : ∀ source ∈ Text.lines text', ∃ line,
      Encoding.encodeLine around.limits.functionName source = .ok line := by
    have fewer : (Text.lines text').Sublist (Text.lines text) := by
      rw [there, there']
      exact ((Encoding.lastValues_sublist.append_right _).cons_cons _).append_left _
    exact fun source among => sound source (fewer.subset among)
  obtain ⟨r', read', sameFiles, front, back, accounts, others⟩ :=
    exists_readRoot_lastValues block read
  rw [loaded, loadText_of_readRoot block.lastValues there' sound' read']
  refine ⟨rfl, sameFiles, front, _, _, back, accounts, others, rfl, ?_, ?_⟩
  · rw [AccountEntry.ofEntries_lastValues]
  · exact AccountEntry.withDefaults_lastValues_iff

/-- A mail block in which a server is given twice, and a port first with a mark and then without. -/
def portTwice : List Text :=
  ["inserver=z", "inport=*993", "inserver=a", "outserver=b", "login=c", "password=d", "from=e",
    "reply=f", "inport=110"].map String.toList

/-- The same mail block with the last values only. -/
def portOnce : List Text :=
  ["inserver=a", "outserver=b", "login=c", "password=d", "from=e", "reply=f",
    "inport=110"].map String.toList

theorem loadText_lastValues_portTwice :
    ((fresh ['a']).loadText ⟨{}, {}⟩ (Encoding.mailText portTwice) ['r'] {} #[]).fault =
        none ∧
      ((fresh ['a']).loadText ⟨{}, {}⟩ (Encoding.mailText portTwice) ['r'] {}
        #[]).SameButMarks (portTwice.filterMap (Encoding.entryOf? 10))
          ((fresh ['a']).loadText ⟨{}, {}⟩ (Encoding.mailText portOnce) ['r'] {} #[]) := by
  have block : Encoding.MailBlock 10 "mail\x7b".toList portTwice "\x7d".toList :=
    ⟨⟨Line.opening BlockLetter.mail, by decide, by decide⟩, by decide +kernel, by decide⟩
  have accepted : ((fresh ['a']).loadText ⟨{}, {}⟩ (Encoding.mailText portTwice) ['r']
      {} #[]).fault = none := by
    decide +kernel
  have same := @loadText_lastValues ⟨{}, {}⟩ (Encoding.mailText portTwice)
    (Encoding.mailText portOnce) ['r'] _ _ [] portTwice [] (fresh ['a']) {} #[] block
    (by decide +kernel) (by decide +kernel) accepted
  exact ⟨accepted, same⟩

/-- With both values the port without a mark is encrypted, with the last one alone it is not. -/
theorem mark_outlasts_port :
    Encoding.lastValues 10 portTwice = portOnce ∧
      ((fresh ['a']).loadText ⟨{}, {}⟩ (Encoding.mailText portTwice) ['r'] {} #[]).fault =
        none ∧
      ((fresh ['a']).loadText ⟨{}, {}⟩ (Encoding.mailText portTwice) ['r'] {}
        #[]).loaded.accounts.map (·.inTls) = [.implicit] ∧
      ((fresh ['a']).loadText ⟨{}, {}⟩ (Encoding.mailText portOnce) ['r'] {}
        #[]).loaded.accounts.map (·.inTls) = [.none] := by
  decide +kernel

end Loaded

end Ebrc
