import Ebrc.Proofs.Load.MailBlock

/-!
# The order of the lines of a mail block

Some lines of a mail block act on the same parts of an account: marks in front of a port set its
encryption, and so does the flag of a secure account, and the ports that are not given depend on all
of these. They do so in any order. What is given once and what is turned on is known when the block
is closed, and only then do defaults take the place of what is missing. Only recipients stand in the
order of their lines.
-/

namespace Ebrc

namespace Encoding

variable {maxName : Int} {header footer : Text} {inner inner' : List Text}

/-- Does a source line add a recipient in a mail block? -/
def isRecipient (maxName : Int) (source : Text) : Bool :=
  (keyword? maxName source).any (!·.isSingle)

theorem recipients_filter :
    AccountEntry.recipients ((inner.filter (isRecipient maxName)).filterMap (entryOf? maxName)) =
      AccountEntry.recipients (inner.filterMap (entryOf? maxName)) := by
  simp only [AccountEntry.recipients, List.filterMap_filterMap, List.filterMap_filter]
  congr
  funext source
  unfold isRecipient keyword?
  cases entryOf? maxName source with
  | none => simp
  | some e =>
      cases e with
      | flag => simp [AccountEntry.recipient?]
      | value k v =>
          cases k <;>
            simp [AccountEntry.recipient?, AccountEntry.keyword?, AccountKeyword.isSingle]

/-- The values of a keyword stand in the lines that give it one. -/
theorem length_values (k : AccountKeyword) :
    (AccountEntry.values (inner.filterMap (entryOf? maxName)) k).length =
      inner.countP (keyword? maxName · = some k) := by
  rw [AccountEntry.values, List.filterMap_filterMap, List.length_filterMap_eq_countP]
  congr
  funext source
  unfold keyword?
  cases entryOf? maxName source with
  | none => simp
  | some e =>
      cases e with
      | flag => simp [AccountEntry.value?, AccountEntry.keyword?]
      | value k' v =>
          by_cases same : k' = k <;> simp [AccountEntry.value?, AccountEntry.keyword?, same]

/-- Another order of the lines of a mail block that keeps the order of the recipients. -/
structure Reorders (maxName : Int) (inner inner' : List Text) : Prop where
  perm : inner'.Perm inner
  recipients : inner'.filter (isRecipient maxName) = inner.filter (isRecipient maxName)

namespace Reorders

variable (reorders : Reorders maxName inner inner')
  (once : ∀ k : AccountKeyword, k.isSingle → inner.countP (keyword? maxName · = some k) ≤ 1)
include reorders

theorem mailBlock (block : MailBlock maxName header inner footer) :
    MailBlock maxName header inner' footer :=
  ⟨block.opens, fun source among => block.inside source (reorders.perm.subset among), block.closes⟩

include once

theorem restates : AccountEntry.Restates (inner.filterMap (entryOf? maxName))
    (inner'.filterMap (entryOf? maxName)) := by
  refine AccountEntry.restates_of_perm (reorders.perm.filterMap _) ?_ ?_
  · intro k single
    rw [length_values]
    exact once k single
  · rw [← recipients_filter, reorders.recipients, recipients_filter]

theorem ofEntries_eq : Account.ofEntries (inner'.filterMap (entryOf? maxName)) =
    Account.ofEntries (inner.filterMap (entryOf? maxName)) := by
  refine (reorders.restates once).ofEntries_of_values fun k single => ?_
  refine AccountEntry.values_of_perm (reorders.perm.filterMap _) ?_
  rw [length_values]
  exact once k single

/-- Whatever a load has done before, a block that it reads does the same to it in another order. -/
theorem readLines_block {around : Surroundings} {file : Text} {number : Nat} {p p' : Progress}
    {includeFile : Position → Text → Progress → Except Stop Progress}
    (block : MailBlock maxName header inner footer)
    (read : Progress.readLines around includeFile file number (blockLines maxName header inner) p =
      .ok p') :
    Progress.readLines around includeFile file number (blockLines maxName header inner') p =
      .ok p' := by
  obtain ⟨outside, room, complete, rfl⟩ := block.readLines_eq_ok.1 read
  have restates := reorders.restates once
  refine (reorders.mailBlock block).readLines_eq_ok.2 ⟨outside, room, ?_, ?_⟩
  · refine complete.restate (fun line among => .inr ((reorders.perm.map _).subset among)) ?_
    rwa [ofLines_map_lineOf, ofLines_map_lineOf]
  · simp only [AccountDraft.ofEntries, reorders.ofEntries_eq once, restates.flags]

end Reorders

end Encoding

namespace Loaded

variable {around : Surroundings} {text text' file header footer : Text}
  {earlier inner inner' later : List Text} {before : Loaded} {files : FileSystem} {log : EventLog}

/-- The order of the lines of a mail block does not matter, as long as the recipients keep theirs:
if no keyword has a second value, a text that is accepted is accepted with the lines in another
order as well, and the same is loaded. -/
theorem loadText_reorder (block : Encoding.MailBlock around.limits.functionName header inner footer)
    (once : ∀ k : AccountKeyword, k.isSingle →
      inner.countP (Encoding.keyword? around.limits.functionName · = some k) ≤ 1)
    (reorders : Encoding.Reorders around.limits.functionName inner inner')
    (there : Text.lines text = earlier ++ header :: (inner ++ footer :: later))
    (there' : Text.lines text' = earlier ++ header :: (inner' ++ footer :: later))
    (accepted : (before.loadText around text file files log).fault = none) :
    before.loadText around text' file files log = before.loadText around text file files log := by
  obtain ⟨sound, p', read, result⟩ := exists_readRoot_of_loadText block there accepted
  have block' := reorders.mailBlock block
  have sound' : ∀ source ∈ Text.lines text', ∃ line,
      Encoding.encodeLine around.limits.functionName source = .ok line := by
    simpa [there, there', reorders.perm.mem_iff] using sound
  have length : (Encoding.blockLines around.limits.functionName header inner').length =
      (Encoding.blockLines around.limits.functionName header inner).length := by
    simp [Encoding.blockLines, reorders.perm.length_eq]
  obtain ⟨includeFile, number, p, p₁, within, replace⟩ := exists_readRoot_of_part length read
  obtain ⟨q', read', beside⟩ :=
    replace .nothing p₁ (reorders.readLines_block once block within) (.intro rfl rfl)
  rw [result, loadText_of_readRoot block' there' sound' read', beside.eq_of_nothing]

/-- The lines of a mail block in which flags and marks act on the ports, and two recipients. -/
def markedAccount : List Text :=
  ["inserver=a", "outserver=b", "login=c", "password=d", "from=e", "reply=f", "outport=^25", "to=g",
    "secure", "", "cc=h", "imap", "default"].map String.toList

/-- The same lines in another order. -/
def scrambledAccount : List Text :=
  ["imap", "secure", "reply=f", "to=g", "default", "cc=h", "from=e", "password=d", "login=c", "",
    "outserver=b", "outport=^25", "inserver=a"].map String.toList

theorem loadText_reorder_scrambled :
    ((fresh ['a']).loadText ⟨{}, {}⟩ (Encoding.mailText markedAccount) ['r'] {} #[]).fault =
        none ∧
      (fresh ['a']).loadText ⟨{}, {}⟩ (Encoding.mailText scrambledAccount) ['r'] {} #[] =
        (fresh ['a']).loadText ⟨{}, {}⟩ (Encoding.mailText markedAccount) ['r'] {} #[] := by
  have block : Encoding.MailBlock 10 "mail\x7b".toList markedAccount "\x7d".toList :=
    ⟨⟨Line.opening BlockLetter.mail, by decide, by decide⟩, by decide +kernel, by decide⟩
  have once (k : AccountKeyword) (single : k.isSingle) :
      markedAccount.countP (Encoding.keyword? 10 · = some k) ≤ 1 := by
    cases k with
    | recipient => contradiction
    | _ => decide +kernel
  have reorders : Encoding.Reorders 10 markedAccount scrambledAccount :=
    ⟨by decide +kernel, by decide +kernel⟩
  have accepted : ((fresh ['a']).loadText ⟨{}, {}⟩ (Encoding.mailText markedAccount) ['r']
      {} #[]).fault = none := by
    decide +kernel
  have same := @loadText_reorder ⟨{}, {}⟩ (Encoding.mailText markedAccount)
    (Encoding.mailText scrambledAccount) ['r'] _ _ [] markedAccount scrambledAccount []
    (fresh ['a']) {} #[] block once reorders (by decide +kernel) (by decide +kernel) accepted
  exact ⟨accepted, same⟩

end Loaded

end Ebrc
