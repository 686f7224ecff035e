import Ebrc.Keyword
import Ebrc.Proofs.Load.Reading
import Mathlib.Data.List.Induction

/-!
# What the lines of a mail block say

A line of a mail block gives a keyword its value or turns a flag on. What comes of all of them can
be said without going through them one after the other: a keyword has the last value that it is
given, a port has the encryption that the last of its marked values asks for, the recipients stand
in the order of their lines, and a flag is on if it is anywhere. Going through the lines leads to
just this account, and it goes wrong just if one of them says something that cannot be taken.
-/

namespace Ebrc

/-! ## Ports -/

/-- The marks in front of a value for a port are tried in this order, each at most once. The
encryption that the last of them asks for, and the value behind them. -/
def Tls.unmark : List (Char × Tls) → Text → Option Tls × Text
  | [], v => (Option.none, v)
  | (mark, tls) :: marks, v =>
    if v.head? = some mark then ((unmark marks v.tail).1.or (some tls), (unmark marks v.tail).2)
    else unmark marks v

/-- The marks of a port for fetching. -/
def Tls.inMarks : List (Char × Tls) := [('*', .implicit)]

/-- The marks of a port for sending. -/
def Tls.outMarks : List (Char × Tls) :=
  [('+', .opportunistic), ('^', .required), ('*', .implicit)]

/-- The number in a value for a port. -/
def Tls.number? (marks : List (Char × Tls)) (v : Text) : Option Int :=
  Text.leadingInt? (unmark marks v).2

namespace Account

theorem takeMark_eq (mark : Char) (tls before : Tls) (v : Text) :
    takeMark mark tls (before, v) =
      if v.head? = some mark then (tls, v.tail) else (before, v) := by
  cases v with
  | nil => rfl
  | cons c rest => simp [takeMark]

/-- Marks are taken off one after the other. -/
theorem takeMarks_eq (marks : List (Char × Tls)) (before : Tls) (v : Text) :
    marks.foldl (fun marked mark => takeMark mark.1 mark.2 marked) (before, v) =
      ((Tls.unmark marks v).1.getD before, (Tls.unmark marks v).2) := by
  induction marks generalizing before v with
  | nil => rw [List.foldl_nil, Tls.unmark, Option.getD_none]
  | cons mark marks ih =>
      rw [List.foldl_cons, takeMark_eq, Tls.unmark]
      split
      · rw [ih]
        cases (Tls.unmark marks v.tail).1 <;> rfl
      · exact ih before v

theorem toOption_setInPort (a : Account) (v : Text) : (a.setInPort v).toOption =
    (Tls.number? Tls.inMarks v).map fun port =>
      { a with inTls := (Tls.unmark Tls.inMarks v).1.getD a.inTls, inPort := port } := by
  have marked : takeMark '*' .implicit (a.inTls, v) = _ := takeMarks_eq Tls.inMarks a.inTls v
  unfold setInPort Tls.number? leadingNumber
  rw [marked]
  dsimp only
  cases Text.leadingInt? (Tls.unmark Tls.inMarks v).2 <;> rfl

theorem toOption_setOutPort (a : Account) (v : Text) : (a.setOutPort v).toOption =
    (Tls.number? Tls.outMarks v).map fun port =>
      { a with outTls := (Tls.unmark Tls.outMarks v).1.getD a.outTls, outPort := port } := by
  have marked : takeMark '*' .implicit (takeMark '^' .required
      (takeMark '+' .opportunistic (a.outTls, v))) = _ := takeMarks_eq Tls.outMarks a.outTls v
  unfold setOutPort Tls.number? leadingNumber
  rw [marked]
  dsimp only
  cases Text.leadingInt? (Tls.unmark Tls.outMarks v).2 <;> rfl

end Account

/-! ## Entries -/

/-- Does a keyword have one value? Recipients are added to one another. -/
def AccountKeyword.isSingle : AccountKeyword → Bool
  | .recipient _ => false
  | _ => true

/-- What a line of a mail block says. -/
inductive AccountEntry where
  | value (keyword : AccountKeyword) (v : Text)
  | flag (flag : AccountFlag)
  deriving Repr, DecidableEq

namespace AccountEntry

/-- The entry that a line is. -/
def ofLine? (line : Line) : Option AccountEntry :=
  match splitAssignment? line with
  | some (word, v) =>
    match Keyword.ofWord? word with
    | some (.account k) => if v = [] then none else some (value k v)
    | _ => none
  | none => (AccountFlag.ofLine? line).map flag

/-- The value that an entry gives to a keyword. -/
def value? (keyword : AccountKeyword) : AccountEntry → Option Text
  | value k v => if k = keyword then some v else none
  | flag _ => none

/-- The keyword that an entry gives a value to. -/
def keyword? : AccountEntry → Option AccountKeyword
  | value k _ => some k
  | flag _ => none

/-- The recipient that an entry adds. -/
def recipient? : AccountEntry → Option Recipient
  | value (.recipient kind) v => some ⟨kind, v⟩
  | _ => none

/-- The values given to a keyword, the last one last. -/
def values (entries : List AccountEntry) (keyword : AccountKeyword) : List Text :=
  entries.filterMap (value? keyword)

/-- The recipients that entries add, in their order. -/
def recipients (entries : List AccountEntry) : List Recipient := entries.filterMap recipient?

/-- The last value given to a port. -/
def lastNumber? (marks : List (Char × Tls)) (values : List Text) : Option Int :=
  values.getLast?.bind (Tls.number? marks)

/-- The encryption that the last marked value for a port asks for. -/
def lastMark? (marks : List (Char × Tls)) (values : List Text) : Option Tls :=
  (values.filterMap fun v => (Tls.unmark marks v).1).getLast?

end AccountEntry

open AccountEntry in
/-- The account that entries make, whatever their order. -/
def Account.ofEntries (entries : List AccountEntry) : Account where
  inServer := (values entries .inServer).getLast?
  outServer := (values entries .outServer).getLast?
  login := (values entries .login).getLast?
  password := (values entries .password).getLast?
  sender := (values entries .sender).getLast?
  reply := (values entries .reply).getLast?
  inPort := (lastNumber? Tls.inMarks (values entries .inPort)).getD 0
  outPort := (lastNumber? Tls.outMarks (values entries .outPort)).getD 0
  inTls := (lastMark? Tls.inMarks (values entries .inPort)).getD .none
  outTls := (lastMark? Tls.outMarks (values entries .outPort)).getD .none
  recipients := AccountEntry.recipients entries
  secure := .flag .secure ∈ entries
  imap := .flag .imap ∈ entries
  noFetch := .flag .noFetch ∈ entries ∨ .flag .imap ∈ entries

/-! ## Going through the entries -/

/-- An account whose block is open, and the default account at that point. -/
structure AccountDraft where
  account : Account
  standard : Nat
  deriving Repr, DecidableEq

/-- Take an entry. This many recipients are allowed, and this would be the number of the account. -/
def AccountDraft.enter (limit number : Nat) (draft : AccountDraft) :
    AccountEntry → Option AccountDraft
  | .value k v => (draft.account.set limit k v).toOption.map fun account => { draft with account }
  | .flag .standard =>
    if draft.standard = 0 ∨ draft.standard = number then some { draft with standard := number }
    else none
  | .flag flag => some { draft with account := flag.raise draft.account }

open AccountEntry in
/-- All the entries can be taken, from this default account on. -/
structure AccountEntry.Taken (limit number standard : Nat) (entries : List AccountEntry) :
    Prop where
  inPorts : ∀ v ∈ values entries .inPort, (Tls.number? Tls.inMarks v).isSome
  outPorts : ∀ v ∈ values entries .outPort, (Tls.number? Tls.outMarks v).isSome
  room : (recipients entries).length ≤ limit
  alone : .flag .standard ∈ entries → standard = 0 ∨ standard = number

/-- The draft that entries lead to. -/
def AccountDraft.ofEntries (number standard : Nat) (entries : List AccountEntry) : AccountDraft :=
  ⟨Account.ofEntries entries, if .flag .standard ∈ entries then number else standard⟩

namespace AccountEntry

variable {limit number standard : Nat} {entries : List AccountEntry} {e : AccountEntry}
  {k : AccountKeyword} {v : Text} {draft : AccountDraft}

@[simp] theorem values_append_singleton :
    values (entries ++ [e]) k = values entries k ++ (value? k e).toList := by
  rw [values, List.filterMap_append]
  cases found : value? k e <;> simp [values, found]

@[simp] theorem recipients_append_singleton :
    recipients (entries ++ [e]) = recipients entries ++ (recipient? e).toList := by
  rw [recipients, List.filterMap_append]
  cases found : recipient? e <;> simp [recipients, found]

/-- The entry can be taken behind others. -/
def Fits (limit number standard : Nat) (entries : List AccountEntry) : AccountEntry → Prop
  | value .inPort v => (Tls.number? Tls.inMarks v).isSome
  | value .outPort v => (Tls.number? Tls.outMarks v).isSome
  | value (.recipient _) _ => (recipients entries).length < limit
  | value _ _ => True
  | flag .standard => standard = 0 ∨ standard = number
  | flag _ => True

theorem taken_iff : Taken limit number standard entries ↔
    (∀ v ∈ values entries .inPort, (Tls.number? Tls.inMarks v).isSome) ∧
      (∀ v ∈ values entries .outPort, (Tls.number? Tls.outMarks v).isSome) ∧
      (recipients entries).length ≤ limit ∧
      (.flag .standard ∈ entries → standard = 0 ∨ standard = number) :=
  ⟨fun taken => ⟨taken.inPorts, taken.outPorts, taken.room, taken.alone⟩,
    fun ⟨inPorts, outPorts, room, alone⟩ => ⟨inPorts, outPorts, room, alone⟩⟩

theorem taken_append_singleton : Taken limit number standard (entries ++ [e]) ↔
    Taken limit number standard entries ∧ Fits limit number standard entries e := by
  rw [taken_iff, taken_iff]
  cases e with
  | value k v =>
      cases k with
      | inPort | outPort =>
          simp only [Fits, values_append_singleton, recipients_append_singleton, value?,
            recipient?, reduceCtorEq, if_true, if_false, Option.toList_none, Option.toList_some,
            List.append_nil, List.mem_append, List.mem_singleton, or_false, or_imp, forall_and,
            forall_eq]
          tauto
      | recipient kind =>
          have before : (recipients entries).length + 1 ≤ limit →
              (recipients entries).length ≤ limit := Nat.le_of_succ_le
          simp only [Fits, values_append_singleton, recipients_append_singleton, value?,
            recipient?, reduceCtorEq, if_false, Option.toList_none, Option.toList_some,
            List.append_nil, List.length_append, List.length_singleton, List.mem_append,
            List.mem_singleton, or_false, Nat.lt_iff_add_one_le]
          tauto
      | _ => simp [Fits, value?, recipient?]
  | flag flag =>
      cases flag with
      | standard =>
          simp only [Fits, values_append_singleton, recipients_append_singleton, value?,
            recipient?, Option.toList_none, List.append_nil, List.mem_append,
            List.mem_singleton, or_true, forall_const]
          tauto
      | _ => simp [Fits, value?, recipient?]

/-- Behind entries that are taken another one is taken just if it fits, and it is one more of
them. -/
theorem enter_ofEntries (taken : Taken limit number standard entries) :
    (AccountDraft.ofEntries number standard entries).enter limit number e = some draft ↔
      Fits limit number standard entries e ∧
        draft = .ofEntries number standard (entries ++ [e]) := by
  cases e with
  | value k v =>
      cases k with
      | inPort =>
          cases read : Tls.number? Tls.inMarks v <;>
            simp [AccountDraft.ofEntries, AccountDraft.enter, Fits, Account.set,
              Account.toOption_setInPort, read, Account.ofEntries, lastNumber?, lastMark?, value?,
              recipient?, @eq_comm _ draft]
      | outPort =>
          cases read : Tls.number? Tls.outMarks v <;>
            simp [AccountDraft.ofEntries, AccountDraft.enter, Fits, Account.set,
              Account.toOption_setOutPort, read, Account.ofEntries, lastNumber?, lastMark?, value?,
              recipient?, @eq_comm _ draft]
      | recipient kind =>
          rcases Nat.lt_or_ge (recipients entries).length limit with room | full
          · simp [AccountDraft.ofEntries, AccountDraft.enter, Fits, Account.set,
              Account.addRecipient, room, Nat.not_le.2 room, Account.ofEntries, value?, recipient?,
              Except.toOption, @eq_comm _ draft]
          · simp [AccountDraft.ofEntries, AccountDraft.enter, Fits, Account.set,
              Account.addRecipient, full, Nat.not_lt.2 full, Account.ofEntries, Except.toOption]
      | _ =>
          simp [AccountDraft.ofEntries, AccountDraft.enter, Fits, Account.set, Account.ofEntries,
            value?, recipient?, Except.toOption, @eq_comm _ draft]
  | flag flag =>
      cases flag with
      | standard =>
          by_cases asked : .flag .standard ∈ entries
          · simp [AccountDraft.ofEntries, AccountDraft.enter, Fits, Account.ofEntries, value?,
              recipient?, asked, taken.alone asked, @eq_comm _ draft]
          · by_cases alone : standard = 0 ∨ standard = number <;>
              simp [AccountDraft.ofEntries, AccountDraft.enter, Fits, Account.ofEntries, value?,
                recipient?, asked, alone, @eq_comm _ draft]
      | _ =>
          simp [AccountDraft.ofEntries, AccountDraft.enter, Fits, Account.ofEntries, value?,
            recipient?, AccountFlag.raise, @eq_comm _ draft]

/-- Entries are taken one after the other just if all of them can be, and they lead to the draft
that they make. -/
theorem foldlM_enter :
    entries.foldlM (AccountDraft.enter limit number) ⟨{}, standard⟩ = some draft ↔
      Taken limit number standard entries ∧ draft = .ofEntries number standard entries := by
  induction entries using List.reverseRecOn generalizing draft with
  | nil =>
      have taken : Taken limit number standard [] := by simp [taken_iff, values, recipients]
      have start : AccountDraft.ofEntries number standard [] = ⟨{}, standard⟩ := rfl
      simp [taken, start, eq_comm]
  | append_singleton entries e ih =>
      have single (draft : AccountDraft) :
          [e].foldlM (AccountDraft.enter limit number) draft = draft.enter limit number e := by
        simp
      rw [List.foldlM_append, taken_append_singleton]
      constructor
      · intro entered
        obtain ⟨draft', before, last⟩ := Option.bind_eq_some_iff.1 entered
        obtain ⟨taken, rfl⟩ := ih.1 before
        rw [single, enter_ofEntries taken] at last
        exact ⟨⟨taken, last.1⟩, last.2⟩
      · rintro ⟨⟨taken, fits⟩, made⟩
        refine Option.bind_eq_some_iff.2 ⟨_, ih.2 ⟨taken, rfl⟩, ?_⟩
        rw [single, enter_ofEntries taken]
        exact ⟨fits, made⟩

/-! ## Other entries that say the same -/

/-- Entries that say the same as others, up to values that are replaced later on. -/
structure Restates (entries entries' : List AccountEntry) : Prop where
  subset : ∀ k, k.isSingle → values entries' k ⊆ values entries k
  last : ∀ k, k.isSingle → (values entries' k).getLast? = (values entries k).getLast?
  recipients : recipients entries' = recipients entries
  flags : ∀ f, .flag f ∈ entries' ↔ .flag f ∈ entries

namespace Restates

variable {entries' : List AccountEntry} (restates : Restates entries entries')
include restates

/-- They make the same account, up to the encryption of its ports. -/
theorem ofEntries_eq : Account.ofEntries entries' =
    { Account.ofEntries entries with
      inTls := (lastMark? Tls.inMarks (values entries' .inPort)).getD .none
      outTls := (lastMark? Tls.outMarks (values entries' .outPort)).getD .none } := by
  simp only [Account.ofEntries, lastNumber?, restates.last .inServer rfl,
    restates.last .outServer rfl, restates.last .login rfl, restates.last .password rfl,
    restates.last .sender rfl, restates.last .reply rfl, restates.last .inPort rfl,
    restates.last .outPort rfl, restates.recipients, restates.flags]

/-- They make the same account if no value is replaced. -/
theorem ofEntries_of_values (same : ∀ k, k.isSingle → values entries' k = values entries k) :
    Account.ofEntries entries' = Account.ofEntries entries := by
  rw [restates.ofEntries_eq, same .inPort rfl, same .outPort rfl]
  rfl

theorem missing?_eq :
    (Account.ofEntries entries').missing? = (Account.ofEntries entries).missing? := by
  rw [restates.ofEntries_eq]
  rfl

theorem taken (taken : Taken limit number standard entries) :
    Taken limit number standard entries' where
  inPorts v among := taken.inPorts v (restates.subset _ rfl among)
  outPorts v among := taken.outPorts v (restates.subset _ rfl among)
  room := by rw [restates.recipients]; exact taken.room
  alone asked := taken.alone ((restates.flags _).1 asked)

end Restates

/-- In another order entries say the same, if each keyword has at most one value and the recipients
are in the same order. -/
theorem values_of_perm {entries' : List AccountEntry} (reordered : entries'.Perm entries)
    (once : (values entries k).length ≤ 1) : values entries' k = values entries k := by
  have among : (values entries' k).Perm (values entries k) := reordered.filterMap _
  cases given : values entries k with
  | nil => exact List.perm_nil.1 (given ▸ among)
  | cons v more =>
      rw [given, List.length_cons] at once
      rw [List.eq_nil_of_length_eq_zero (Nat.le_zero.1 (Nat.le_of_succ_le_succ once))] at given ⊢
      exact List.perm_singleton.1 (given ▸ among)

theorem restates_of_perm {entries' : List AccountEntry} (reordered : entries'.Perm entries)
    (once : ∀ k, k.isSingle → (values entries k).length ≤ 1)
    (recipients : recipients entries' = recipients entries) : Restates entries entries' where
  subset k single := by rw [values_of_perm reordered (once k single)]; exact List.Subset.refl _
  last k single := by rw [values_of_perm reordered (once k single)]
  recipients := recipients
  flags _ := reordered.mem_iff

end AccountEntry

end Ebrc
