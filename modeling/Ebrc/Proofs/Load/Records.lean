import Ebrc.Proofs.Load.Reading

/-!
# The records of a load

A record that is being filled keeps some bounds from line to line, in whatever order its lines come.
When its block is closed nothing is missing, and together with the bounds this makes the record
valid.
-/

namespace Ebrc

/-- A value is given. -/
def Given (v : Option Text) : Prop := ∃ t, v = some t ∧ t ≠ []

theorem given_of_not_missing {v : Option Text} (there : ¬isMissing v) : Given v := by
  cases v with
  | none => exact absurd rfl there
  | some t =>
      cases t with
      | nil => exact absurd rfl there
      | cons c rest => exact ⟨c :: rest, rfl, List.cons_ne_nil c rest⟩

variable {limits : Limits} {v : Text}

/-! ## Accounts -/

namespace Account

/-- An account that can be used. -/
structure Valid (limits : Limits) (a : Account) : Prop where
  inServer : Given a.inServer
  outServer : Given a.outServer
  login : Given a.login
  password : Given a.password
  sender : Given a.sender
  reply : Given a.reply
  recipients : a.recipients.length ≤ limits.recipients
  inPort : a.inPort ≠ 0
  outPort : a.outPort ≠ 0
  imap : a.imap → a.noFetch
  secure : a.secure → a.inTls = .implicit ∧ a.outTls = .implicit

/-- What holds of an account while its block is open. -/
structure Filling (limits : Limits) (a : Account) : Prop where
  recipients : a.recipients.length ≤ limits.recipients
  imap : a.imap → a.noFetch

variable {a a' : Account}

theorem filling_empty (limits : Limits) : Filling limits {} where
  recipients := Nat.zero_le limits.recipients
  imap impossible := by contradiction

theorem Filling.set {k : AccountKeyword} (filling : a.Filling limits)
    (set : a.set limits.recipients k v = .ok a') : a'.Filling limits := by
  cases k with
  | inPort =>
      obtain ⟨port, -, set⟩ := exists_of_bind_eq_ok set
      cases set
      exact ⟨filling.recipients, filling.imap⟩
  | outPort =>
      obtain ⟨port, -, set⟩ := exists_of_bind_eq_ok set
      cases set
      exact ⟨filling.recipients, filling.imap⟩
  | recipient kind =>
      simp only [Account.set, addRecipient] at set
      split at set
      · contradiction
      · rename_i room
        cases set
        refine ⟨?_, filling.imap⟩
        rw [List.length_append, List.length_singleton]
        exact Nat.lt_of_not_le room
  | _ =>
      cases set
      exact ⟨filling.recipients, filling.imap⟩

theorem Filling.raise (flag : AccountFlag) (filling : a.Filling limits) :
    (flag.raise a).Filling limits := by
  cases flag with
  | standard => exact filling
  | noFetch => exact ⟨filling.recipients, fun _ => rfl⟩
  | secure => exact ⟨filling.recipients, filling.imap⟩
  | imap => exact ⟨filling.recipients, fun _ => rfl⟩

theorem standardInPort_ne_zero (secure imap : Bool) : standardInPort secure imap ≠ 0 := by
  cases secure <;> cases imap <;> decide

theorem standardOutPort_ne_zero (secure : Bool) : standardOutPort secure ≠ 0 := by
  cases secure <;> decide

/-- A given port stays, and one that is not given follows from the flags. -/
theorem port_ne_zero {port standard : Int} (known : standard ≠ 0) :
    (if port = 0 then standard else port) ≠ 0 := by
  by_cases given : port = 0
  · rw [if_pos given]
    exact known
  · rw [if_neg given]
    exact given

/-- An account whose block is closed is valid. -/
theorem Filling.valid (filling : a.Filling limits) (complete : a.missing? = none) :
    a.withDefaults.Valid limits := by
  simp only [missing?] at complete
  repeat' split at complete
  all_goals try contradiction
  rename_i inServer outServer login password sender reply
  constructor
  · exact given_of_not_missing inServer
  · exact given_of_not_missing outServer
  · exact given_of_not_missing login
  · exact given_of_not_missing password
  · exact given_of_not_missing sender
  · exact given_of_not_missing reply
  · exact filling.recipients
  · exact port_ne_zero (standardInPort_ne_zero a.secure a.imap)
  · exact port_ne_zero (standardOutPort_ne_zero a.secure)
  · exact filling.imap
  · intro secure
    have encrypted : a.secure = true := secure
    simp only [withDefaults, encrypted, if_true, and_self]

end Account

/-! ## Plugins -/

namespace Plugin

/-- A plugin that can be used. -/
structure Valid (q : Plugin) : Prop where
  type : Given q.type
  description : Given q.description
  handles : Given q.suffix ∨ Given q.protocol ∨ Given q.content
  program : Given q.program

theorem valid_of_complete {q : Plugin} (complete : q.missing? = none) : q.Valid := by
  simp only [missing?] at complete
  repeat' split at complete
  all_goals try contradiction
  rename_i type description handles program
  refine ⟨given_of_not_missing type, given_of_not_missing description, ?_,
    given_of_not_missing program⟩
  by_cases suffix : isMissing q.suffix
  · by_cases protocol : isMissing q.protocol
    · refine .inr (.inr (given_of_not_missing fun content => handles ?_))
      rw [suffix, protocol, content]
      rfl
    · exact .inr (.inl (given_of_not_missing protocol))
  · exact .inl (given_of_not_missing suffix)

end Plugin

/-! ## Tables -/

namespace Table

/-- What holds of a table while its block is open. -/
structure Filling (limits : Limits) (t : Table) : Prop where
  columns : t.columns.length ≤ limits.columns
  key1 : t.key1 ≤ t.columns.length
  key2 : t.key2 ≤ t.columns.length

/-- A table that can be used. -/
structure Valid (limits : Limits) (t : Table) : Prop extends Filling limits t where
  name : Given t.name
  shortName : Given t.shortName
  width : 1 ≤ t.columns.length

variable {t t' : Table}

theorem filling_empty (limits : Limits) : Filling limits {} where
  columns := Nat.zero_le limits.columns
  key1 := Nat.le_refl 0
  key2 := Nat.le_refl 0

/-- Further columns leave the key columns where they are. -/
theorem Filling.addColumns (filling : t.Filling limits)
    (added : t.addColumns limits.columns v = .ok t') : t'.Filling limits := by
  unfold Table.addColumns at added
  dsimp only at added
  split at added
  · contradiction
  · rename_i room
    cases added
    have grown : t.columns.length ≤ (t.columns ++ Text.split ',' v).length := by
      rw [List.length_append]
      exact Nat.le_add_right _ _
    exact ⟨Nat.le_of_not_lt room, Nat.le_trans filling.key1 grown,
      Nat.le_trans filling.key2 grown⟩

/-- Key columns that are set are columns of the table, and nothing else is set with them. -/
theorem setKeyColumns_cases (set : t.setKeyColumns v = .ok t') :
    ∃ key1 key2, key1 ≤ t.columns.length ∧ key2 ≤ t.columns.length ∧
      t' = { t with key1, key2 } := by
  have checked {key1 key2 : Nat}
      (set : (if t.columns.length < key1 ∨ t.columns.length < key2 then
        .error (.fault (.keyColumnOutOfRange t.columns.length))
        else .ok { t with key1, key2 } : Except Refusal Table) = .ok t') :
      ∃ key1 key2, key1 ≤ t.columns.length ∧ key2 ≤ t.columns.length ∧
        t' = { t with key1, key2 } := by
    split at set
    · contradiction
    · rename_i within
      cases set
      rw [not_or] at within
      exact ⟨key1, key2, Nat.le_of_not_lt within.1, Nat.le_of_not_lt within.2, rfl⟩
  unfold Table.setKeyColumns at set
  dsimp only at set
  split at set
  · contradiction
  · obtain ⟨key1, -, set⟩ := exists_of_bind_eq_ok set
    -- A second number follows or does not, and what follows may be no number.
    split at set
    all_goals
      split at set
      · exact checked set
      · obtain ⟨key2, -, set⟩ := exists_of_bind_eq_ok set
        exact checked set

theorem Filling.setKeyColumns (filling : t.Filling limits)
    (set : t.setKeyColumns v = .ok t') : t'.Filling limits := by
  obtain ⟨key1, key2, first, second, rfl⟩ := setKeyColumns_cases set
  exact ⟨filling.columns, first, second⟩

theorem Filling.set {k : TableKeyword} (filling : t.Filling limits)
    (set : t.set limits.columns k v = .ok t') : t'.Filling limits := by
  cases k with
  | name | shortName =>
      cases set
      exact ⟨filling.columns, filling.key1, filling.key2⟩
  | columns => exact filling.addColumns set
  | keyColumns => exact filling.setKeyColumns set

/-- A table whose block is closed is valid. -/
theorem Filling.valid (filling : t.Filling limits) (complete : t.missing? = none) :
    t.Valid limits := by
  simp only [missing?] at complete
  repeat' split at complete
  all_goals try contradiction
  rename_i name shortName columns
  exact ⟨filling, given_of_not_missing name, given_of_not_missing shortName,
    List.length_pos_iff.2 columns⟩

end Table

end Ebrc
