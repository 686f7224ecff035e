import Ebrc.Record.Basic

/-!
# Database tables

What a table block says about a table of a database, and where the database is.
-/

namespace Ebrc

/-- A table of a database. Key columns are counted from 1; 0 stands for none. -/
structure Table where
  name : Option Text := none
  shortName : Option Text := none
  columns : List Text := []
  key1 : Nat := 0
  key2 : Nat := 0
  deriving Repr, DecidableEq

/-- What a line of a table block may give a value to. -/
inductive TableKeyword where
  | name
  | shortName
  | columns
  | keyColumns
  deriving Repr, DecidableEq

namespace Table

/-- The first mandatory keyword that has no value. -/
def missing? (t : Table) : Option String :=
  if isMissing t.name then some "tname"
  else if isMissing t.shortName then some "tshort"
  else if t.columns = [] then some "cols"
  else none

/-- Add columns, separated by commas. -/
def addColumns (limit : Nat) (v : Text) (t : Table) : Except Refusal Table :=
  let columns := t.columns ++ Text.split ',' v
  if limit < columns.length then .error (.fault (.tooManyColumns limit))
  else .ok { t with columns }

/-- A run of digits as the number of a column. -/
def columnNumber (digits : Text) : Except Refusal Nat :=
  match Text.readDigits? digits with
  | some n => .ok n
  | none => .error (.crash .badNumber)

/-- Set the key columns: a number, and a second one after a comma. Both must be columns that
are already there. -/
def setKeyColumns (v : Text) (t : Table) : Except Refusal Table :=
  let first := v.takeWhile Text.isDecimal
  let second := match v.dropWhile Text.isDecimal with
    | ',' :: rest => rest.takeWhile Text.isDecimal
    | _ => []
  if first = [] then .error (.fault .keyColumnNotNumber)
  else do
    let key1 ← columnNumber first
    let key2 ← if second = [] then .ok t.key2 else columnNumber second
    if t.columns.length < key1 ∨ t.columns.length < key2 then
      .error (.fault (.keyColumnOutOfRange t.columns.length))
    else .ok { t with key1, key2 }

/-- Give a keyword its value. -/
def set (columnLimit : Nat) (keyword : TableKeyword) (v : Text) (t : Table) :
    Except Refusal Table :=
  match keyword with
  | .name => .ok { t with name := some v }
  | .shortName => .ok { t with shortName := some v }
  | .columns => t.addColumns columnLimit v
  | .keyColumns => t.setKeyColumns v

end Table

/-- Where a database is, and who uses it. -/
structure DataSource where
  area : Option Text := none
  login : Option Text := none
  password : Option Text := none
  deriving Repr, DecidableEq

/-- Read `area,login,password`, of which the last one or two may be left out; the password may
hold commas. -/
def DataSource.ofText (t : Text) : DataSource :=
  if t = [] then {}
  else
    match Text.cut ',' t with
    | (area, none) => ⟨some area, none, none⟩
    | (area, some rest) =>
      match Text.cut ',' rest with
      | (login, none) => ⟨some area, some login, none⟩
      | (login, some password) => ⟨some area, some login, some password⟩

end Ebrc
