import Ebrc.Document.Check

/-!
# Limits

Bounds on what an rc file may define, and on what the functions it defines may do. Each has a
least value, and some a greatest one.
-/

namespace Ebrc

/-- Bounds on the records, blocks and includes of an rc file. -/
structure Limits where
  accounts : Nat := 100
  plugins : Nat := 40
  tables : Nat := 100
  columns : Nat := 20
  recipients : Nat := 10
  agents : Nat := 10
  /-- From this number of open blocks on, the function counted, no further one opens. -/
  nesting : Nat := 20
  includeDepth : Nat := 16
  functionName : Nat := 10
  deriving Repr, DecidableEq

/-- Bounds on a running function. -/
structure Safety where
  callDepth : Nat := 64
  /-- How often the blocks of one function that test at their end may repeat; 0 for any number
  of times. -/
  repetitions : Nat := 100000
  deriving Repr, DecidableEq

namespace Limits

/-- The bounds that the limits themselves keep. -/
structure Valid (l : Limits) : Prop where
  accounts : 1 ≤ l.accounts
  plugins : 1 ≤ l.plugins
  tables : 1 ≤ l.tables
  columns : 1 ≤ l.columns
  recipients : 1 ≤ l.recipients
  agents : 1 ≤ l.agents
  nesting : 2 ≤ l.nesting ∧ l.nesting ≤ 200
  includeDepth : 1 ≤ l.includeDepth ∧ l.includeDepth ≤ 256
  functionName : 1 ≤ l.functionName

theorem valid_default : Valid {} := by constructor <;> decide

end Limits

/-- A natural number within bounds. -/
def Value.toNaturalWithin (least : Nat) (greatest : Option Nat) (v : Value) :
    Except Complaint Nat :=
  (v.toIntegerWithin least (greatest.map fun n => (n : Int))).map Int.toNat

/-- The limits that the members of an object set. -/
def Limits.ofMembers (members : List (Text × Value)) : Except (List FieldComplaint) Limits :=
  let standard : Limits := {}
  let accounts := Value.field members "max_accounts" standard.accounts (·.toNaturalWithin 1 none)
  let plugins := Value.field members "max_mime" standard.plugins (·.toNaturalWithin 1 none)
  let tables := Value.field members "max_tables" standard.tables (·.toNaturalWithin 1 none)
  let columns := Value.field members "max_columns" standard.columns (·.toNaturalWithin 1 none)
  let recipients :=
    Value.field members "max_recipients" standard.recipients (·.toNaturalWithin 1 none)
  let agents := Value.field members "max_agents" standard.agents (·.toNaturalWithin 1 none)
  let nesting := Value.field members "max_nest" standard.nesting (·.toNaturalWithin 2 (some 200))
  let includeDepth :=
    Value.field members "max_include_depth" standard.includeDepth (·.toNaturalWithin 1 (some 256))
  let functionName :=
    Value.field members "max_function_name" standard.functionName (·.toNaturalWithin 1 none)
  match accounts.complaints ++ plugins.complaints ++ tables.complaints ++ columns.complaints ++
      recipients.complaints ++ agents.complaints ++ nesting.complaints ++
      includeDepth.complaints ++ functionName.complaints with
  | [] => .ok ⟨accounts.value, plugins.value, tables.value, columns.value, recipients.value,
      agents.value, nesting.value, includeDepth.value, functionName.value⟩
  | complaints => .error complaints

/-- What holds of the default and of everything that is read holds of a field. -/
theorem Value.field_value {α : Type} (Holds : α → Prop) {members : List (Text × Value)}
    {name : String} {default : α} {read : Value → Except Complaint α} (standard : Holds default)
    (reads : ∀ v a, read v = .ok a → Holds a) :
    Holds (Value.field members name default read).value := by
  unfold Value.field
  split
  · exact standard
  · rename_i v _
    split
    · rename_i a taken
      exact reads v a taken
    · exact standard

theorem Value.toNaturalWithin_bounds {least n : Nat} {greatest : Option Nat} {v : Value}
    (read : v.toNaturalWithin least greatest = .ok n) :
    least ≤ n ∧ ∀ g ∈ greatest, n ≤ g := by
  unfold Value.toNaturalWithin at read
  cases integer : v.toIntegerWithin least (greatest.map fun n => (n : Int)) with
  | error complaint =>
      rw [integer] at read
      contradiction
  | ok i =>
      rw [integer] at read
      cases read
      obtain ⟨enough, within⟩ := Value.toIntegerWithin_bounds integer
      constructor
      · omega
      · rintro g bound
        have := within g (by rw [bound]; rfl)
        omega

/-- Limits that are read keep the bounds that limits keep. -/
theorem Limits.valid_ofMembers {members : List (Text × Value)} {l : Limits}
    (read : Limits.ofMembers members = .ok l) : l.Valid := by
  have least {name : String} {default : Nat} (standard : 1 ≤ default) :
      1 ≤ (Value.field members name default (·.toNaturalWithin 1 none)).value :=
    Value.field_value (1 ≤ ·) standard
      fun _ _ taken => (Value.toNaturalWithin_bounds taken).1
  have bounds {name : String} {default : Nat} {least greatest : Nat}
      (standard : least ≤ default ∧ default ≤ greatest) :
      least ≤ (Value.field members name default
          (·.toNaturalWithin least (some greatest))).value ∧
        (Value.field members name default
          (·.toNaturalWithin least (some greatest))).value ≤ greatest := by
    refine Value.field_value (fun n => least ≤ n ∧ n ≤ greatest) standard ?_
    intro v n taken
    obtain ⟨enough, within⟩ := Value.toNaturalWithin_bounds taken
    exact ⟨enough, within greatest rfl⟩
  unfold Limits.ofMembers at read
  dsimp only at read
  split at read
  · cases read
    constructor
    · exact least (by decide)
    · exact least (by decide)
    · exact least (by decide)
    · exact least (by decide)
    · exact least (by decide)
    · exact least (by decide)
    · exact bounds (by decide)
    · exact bounds (by decide)
    · exact least (by decide)
  · contradiction

/-- The bounds on functions that the members of an object set. -/
def Safety.ofMembers (members : List (Text × Value)) : Except (List FieldComplaint) Safety :=
  let standard : Safety := {}
  let callDepth :=
    Value.field members "max_call_depth" standard.callDepth (·.toNaturalWithin 1 none)
  let repetitions :=
    Value.field members "max_loop_iterations" standard.repetitions (·.toNaturalWithin 0 none)
  match callDepth.complaints ++ repetitions.complaints with
  | [] => .ok ⟨callDepth.value, repetitions.value⟩
  | complaints => .error complaints

end Ebrc
