import Ebrc.Settings
import Ebrc.Proofs.Load.Reading
import Mathlib.Tactic.FinCases

/-!
# The bounds of settings

Settings are written in two ways: assigned, which is checked, or put back, which is not. Both write
a value within the bounds of one setting, the second if the settings saved before lie within their
bounds themselves. All that is needed of the table of settings is that writing such a value leaves
all settings valid.
-/

namespace Ebrc

namespace SettingSlot

variable {s s' saved : Settings} {slot : SettingSlot}

/-- Among these settings, the one of the slot lies within its bounds. -/
def Within (s : Settings) : SettingSlot → Prop
  | switch _ _ => True
  | number least greatest get _ => least ≤ get s ∧ ∀ g ∈ greatest, get s ≤ g
  | text longest get _ => (get s).length ≤ longest
  | optionalText _ _ => True

/-- A value within the bounds of a setting is written to it. -/
inductive Writes (s : Settings) : SettingSlot → Settings → Prop where
  | switch {get : Settings → Bool} {set : Settings → Bool → Settings} (b : Bool) :
      Writes s (.switch get set) (set s b)
  | number {least : Int} {greatest : Option Int} {get : Settings → Int}
      {set : Settings → Int → Settings} {n : Int} (enough : least ≤ n)
      (within : ∀ g ∈ greatest, n ≤ g) : Writes s (.number least greatest get set) (set s n)
  | text {longest : Nat} {get : Settings → Text} {set : Settings → Text → Settings} {t : Text}
      (within : t.length ≤ longest) : Writes s (.text longest get set) (set s t)
  | optionalText {get : Settings → Option Text} {set : Settings → Option Text → Settings}
      (t : Option Text) : Writes s (.optionalText get set) (set s t)

theorem writes_of_assign {v : Value} (taken : slot.assign v s = .ok s') : Writes s slot s' := by
  cases slot with
  | switch get set =>
      obtain ⟨b, -, rfl⟩ := exists_of_map_eq_ok taken
      exact .switch b
  | number least greatest get set =>
      obtain ⟨n, read, rfl⟩ := exists_of_map_eq_ok taken
      obtain ⟨enough, within⟩ := Value.toIntegerWithin_bounds read
      exact .number enough within
  | text longest get set =>
      obtain ⟨t, read, rfl⟩ := exists_of_map_eq_ok taken
      exact .text (Value.toTextWithin_length read)
  | optionalText get set =>
      obtain ⟨t, -, rfl⟩ := exists_of_map_eq_ok taken
      exact .optionalText t

theorem writes_putBack (within : slot.Within saved) : Writes s slot (slot.putBack saved s) := by
  cases slot with
  | switch get set => exact .switch _
  | number least greatest get set => exact .number within.1 within.2
  | text longest get set => exact .text within
  | optionalText get set => exact .optionalText _

end SettingSlot

namespace Settings

variable {s s' saved : Settings} {entry : String × SettingSlot}

theorem Valid.within (valid : s.Valid) (mem : entry ∈ slots) : entry.2.Within s := by
  fin_cases mem
  all_goals try exact trivial
  · exact ⟨valid.dirWrite.1, fun _ top => Option.some.inj top ▸ valid.dirWrite.2⟩
  · exact ⟨valid.lsSort, nofun⟩
  · exact valid.lsFormat
  · exact valid.showProgress
  · exact ⟨valid.agentIndex, nofun⟩
  · exact ⟨valid.debugLevel.1, fun _ top => Option.some.inj top ▸ valid.debugLevel.2⟩
  · exact ⟨valid.timerSpeed, nofun⟩

/-- Most settings have no bounds. Of the others, each is written to by one of the last seven
cases. -/
theorem Valid.of_writes (valid : s.Valid) (mem : entry ∈ slots)
    (writes : entry.2.Writes s s') : s'.Valid := by
  fin_cases mem
  all_goals try (cases writes; exact { valid with })
  · cases writes with
    | number enough within => exact { valid with dirWrite := ⟨enough, within 2 rfl⟩ }
  · cases writes with
    | number enough within => exact { valid with lsSort := enough }
  · cases writes with
    | text within => exact { valid with lsFormat := within }
  · cases writes with
    | text within => exact { valid with showProgress := within }
  · cases writes with
    | number enough within => exact { valid with agentIndex := enough }
  · cases writes with
    | number enough within => exact { valid with debugLevel := ⟨enough, within 9 rfl⟩ }
  · cases writes with
    | number enough within => exact { valid with timerSpeed := enough }

/-- An assignment that is taken leaves all settings within their bounds. -/
theorem Valid.assign {name : Text} {v : Value} (valid : s.Valid)
    (taken : s.assign name v = .ok s') : s'.Valid := by
  unfold Settings.assign at taken
  split at taken
  · split at taken
    · contradiction
    · split at taken
      · contradiction
      · split at taken
        · cases taken
          exact valid
        · contradiction
  · rename_i slot found
    split at taken
    · rename_i written
      cases taken
      obtain ⟨before, after, entries, -⟩ := List.lookup_eq_some_iff.1 found
      have mem : (String.ofList name, slot) ∈ slots := by simp [entries]
      exact valid.of_writes mem (SettingSlot.writes_of_assign written)
    · contradiction

/-- Putting back some of the settings leaves all of them within their bounds, as long as those
saved before lie within theirs. -/
theorem Valid.putBack (valid : s.Valid) (savedValid : saved.Valid)
    (entries : List (String × SettingSlot)) (among : entries ⊆ slots) :
    (entries.foldl (fun s (_, slot) => slot.putBack saved s) s).Valid := by
  induction entries generalizing s with
  | nil => exact valid
  | cons entry rest ih =>
      obtain ⟨mem, among⟩ := List.cons_subset.1 among
      have writes := SettingSlot.writes_putBack (s := s) (savedValid.within mem)
      exact ih (valid.of_writes mem writes) among

theorem Valid.restore (valid : s.Valid) (savedValid : saved.Valid) : (s.restore saved).Valid :=
  valid.putBack savedValid slots (List.Subset.refl slots)

/-- There is a slot for every setting, so nothing is left of the settings before. -/
@[simp] theorem restore_eq (s saved : Settings) : s.restore saved = saved := by
  simp only [restore, slots, List.foldl_cons, List.foldl_nil, SettingSlot.putBack]

end Settings

end Ebrc
