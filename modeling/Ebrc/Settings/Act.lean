import Ebrc.Settings

/-!
# What is done with settings

Settings are assigned one by one. Snapshots may be taken of all of them, and put back later. A
block of such acts may preserve the settings around it: however it is left, they are put back at
its end. The first act inside a block that goes wrong ends the block, and every block around it.
-/

namespace Ebrc

/-- Something that is done with settings. -/
inductive SettingsAct where
  | assign (name : Text) (v : Value)
  | snapshot
  /-- Put back a snapshot, by its number among the snapshots taken, from zero. -/
  | restore (number : Nat)
  /-- A block of acts, which preserves the settings if that is enabled. -/
  | preserved (enabled : Bool) (body : List SettingsAct)

/-- How an act goes wrong. -/
inductive SettingsFault where
  | refused (complaint : FieldComplaint)
  | noSnapshot
  deriving Repr, DecidableEq

/-- Settings with the snapshots that have been taken of them, the oldest first. -/
structure SettingsStore where
  now : Settings := {}
  snapshots : List Settings := []
  deriving Repr, DecidableEq

namespace SettingsAct

mutual

/-- Perform an act. The store reached is told in either case. -/
def perform : SettingsAct → SettingsStore → SettingsStore × Option SettingsFault
  | assign name v, s =>
    match s.now.assign name v with
    | .ok now => ({ s with now }, none)
    | .error complaint => (s, some (.refused complaint))
  | snapshot, s => ({ s with snapshots := s.snapshots ++ [s.now] }, none)
  | restore number, s =>
    match s.snapshots[number]? with
    | some saved => ({ s with now := s.now.restore saved }, none)
    | none => (s, some .noSnapshot)
  | preserved enabled body, s =>
    let (now, snapshots, fault) := s.now |> Settings.preserving enabled fun now =>
      let (after, fault) := performBody body { s with now }
      (after.now, after.snapshots, fault)
    (⟨now, snapshots⟩, fault)

/-- Perform acts in turn, up to the first that goes wrong. -/
def performBody : List SettingsAct → SettingsStore → SettingsStore × Option SettingsFault
  | [], s => (s, none)
  | act :: rest, s =>
    match act.perform s with
    | (s, none) => performBody rest s
    | (s, some fault) => (s, some fault)

end

end SettingsAct

end Ebrc
