import Ebrc.Settings.Act
import Ebrc.Proofs.Settings.Bounds

/-!
# What can be relied on when settings change

Acts are performed one after the other, some of them inside of blocks, and some go wrong. Written
down one by one, each with the store it found, they make a chronicle of every store that is reached.
Each act keeps settings and snapshots within their bounds, and adds to the snapshots at most. So a
number means the same snapshot for good, and putting a snapshot back is as safe as the assignments
before it were.
-/

namespace Ebrc

/-- Settings and snapshots lie within the bounds. -/
structure SettingsStore.Valid (s : SettingsStore) : Prop where
  now : s.now.Valid
  snapshots : ∀ saved ∈ s.snapshots, saved.Valid

/-- An act that has been performed, and the store it found. -/
structure SettingsDeed where
  act : SettingsAct
  before : SettingsStore

namespace SettingsDeed

/-- The store that the act left. -/
def after (deed : SettingsDeed) : SettingsStore := (deed.act.perform deed.before).1

/-- How the act went wrong, if it did. -/
def fault (deed : SettingsDeed) : Option SettingsFault := (deed.act.perform deed.before).2

/-- The settings of which a snapshot was taken. -/
def taken? : SettingsDeed → Option Settings
  | ⟨.snapshot, s⟩ => some s.now
  | _ => none

/-- The settings of which snapshots were taken, in their order. -/
def taken (deeds : List SettingsDeed) : List Settings := deeds.filterMap taken?

end SettingsDeed

namespace SettingsAct

open SettingsDeed

variable {s s' : SettingsStore} {deed : SettingsDeed} {ds ds' : List SettingsDeed}

/-! ## One act -/

/-- A block leaves the snapshots taken inside of it, whatever becomes of the settings. -/
theorem perform_preserved (enabled : Bool) (body : List SettingsAct) (s : SettingsStore) :
    (preserved enabled body).perform s =
      ({ (performBody body s).1 with
          now := if enabled then s.now else (performBody body s).1.now },
        (performBody body s).2) := by
  simp [perform, Settings.preserving]

theorem perform_assign_of_fault {name : Text} {v : Value}
    (refused : ((assign name v).perform s).2 ≠ none) : ((assign name v).perform s).1 = s := by
  unfold perform at refused ⊢
  split
  · rename_i taken
    simp [taken] at refused
  · rfl

theorem perform_restore {number : Nat} {saved : Settings}
    (found : s.snapshots[number]? = some saved) :
    (restore number).perform s = ({ s with now := saved }, none) := by
  simp [perform, found]

theorem performBody_cons_of_ok {act : SettingsAct} {rest : List SettingsAct}
    (performed : act.perform s = (s', none)) :
    performBody (act :: rest) s = performBody rest s' := by
  rw [performBody, performed]

theorem performBody_cons_of_fault {act : SettingsAct} {rest : List SettingsAct}
    {fault : SettingsFault} (performed : act.perform s = (s', some fault)) :
    performBody (act :: rest) s = (s', some fault) := by
  rw [performBody, performed]

mutual

theorem valid_perform (act : SettingsAct) {s : SettingsStore} (valid : s.Valid) :
    (act.perform s).1.Valid := by
  cases act with
  | assign name v =>
      unfold perform
      split
      · rename_i taken
        exact { valid with now := valid.now.assign taken }
      · exact valid
  | snapshot =>
      refine ⟨valid.now, ?_⟩
      intro saved mem
      rcases List.mem_append.1 mem with old | new
      · exact valid.snapshots saved old
      · exact List.mem_singleton.1 new ▸ valid.now
  | restore number =>
      unfold perform
      split
      · rename_i saved found
        have mem := List.mem_of_getElem? found
        exact { valid with now := valid.now.restore (valid.snapshots saved mem) }
      · exact valid
  | preserved enabled body =>
      have after := valid_performBody body valid
      rw [perform_preserved]
      cases enabled with
      | true => exact { after with now := valid.now }
      | false => exact after

theorem valid_performBody (body : List SettingsAct) {s : SettingsStore} (valid : s.Valid) :
    (performBody body s).1.Valid := by
  cases body with
  | nil => exact valid
  | cons act rest =>
      have after := valid_perform act valid
      rcases performed : act.perform s with ⟨s', none | fault⟩ <;> rw [performed] at after
      · rw [performBody_cons_of_ok performed]
        exact valid_performBody rest after
      · rw [performBody_cons_of_fault performed]
        exact after

end

/-! ## Blocks -/

/-- The first acts of a block are performed by themselves, as long as nothing goes wrong. -/
theorem performBody_append {made : List SettingsAct} (fine : performBody made s = (s', none))
    (rest : List SettingsAct) : performBody (made ++ rest) s = performBody rest s' := by
  induction made generalizing s with
  | nil =>
      cases fine
      rfl
  | cons act made ih =>
      rcases performed : act.perform s with ⟨s₁, none | fault⟩
      · rw [performBody_cons_of_ok performed] at fine
        rw [List.cons_append, performBody_cons_of_ok performed, ih fine]
      · rw [performBody_cons_of_fault performed] at fine
        cases fine

/-- A block is left at the first act that goes wrong. -/
theorem perform_preserved_of_fault {made rest : List SettingsAct} {act : SettingsAct}
    {s₁ : SettingsStore} {fault : SettingsFault} {enabled : Bool}
    (fine : performBody made s = (s₁, none)) (wrong : act.perform s₁ = (s', some fault)) :
    (preserved enabled (made ++ act :: rest)).perform s =
      ({ s' with now := if enabled then s.now else s'.now }, some fault) := by
  rw [perform_preserved, performBody_append fine, performBody_cons_of_fault wrong]

/-- A block that holds assignments only is left where assigning the values in turn ends. -/
theorem performBody_assign (changes : List (Text × Value)) (s : SettingsStore) :
    performBody (changes.map fun (name, v) => assign name v) s =
      ({ s with now := (s.now.assignAll changes).1 },
        (s.now.assignAll changes).2.map SettingsFault.refused) := by
  induction changes generalizing s with
  | nil => rfl
  | cons change rest ih =>
      obtain ⟨name, v⟩ := change
      simp only [List.map_cons, performBody, perform, Settings.assignAll]
      cases s.now.assign name v with
      | ok now => exact ih { s with now }
      | error complaint => rfl

/-! ## Everything that is done -/

mutual

/-- Everything that is done when an act is performed. What is done inside of a block comes before
the block itself, which is only through when it is left. -/
def deeds : SettingsAct → SettingsStore → List SettingsDeed
  | preserved enabled body, s => bodyDeeds body s ++ [⟨preserved enabled body, s⟩]
  | act, s => [⟨act, s⟩]

/-- Everything that is done inside of a block. -/
def bodyDeeds : List SettingsAct → SettingsStore → List SettingsDeed
  | [], _ => []
  | act :: rest, s =>
    act.deeds s ++
      match act.perform s with
      | (s, none) => bodyDeeds rest s
      | (_, some _) => []

end

/-- Everything that is done when acts are performed one after the other, whether or not they go
wrong. -/
def allDeeds : List SettingsAct → SettingsStore → List SettingsDeed
  | [], _ => []
  | act :: rest, s => act.deeds s ++ allDeeds rest (act.perform s).1

theorem bodyDeeds_cons_of_ok {act : SettingsAct} {rest : List SettingsAct}
    (performed : act.perform s = (s', none)) :
    bodyDeeds (act :: rest) s = act.deeds s ++ bodyDeeds rest s' := by
  rw [bodyDeeds, performed]

theorem bodyDeeds_cons_of_fault {act : SettingsAct} {rest : List SettingsAct}
    {fault : SettingsFault} (performed : act.perform s = (s', some fault)) :
    bodyDeeds (act :: rest) s = act.deeds s := by
  rw [bodyDeeds, performed, List.append_nil]

mutual

theorem valid_deeds (act : SettingsAct) {s : SettingsStore} (valid : s.Valid) :
    ∀ deed ∈ act.deeds s, deed.before.Valid := by
  cases act with
  | preserved enabled body =>
      intro deed mem
      rw [deeds] at mem
      rcases List.mem_append.1 mem with inside | block
      · exact valid_bodyDeeds body valid deed inside
      · exact List.mem_singleton.1 block ▸ valid
  | _ =>
      intro deed mem
      rw [deeds] at mem
      · exact List.mem_singleton.1 mem ▸ valid
      · exact nofun

theorem valid_bodyDeeds (body : List SettingsAct) {s : SettingsStore} (valid : s.Valid) :
    ∀ deed ∈ bodyDeeds body s, deed.before.Valid := by
  cases body with
  | nil => simp [bodyDeeds]
  | cons act rest =>
      intro deed mem
      have after := valid_perform act valid
      rcases performed : act.perform s with ⟨s', none | fault⟩ <;> rw [performed] at after
      · rw [bodyDeeds_cons_of_ok performed] at mem
        rcases List.mem_append.1 mem with first | later
        · exact valid_deeds act valid deed first
        · exact valid_bodyDeeds rest after deed later
      · rw [bodyDeeds_cons_of_fault performed] at mem
        exact valid_deeds act valid deed mem

end

theorem valid_allDeeds (acts : List SettingsAct) (valid : s.Valid) :
    ∀ deed ∈ allDeeds acts s, deed.before.Valid := by
  induction acts generalizing s with
  | nil => simp [allDeeds]
  | cons act rest ih =>
      intro deed mem
      rw [allDeeds] at mem
      rcases List.mem_append.1 mem with first | later
      · exact valid_deeds act valid deed first
      · exact ih (valid_perform act valid) deed later

/-! ## The chronicle -/

/-- The store behind some deeds, which the last of them left. -/
def ending (s : SettingsStore) (ds : List SettingsDeed) : SettingsStore :=
  ds.foldl (fun _ deed => deed.after) s

@[simp] theorem ending_append : ending s (ds ++ ds') = ending (ending s ds) ds' :=
  List.foldl_append

theorem ending_deeds (act : SettingsAct) (s : SettingsStore) :
    ending s (act.deeds s) = (act.perform s).1 := by
  cases act with
  | preserved enabled body =>
      rw [deeds, ending_append]
      rfl
  | _ => rfl

theorem ending_bodyDeeds (body : List SettingsAct) (s : SettingsStore) :
    ending s (bodyDeeds body s) = (performBody body s).1 := by
  induction body generalizing s with
  | nil => simp [bodyDeeds, performBody, ending]
  | cons act rest ih =>
      have first := ending_deeds act s
      rcases performed : act.perform s with ⟨s', none | fault⟩ <;> rw [performed] at first
      · rw [bodyDeeds_cons_of_ok performed, performBody_cons_of_ok performed, ending_append, first,
          ih]
      · rw [bodyDeeds_cons_of_fault performed, performBody_cons_of_fault performed, first]

/-- Deeds follow each other from a store on. An act finds the store that the deed before it left. A
block comes behind what was done inside of it, and leaves the store from there. -/
inductive Chronicle : SettingsStore → List SettingsDeed → Prop where
  | nil {s : SettingsStore} : Chronicle s []
  | single {act : SettingsAct} {s : SettingsStore} {rest : List SettingsDeed}
      (alone : ∀ enabled body, act ≠ preserved enabled body)
      (later : Chronicle (act.perform s).1 rest) : Chronicle s (⟨act, s⟩ :: rest)
  | block {enabled : Bool} {body : List SettingsAct} {before : SettingsStore}
      {rest : List SettingsDeed}
      (later : Chronicle ((preserved enabled body).perform before).1 rest) :
      Chronicle (performBody body before).1 (⟨preserved enabled body, before⟩ :: rest)

theorem Chronicle.append (first : Chronicle s ds) (later : Chronicle (ending s ds) ds') :
    Chronicle s (ds ++ ds') := by
  induction first with
  | nil => exact later
  | single alone _ ih => exact .single alone (ih later)
  | block _ ih => exact .block (ih later)

mutual

theorem chronicle_deeds (act : SettingsAct) (s : SettingsStore) : Chronicle s (act.deeds s) := by
  cases act with
  | preserved enabled body =>
      refine (chronicle_bodyDeeds body s).append ?_
      rw [ending_bodyDeeds]
      exact .block .nil
  | _ => exact .single nofun .nil

theorem chronicle_bodyDeeds (body : List SettingsAct) (s : SettingsStore) :
    Chronicle s (bodyDeeds body s) := by
  cases body with
  | nil =>
      rw [bodyDeeds]
      exact .nil
  | cons act rest =>
      have first := chronicle_deeds act s
      rcases performed : act.perform s with ⟨s', none | fault⟩
      · rw [bodyDeeds_cons_of_ok performed]
        refine first.append ?_
        rw [ending_deeds, performed]
        exact chronicle_bodyDeeds rest s'
      · rw [bodyDeeds_cons_of_fault performed]
        exact first

end

theorem chronicle_allDeeds (acts : List SettingsAct) (s : SettingsStore) :
    Chronicle s (allDeeds acts s) := by
  induction acts generalizing s with
  | nil => exact .nil
  | cons act rest ih =>
      refine (chronicle_deeds act s).append ?_
      rw [ending_deeds]
      exact ih _

theorem Chronicle.tail (chronicle : Chronicle s (deed :: ds)) : Chronicle deed.after ds := by
  cases chronicle with
  | single _ later => exact later
  | block later => exact later

/-! ## Snapshots -/

theorem taken_cons (deed : SettingsDeed) (ds : List SettingsDeed) :
    taken (deed :: ds) = taken [deed] ++ taken ds :=
  List.filterMap_append (l := [deed])

/-- A deed leaves the snapshots there were, and the one taken by it. -/
theorem Chronicle.snapshots_after (chronicle : Chronicle s (deed :: ds)) :
    deed.after.snapshots = s.snapshots ++ taken [deed] := by
  cases chronicle with
  | block _ =>
      rw [SettingsDeed.after, perform_preserved]
      exact (List.append_nil _).symm
  | @single act _ _ alone _ =>
      unfold SettingsDeed.after
      cases act with
      | assign name v =>
          unfold perform
          split <;> exact (List.append_nil _).symm
      | snapshot => rfl
      | restore number =>
          unfold perform
          split <;> exact (List.append_nil _).symm
      | preserved enabled body => exact absurd rfl (alone enabled body)

/-- The snapshots behind some deeds are those there were before them, and those taken since. -/
theorem Chronicle.split {earlier later : List SettingsDeed}
    (chronicle : Chronicle s (earlier ++ later)) :
    ∃ s', Chronicle s' later ∧ s'.snapshots = s.snapshots ++ taken earlier := by
  induction earlier generalizing s with
  | nil => exact ⟨s, chronicle, (List.append_nil _).symm⟩
  | cons deed earlier ih =>
      rw [List.cons_append] at chronicle
      obtain ⟨s', behind, kept⟩ := ih chronicle.tail
      refine ⟨s', behind, ?_⟩
      rw [kept, chronicle.snapshots_after, taken_cons deed earlier, List.append_assoc]

/-! ## What can be relied on -/

/-- What can be relied on in the course of some deeds, before which no snapshots were taken. -/
structure Dependable (start : Settings) (ds : List SettingsDeed) : Prop where
  /-- No store that is reached is left out. -/
  chronicle : Chronicle ⟨start, []⟩ ds
  /-- In every store that is reached all bounds hold. -/
  valid : ∀ deed ∈ ds, deed.before.Valid ∧ deed.after.Valid
  /-- An assignment that is refused changes nothing. -/
  refused : ∀ deed ∈ ds, ∀ name v, deed.act = .assign name v → deed.fault ≠ none →
    deed.after = deed.before
  /-- A snapshot brings back all settings as they were when it was taken. -/
  restored : ∀ earlier deed later, ds = earlier ++ deed :: later →
    ∀ number saved, deed.act = .restore number → (taken earlier)[number]? = some saved →
      deed.fault = none ∧ deed.after.now = saved
  /-- A block that preserves the settings leaves them as it found them. -/
  preserved : ∀ deed ∈ ds, ∀ body, deed.act = .preserved true body →
    deed.after.now = deed.before.now
  /-- A block is left at the first act that goes wrong, and goes wrong itself. -/
  left : ∀ deed ∈ ds, ∀ enabled made act rest s s' fault,
    deed.act = .preserved enabled (made ++ act :: rest) →
      performBody made deed.before = (s, none) → act.perform s = (s', some fault) →
        deed.after = { s' with now := if enabled then deed.before.now else s'.now } ∧
          deed.fault = some fault
  /-- A block that does not preserve the settings keeps the assignments made in it before the one
  that is refused. -/
  kept : ∀ deed ∈ ds, ∀ changes name v rest now complaint,
    deed.act =
      .preserved false ((changes.map fun (name, v) => .assign name v) ++ .assign name v :: rest) →
      deed.before.now.assignAll changes = (now, none) → now.assign name v = .error complaint →
        deed.after.now = now ∧ deed.fault = some (.refused complaint)

/-- Whatever is done with settings within their bounds, the bounds hold on, refused assignments
change nothing, snapshots bring back what they were taken of, and blocks bring back what they are
to preserve. -/
theorem allDeeds_dependable {start : Settings} (valid : start.Valid) (acts : List SettingsAct) :
    Dependable start (allDeeds acts ⟨start, []⟩) := by
  have storeValid : SettingsStore.Valid ⟨start, []⟩ := ⟨valid, by simp⟩
  have found := valid_allDeeds acts storeValid
  refine ⟨chronicle_allDeeds acts _, ?valid, ?refused, ?restored, ?preserved, ?left, ?kept⟩
  case valid =>
    intro deed mem
    exact ⟨found deed mem, valid_perform deed.act (found deed mem)⟩
  case refused =>
    rintro ⟨act, before⟩ - name v rfl refused
    exact perform_assign_of_fault refused
  case restored =>
    rintro earlier ⟨act, before⟩ later split number saved rfl there
    obtain ⟨s, behind, kept⟩ := (split ▸ chronicle_allDeeds acts ⟨start, []⟩).split
    have known : before.snapshots = taken earlier := by
      cases behind with
      | single _ _ => exact kept
    rw [SettingsDeed.after, SettingsDeed.fault, perform_restore (known ▸ there)]
    exact ⟨rfl, rfl⟩
  case preserved =>
    rintro ⟨act, before⟩ - body rfl
    rw [SettingsDeed.after, perform_preserved]
    rfl
  case left =>
    rintro ⟨_, before⟩ - enabled made act rest s s' fault rfl fine wrong
    rw [SettingsDeed.after, SettingsDeed.fault, perform_preserved_of_fault fine wrong]
    exact ⟨rfl, rfl⟩
  case kept =>
    rintro ⟨_, before⟩ - changes name v rest now complaint rfl fine wrong
    have refused : (assign name v).perform { before with now } =
        ({ before with now }, some (.refused complaint)) := by
      simp only [perform, wrong]
    have made := performBody_assign changes before
    rw [fine] at made
    rw [SettingsDeed.after, SettingsDeed.fault, perform_preserved_of_fault made refused]
    exact ⟨rfl, rfl⟩

/-- Acts with a block inside of a block, in each of which a snapshot is taken. An assignment that is
refused ends both of them. -/
def blocksInBlocks : List SettingsAct :=
  [assign "ebre".toList (.bool false),
    preserved true
      [assign "ls_sort".toList (.int 2),
        snapshot,
        preserved false
          [assign "ls_sort".toList (.int 5),
            snapshot,
            assign "debug_level".toList (.int 10),
            assign "ebre".toList (.bool true)],
        assign "ebre".toList (.bool true)],
    restore 1]

/-- The snapshot taken in the inner block brings back what the outer block did not keep. -/
theorem allDeeds_dependable_blocksInBlocks :
    Settings.Valid {} ∧ Dependable {} (allDeeds blocksInBlocks ⟨{}, []⟩) ∧
      (allDeeds blocksInBlocks ⟨{}, []⟩).map
          (fun deed => (deed.fault.isSome, deed.after.now.ebre, deed.after.now.lsSort)) =
        [(false, false, 0), (false, false, 2), (false, false, 2), (false, false, 5),
          (false, false, 5), (true, false, 5), (true, false, 5), (true, false, 0),
          (false, false, 5)] :=
  ⟨Settings.valid_default, allDeeds_dependable Settings.valid_default blocksInBlocks,
    by decide +kernel⟩

end SettingsAct

end Ebrc
