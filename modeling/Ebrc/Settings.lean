import Ebrc.Document.Check

/-!
# Settings

What a function may change while it runs: the switches and numbers of the line editor, of
directory listings and of browsing. Most functions work on a copy, and what they change is put
back when they end.

A setting is reached by its name through a slot, which knows the kind of its values, their
bounds, and how to read and write it. Only values within the bounds are ever assigned.
-/

namespace Ebrc

/-- The settings, as they are before anything has changed them. -/
structure Settings where
  inputReadLine : Bool := false
  endMarks : Bool := false
  listNa : Bool := false
  helpMessages : Bool := false
  caseInsensitive : Bool := false
  searchStringsAll : Bool := false
  reUtf8 : Bool := true
  searchWrap : Bool := true
  ebre : Bool := true
  binaryDetect : Bool := true
  iuConvert : Bool := true
  showHiddenFiles : Bool := false
  dirWrite : Int := 0
  lsSort : Int := 0
  lsReverse : Bool := false
  lsFormat : Text := []
  allowRedirection : Bool := true
  verifyCertificates : Bool := true
  sendReferrer : Bool := true
  curlAuthNegotiate : Bool := false
  ftpActive : Bool := false
  downBg : Bool := false
  downJsbg : Bool := true
  allowJs : Bool := true
  showHover : Bool := false
  pluginsOn : Bool := true
  fetchBlobColumns : Bool := false
  showProgress : Text := ['d']
  currentAgent : Option Text := none
  agentIndex : Int := 0
  debugLevel : Int := 1
  timerSpeed : Int := 1
  deriving Repr, DecidableEq

/-- The value of a setting of any kind. -/
inductive SettingValue where
  | switch (b : Bool)
  | number (n : Int)
  | text (t : Text)
  | optionalText (t : Option Text)
  deriving Repr, DecidableEq

/-- How to read and write one setting. -/
inductive SettingSlot where
  | switch (get : Settings → Bool) (set : Settings → Bool → Settings)
  | number (least : Int) (greatest : Option Int) (get : Settings → Int)
      (set : Settings → Int → Settings)
  | text (longest : Nat) (get : Settings → Text) (set : Settings → Text → Settings)
  | optionalText (get : Settings → Option Text) (set : Settings → Option Text → Settings)

namespace SettingSlot

/-- The value of a setting. -/
def get : SettingSlot → Settings → SettingValue
  | switch get _, s => .switch (get s)
  | number _ _ get _, s => .number (get s)
  | text _ get _, s => .text (get s)
  | optionalText get _, s => .optionalText (get s)

/-- Assign a value to a setting, if it is one that the setting takes. -/
def assign : SettingSlot → Value → Settings → Except Complaint Settings
  | switch _ set, v, s => v.toSwitch.map (set s)
  | number least greatest _ set, v, s => (v.toIntegerWithin least greatest).map (set s)
  | text longest _ set, v, s => (v.toTextWithin longest).map (set s)
  | optionalText _ set, v, s => v.toOptionalText.map (set s)

/-- Give a setting the value that it has among other settings. The value is not looked at. -/
def putBack (saved : Settings) : SettingSlot → Settings → Settings
  | switch get set, s => set s (get saved)
  | number _ _ get set, s => set s (get saved)
  | text _ get set, s => set s (get saved)
  | optionalText get set, s => set s (get saved)

end SettingSlot

namespace Settings

/-- Every setting by its name. -/
def slots : List (String × SettingSlot) := [
  ("input_read_line", .switch (·.inputReadLine) fun s b => { s with inputReadLine := b }),
  ("end_marks", .switch (·.endMarks) fun s b => { s with endMarks := b }),
  ("list_na", .switch (·.listNa) fun s b => { s with listNa := b }),
  ("help_messages", .switch (·.helpMessages) fun s b => { s with helpMessages := b }),
  ("case_insensitive", .switch (·.caseInsensitive) fun s b => { s with caseInsensitive := b }),
  ("search_strings_all", .switch (·.searchStringsAll) fun s b => { s with searchStringsAll := b }),
  ("re_utf8", .switch (·.reUtf8) fun s b => { s with reUtf8 := b }),
  ("search_wrap", .switch (·.searchWrap) fun s b => { s with searchWrap := b }),
  ("ebre", .switch (·.ebre) fun s b => { s with ebre := b }),
  ("binary_detect", .switch (·.binaryDetect) fun s b => { s with binaryDetect := b }),
  ("iu_convert", .switch (·.iuConvert) fun s b => { s with iuConvert := b }),
  ("show_hidden_files", .switch (·.showHiddenFiles) fun s b => { s with showHiddenFiles := b }),
  ("dir_write", .number 0 (some 2) (·.dirWrite) fun s n => { s with dirWrite := n }),
  ("ls_sort", .number 0 none (·.lsSort) fun s n => { s with lsSort := n }),
  ("ls_reverse", .switch (·.lsReverse) fun s b => { s with lsReverse := b }),
  ("ls_format", .text 11 (·.lsFormat) fun s t => { s with lsFormat := t }),
  ("allow_redirection", .switch (·.allowRedirection) fun s b => { s with allowRedirection := b }),
  ("verify_certificates",
    .switch (·.verifyCertificates) fun s b => { s with verifyCertificates := b }),
  ("send_referrer", .switch (·.sendReferrer) fun s b => { s with sendReferrer := b }),
  ("curl_auth_negotiate",
    .switch (·.curlAuthNegotiate) fun s b => { s with curlAuthNegotiate := b }),
  ("ftp_active", .switch (·.ftpActive) fun s b => { s with ftpActive := b }),
  ("down_bg", .switch (·.downBg) fun s b => { s with downBg := b }),
  ("down_jsbg", .switch (·.downJsbg) fun s b => { s with downJsbg := b }),
  ("allow_js", .switch (·.allowJs) fun s b => { s with allowJs := b }),
  ("show_hover", .switch (·.showHover) fun s b => { s with showHover := b }),
  ("plugins_on", .switch (·.pluginsOn) fun s b => { s with pluginsOn := b }),
  ("fetch_blob_columns", .switch (·.fetchBlobColumns) fun s b => { s with fetchBlobColumns := b }),
  ("show_progress", .text 1 (·.showProgress) fun s t => { s with showProgress := t }),
  ("current_agent", .optionalText (·.currentAgent) fun s t => { s with currentAgent := t }),
  ("agent_index", .number 0 none (·.agentIndex) fun s n => { s with agentIndex := n }),
  ("debug_level", .number 0 (some 9) (·.debugLevel) fun s n => { s with debugLevel := n }),
  ("timer_speed", .number 1 none (·.timerSpeed) fun s n => { s with timerSpeed := n })]

/-- The slot of a name. -/
def slot? (name : Text) : Option SettingSlot := slots.lookup (String.ofList name)

/-- The names that tell something about the settings as a whole. They take no value. -/
def reservedNames : List String :=
  ["model_extra", "model_fields_set", "__fields_set__", "__weakref__"]

/-- The names that stand for the settings as a whole. No single value can take their place. -/
def wholeNames : List String := ["__class__", "__dict__"]

/-- Assign a value to the setting of a name, or complain and leave all settings as they are. A
name that starts with an underscore is that of a note, which may be made about any settings and
does not change them. -/
def assign (s : Settings) (name : Text) (v : Value) : Except FieldComplaint Settings :=
  match slot? name with
  | none =>
    if reservedNames.contains (String.ofList name) then .error ⟨[name], .notAField⟩
    else if wholeNames.contains (String.ofList name) then .error ⟨[name], .notWhole⟩
    else if name.head? = some '_' then .ok s
    else .error ⟨[name], .noSuchField⟩
  | some slot =>
    match slot.assign v s with
    | .ok s => .ok s
    | .error complaint => .error ⟨[name], complaint⟩

/-- The value of the setting of a name. -/
def get? (s : Settings) (name : Text) : Option SettingValue := (slot? name).map (·.get s)

/-- The settings that differ from what they are at first. -/
def changed (s : Settings) : List (String × SettingValue) :=
  (slots.filter fun (_, slot) => slot.get s ≠ slot.get {}).map fun (name, slot) =>
    (name, slot.get s)

/-- Assign several values in turn, up to the first that is not taken. The settings reached are
told in either case. -/
def assignAll (s : Settings) : List (Text × Value) → Settings × Option FieldComplaint
  | [] => (s, none)
  | (name, v) :: rest =>
    match s.assign name v with
    | .ok s => s.assignAll rest
    | .error complaint => (s, some complaint)

/-- Put back the settings saved before, one after the other. -/
def restore (s saved : Settings) : Settings :=
  slots.foldl (fun s (_, slot) => slot.putBack saved s) s

/-- Do some work on the settings, and put them back afterwards if they are to be preserved. -/
def preserving {α : Type} (preserve : Bool) (work : Settings → Settings × α) (s : Settings) :
    Settings × α :=
  let (after, a) := work s
  (if preserve then after.restore s else after, a)

/-- The settings with the members of an object in place of the first ones. Names that are no
settings are passed over. -/
def ofMembers (members : List (Text × Value)) : Except (List FieldComplaint) Settings :=
  let step := fun (acc : Settings × List FieldComplaint) (entry : String × SettingSlot) =>
    match Value.member? members entry.1.toList with
    | none => acc
    | some v =>
      match entry.2.assign v acc.1 with
      | .ok s => (s, acc.2)
      | .error complaint => (acc.1, acc.2 ++ [⟨[entry.1.toList], complaint⟩])
  match slots.foldl step ({}, []) with
  | (s, []) => .ok s
  | (_, complaints) => .error complaints

/-- The bounds that hold of settings at all times. -/
structure Valid (s : Settings) : Prop where
  dirWrite : 0 ≤ s.dirWrite ∧ s.dirWrite ≤ 2
  lsSort : 0 ≤ s.lsSort
  lsFormat : s.lsFormat.length ≤ 11
  showProgress : s.showProgress.length ≤ 1
  agentIndex : 0 ≤ s.agentIndex
  debugLevel : 0 ≤ s.debugLevel ∧ s.debugLevel ≤ 9
  timerSpeed : 1 ≤ s.timerSpeed

theorem valid_default : Valid {} := by constructor <;> decide

end Settings

end Ebrc
