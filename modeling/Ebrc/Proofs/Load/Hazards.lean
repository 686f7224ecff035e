import Ebrc.Proofs.FileSystem
import Ebrc.Proofs.Load.Visits

/-!
# What makes a load crash

Whatever is wrong with a line is told as a fault of the configuration, with some exceptions: a
number that cannot be read, a home directory that is not known, and a path of which the file system
does not say what stands there, or which no file can have. For each keyword this is said here once,
in both directions: its value makes the load crash if and only if it is one of these hazards.
-/

namespace Ebrc

/-! ## Hazards -/

/-- The text without a mark in front. -/
def Text.dropMark (mark : Char) : Text → Text
  | [] => []
  | c :: rest => if c = mark then rest else c :: rest

/-- The value of a keyword holds a number that cannot be read. -/
inductive Keyword.Unreadable : Keyword → Text → Prop where
  | inPort {v : Text} (number : (v.dropMark '*').StartsUnreadable) :
      Unreadable (.account .inPort) v
  | outPort {v : Text}
      (number : (((v.dropMark '+').dropMark '^').dropMark '*').StartsUnreadable) :
      Unreadable (.account .outPort) v
  | firstKey {v : Text} (long : Text.maxNumberLength < (v.takeWhile Text.isDecimal).length) :
      Unreadable (.table .keyColumns) v
  | secondKey {v rest : Text} (first : v.takeWhile Text.isDecimal ≠ [])
      (comma : v.dropWhile Text.isDecimal = ',' :: rest)
      (long : Text.maxNumberLength < (rest.takeWhile Text.isDecimal).length) :
      Unreadable (.table .keyColumns) v
  | number {k : GlobalKeyword} {v : Text}
      (keyword : k ∈ [.webTimeout, .mailTimeout, .imapFetch, .cacheSize])
      (number : v.StartsUnreadable) : Unreadable (.everywhere k) v
  /-- The number of an agent has too many digits, or a sign for a digit without a value. -/
  | agent {v site index : Text} (words : v.words = [site, index]) (digits : index.allDigitSigns)
      (bad : Text.maxNumberLength < index.length ∨ ∃ c ∈ index, Text.isDecimal c = false) :
      Unreadable (.everywhere .agentSite) v

/-- The path that a value names, all variables in it being defined. -/
def Environment.Names (env : Environment) (v : Text) (path : Path) : Prop :=
  remaining? (env.expand v) = none ∧ env.expandHome (Path.ofText (env.expand v)) = .ok path

/-- The path starts with a tilde, but the home directory for which it stands is not known. -/
inductive Environment.LacksHome (env : Environment) : Path → Crash → Prop where
  /-- None is kept for the user. -/
  | unknown {user : Text} {names : List Text} (possible : '\x00' ∉ user)
      (unknown : env.keptHome? user = none) :
      LacksHome env ⟨.relative, ('~' :: user) :: names⟩ .noHome
  /-- The one that is kept starts with a tilde itself. -/
  | tilde {user home : Text} {names : List Text} (possible : '\x00' ∉ user)
      (kept : env.keptHome? user = some home) (tilde : home.head? = some '~') :
      LacksHome env ⟨.relative, ('~' :: user) :: names⟩ .noHome
  /-- No user can have such a name. -/
  | badName {user : Text} {names : List Text} (null : '\x00' ∈ user) :
      LacksHome env ⟨.relative, ('~' :: user) :: names⟩ (.file .badPath)

/-- All variables in a value are defined, but the home directory in it is not known. -/
def Environment.Homeless (env : Environment) (v : Text) (c : Crash) : Prop :=
  remaining? (env.expand v) = none ∧ env.LacksHome (Path.ofText (env.expand v)) c

/-- The keywords whose paths are looked up where they are set. -/
def GlobalKeyword.lookedUp : List GlobalKeyword :=
  [.downloadDir, .mailDir, .cookieJar, .certificates, .addressBook, .emojis]

/-- The value of a keyword is a path that makes a load crash. -/
inductive Visit.PathHazard (env : Environment) (visit : Visit) :
    GlobalKeyword → Text → Crash → Prop where
  | home {k : GlobalKeyword} {v : Text} {c : Crash}
      (keyword : k ∈ GlobalKeyword.includeFile :: GlobalKeyword.lookedUp)
      (unknown : env.Homeless v c) : PathHazard env visit k v c
  /-- The path is too long, or leads through a directory that may not be searched. -/
  | refused {k : GlobalKeyword} {v : Text} {path : Path} {reason : FileError}
      (keyword : k ∈ GlobalKeyword.lookedUp) (names : env.Names v path)
      (refuses : visit.before.files.Refuses path reason) : PathHazard env visit k v (.file reason)
  /-- So it is with the directory for unread mail, but not with the one for mail. -/
  | unreadRefused {v : Text} {path : Path} {reason : FileError} (names : env.Names v path)
      (directory : visit.before.files.isDirectory path = .ok true)
      (refuses : visit.before.files.Refuses (path.child "unread".toList) reason) :
      PathHazard env visit .mailDir v (.file reason)
  | badPath {k : GlobalKeyword} {v : Text} {path : Path}
      (keyword : k = .cookieJar ∨ k = .certificates) (names : env.Names v path)
      (bad : visit.before.files.locate path = .error .badPath) :
      PathHazard env visit k v (.file .badPath)
  | badInclude {v : Text} {path : Path} (room : visit.room ≠ 0) (names : env.Names v path)
      (bad : visit.before.files.locate ((Path.ofText visit.here.file).parent ++ path) =
        .error .badPath) :
      PathHazard env visit .includeFile v (.file .badPath)

/-- The line gives a value to a keyword that is allowed where it stands. -/
structure Visit.Assigns (visit : Visit) (word : Text) (k : Keyword) (v : Text) : Prop where
  split : splitAssignment? visit.line = some (word, v)
  spelled : Keyword.ofWord? word = some k
  allowed : Progress.keywordFault? word visit.before.block k = none
  given : v ≠ []

/-- The line makes a load crash by what it gives to a keyword. -/
inductive Visit.Hazard (env : Environment) (visit : Visit) : Crash → Prop where
  | number {word v : Text} {k : Keyword} (assigns : visit.Assigns word k v)
      (unreadable : k.Unreadable v) : Hazard env visit .badNumber
  | path {word v : Text} {k : GlobalKeyword} {c : Crash}
      (assigns : visit.Assigns word (.everywhere k) v) (hazard : visit.PathHazard env k v c) :
      Hazard env visit c

/-- The line makes a load crash by closing what is no function, or a function whose body cannot be
decoded. -/
inductive Visit.ClosingHazard (visit : Visit) : Crash → Prop where
  | letterless (closes : visit.line = Line.close) (block : visit.before.block = .function none []) :
      ClosingHazard visit .noOpenFunction
  | body {f : OpenFunction} {c : Crash} (closes : visit.line = Line.close)
      (block : visit.before.block = .function (some f) [])
      (undecoded : Program.ofLines f.body.reverse = .error c) : ClosingHazard visit c

/-- The line makes a load crash. -/
def Visit.Fatal (env : Environment) (visit : Visit) (c : Crash) : Prop :=
  visit.Hazard env c ∨ visit.ClosingHazard c

/-! ## Crashes -/

/-- A reading ends in a crash. -/
def Crashes {α : Type} (c : Crash) (r : Except Stop α) : Prop :=
  ∃ p, r = .error ⟨.crash c, p⟩

section Crashes

variable {α β : Type} {c c' : Crash} {p : Progress} {here : Position}

@[simp] theorem not_crashes_ok {a : α} : ¬Crashes c (.ok a) := by
  rintro ⟨p, impossible⟩
  contradiction

@[simp] theorem not_crashes_stop {fault : ConfigFault} :
    ¬Crashes c (p.stop here fault : Except Stop α) := by
  rintro ⟨p, impossible⟩
  cases impossible

@[simp] theorem crashes_crash_iff : Crashes c (p.crash c' : Except Stop α) ↔ c = c' := by
  constructor
  · rintro ⟨q, same⟩
    cases same
    rfl
  · rintro rfl
    exact ⟨p, rfl⟩

@[simp] theorem crashes_map_iff {f : α → β} {r : Except Stop α} :
    Crashes c (r.map f) ↔ Crashes c r := by
  cases r with
  | ok a => simp [Except.map]
  | error stop => simp [Crashes, Except.map]

/-- What consists of two steps crashes in the first one or in the second one. -/
theorem crashes_bind_iff {f : α → Except Stop β} {r : Except Stop α} :
    Crashes c (r >>= f) ↔ Crashes c r ∨ ∃ a, r = .ok a ∧ Crashes c (f a) := by
  cases r with
  | ok a => simp [bind, Except.bind]
  | error stop => simp [Crashes, bind, Except.bind]

theorem crashes_bind_iff_left {f : α → Except Stop β} {r : Except Stop α}
    (safe : ∀ a, ¬Crashes c (f a)) : Crashes c (r >>= f) ↔ Crashes c r := by
  rw [crashes_bind_iff]
  refine or_iff_left ?_
  rintro ⟨a, -, crashes⟩
  exact safe a crashes

@[simp] theorem crashes_orRefuse_iff {r : Except Refusal α} :
    Crashes c (p.orRefuse here r) ↔ r = .error (.crash c) := by
  cases r with
  | ok a => simp [Progress.orRefuse]
  | error refusal => cases refusal <;> simp [Progress.orRefuse, eq_comm]

@[simp] theorem crashes_orCrash_iff {r : Except FileError α} :
    Crashes c (p.orCrash r) ↔ ∃ reason, r = .error reason ∧ c = .file reason := by
  cases r <;> simp [Progress.orCrash]

end Crashes

/-! ## Numbers -/

section Numbers

variable {v : Text} {c : Crash}

theorem leadingNumber_crash_iff :
    leadingNumber v = .error (.crash c) ↔ c = .badNumber ∧ v.StartsUnreadable := by
  rw [← Text.leadingInt?_eq_none_iff]
  unfold leadingNumber
  cases Text.leadingInt? v <;> simp [eq_comm]

theorem takeMark_snd (mark : Char) (tls : Tls) (marked : Tls × Text) :
    (Account.takeMark mark tls marked).2 = marked.2.dropMark mark := by
  obtain ⟨before, v⟩ := marked
  cases v with
  | nil => rfl
  | cons c rest =>
      simp only [Account.takeMark, Text.dropMark]
      split <;> rfl

/-- A value that goes on to be kept is refused where it is read. -/
theorem bind_ok_eq_error_iff {ε α β : Type} {r : Except ε α} {f : α → β} {e : ε} :
    (r >>= fun a => .ok (f a)) = .error e ↔ r = .error e := by
  cases r <;> simp [bind, Except.bind]

theorem Account.setInPort_crash_iff {a : Account} :
    a.setInPort v = .error (.crash c) ↔ c = .badNumber ∧ (v.dropMark '*').StartsUnreadable := by
  have marked : (takeMark '*' .implicit (a.inTls, v)).2 = v.dropMark '*' := takeMark_snd ..
  rw [← leadingNumber_crash_iff, ← marked]
  exact bind_ok_eq_error_iff

theorem Account.setOutPort_crash_iff {a : Account} :
    a.setOutPort v = .error (.crash c) ↔
      c = .badNumber ∧ (((v.dropMark '+').dropMark '^').dropMark '*').StartsUnreadable := by
  have marked : (takeMark '*' .implicit (takeMark '^' .required
      (takeMark '+' .opportunistic (a.outTls, v)))).2 =
        ((v.dropMark '+').dropMark '^').dropMark '*' := by
    rw [takeMark_snd, takeMark_snd, takeMark_snd]
  rw [← leadingNumber_crash_iff, ← marked]
  exact bind_ok_eq_error_iff

theorem Account.set_crash_iff {limit : Nat} {k : AccountKeyword} {a : Account} :
    a.set limit k v = .error (.crash c) ↔
      c = .badNumber ∧ Keyword.Unreadable (.account k) v := by
  have safe (fine : a.set limit k v ≠ .error (.crash c)) (other : k ≠ .inPort ∧ k ≠ .outPort) :
      a.set limit k v = .error (.crash c) ↔ c = .badNumber ∧ Keyword.Unreadable (.account k) v := by
    refine ⟨fun impossible => absurd impossible fine, ?_⟩
    rintro ⟨-, unreadable⟩
    cases unreadable with
    | inPort => exact absurd rfl other.1
    | outPort => exact absurd rfl other.2
  cases k with
  | inPort =>
      rw [Account.set, setInPort_crash_iff]
      refine and_congr_right fun _ => ⟨.inPort, fun unreadable => ?_⟩
      cases unreadable with
      | inPort number => exact number
  | outPort =>
      rw [Account.set, setOutPort_crash_iff]
      refine and_congr_right fun _ => ⟨.outPort, fun unreadable => ?_⟩
      cases unreadable with
      | outPort number => exact number
  | recipient kind =>
      refine safe ?_ ⟨by simp, by simp⟩
      simp only [Account.set, addRecipient]
      split <;> simp
  | _ => exact safe (by simp [Account.set]) ⟨by simp, by simp⟩

theorem Plugin.set_ne_crash {k : PluginKeyword} {q : Plugin} : q.set k v ≠ .error (.crash c) := by
  cases k with
  | outputType =>
      simp only [Plugin.set, setOutputType]
      split <;> simp
  | _ => simp [Plugin.set]

/-- Two numbers are read one after the other, if there is a second one. -/
theorem bind_columnNumber_crash_iff {t : Table} {first second : Text} :
    ((do
      let key1 ← Table.columnNumber first
      let key2 ← if second = [] then .ok t.key2 else Table.columnNumber second
      if t.columns.length < key1 ∨ t.columns.length < key2 then
        .error (.fault (.keyColumnOutOfRange t.columns.length))
      else .ok { t with key1, key2 }) : Except Refusal Table) = .error (.crash c) ↔
      c = .badNumber ∧
        (Text.maxNumberLength < first.length ∨ Text.maxNumberLength < second.length) := by
  have within {key1 key2 : Nat} : (if t.columns.length < key1 ∨ t.columns.length < key2 then
      .error (.fault (.keyColumnOutOfRange t.columns.length))
      else .ok { t with key1, key2 } : Except Refusal Table) ≠ .error (.crash c) := by
    split <;> simp
  have read {digits : Text} (short : ¬Text.maxNumberLength < digits.length) :
      Table.columnNumber digits = .ok (Text.digitsValue digits) := by
    rw [Table.columnNumber, Text.readDigits?, if_pos (Nat.le_of_not_lt short)]
  have unread {digits : Text} (long : Text.maxNumberLength < digits.length) :
      Table.columnNumber digits = .error (.crash .badNumber) := by
    rw [Table.columnNumber, Text.readDigits?, if_neg (Nat.not_le_of_lt long)]
  by_cases long : Text.maxNumberLength < first.length
  · rw [unread long]
    simp [bind, Except.bind, long, eq_comm]
  rw [read long]
  by_cases none : second = []
  · simpa [bind, Except.bind, long, none] using within
  by_cases long' : Text.maxNumberLength < second.length
  · simp [bind, Except.bind, none, unread long', long', eq_comm]
  · simpa [bind, Except.bind, none, read long', long, long'] using within

theorem Table.setKeyColumns_crash_iff {t : Table} :
    t.setKeyColumns v = .error (.crash c) ↔
      c = .badNumber ∧ Keyword.Unreadable (.table .keyColumns) v := by
  unfold setKeyColumns
  dsimp only
  by_cases none : v.takeWhile Text.isDecimal = []
  · simp only [none, if_true, reduceCtorEq, Except.error.injEq, false_iff, not_and]
    rintro - unreadable
    cases unreadable with
    | firstKey long =>
        rw [none] at long
        contradiction
    | secondKey first => exact first none
  rw [if_neg none, bind_columnNumber_crash_iff]
  refine and_congr_right fun _ => ⟨?_, fun unreadable => ?_⟩
  · rintro (long | long)
    · exact .firstKey long
    · split at long
      · rename_i rest comma
        exact .secondKey none comma long
      · contradiction
  · cases unreadable with
    | firstKey long => exact .inl long
    | secondKey first comma long =>
        rw [comma]
        exact .inr long

theorem Table.set_crash_iff {limit : Nat} {k : TableKeyword} {t : Table} :
    t.set limit k v = .error (.crash c) ↔ c = .badNumber ∧ Keyword.Unreadable (.table k) v := by
  have safe (fine : t.set limit k v ≠ .error (.crash c)) (other : k ≠ .keyColumns) :
      t.set limit k v = .error (.crash c) ↔ c = .badNumber ∧ Keyword.Unreadable (.table k) v := by
    refine ⟨fun impossible => absurd impossible fine, ?_⟩
    rintro ⟨-, unreadable⟩
    cases unreadable with
    | firstKey => exact absurd rfl other
    | secondKey => exact absurd rfl other
  cases k with
  | keyColumns => exact setKeyColumns_crash_iff
  | columns =>
      refine safe ?_ (by simp)
      simp only [Table.set, addColumns]
      split <;> simp
  | _ => exact safe (by simp [Table.set]) (by simp)

theorem Loaded.addAgentSite_crash_iff {number : Nat} {s : Loaded} :
    s.addAgentSite number v = .error (.crash c) ↔
      c = .badNumber ∧ Keyword.Unreadable (.everywhere .agentSite) v := by
  constructor
  · intro refused
    unfold addAgentSite at refused
    split at refused
    · rename_i site index words
      split at refused
      · rename_i digits
        split at refused
        · rename_i read
          cases refused
          exact ⟨rfl, .agent words digits ((Text.readInt?_eq_none_iff digits).1 read)⟩
        · split at refused <;> cases refused
      · cases refused
    · cases refused
  · rintro ⟨rfl, unreadable⟩
    cases unreadable with
    | number keyword => simp at keyword
    | agent words digits bad =>
        simp only [addAgentSite, words, digits, if_true, (Text.readInt?_eq_none_iff digits).2 bad]

end Numbers

/-! ## Home directories -/

namespace Environment

variable {env : Environment} {path : Path} {user v : Text} {c : Crash}

/-- Without the slashes at its end a home directory starts with a tilde if it did before. -/
theorem head?_homeOf? {home : Text} (kept : env.keptHome? user = some home) :
    ∃ t, env.homeOf? user = some t ∧ (t.head? = some '~' ↔ home.head? = some '~') := by
  rw [homeOf?, kept]
  refine ⟨_, rfl, ?_⟩
  cases home with
  | nil => simp [Text.stripRight]
  | cons c rest =>
      simp only [Text.stripRight]
      cases Text.stripRight (· = '/') rest with
      | nil => by_cases slash : c = '/' <;> simp [slash]
      | cons => rfl

theorem expandHome_eq_error_iff : env.expandHome path = .error c ↔ env.LacksHome path c := by
  constructor
  · intro failed
    obtain ⟨root, all⟩ := path
    unfold expandHome at failed
    split at failed
    · rename_i user names relative named
      dsimp only at relative named
      subst relative named
      by_cases null : '\x00' ∈ user
      · rw [if_pos (by simpa using null)] at failed
        cases failed
        exact .badName null
      rw [if_neg (by simpa using null)] at failed
      cases kept : env.keptHome? user with
      | none =>
          rw [homeOf?, kept] at failed
          cases failed
          exact .unknown null kept
      | some home =>
          obtain ⟨t, stripped, same⟩ := head?_homeOf? kept
          rw [stripped] at failed
          dsimp only at failed
          by_cases tilde : t.head? = some '~'
          · rw [if_pos tilde] at failed
            cases failed
            exact .tilde null kept (same.1 tilde)
          · rw [if_neg tilde] at failed
            cases failed
    · cases failed
  · intro lacks
    cases lacks with
    | unknown possible unknown => simp [expandHome, homeOf?, possible, unknown]
    | tilde possible kept tilde =>
        obtain ⟨t, stripped, same⟩ := head?_homeOf? kept
        simp [expandHome, possible, stripped, same.2 tilde]
    | badName null => simp [expandHome, null]

theorem homeless_iff : env.Homeless v c ↔
    remaining? (env.expand v) = none ∧ env.expandHome (Path.ofText (env.expand v)) = .error c := by
  rw [Homeless, expandHome_eq_error_iff]

end Environment

/-! ## Paths -/

theorem mem_intercalate_iff {c sep : Char} (other : c ≠ sep) {texts : List Text} :
    c ∈ List.intercalate [sep] texts ↔ ∃ t ∈ texts, c ∈ t := by
  induction texts with
  | nil => simp
  | cons t rest ih =>
      cases rest with
      | nil => simp
      | cons next rest =>
          rw [List.intercalate_cons_cons, List.mem_append, List.mem_append, ih]
          simp [other]

/-- A null character in a path stands in one of its names. -/
theorem Path.null_mem_toText_iff {path : Path} :
    '\x00' ∈ path.toText ↔ ∃ name ∈ path.names, '\x00' ∈ name := by
  have root (r : PathRoot) : '\x00' ∉ rootText r := by cases r <;> decide
  unfold toText
  split
  · rename_i none
    simp [none]
  · rw [List.mem_append, mem_intercalate_iff (by decide)]
    simp [root]

namespace Progress

variable {c : Crash} {p : Progress} {here : Position} {env : Environment} {v : Text} {path : Path}

theorem crashes_withPath_iff {act : Path → Progress → Except Stop Progress} :
    Crashes c (p.withPath env here v act) ↔
      env.Homeless v c ∨ ∃ path, env.Names v path ∧ Crashes c (act path p) := by
  simp only [Environment.homeless_iff]
  unfold withPath expandPath Environment.Names
  dsimp only
  cases Environment.remaining? (env.expand v) with
  | some name => simp [bind, Except.bind]
  | none =>
      cases env.expandHome (Path.ofText (env.expand v)) with
      | ok path => simp [bind, Except.bind]
      | error reason => simp [bind, Except.bind, crash, Crashes, eq_comm]

/-- To ask what stands at a path crashes if the file system does not say. -/
theorem crashes_probe_iff {r : Except FileError Bool}
    (probes : ∀ reason, r = .error reason ↔ p.files.Refuses path reason) :
    Crashes c (p.orCrash r) ↔ ∃ reason, p.files.Refuses path reason ∧ c = .file reason := by
  rw [crashes_orCrash_iff]
  simp only [probes]

theorem crashes_requireDirectory_iff :
    Crashes c (p.requireDirectory here path) ↔
      ∃ reason, p.files.Refuses path reason ∧ c = .file reason := by
  rw [← crashes_probe_iff fun _ => FileSystem.isDirectory_eq_error_iff]
  exact crashes_bind_iff_left fun found => by cases found <;> simp

theorem crashes_requireFile_iff {role : FileRole} :
    Crashes c (p.requireFile here role path) ↔
      ∃ reason, p.files.Refuses path reason ∧ c = .file reason := by
  rw [← crashes_probe_iff fun _ => FileSystem.isFile_eq_error_iff]
  exact crashes_bind_iff_left fun found => by cases found <;> simp

theorem crashes_requireFileOrNothing_iff {role : FileRole} :
    Crashes c (p.requireFileOrNothing here role path) ↔
      ∃ reason, p.files.Refuses path reason ∧ c = .file reason := by
  unfold requireFileOrNothing
  rw [crashes_bind_iff, crashes_probe_iff fun _ => FileSystem.pathExists_eq_error_iff]
  refine or_iff_left_of_imp ?_
  rintro ⟨found, -, crashes⟩
  cases found with
  | true => exact crashes_requireFile_iff.1 crashes
  | false => exact absurd crashes not_crashes_ok

/-- A bad path leads nowhere. -/
theorem requireFileOrNothing_of_badPath {role : FileRole}
    (bad : p.files.locate path = .error .badPath) :
    p.requireFileOrNothing here role path = .ok () := by
  simp [requireFileOrNothing, FileSystem.pathExists, FileSystem.probe, bad, orCrash, Except.map,
    bind, Except.bind]

theorem crashes_setDownloadDir_iff :
    Crashes c (p.setDownloadDir env here v) ↔ env.Homeless v c ∨ ∃ path, env.Names v path ∧
      ∃ reason, p.files.Refuses path reason ∧ c = .file reason := by
  unfold setDownloadDir
  rw [crashes_withPath_iff]
  simp only [crashes_bind_iff_left fun _ => not_crashes_ok, crashes_requireDirectory_iff, modify]

theorem crashes_setAddressBook_iff :
    Crashes c (p.setAddressBook env here v) ↔ env.Homeless v c ∨ ∃ path, env.Names v path ∧
      ∃ reason, p.files.Refuses path reason ∧ c = .file reason := by
  unfold setAddressBook
  rw [crashes_withPath_iff]
  simp only [crashes_bind_iff_left fun _ => not_crashes_ok, crashes_requireFile_iff, modify]

theorem crashes_setEmojis_iff :
    Crashes c (p.setEmojis env here v) ↔ env.Homeless v c ∨ ∃ path, env.Names v path ∧
      ∃ reason, p.files.Refuses path reason ∧ c = .file reason := by
  unfold setEmojis
  rw [crashes_withPath_iff]
  simp only [crashes_bind_iff_left fun _ => not_crashes_ok, crashes_requireFile_iff, modify]

/-- A cookie jar crashes a load at a path that is refused or bad. -/
theorem crashes_setCookieJar_iff :
    Crashes c (p.setCookieJar env here v) ↔ env.Homeless v c ∨ ∃ path, env.Names v path ∧
      ((∃ reason, p.files.Refuses path reason ∧ c = .file reason) ∨
        (c = .file .badPath ∧ p.files.locate path = .error .badPath)) := by
  unfold setCookieJar
  rw [crashes_withPath_iff]
  refine or_congr_right (exists_congr fun path => and_congr_right fun _ => ?_)
  rw [crashes_bind_iff, crashes_requireFileOrNothing_iff]
  refine or_congr_right ?_
  constructor
  · rintro ⟨-, -, crashes⟩
    split at crashes
    · exact absurd crashes not_crashes_ok
    · rename_i bad
      exact ⟨crashes_crash_iff.1 crashes, FileSystem.openForAppend_eq_badPath_iff.1 bad⟩
    · exact absurd crashes not_crashes_stop
  · rintro ⟨rfl, bad⟩
    refine ⟨(), requireFileOrNothing_of_badPath bad, ?_⟩
    simp only [modify_files, FileSystem.openForAppend_eq_badPath_iff.2 bad, crashes_crash_iff]

theorem crashes_setCertificates_iff :
    Crashes c (p.setCertificates env here v) ↔ env.Homeless v c ∨ ∃ path, env.Names v path ∧
      ((∃ reason, p.files.Refuses path reason ∧ c = .file reason) ∨
        (c = .file .badPath ∧ p.files.locate path = .error .badPath)) := by
  unfold setCertificates
  rw [crashes_withPath_iff]
  refine or_congr_right (exists_congr fun path => and_congr_right fun _ => ?_)
  rw [crashes_bind_iff, crashes_requireFileOrNothing_iff]
  refine or_congr_right ?_
  have safe (found : Bool) : ¬Crashes c (if found then
      .ok ((p.modify fun s => { s with certificates := none }).modify fun s =>
        { s with certificates := some path })
      else (p.modify fun s => { s with certificates := none }).stop here
        (.certificatesNotReadable path) : Except Stop Progress) := by
    cases found <;> simp
  simp only [crashes_bind_iff_left safe, crashes_orCrash_iff, FileSystem.canRead_eq_error_iff]
  constructor
  · rintro ⟨-, -, _, ⟨rfl, bad⟩, rfl⟩
    exact ⟨rfl, bad⟩
  · rintro ⟨rfl, bad⟩
    exact ⟨(), requireFileOrNothing_of_badPath bad, _, ⟨rfl, bad⟩, rfl⟩

/-- The directory for unread mail has no bad path if the one for mail has none. -/
theorem locate_unread_ne_badPath (directory : p.files.isDirectory path = .ok true) :
    p.files.locate (path.child "unread".toList) ≠ .error .badPath := by
  have good : p.files.locate path ≠ .error .badPath := by
    intro bad
    simp [FileSystem.isDirectory, FileSystem.probe, bad, Except.map] at directory
  simp only [ne_eq, FileSystem.locate_eq_badPath_iff, Path.null_mem_toText_iff] at good ⊢
  rintro ⟨name, among, null⟩
  rcases List.mem_append.1 among with before | last
  · exact good ⟨name, before, null⟩
  · rw [List.mem_singleton.1 last] at null
    exact absurd null (by decide)

theorem crashes_makeUnread_iff (directory : p.files.isDirectory path = .ok true) :
    Crashes c (p.makeUnread here (path.child "unread".toList)) ↔
      ∃ reason, p.files.Refuses (path.child "unread".toList) reason ∧ c = .file reason := by
  unfold makeUnread
  rw [crashes_bind_iff, crashes_probe_iff fun _ => FileSystem.isDirectory_eq_error_iff]
  refine or_iff_left ?_
  rintro ⟨found, -, crashes⟩
  cases found with
  | true => exact not_crashes_ok crashes
  | false =>
      rw [if_neg Bool.false_ne_true] at crashes
      split at crashes
      · exact not_crashes_ok crashes
      · rename_i bad
        exact locate_unread_ne_badPath directory (FileSystem.makeDirectory_eq_badPath_iff.1 bad)
      · exact not_crashes_stop crashes

theorem requireDirectory_eq_ok_iff :
    p.requireDirectory here path = .ok () ↔ p.files.isDirectory path = .ok true := by
  unfold requireDirectory orCrash stop
  cases p.files.isDirectory path with
  | error reason => simp [crash, bind, Except.bind]
  | ok found => cases found <;> simp [bind, Except.bind]

theorem crashes_setMailDir_iff :
    Crashes c (p.setMailDir env here v) ↔ env.Homeless v c ∨ ∃ path, env.Names v path ∧
      ((∃ reason, p.files.Refuses path reason ∧ c = .file reason) ∨
        (p.files.isDirectory path = .ok true ∧
          ∃ reason, p.files.Refuses (path.child "unread".toList) reason ∧ c = .file reason)) := by
  unfold setMailDir
  dsimp only
  rw [crashes_withPath_iff]
  refine or_congr_right (exists_congr fun path => and_congr_right fun _ => ?_)
  rw [crashes_bind_iff, crashes_requireDirectory_iff]
  refine or_congr_right ?_
  constructor
  · rintro ⟨_, there, crashes⟩
    have directory := requireDirectory_eq_ok_iff.1 there
    rw [crashes_bind_iff_left fun _ => not_crashes_ok, crashes_makeUnread_iff directory] at crashes
    exact ⟨directory, crashes⟩
  · rintro ⟨directory, crashes⟩
    refine ⟨(), requireDirectory_eq_ok_iff.2 directory, ?_⟩
    rw [crashes_bind_iff_left fun _ => not_crashes_ok]
    exact (crashes_makeUnread_iff (p := p.modify _) directory).2 crashes

end Progress

end Ebrc
