import Ebrc.Proofs.Load.Trail

/-!
# Where a line stops

A line that stops a load leaves the rules, the records and the agents as they were before it. If it
stops at a fault, then the fault names the file and, unless it is about a path, the line. Only the
end of a file tells of a function that is left open.
-/

namespace Ebrc

/-- The load has stopped at this line, before which it had come this far. -/
structure Stop.At (here : Position) (p : Progress) (stop : Stop) : Prop where
  agrees : p.loaded.Agrees stop.progress.loaded
  file : ∀ {error}, stop.fault = .config error → error.path = some here.file
  line : ∀ {error n}, stop.fault = .config error → error.line = some n → n = here.line
  closed : ∀ {error name}, stop.fault = .config error → error.fault ≠ .functionLeftOpen name

/-- Where a reading stops, it has stopped at this line. -/
def StopsAt {α : Type} (here : Position) (p : Progress) (r : Except Stop α) : Prop :=
  ∀ stop, r = .error stop → stop.At here p

/-- A refusal is never about a function that is left open. -/
def Refuses {α : Type} (r : Except Refusal α) : Prop :=
  ∀ name, r ≠ .error (.fault (.functionLeftOpen name))

section StopsAt

variable {α β : Type} {here : Position} {p p₁ : Progress}

@[simp] theorem stopsAt_ok {a : α} : StopsAt here p (.ok a) := by
  intro stop impossible
  contradiction

theorem stopsAt_stop {fault : ConfigFault} (agrees : p.loaded.Agrees p₁.loaded)
    (closed : ∀ name, fault ≠ .functionLeftOpen name) :
    StopsAt here p (p₁.stop here fault : Except Stop α) := by
  rintro stop stopped
  cases stopped
  refine ⟨agrees, ?_, ?_, ?_⟩
  · rintro error ⟨⟩
    rfl
  · rintro error n ⟨⟩ named
    dsimp only at named
    split at named
    · contradiction
    · exact (Option.some.inj named).symm
  · rintro error name ⟨⟩
    exact closed name

theorem stopsAt_crash {c : Crash} (agrees : p.loaded.Agrees p₁.loaded) :
    StopsAt here p (p₁.crash c : Except Stop α) := by
  rintro stop stopped
  cases stopped
  refine ⟨agrees, ?_, ?_, ?_⟩ <;> intros <;> contradiction

theorem stopsAt_orRefuse {r : Except Refusal α} (agrees : p.loaded.Agrees p₁.loaded)
    (refuses : Refuses r) : StopsAt here p (p₁.orRefuse here r) := by
  cases r with
  | ok a => exact stopsAt_ok
  | error refusal =>
      cases refusal with
      | fault fault =>
          refine stopsAt_stop agrees ?_
          rintro name rfl
          exact refuses name rfl
      | crash => exact stopsAt_crash agrees

theorem stopsAt_orCrash {r : Except FileError α} (agrees : p.loaded.Agrees p₁.loaded) :
    StopsAt here p (p₁.orCrash r) := by
  cases r with
  | ok a => exact stopsAt_ok
  | error reason => exact stopsAt_crash agrees

theorem StopsAt.bind {r : Except Stop α} {f : α → Except Stop β} (first : StopsAt here p r)
    (next : ∀ a, r = .ok a → StopsAt here p (f a)) : StopsAt here p (r >>= f) := by
  cases r with
  | ok a => exact next a rfl
  | error stop =>
      rintro stop' same
      cases same
      obtain ⟨agrees, file, line, closed⟩ := first stop rfl
      exact ⟨agrees, file, line, closed⟩

theorem StopsAt.map {r : Except Stop α} {f : α → β} (stops : StopsAt here p r) :
    StopsAt here p (r.map f) := by
  cases r with
  | ok a => exact stopsAt_ok
  | error stop =>
      rintro stop' same
      cases same
      obtain ⟨agrees, file, line, closed⟩ := stops stop rfl
      exact ⟨agrees, file, line, closed⟩

end StopsAt

/-! ## Values -/

theorem refuses_leadingNumber {v : Text} : Refuses (leadingNumber v) := by
  intro name
  unfold leadingNumber
  split <;> simp

theorem Refuses.map {α β : Type} {r : Except Refusal α} {f : α → β} (refuses : Refuses r) :
    Refuses (r.map f) := by
  cases r with
  | ok a => simp [Refuses, Except.map]
  | error refusal => simpa [Refuses, Except.map] using refuses

theorem Refuses.bind {α β : Type} {r : Except Refusal α} {f : α → Except Refusal β}
    (first : Refuses r) (next : ∀ a, Refuses (f a)) : Refuses (r >>= f) := by
  cases r with
  | ok a => exact next a
  | error refusal =>
      rintro name ⟨⟩
      exact first name rfl

theorem refuses_setAccount {limit : Nat} {k : AccountKeyword} {v : Text} {a : Account} :
    Refuses (a.set limit k v) := by
  cases k with
  | inPort => exact refuses_leadingNumber.bind fun port => by simp [Refuses]
  | outPort => exact refuses_leadingNumber.bind fun port => by simp [Refuses]
  | recipient kind =>
      intro name
      simp only [Account.set, Account.addRecipient]
      split <;> simp
  | _ => simp [Refuses, Account.set]

theorem refuses_setPlugin {k : PluginKeyword} {v : Text} {q : Plugin} : Refuses (q.set k v) := by
  cases k with
  | outputType =>
      intro name
      simp only [Plugin.set, Plugin.setOutputType]
      split <;> simp
  | _ => simp [Refuses, Plugin.set]

theorem refuses_setTable {limit : Nat} {k : TableKeyword} {v : Text} {t : Table} :
    Refuses (t.set limit k v) := by
  have number {digits : Text} : Refuses (Table.columnNumber digits) := by
    intro name
    unfold Table.columnNumber
    split <;> simp
  cases k with
  | columns =>
      intro name
      simp only [Table.set, Table.addColumns]
      split <;> simp
  | keyColumns =>
      simp only [Table.set, Table.setKeyColumns]
      split
      · simp [Refuses]
      · refine number.bind fun key1 => ?_
        have bounded (key2 : Nat) : Refuses
            (if t.columns.length < key1 ∨ t.columns.length < key2 then
              .error (.fault (.keyColumnOutOfRange t.columns.length))
            else .ok { t with key1, key2 }) := by
          split <;> simp [Refuses]
        repeat' split
        all_goals first
          | exact bounded t.key2
          | exact number.bind bounded
  | _ => simp [Refuses, Table.set]

theorem refuses_addAgent {limit : Nat} {v : Text} {s : Loaded} : Refuses (s.addAgent limit v) := by
  intro name
  unfold Loaded.addAgent
  split <;> simp

theorem refuses_addSiteRule {kind : RuleKind} {number : Nat} {v : Text} {s : Loaded} :
    Refuses (s.addSiteRule kind number v) := by
  refine Refuses.map fun name => ?_
  unfold Loaded.siteDomain
  dsimp only
  split <;> simp

theorem refuses_addAgentSite {number : Nat} {v : Text} {s : Loaded} :
    Refuses (s.addAgentSite number v) := by
  intro name
  unfold Loaded.addAgentSite
  repeat' split
  all_goals simp

namespace Progress

variable {around : Surroundings} {here : Position} {word v : Text} {p : Progress}
variable {line : Line} {env : Environment} {path : Path}

/-! ## Paths -/

theorem stopsAt_expandPath {p₁ : Progress} (agrees : p.loaded.Agrees p₁.loaded) :
    StopsAt here p (p₁.expandPath env here v) := by
  unfold expandPath
  dsimp only
  split
  · exact stopsAt_ok
  · split
    · exact stopsAt_ok
    · exact stopsAt_crash agrees

theorem stopsAt_withPath {clear : Loaded → Loaded} {act : Path → Progress → Except Stop Progress}
    (cleared : p.loaded.Agrees (clear p.loaded))
    (acts : ∀ path, StopsAt here p (act path (p.modify clear))) :
    StopsAt here p ((p.modify clear).withPath env here v act) := by
  refine (stopsAt_expandPath cleared).bind fun told expanded => ?_
  unfold expandPath at expanded
  dsimp only at expanded
  split at expanded
  · cases expanded
    exact stopsAt_ok
  · split at expanded
    · cases expanded
      exact acts _
    · contradiction

variable {p₁ : Progress}

theorem stopsAt_requireDirectory (agrees : p.loaded.Agrees p₁.loaded) :
    StopsAt here p (p₁.requireDirectory here path) := by
  refine (stopsAt_orCrash agrees).bind fun found _ => ?_
  split
  · exact stopsAt_ok
  · exact stopsAt_stop agrees (by simp)

theorem stopsAt_requireFile {role : FileRole} (agrees : p.loaded.Agrees p₁.loaded) :
    StopsAt here p (p₁.requireFile here role path) := by
  refine (stopsAt_orCrash agrees).bind fun found _ => ?_
  split
  · exact stopsAt_ok
  · exact stopsAt_stop agrees (by simp)

theorem stopsAt_requireFileOrNothing {role : FileRole} (agrees : p.loaded.Agrees p₁.loaded) :
    StopsAt here p (p₁.requireFileOrNothing here role path) := by
  refine (stopsAt_orCrash agrees).bind fun found _ => ?_
  split
  · exact stopsAt_requireFile agrees
  · exact stopsAt_ok

theorem stopsAt_setDownloadDir : StopsAt here p (p.setDownloadDir env here v) := by
  refine stopsAt_withPath (by constructor <;> rfl) fun path =>
    StopsAt.bind ?_ fun _ _ => stopsAt_ok
  exact stopsAt_requireDirectory (by constructor <;> rfl)

theorem stopsAt_setAddressBook : StopsAt here p (p.setAddressBook env here v) := by
  refine stopsAt_withPath (by constructor <;> rfl) fun path =>
    StopsAt.bind ?_ fun _ _ => stopsAt_ok
  exact stopsAt_requireFile (by constructor <;> rfl)

theorem stopsAt_setEmojis : StopsAt here p (p.setEmojis env here v) := by
  refine stopsAt_withPath (by constructor <;> rfl) fun path =>
    StopsAt.bind ?_ fun _ _ => stopsAt_ok
  exact stopsAt_requireFile (by constructor <;> rfl)

theorem stopsAt_makeUnread (agrees : p.loaded.Agrees p₁.loaded) :
    StopsAt here p (p₁.makeUnread here path) := by
  refine (stopsAt_orCrash agrees).bind fun found _ => ?_
  split
  · exact stopsAt_ok
  · split
    · exact stopsAt_ok
    · exact stopsAt_crash agrees
    · exact stopsAt_stop agrees (by simp)

theorem stopsAt_setMailDir : StopsAt here p (p.setMailDir env here v) := by
  refine stopsAt_withPath (by constructor <;> rfl) fun path => ?_
  refine StopsAt.bind ?_ fun _ _ => StopsAt.bind ?_ fun _ _ => stopsAt_ok
  · exact stopsAt_requireDirectory (by constructor <;> rfl)
  · exact stopsAt_makeUnread (by constructor <;> rfl)

theorem stopsAt_setCookieJar : StopsAt here p (p.setCookieJar env here v) := by
  refine stopsAt_withPath (by constructor <;> rfl) fun path => StopsAt.bind ?_ fun _ _ => ?_
  · exact stopsAt_requireFileOrNothing (by constructor <;> rfl)
  split
  · exact stopsAt_ok
  · exact stopsAt_crash (by constructor <;> rfl)
  · exact stopsAt_stop (by constructor <;> rfl) (by simp)

theorem stopsAt_setCertificates : StopsAt here p (p.setCertificates env here v) := by
  refine stopsAt_withPath (by constructor <;> rfl) fun path => ?_
  refine StopsAt.bind ?_ fun _ _ => StopsAt.bind ?_ fun found _ => ?_
  · exact stopsAt_requireFileOrNothing (by constructor <;> rfl)
  · exact stopsAt_orCrash (by constructor <;> rfl)
  split
  · exact stopsAt_ok
  · exact stopsAt_stop (by constructor <;> rfl) (by simp)

/-! ## Lines -/

theorem stopsAt_setGlobal {k : GlobalKeyword} (other : k ≠ .includeFile)
    {includeFile : Text → Progress → Except Stop Progress} :
    StopsAt here p (p.setGlobal around includeFile here k v) := by
  cases k with
  | downloadDir => exact stopsAt_setDownloadDir
  | mailDir => exact stopsAt_setMailDir
  | cookieJar => exact stopsAt_setCookieJar
  | certificates => exact stopsAt_setCertificates
  | addressBook => exact stopsAt_setAddressBook
  | emojis => exact stopsAt_setEmojis
  | includeFile => exact absurd rfl other
  | proxy | cacheDir | dataSource | language | envelope => exact stopsAt_ok
  | agent => exact (stopsAt_orRefuse .rfl refuses_addAgent).map
  | noScript | noVerify => exact (stopsAt_orRefuse .rfl refuses_addSiteRule).map
  | agentSite => exact (stopsAt_orRefuse .rfl refuses_addAgentSite).map
  | webTimeout | mailTimeout => exact (stopsAt_orRefuse .rfl refuses_leadingNumber.map).map
  | imapFetch | cacheSize => exact (stopsAt_orRefuse .rfl refuses_leadingNumber.map.map).map

theorem stopsAt_assign {k : Keyword}
    (other : ¬(p.block = .none ∧ k = .everywhere .includeFile ∧ v ≠ []))
    {includeFile : Text → Progress → Except Stop Progress} :
    StopsAt here p (p.assign around includeFile here word k v) := by
  unfold assign
  split
  · rename_i fault faulty
    refine stopsAt_stop .rfl ?_
    rintro name rfl
    unfold keywordFault? at faulty
    split at faulty <;> cases faulty
  rename_i allowed
  split
  · exact stopsAt_stop .rfl (by simp)
  rename_i given
  split
  · exact (stopsAt_orRefuse .rfl refuses_setAccount).map
  · exact (stopsAt_orRefuse .rfl refuses_setPlugin).map
  · exact (stopsAt_orRefuse .rfl refuses_setTable).map
  · rename_i k _ _
    refine stopsAt_setGlobal fun notInclude => other ⟨?_, by rw [notInclude], given⟩
    cases block : p.block with
    | none => rfl
    | _ =>
        rw [block] at allowed
        contradiction
  · exact stopsAt_ok

theorem stopsAt_addFilter {kind : RuleKind} : StopsAt here p (p.addFilter here kind line) := by
  unfold addFilter
  dsimp only
  repeat' split
  all_goals first | exact stopsAt_ok | exact stopsAt_stop .rfl (by simp)

theorem stopsAt_openBlock : StopsAt here p (p.openBlock around.limits here line) := by
  unfold openBlock startBlock
  dsimp only
  repeat' split
  all_goals first | exact stopsAt_ok | exact stopsAt_stop .rfl (by simp)

theorem stopsAt_closeBlock : StopsAt here p (p.closeBlock here line) := by
  unfold closeBlock closeFunction
  repeat' split
  all_goals first
    | exact stopsAt_ok
    | exact stopsAt_stop .rfl (by simp)
    | exact stopsAt_crash .rfl

theorem stopsAt_takeLine : StopsAt here p (p.takeLine around.limits here line) := by
  unfold takeLine turnOn
  dsimp only
  repeat' split
  all_goals first
    | exact stopsAt_ok
    | exact stopsAt_stop .rfl (by simp)
    | exact stopsAt_closeBlock
    | exact stopsAt_openBlock

/-- A line that is no include and stops a load is the one at which the load stops. -/
theorem stopsAt_readLine (other : p.include? line = none)
    {includeFile : Position → Text → Progress → Except Stop Progress} :
    StopsAt here p (p.readLine around includeFile here line) := by
  unfold readLine
  split
  · exact stopsAt_ok
  split
  · exact stopsAt_addFilter
  split
  · exact stopsAt_takeLine
  rename_i word v assigned
  split
  · rename_i k _ spelled
    refine stopsAt_assign ?_
    rintro ⟨block, rfl, given⟩
    simp [include?, block, assigned, spelled, given] at other
  · exact stopsAt_takeLine
  · exact stopsAt_stop .rfl (by simp)

/-! ## Includes -/

theorem stopsAt_includedPath (agrees : p.loaded.Agrees p₁.loaded) :
    StopsAt here p (p₁.includedPath env here v) :=
  (stopsAt_expandPath agrees).map

theorem stopsAt_openInclude {limits : Limits} :
    StopsAt here p (p.openInclude limits here path) := by
  unfold openInclude
  dsimp only
  repeat' split
  all_goals first | exact stopsAt_ok | exact stopsAt_crash .rfl

theorem stopsAt_refuseInclude : StopsAt here p (refuseInclude around here v p) := by
  refine (stopsAt_includedPath .rfl).bind ?_
  rintro ⟨path?, p₁⟩ told
  rcases includedPath_cases told with ⟨event, rfl, -⟩ | ⟨path, rfl, rfl⟩
  · exact stopsAt_ok
  · exact stopsAt_stop .rfl (by simp)

end Progress

end Ebrc
