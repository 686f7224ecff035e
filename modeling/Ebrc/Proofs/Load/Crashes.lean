import Ebrc.Proofs.Load.Hazards

/-!
# Which lines make a load crash

A load crashes if and only if it comes to a fatal line. Each keyword has its hazards, and a line
that is no include crashes at them and nowhere else; an include crashes at its path, or inside the
file that it opens. So the hazards of the lines that a load comes to decide whether it crashes, at
every depth of its includes.
-/

namespace Ebrc

variable {around : Surroundings} {visit : Visit} {c : Crash} {v : Text}

/-! ## Hazards by keyword -/

namespace Visit

variable {env : Environment} {k : GlobalKeyword}

/-- The path is looked up, and that is all. -/
theorem pathHazard_lookup_iff (keyword : k ∈ [.downloadDir, .addressBook, .emojis]) :
    visit.PathHazard env k v c ↔ env.Homeless v c ∨ ∃ path, env.Names v path ∧
      ∃ reason, visit.before.files.Refuses path reason ∧ c = .file reason := by
  constructor
  · intro hazard
    cases hazard with
    | home _ unknown => exact .inl unknown
    | refused _ names refuses => exact .inr ⟨_, names, _, refuses, rfl⟩
    | unreadRefused => simp at keyword
    | badPath other => rcases other with rfl | rfl <;> simp at keyword
    | badInclude => simp at keyword
  · have looked : k ∈ GlobalKeyword.lookedUp := by
      simp only [List.mem_cons, List.not_mem_nil, or_false] at keyword
      rcases keyword with rfl | rfl | rfl <;> decide
    rintro (unknown | ⟨path, names, reason, refuses, rfl⟩)
    · exact .home (List.mem_cons_of_mem _ looked) unknown
    · exact .refused looked names refuses

theorem pathHazard_open_iff (keyword : k = .cookieJar ∨ k = .certificates) :
    visit.PathHazard env k v c ↔ env.Homeless v c ∨ ∃ path, env.Names v path ∧
      ((∃ reason, visit.before.files.Refuses path reason ∧ c = .file reason) ∨
        (c = .file .badPath ∧ visit.before.files.locate path = .error .badPath)) := by
  constructor
  · intro hazard
    cases hazard with
    | home _ unknown => exact .inl unknown
    | refused _ names refuses => exact .inr ⟨_, names, .inl ⟨_, refuses, rfl⟩⟩
    | unreadRefused => simp at keyword
    | badPath _ names bad => exact .inr ⟨_, names, .inr ⟨rfl, bad⟩⟩
    | badInclude => simp at keyword
  · have looked : k ∈ GlobalKeyword.lookedUp := by
      rcases keyword with rfl | rfl <;> decide
    rintro (unknown | ⟨path, names, ⟨reason, refuses, rfl⟩ | ⟨rfl, bad⟩⟩)
    · exact .home (List.mem_cons_of_mem _ looked) unknown
    · exact .refused looked names refuses
    · exact .badPath keyword names bad

theorem pathHazard_mailDir_iff :
    visit.PathHazard env .mailDir v c ↔ env.Homeless v c ∨ ∃ path, env.Names v path ∧
      ((∃ reason, visit.before.files.Refuses path reason ∧ c = .file reason) ∨
        (visit.before.files.isDirectory path = .ok true ∧ ∃ reason,
          visit.before.files.Refuses (path.child "unread".toList) reason ∧ c = .file reason)) := by
  constructor
  · intro hazard
    cases hazard with
    | home _ unknown => exact .inl unknown
    | refused _ names refuses => exact .inr ⟨_, names, .inl ⟨_, refuses, rfl⟩⟩
    | unreadRefused names directory refuses =>
        exact .inr ⟨_, names, .inr ⟨directory, _, refuses, rfl⟩⟩
    | badPath other => simp at other
  · rintro (unknown | ⟨path, names, ⟨reason, refuses, rfl⟩ | ⟨directory, reason, refuses, rfl⟩⟩)
    · exact .home (by decide) unknown
    · exact .refused (by decide) names refuses
    · exact .unreadRefused names directory refuses

theorem pathHazard_include_iff :
    visit.PathHazard env .includeFile v c ↔ env.Homeless v c ∨ ∃ path, env.Names v path ∧
      visit.room ≠ 0 ∧ c = .file .badPath ∧
        visit.before.files.locate ((Path.ofText visit.here.file).parent ++ path) =
          .error .badPath := by
  constructor
  · intro hazard
    cases hazard with
    | home _ unknown => exact .inl unknown
    | refused keyword => exact absurd keyword (by decide)
    | badPath other => simp at other
    | badInclude room names bad => exact .inr ⟨_, names, room, rfl, bad⟩
  · rintro (unknown | ⟨path, names, room, rfl, bad⟩)
    · exact .home (by decide) unknown
    · exact .badInclude room names bad

theorem not_pathHazard (keyword : k ∉ GlobalKeyword.includeFile :: GlobalKeyword.lookedUp) :
    ¬visit.PathHazard env k v c := by
  rintro hazard
  cases hazard with
  | home other => exact keyword other
  | refused other => exact keyword (List.mem_cons_of_mem _ other)
  | unreadRefused => exact keyword (by decide)
  | badPath other => rcases other with rfl | rfl <;> exact keyword (by decide)
  | badInclude => exact keyword (by decide)

end Visit

theorem Keyword.not_unreadable {k : GlobalKeyword}
    (keyword : k ∉ [.webTimeout, .mailTimeout, .imapFetch, .cacheSize, .agentSite]) :
    ¬Keyword.Unreadable (.everywhere k) v := by
  intro unreadable
  cases unreadable with
  | number other =>
      exact keyword (List.mem_append_left [GlobalKeyword.agentSite] other)
  | agent => exact keyword (by decide)

theorem Keyword.unreadable_number_iff {k : GlobalKeyword}
    (keyword : k ∈ [.webTimeout, .mailTimeout, .imapFetch, .cacheSize]) :
    Keyword.Unreadable (.everywhere k) v ↔ v.StartsUnreadable := by
  refine ⟨fun unreadable => ?_, .number keyword⟩
  cases unreadable with
  | number _ number => exact number
  | agent => exact absurd keyword (by decide)

/-! ## Lines -/

namespace Progress

variable {here : Position} {word : Text}

/-- A keyword outside of all blocks crashes at a number that cannot be read, or at its path. -/
theorem crashes_setGlobal_iff {k : GlobalKeyword} (other : k ≠ .includeFile)
    {includeFile : Text → Progress → Except Stop Progress} :
    Crashes c (visit.before.setGlobal around includeFile here k v) ↔
      (c = .badNumber ∧ Keyword.Unreadable (.everywhere k) v) ∨
        visit.PathHazard around.environment k v c := by
  -- A keyword takes a number or a path, or neither.
  have path (readable : k ∉ [.webTimeout, .mailTimeout, .imapFetch, .cacheSize, .agentSite])
      (crashes : Crashes c (visit.before.setGlobal around includeFile here k v) ↔
        visit.PathHazard around.environment k v c) :
      Crashes c (visit.before.setGlobal around includeFile here k v) ↔
        (c = .badNumber ∧ Keyword.Unreadable (.everywhere k) v) ∨
          visit.PathHazard around.environment k v c :=
    crashes.trans (or_iff_right fun number => Keyword.not_unreadable readable number.2).symm
  have number (pathless : k ∉ GlobalKeyword.includeFile :: GlobalKeyword.lookedUp)
      (crashes : Crashes c (visit.before.setGlobal around includeFile here k v) ↔
        c = .badNumber ∧ Keyword.Unreadable (.everywhere k) v) :
      Crashes c (visit.before.setGlobal around includeFile here k v) ↔
        (c = .badNumber ∧ Keyword.Unreadable (.everywhere k) v) ∨
          visit.PathHazard around.environment k v c :=
    crashes.trans (or_iff_left (Visit.not_pathHazard pathless)).symm
  have text (readable : k ∉ [.webTimeout, .mailTimeout, .imapFetch, .cacheSize, .agentSite])
      (pathless : k ∉ GlobalKeyword.includeFile :: GlobalKeyword.lookedUp)
      (safe : ¬Crashes c (visit.before.setGlobal around includeFile here k v)) :
      Crashes c (visit.before.setGlobal around includeFile here k v) ↔
        (c = .badNumber ∧ Keyword.Unreadable (.everywhere k) v) ∨
          visit.PathHazard around.environment k v c :=
    path readable (iff_of_false safe (Visit.not_pathHazard pathless))
  cases k with
  | downloadDir =>
      exact path (by decide)
        (crashes_setDownloadDir_iff.trans (Visit.pathHazard_lookup_iff (by decide)).symm)
  | addressBook =>
      exact path (by decide)
        (crashes_setAddressBook_iff.trans (Visit.pathHazard_lookup_iff (by decide)).symm)
  | emojis =>
      exact path (by decide)
        (crashes_setEmojis_iff.trans (Visit.pathHazard_lookup_iff (by decide)).symm)
  | mailDir =>
      exact path (by decide) (crashes_setMailDir_iff.trans Visit.pathHazard_mailDir_iff.symm)
  | cookieJar =>
      exact path (by decide)
        (crashes_setCookieJar_iff.trans (Visit.pathHazard_open_iff (.inl rfl)).symm)
  | certificates =>
      exact path (by decide)
        (crashes_setCertificates_iff.trans (Visit.pathHazard_open_iff (.inr rfl)).symm)
  | includeFile => exact absurd rfl other
  | agentSite =>
      refine number (by decide) ?_
      rw [setGlobal, crashes_map_iff, crashes_orRefuse_iff, Loaded.addAgentSite_crash_iff]
  | webTimeout | mailTimeout =>
      refine number (by decide) ?_
      rw [Keyword.unreadable_number_iff (by decide), ← leadingNumber_crash_iff]
      simp only [setGlobal, crashes_map_iff, crashes_orRefuse_iff, map_eq_error_iff]
  | imapFetch | cacheSize =>
      refine number (by decide) ?_
      rw [Keyword.unreadable_number_iff (by decide), ← leadingNumber_crash_iff]
      simp only [setGlobal, Loaded.clampedNumber, crashes_map_iff, crashes_orRefuse_iff,
        map_eq_error_iff]
  | agent =>
      refine text (by decide) (by decide) ?_
      rw [setGlobal, crashes_map_iff, crashes_orRefuse_iff, Loaded.addAgent]
      split <;> simp
  | noScript | noVerify =>
      refine text (by decide) (by decide) ?_
      simp only [setGlobal, crashes_map_iff, crashes_orRefuse_iff, Loaded.addSiteRule,
        map_eq_error_iff]
      unfold Loaded.siteDomain
      dsimp only
      split <;> simp
  | proxy | cacheDir | dataSource | language | envelope =>
      exact text (by decide) (by decide) not_crashes_ok

/-- A keyword crashes only where it is allowed and has a value. -/
theorem crashes_assign_iff {k : Keyword}
    (other : ¬(visit.before.block = .none ∧ k = .everywhere .includeFile ∧ v ≠ []))
    {includeFile : Text → Progress → Except Stop Progress} :
    Crashes c (visit.before.assign around includeFile here word k v) ↔
      keywordFault? word visit.before.block k = none ∧ v ≠ [] ∧
        ((c = .badNumber ∧ k.Unreadable v) ∨
          ∃ k', k = .everywhere k' ∧ visit.PathHazard around.environment k' v c) := by
  unfold assign
  cases faulty : keywordFault? word visit.before.block k with
  | some fault => simp
  | none =>
      by_cases given : v = []
      · simp [given]
      simp only [given, if_false, ne_eq, not_false_eq_true, true_and]
      cases k with
      | account k =>
          cases block : visit.before.block with
          | account a =>
              simp only [crashes_map_iff, crashes_orRefuse_iff, Account.set_crash_iff]
              simp
          | _ =>
              rw [block] at faulty
              contradiction
      | plugin k =>
          cases block : visit.before.block with
          | plugin q =>
              simp only [crashes_map_iff, crashes_orRefuse_iff]
              refine iff_of_false Plugin.set_ne_crash ?_
              rintro (⟨-, unreadable⟩ | ⟨k', impossible, -⟩)
              · cases unreadable
              · contradiction
          | _ =>
              rw [block] at faulty
              contradiction
      | table k =>
          cases block : visit.before.block with
          | table t =>
              simp only [crashes_map_iff, crashes_orRefuse_iff, Table.set_crash_iff]
              simp
          | _ =>
              rw [block] at faulty
              contradiction
      | everywhere k =>
          cases block : visit.before.block with
          | none =>
              have notInclude : k ≠ .includeFile := fun same => other ⟨block, by rw [same], given⟩
              simp only [crashes_setGlobal_iff notInclude]
              simp
          | _ =>
              rw [block] at faulty
              contradiction

theorem crashes_closeBlock_iff (closes : visit.line = Line.close) :
    Crashes c (visit.before.closeBlock here visit.line) ↔ visit.ClosingHazard c := by
  have other (safe : ¬Crashes c (visit.before.closeBlock here visit.line))
      (elsewhere : ∀ f, visit.before.block ≠ .function f []) :
      Crashes c (visit.before.closeBlock here visit.line) ↔ visit.ClosingHazard c := by
    refine iff_of_false safe fun hazard => ?_
    cases hazard with
    | letterless _ block | body _ block => exact elsewhere _ block
  cases block : visit.before.block with
  | none => exact other (by simp [closeBlock, block]) (by simp [block])
  | filter kind => exact other (by simp [closeBlock, block]) (by simp [block])
  | account a =>
      refine other ?_ (by simp [block])
      simp only [closeBlock, block]
      split <;> simp
  | plugin q =>
      refine other ?_ (by simp [block])
      simp only [closeBlock, block]
      split <;> simp
  | table t =>
      refine other ?_ (by simp [block])
      simp only [closeBlock, block]
      split <;> simp
  | function function inner =>
      cases inner with
      | cons letter inner => exact other (by simp [closeBlock, block]) (by simp [block])
      | nil =>
          simp only [closeBlock, block, closeFunction]
          cases function with
          | none =>
              rw [crashes_crash_iff]
              constructor
              · rintro rfl
                exact .letterless closes block
              · intro hazard
                cases hazard with
                | letterless => rfl
                | body _ impossible =>
                    rw [block] at impossible
                    cases impossible
          | some f =>
              have undecoded : visit.ClosingHazard c ↔
                  Program.ofLines f.body.reverse = .error c := by
                refine ⟨fun hazard => ?_, .body closes block⟩
                cases hazard with
                | letterless _ impossible =>
                    rw [block] at impossible
                    cases impossible
                | body _ same undecoded =>
                    rw [block] at same
                    cases same
                    exact undecoded
              rw [undecoded]
              simp only [Body.close]
              cases Program.ofLines f.body.reverse with
              | error reason => simp [Except.map, eq_comm]
              | ok code => simp [Except.map]

theorem not_crashes_openBlock {line : Line} {p : Progress} :
    ¬Crashes c (p.openBlock around.limits here line) := by
  unfold openBlock startBlock
  dsimp only
  repeat' split
  all_goals simp

theorem crashes_takePlain_iff :
    Crashes c (visit.before.takePlain around.limits here visit.line) ↔ visit.ClosingHazard c := by
  unfold takePlain
  by_cases closes : visit.line = Line.close
  · rw [if_pos closes]
    exact crashes_closeBlock_iff closes
  · rw [if_neg closes]
    have noHazard : ¬visit.ClosingHazard c := by
      intro hazard
      cases hazard <;> contradiction
    refine iff_of_false ?_ noHazard
    repeat' split
    all_goals first | exact not_crashes_openBlock | simp

/-- A line that is no assignment crashes only by closing a block. -/
theorem crashes_takeLine_iff :
    Crashes c (visit.before.takeLine around.limits here visit.line) ↔ visit.ClosingHazard c := by
  have elsewhere (outside : ∀ f inner, visit.before.block ≠ .function f inner) :
      ¬visit.ClosingHazard c := by
    intro hazard
    cases hazard with
    | letterless _ block | body _ block => exact outside _ _ block
  rw [takeLine_eq]
  split
  · rename_i a block
    split
    · refine iff_of_false ?_ (elsewhere (by simp [block]))
      unfold turnOn
      dsimp only
      repeat' split
      all_goals simp
    · exact crashes_takePlain_iff
  · rename_i q block
    split
    · exact iff_of_false not_crashes_ok (elsewhere (by simp [block]))
    · exact crashes_takePlain_iff
  · exact crashes_takePlain_iff

theorem not_crashes_addFilter {p : Progress} {kind : RuleKind} {line : Line} :
    ¬Crashes c (p.addFilter here kind line) := by
  unfold addFilter
  dsimp only
  repeat' split
  all_goals simp

end Progress

namespace Visit

variable {env : Environment}

theorem ClosingHazard.closes (hazard : visit.ClosingHazard c) : visit.line = Line.close := by
  cases hazard <;> assumption

theorem ClosingHazard.block (hazard : visit.ClosingHazard c) :
    ∃ function, visit.before.block = .function function [] := by
  cases hazard with
  | letterless _ block | body _ block => exact ⟨_, block⟩

theorem fatal_iff_of_unassigned (unassigned : ∀ word k v, ¬visit.Assigns word k v) :
    visit.Fatal env c ↔ visit.ClosingHazard c := by
  refine or_iff_right fun hazard => ?_
  cases hazard with
  | number assigns | path assigns => exact unassigned _ _ _ assigns

/-- What an assignment does decides whether it is fatal. -/
theorem fatal_iff_of_assignment {word v : Text} {k : Keyword}
    (assigned : splitAssignment? visit.line = some (word, v))
    (spelled : Keyword.ofWord? word = some k) :
    visit.Fatal env c ↔ Progress.keywordFault? word visit.before.block k = none ∧ v ≠ [] ∧
      ((c = .badNumber ∧ k.Unreadable v) ∨
        ∃ k', k = .everywhere k' ∧ visit.PathHazard env k' v c) := by
  constructor
  · rintro (hazard | closing)
    · cases hazard with
      | number assigns unreadable =>
          obtain ⟨assigned', spelled', allowed, given⟩ := assigns
          cases assigned.symm.trans assigned'
          cases spelled.symm.trans spelled'
          exact ⟨allowed, given, .inl ⟨rfl, unreadable⟩⟩
      | path assigns hazard =>
          obtain ⟨assigned', spelled', allowed, given⟩ := assigns
          cases assigned.symm.trans assigned'
          cases spelled.symm.trans spelled'
          exact ⟨allowed, given, .inr ⟨_, rfl, hazard⟩⟩
    · rw [closing.closes] at assigned
      contradiction
  · rintro ⟨allowed, given, ⟨rfl, unreadable⟩ | ⟨k', rfl, hazard⟩⟩
    · exact .inl (.number ⟨assigned, spelled, allowed, given⟩ unreadable)
    · exact .inl (.path ⟨assigned, spelled, allowed, given⟩ hazard)

end Visit

namespace Progress

variable {here : Position}

/-- A line that is no include crashes if and only if it is fatal. -/
theorem crashes_readLine_iff (visit : Visit) (other : visit.before.include? visit.line = none)
    {includeFile : Position → Text → Progress → Except Stop Progress} :
    Crashes c (visit.before.readLine around includeFile here visit.line) ↔
      visit.Fatal around.environment c := by
  unfold readLine
  by_cases void : Line.isVoid visit.line
  · rw [if_pos void]
    have silent := Line.isVoid_iff.1 void
    refine iff_of_false not_crashes_ok ?_
    rw [Visit.fatal_iff_of_unassigned]
    · intro closing
      rw [closing.closes] at silent
      exact absurd silent (by decide)
    · rintro word k v ⟨assigned, -, -, -⟩
      rcases silent with silent | silent <;> rw [silent] at assigned <;> contradiction
  rw [if_neg void]
  split
  · rename_i kind block text
    refine iff_of_false not_crashes_addFilter ?_
    rw [Visit.fatal_iff_of_unassigned]
    · intro closing
      obtain ⟨function, impossible⟩ := closing.block
      rw [block] at impossible
      contradiction
    · rintro word k v ⟨-, -, allowed, -⟩
      rw [block] at allowed
      cases k <;> contradiction
  · cases assigned : splitAssignment? visit.line with
    | none =>
        rw [Visit.fatal_iff_of_unassigned]
        · exact crashes_takeLine_iff
        · rintro word k v ⟨assigned', -, -, -⟩
          rw [assigned] at assigned'
          contradiction
    | some assignment =>
        obtain ⟨word, v⟩ := assignment
        have unspelled (none : Keyword.ofWord? word = none) (word' : Text) (k : Keyword)
            (v' : Text) : ¬visit.Assigns word' k v' := by
          rintro ⟨assigned', spelled, -, -⟩
          cases assigned.symm.trans assigned'
          rw [none] at spelled
          contradiction
        dsimp only
        split
        · rename_i k _ spelled
          rw [Visit.fatal_iff_of_assignment assigned spelled]
          apply crashes_assign_iff
          rintro ⟨block, rfl, given⟩
          simp [include?, block, assigned, spelled, given] at other
        · rename_i none _
          rw [Visit.fatal_iff_of_unassigned (unspelled none)]
          exact crashes_takeLine_iff
        · rename_i none _
          refine iff_of_false not_crashes_stop ?_
          rw [Visit.fatal_iff_of_unassigned (unspelled none)]
          intro closing
          rw [closing.closes] at assigned
          contradiction

/-! ## Includes -/

/-- An include is fatal only by the path that it names. -/
theorem fatal_include_iff (included : visit.before.include? visit.line = some v) :
    visit.Fatal around.environment c ↔
      visit.PathHazard around.environment .includeFile v c := by
  obtain ⟨block, word, assigned, spelled, given⟩ := include?_eq_some included
  rw [Visit.fatal_iff_of_assignment assigned spelled, block]
  constructor
  · rintro ⟨-, -, ⟨-, unreadable⟩ | ⟨k, same, hazard⟩⟩
    · exact absurd unreadable (Keyword.not_unreadable (by decide))
    · cases same
      exact hazard
  · intro hazard
    exact ⟨rfl, given, .inr ⟨_, rfl, hazard⟩⟩

section Includes

variable {env : Environment} {p p' : Progress} {path : Path}

theorem crashes_includedPath_iff : Crashes c (p.includedPath env here v) ↔ env.Homeless v c := by
  rw [Environment.homeless_iff]
  unfold includedPath expandPath
  rw [crashes_map_iff]
  dsimp only
  cases Environment.remaining? (env.expand v) with
  | some name => simp
  | none => cases env.expandHome (Path.ofText (env.expand v)) <;> simp [eq_comm]

/-- A path that is named is seen from the file with the include. -/
theorem includedPath_eq_some_iff :
    p.includedPath env here v = .ok (some path, p') ↔
      ∃ named, env.Names v named ∧ path = (Path.ofText here.file).parent ++ named ∧ p' = p := by
  unfold includedPath expandPath Environment.Names
  dsimp only
  cases Environment.remaining? (env.expand v) with
  | some name => simp [Except.map]
  | none =>
      cases env.expandHome (Path.ofText (env.expand v)) with
      | error reason => simp [Except.map, crash]
      | ok named => simp [Except.map, eq_comm]

theorem crashes_openInclude_iff {limits : Limits} :
    Crashes c (p.openInclude limits here path) ↔
      c = .file .badPath ∧ p.files.locate path = .error .badPath := by
  rw [← FileSystem.readText_eq_badPath_iff]
  unfold openInclude
  cases read : p.files.readText path with
  | error reason => cases reason <;> simp [eq_comm]
  | ok text =>
      dsimp only
      split <;> simp

theorem crashes_refuseInclude_iff :
    Crashes c (refuseInclude around here v p) ↔ around.environment.Homeless v c := by
  refine (crashes_bind_iff_left fun told => ?_).trans crashes_includedPath_iff
  split <;> simp

end Includes

/-- An include that is followed crashes if it is fatal, or if the file that it opens has a fatal
line. -/
theorem crashes_followInclude_iff {read : Text → List Line → Progress → Except Stop Progress}
    {visits : Text → List Line → Progress → List Visit}
    (inside : ∀ file lines p, Crashes c (read file lines p) ↔
      ∃ visit ∈ visits file lines p, visit.Fatal around.environment c)
    (room : visit.room ≠ 0) :
    Crashes c (followInclude around read visit.here v visit.before) ↔
      visit.PathHazard around.environment .includeFile v c ∨
        ∃ inner ∈ includeVisits around visits visit.here v visit.before,
          inner.Fatal around.environment c := by
  unfold followInclude includeVisits
  rw [crashes_bind_iff, crashes_includedPath_iff, Visit.pathHazard_include_iff, or_assoc]
  refine or_congr_right ?_
  -- Both sides depend on what path is named, if any.
  have nameless (none : ∀ path p', visit.before.includedPath around.environment visit.here v ≠
      .ok (some path, p')) (path : Path) : ¬around.environment.Names v path :=
    fun names => none _ _ (includedPath_eq_some_iff.2 ⟨path, names, rfl, rfl⟩)
  cases told : visit.before.includedPath around.environment visit.here v with
  | error stop => simp [nameless (by simp [told])]
  | ok told' =>
      obtain ⟨path?, p'⟩ := told'
      cases path? with
      | none => simp [nameless (by simp [told])]
      | some path =>
          obtain ⟨named, names, rfl, rfl⟩ := includedPath_eq_some_iff.1 told
          have only (other : Path) : around.environment.Names v other ↔ other = named := by
            constructor
            · intro names'
              exact Except.ok.inj (names'.2.symm.trans names.2)
            · rintro rfl
              exact names
          simp only [only, exists_eq_left, room, ne_eq, not_false_eq_true, true_and,
            Except.ok.injEq, exists_eq_left', crashes_bind_iff, crashes_openInclude_iff]
          refine or_congr_right ?_
          cases opened : visit.before.openInclude around.limits visit.here
              ((Path.ofText visit.here.file).parent ++ named) with
          | error stop => simp
          | ok opened' =>
              obtain ⟨lines?, p'⟩ := opened'
              cases lines? with
              | none => simp
              | some lines => simp [inside]

/-! ## Files -/

/-- Lines crash if and only if one of them that is come to is fatal. -/
theorem crashes_readLines_iff
    {includeFile : Position → Text → Progress → Except Stop Progress}
    {includeVisits : Position → Text → Progress → List Visit} {room : Nat} {file : Text}
    (includes : ∀ visit : Visit, visit.room = room → ∀ v,
      visit.before.include? visit.line = some v →
        (Crashes c (includeFile visit.here v visit.before) ↔ visit.Fatal around.environment c ∨
          ∃ inner ∈ includeVisits visit.here v visit.before, inner.Fatal around.environment c))
    {number : Nat} {lines : List Line} {p : Progress} :
    Crashes c (readLines around includeFile file number lines p) ↔
      ∃ visit ∈ lineVisits around includeFile includeVisits room file number lines p,
        visit.Fatal around.environment c := by
  induction lines generalizing number p with
  | nil => simp [readLines, lineVisits]
  | cons line rest ih =>
      unfold readLines lineVisits
      simp only [List.exists_mem_cons_iff, List.mem_append, or_and_right, exists_or, ← or_assoc,
        crashes_bind_iff]
      refine or_congr ?_ ?_
      · cases included : p.include? line with
        | none =>
            have first : Crashes c (p.readLine around includeFile ⟨file, number⟩ line) ↔
                Visit.Fatal around.environment ⟨⟨file, number⟩, line, room, p⟩ c :=
              crashes_readLine_iff ⟨⟨file, number⟩, line, room, p⟩ included
            simpa using first
        | some v =>
            rw [readLine_of_include included]
            exact includes ⟨⟨file, number⟩, line, room, p⟩ rfl v included
      · cases p.readLine around includeFile ⟨file, number⟩ line with
        | error stop => simp
        | ok p₁ => simp [ih]

theorem not_crashes_endFile {p : Progress} {file : Text} : ¬Crashes c (p.endFile file) := by
  unfold endFile
  split <;> simp

theorem crashes_readAll_iff {includeFile : Position → Text → Progress → Except Stop Progress}
    {file : Text} {lines : List Line} {p : Progress} :
    Crashes c (readAll around includeFile file lines p) ↔
      Crashes c (readLines around includeFile file 1 lines p) :=
  crashes_bind_iff_left fun _ => not_crashes_endFile

/-- A file crashes if and only if a line that is come to is fatal. -/
theorem crashes_readFile_iff {depth : Nat} {file : Text} {lines : List Line} {p : Progress} :
    Crashes c (readFile around depth file lines p) ↔
      ∃ visit ∈ visits around depth file lines p, visit.Fatal around.environment c := by
  induction depth generalizing file lines p with
  | zero =>
      refine crashes_readAll_iff.trans (crashes_readLines_iff fun visit room v included => ?_)
      rw [fatal_include_iff included, Visit.pathHazard_include_iff, crashes_refuseInclude_iff]
      simp [room]
  | succ depth ih =>
      refine crashes_readAll_iff.trans (crashes_readLines_iff fun visit room v included => ?_)
      rw [fatal_include_iff included]
      exact crashes_followInclude_iff (fun _ _ _ => ih) (by simp [room])

end Progress

namespace Loaded

variable {text file : Text} {before : Loaded} {files : FileSystem} {log : EventLog}

theorem not_crashes_finish {p : Progress} : ¬Crashes c (p.finish file) := by
  unfold Progress.finish
  split
  · exact not_crashes_ok
  · exact not_crashes_ok
  · rintro ⟨p, impossible⟩
    cases impossible

/-- A load crashes if and only if it comes to a fatal line. -/
theorem loadText_crash_iff :
    (before.loadText around text file files log).fault = some (.crash c) ↔
      ∃ visit ∈ before.visits around text file files log, visit.Fatal around.environment c := by
  unfold visits
  cases encoded : Encoding.lines text file around.limits.functionName with
  | error error => simp [loadText, encoded]
  | ok lines =>
      have root : Crashes c (before.readRoot around file lines files log) ↔
          Crashes c (Progress.readFile around around.limits.includeDepth file lines
            (before.begin file files log)) :=
        crashes_bind_iff_left fun _ => not_crashes_finish
      rw [← Progress.crashes_readFile_iff, ← root, loadText_of_lines encoded]
      cases before.readRoot around file lines files log with
      | ok p => simp
      | error stop =>
          obtain ⟨fault, p⟩ := stop
          cases fault <;> simp [Crashes]

end Loaded

end Ebrc
