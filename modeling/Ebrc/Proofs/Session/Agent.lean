import Ebrc.Proofs.Call.Settings
import Ebrc.Proofs.Load.Failure

/-!
# The selected user agent

A session notes down which of the loaded user agents is selected, by its number and by its name.
Functions select agents that there are, and a reload that succeeds selects the default one. Other
loads replace the agents as well, and leave the selection as it is: it goes wrong there unless the
agent that is selected is loaded again with its number. The default agent always is.
-/

namespace Ebrc

/-! ## Selections -/

/-- One of these agents is selected, by its number and by its name. -/
structure Settings.Selects (settings : Settings) (agents : List Text) : Prop where
  index : 0 ≤ settings.agentIndex ∧ settings.agentIndex < agents.length
  agent : settings.currentAgent = agents[settings.agentIndex.toNat]?

instance {settings : Settings} {agents : List Text} : Decidable (settings.Selects agents) :=
  decidable_of_iff
    ((0 ≤ settings.agentIndex ∧ settings.agentIndex < agents.length) ∧
      settings.currentAgent = agents[settings.agentIndex.toNat]?)
    ⟨fun ⟨index, agent⟩ => ⟨index, agent⟩, fun ⟨index, agent⟩ => ⟨index, agent⟩⟩

namespace Settings.Selects

variable {settings : Settings} {agents agents' : List Text}

/-- Other agents are selected from if and only if they agree on the one with the number. -/
theorem iff_of_selects (selects : settings.Selects agents) : settings.Selects agents' ↔
    agents'[settings.agentIndex.toNat]? = agents[settings.agentIndex.toNat]? := by
  constructor
  · intro selects'
    rw [← selects.agent, selects'.agent]
  · intro same
    have among := selects.index
    have inside : settings.agentIndex.toNat < agents.length := by omega
    rw [List.getElem?_eq_getElem inside] at same
    have inside' := (List.getElem?_eq_some_iff.1 same).1
    exact ⟨by omega, by rw [selects.agent, same, List.getElem?_eq_getElem inside]⟩

/-- A command that changes settings selects an agent that there is, if it selects any. -/
theorem of_apply {settings' : Settings} {command : SettingsCommand}
    (changed : command.apply agents settings = .ok (some settings'))
    (selects : settings.Selects agents) : settings'.Selects agents := by
  cases command with
  | toggle which argument =>
      obtain ⟨on, -, rfl⟩ := Option.map_eq_some_iff.1 (Except.ok.inj changed)
      cases which <;> exact ⟨selects.index, selects.agent⟩
  | debugLevel argument =>
      obtain ⟨n?, -, changed⟩ := exists_of_bind_eq_ok changed
      cases n? with
      | none => cases changed
      | some n =>
          dsimp only at changed
          split at changed
          · cases changed
            exact ⟨selects.index, selects.agent⟩
          · cases changed
  | userAgent argument =>
      obtain ⟨n?, -, changed⟩ := exists_of_bind_eq_ok changed
      cases n? with
      | none => cases changed
      | some n =>
          obtain ⟨agent, there, rfl⟩ := Option.map_eq_some_iff.1 (Except.ok.inj changed)
          have inside := (List.getElem?_eq_some_iff.1 there).1
          exact ⟨⟨Int.natCast_nonneg n, Int.ofNat_lt.2 inside⟩, there.symm⟩

theorem change (selects : settings.Selects agents) (change : Change) :
    (change.apply agents settings).Selects agents := by
  unfold Change.apply
  split
  · rename_i settings' changed
    exact selects.of_apply changed
  · exact selects

theorem replay (selects : settings.Selects agents) (changes : List Change) :
    (settings.replay agents changes).Selects agents := by
  induction changes generalizing settings with
  | nil => exact selects
  | cons change _ ih => exact ih (selects.change change)

end Settings.Selects

/-! ## Sessions -/

namespace Session

variable {η : Type} {s s' s₁ : Session η} {path? : Option Text} {line : Text}

/-- The user agent that is selected is one of those that are loaded. -/
def AgentSelected (s : Session η) : Prop := s.settings.Selects s.loaded.agents

instance : Decidable s.AgentSelected := inferInstanceAs (Decidable (s.settings.Selects _))

/-- The default user agent is selected. -/
def DefaultSelected (s : Session η) : Prop := s.AgentSelected ∧ s.settings.agentIndex = 0

/-- Something that is done with a session. -/
inductive Act where
  | reload (path? : Option Text)
  | loadText (text file : Text)
  | run (line : Text)
  /-- Run the function for after a load. -/
  | init
  deriving Repr, DecidableEq

/-- The session after an act, however it ends, if it comes to an end. -/
def Act.perform (s : Session η) : Act → Option (Session η)
  | reload path? => some (s.reload path?).2
  | loadText text file => some (s.loadText text file).2
  | run line => (s.runFunction line).map (·.2)
  | init => s.runInit.map (·.2)

/-- Does the act load something and leave the selection as it is? -/
def Act.LeavesSelection (s : Session η) : Act → Prop
  | reload path? => (s.reload path?).1 ≠ none
  | loadText _ _ => True
  | run _ | init => False

/-- One act, with the session before and after it. -/
structure Step (η : Type) where
  before : Session η
  act : Act
  after : Session η

/-- Is the agent with the number of the one that is selected the same before and after a step? -/
def Step.KeepsAgent (step : Step η) : Prop :=
  step.after.loaded.agents[step.before.settings.agentIndex.toNat]? =
    step.before.loaded.agents[step.before.settings.agentIndex.toNat]?

/-- Steps that can be made one after the other, from a session on. -/
inductive Steps : Session η → List (Step η) → Prop where
  | nil (s : Session η) : Steps s []
  | cons {s s' : Session η} {act : Act} {steps : List (Step η)}
      (performed : act.perform s = some s') (later : Steps s' steps) :
      Steps s (⟨s, act, s'⟩ :: steps)

/-! ### Single steps -/

/-- A reload fails before anything is loaded, or loads something and selects the default agent if
it succeeds. -/
theorem reload_cases (s : Session η) (path? : Option Text) :
    (∃ c, s.reload path? = (some (.crash c), s)) ∨
      (s.reload path?).2.loaded.DefaultFirst s.loaded.defaultAgent ∧
        (s.reload path?).2.settings = match (s.reload path?).1 with
          | none =>
            { s.settings with
              currentAgent := (s.reload path?).2.loaded.agents.head?, agentIndex := 0 }
          | some _ => s.settings := by
  unfold reload
  dsimp only
  split
  · exact .inl ⟨_, rfl⟩
  · refine .inr ?_
    split <;> exact ⟨Loaded.defaultFirst_load, rfl⟩

/-- After a reload that succeeds the default agent is selected. -/
theorem defaultSelected_reload (succeeded : (s.reload path?).1 = none) :
    (s.reload path?).2.DefaultSelected := by
  rcases s.reload_cases path? with ⟨c, failed⟩ | ⟨⟨-, first⟩, settings⟩
  · rw [failed] at succeeded
    contradiction
  rw [succeeded] at settings
  rw [DefaultSelected, AgentSelected, settings]
  refine ⟨⟨⟨Int.le_refl 0, ?_⟩, ?_⟩, rfl⟩
  · exact Int.natCast_pos.2 (List.length_pos_of_mem (List.mem_of_head? first))
  · exact List.head?_eq_getElem?

/-- A call leaves what is loaded, and selects an agent that there is, if it selects any. -/
theorem call_selects {result : Except Crash CallResult}
    (ended : s.call line = some (result, s')) :
    s'.loaded = s.loaded ∧ (s.AgentSelected → s'.AgentSelected) := by
  obtain ⟨⟨result', r⟩, called, after⟩ := Option.map_eq_some_iff.1 ended
  obtain ⟨changes, -, settings⟩ := CallContext.call_history called
  cases after
  refine ⟨rfl, fun selected => ?_⟩
  rw [AgentSelected, afterRun, settings]
  exact selected.replay _

theorem runFunction_selects {result : Except Crash CallResult}
    (ended : s.runFunction line = some (result, s')) :
    s'.loaded = s.loaded ∧ (s.AgentSelected → s'.AgentSelected) := by
  have called : { s with interrupted := false }.call line = some (result, s') := ended
  have selects := call_selects called
  exact selects

theorem runInit_selects {result : Except Crash (Option CallResult)}
    (ended : s.runInit = some (result, s')) :
    s'.loaded = s.loaded ∧ (s.AgentSelected → s'.AgentSelected) := by
  unfold runInit at ended
  split at ended
  · cases ended
    exact ⟨rfl, id⟩
  · cases ended
    exact ⟨rfl, id⟩
  · obtain ⟨⟨result', s₁⟩, called, after⟩ := Option.map_eq_some_iff.1 ended
    cases after
    exact runFunction_selects called

/-- An act leaves the default agent the first one. -/
theorem Act.defaultFirst {act : Act} {agent : Text} (performed : act.perform s = some s')
    (first : s.loaded.DefaultFirst agent) : s'.loaded.DefaultFirst agent := by
  cases act with
  | reload path? =>
      cases performed
      rcases s.reload_cases path? with ⟨c, failed⟩ | ⟨again, -⟩
      · rw [failed]
        exact first
      · exact first.1 ▸ again
  | loadText text file =>
      cases performed
      exact first.1 ▸ Loaded.defaultFirst_loadText
  | run line =>
      obtain ⟨⟨result, s₁⟩, called, rfl⟩ := Option.map_eq_some_iff.1 performed
      exact (runFunction_selects called).1 ▸ first
  | init =>
      obtain ⟨⟨result, s₁⟩, called, rfl⟩ := Option.map_eq_some_iff.1 performed
      exact (runInit_selects called).1 ▸ first

/-- An act keeps the selection right, unless it leaves the selection as it is and replaces the agent
that is selected. -/
theorem Act.agentSelected_iff {act : Act} (performed : act.perform s = some s')
    (selected : s.AgentSelected) :
    s'.AgentSelected ↔ (act.LeavesSelection s → Step.KeepsAgent ⟨s, act, s'⟩) := by
  have left (settings : s'.settings = s.settings) :
      s'.AgentSelected ↔ Step.KeepsAgent ⟨s, act, s'⟩ := by
    rw [AgentSelected, settings]
    exact selected.iff_of_selects
  cases act with
  | reload path? =>
      cases performed
      cases outcome : (s.reload path?).1 with
      | none => simp [LeavesSelection, outcome, (defaultSelected_reload outcome).1]
      | some fault =>
          simp only [LeavesSelection, outcome, ne_eq, reduceCtorEq, not_false_eq_true,
            forall_const]
          refine left ?_
          rcases s.reload_cases path? with ⟨c, failed⟩ | ⟨-, settings⟩
          · rw [failed]
          · rw [settings, outcome]
  | loadText text file =>
      cases performed
      simpa [LeavesSelection] using left rfl
  | run line =>
      obtain ⟨⟨result, s₁⟩, called, rfl⟩ := Option.map_eq_some_iff.1 performed
      simp [LeavesSelection, (runFunction_selects called).2 selected]
  | init =>
      obtain ⟨⟨result, s₁⟩, called, rfl⟩ := Option.map_eq_some_iff.1 performed
      simp [LeavesSelection, (runInit_selects called).2 selected]

/-! ### Rows of steps -/

variable {steps : List (Step η)}

theorem Steps.performed (row : Steps s steps) :
    ∀ step ∈ steps, step.act.perform step.before = some step.after := by
  induction row with
  | nil => simp
  | cons performed later ih => exact List.forall_mem_cons.2 ⟨performed, ih⟩

theorem Steps.defaultFirst {agent : Text} (row : Steps s steps)
    (first : s.loaded.DefaultFirst agent) :
    ∀ step ∈ steps, step.before.loaded.DefaultFirst agent := by
  induction row with
  | nil => simp
  | cons performed later ih =>
      exact List.forall_mem_cons.2 ⟨first, ih (Act.defaultFirst performed first)⟩

/-- A row of steps keeps the selection right if and only if each step does that leaves the selection
as it is. -/
theorem Steps.agentSelected_iff (row : Steps s steps) (selected : s.AgentSelected) :
    (∀ step ∈ steps, step.after.AgentSelected) ↔
      ∀ step ∈ steps, step.act.LeavesSelection step.before → step.KeepsAgent := by
  induction row with
  | nil => simp
  | cons performed later ih =>
      rw [List.forall_mem_cons, List.forall_mem_cons, Act.agentSelected_iff performed selected]
      refine and_congr_right fun kept => ih ?_
      exact (Act.agentSelected_iff performed selected).2 kept

/-- What becomes of the selection in a row of steps. It is right for as long as no step that leaves
it as it is replaces the agent; the default agent is never replaced, and it is selected again by
every reload that succeeds. -/
structure AgentIsKept (s : Session η) (steps : List (Step η)) : Prop where
  first : s.DefaultSelected
  kept : (∀ step ∈ steps, step.after.AgentSelected) ↔
    ∀ step ∈ steps, step.act.LeavesSelection step.before → step.KeepsAgent
  default : ∀ step ∈ steps, step.before.DefaultSelected → step.after.AgentSelected
  reloaded : ∀ step ∈ steps, ∀ path?, step.act = .reload path? →
    (step.before.reload path?).1 = none → step.after.DefaultSelected

/-- After a reload that succeeds, whatever is loaded and run, the user agent that is selected is one
of those that are loaded, if and only if each load of a text, and each reload that fails, loads the
agent again that is selected. -/
theorem agentIsKept_of_reload (succeeded : (s.reload path?).1 = none)
    (row : Steps (s.reload path?).2 steps) : (s.reload path?).2.AgentIsKept steps where
  first := defaultSelected_reload succeeded
  kept := row.agentSelected_iff (defaultSelected_reload succeeded).1
  default step among selected := by
    have performed := row.performed step among
    rcases s.reload_cases path? with ⟨c, failed⟩ | ⟨first, -⟩
    · rw [failed] at succeeded
      contradiction
    have before := row.defaultFirst first step among
    have after := Act.defaultFirst performed before
    refine (Act.agentSelected_iff performed selected.1).2 fun _ => ?_
    rw [Step.KeepsAgent, selected.2]
    simp only [Int.toNat_zero, ← List.head?_eq_getElem?]
    rw [before.2, after.2]
  reloaded step among path? act reloads := by
    have performed := row.performed step among
    rw [act] at performed
    rw [← Option.some.inj performed]
    exact defaultSelected_reload reloads

/-- A session with an rc file that has a second user agent and a function that selects it. -/
def twoAgents : Session Unit :=
  let text := "agent=b\nfunction:setua\x7b\nua 1\n\x7d\n"
  let bytes : List UInt8 := text.toList.map fun c => c.toNat.toUInt8
  .start {} {} { entries := [([['r']], .file bytes)] } none ()

theorem agentIsKept_twoAgents :
    ∃ steps, steps.length = 2 ∧ (twoAgents.reload (some ['r'])).1 = none ∧
      Steps (twoAgents.reload (some ['r'])).2 steps ∧
      (twoAgents.reload (some ['r'])).2.AgentIsKept steps := by
  have succeeded : (twoAgents.reload (some ['r'])).1 = none := by decide +kernel
  have ends : ((Act.run "setua".toList).perform (twoAgents.reload (some ['r'])).2).isSome := by
    decide +kernel
  obtain ⟨s, ran⟩ := Option.isSome_iff_exists.1 ends
  have again : (Act.reload (some ['r'])).perform s = some (s.reload (some ['r'])).2 := rfl
  have row : Steps (twoAgents.reload (some ['r'])).2 _ := .cons ran (.cons again (.nil _))
  exact ⟨_, rfl, succeeded, row, agentIsKept_of_reload succeeded row⟩

/-- A text that is loaded without agents leaves an agent selected that there is no more. -/
theorem not_agentSelected_loadText :
    ∃ steps, (twoAgents.reload (some ['r'])).1 = none ∧
      Steps (twoAgents.reload (some ['r'])).2 steps ∧
      ∃ step ∈ steps, ¬step.after.AgentSelected := by
  have succeeded : (twoAgents.reload (some ['r'])).1 = none := by decide +kernel
  have lost : ((Act.run "setua".toList).perform (twoAgents.reload (some ['r'])).2).map
      (fun s => decide (s.loadText [] ['t']).2.AgentSelected) = some false := by
    decide +kernel
  obtain ⟨s, ran, unselected⟩ := Option.map_eq_some_iff.1 lost
  have loads : (Act.loadText [] ['t']).perform s = some (s.loadText [] ['t']).2 := rfl
  exact ⟨_, succeeded, .cons ran (.cons loads (.nil _)), _,
    List.mem_cons_of_mem _ (List.mem_cons_self ..), of_decide_eq_false unselected⟩

end Session

end Ebrc
