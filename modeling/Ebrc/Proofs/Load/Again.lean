import Ebrc.Proofs.Load.Failure
import Ebrc.Proofs.Load.Log

/-!
# Loads one after another

A loader is used again and again, and each load leaves something behind: what it has loaded, the
block it stood in when it stopped, the events it has told. The next load starts by forgetting all of
that but the agent used by default. A load that fails or crashes keeps this agent as well. So what
comes of a load does not depend on the loads before it, however they ended: it is what comes of the
same load by a loader that has never been used.
-/

namespace Ebrc

/-- A loader, and how far its last load has come. -/
structure Loader where
  limits : Limits
  progress : Progress

/-- A load that is asked for, of a text at hand or of the file at a path. -/
structure LoadCall where
  environment : Environment
  files : FileSystem
  text? : Option Text
  file : Text

/-- What comes of the load, if this was loaded before. -/
def LoadCall.result (call : LoadCall) (limits : Limits) (before : Loaded) (log : EventLog) :
    LoadResult :=
  match call.text? with
  | some text => before.loadText ⟨limits, call.environment⟩ text call.file call.files log
  | none => before.load ⟨limits, call.environment⟩ call.file call.files log

/-- However a load ends, the agent that is used by default stays the same. -/
theorem LoadCall.defaultAgent_result (call : LoadCall) (limits : Limits) (before : Loaded)
    (log : EventLog) :
    (call.result limits before log).loaded.defaultAgent = before.defaultAgent := by
  unfold result
  cases call.text? with
  | some text => exact Loaded.defaultFirst_loadText.1
  | none => exact Loaded.defaultFirst_load.1

/-- A load that stops at a fault of the configuration leaves nothing loaded. -/
theorem LoadCall.fresh_of_config {call : LoadCall} {limits : Limits} {before : Loaded}
    {log : EventLog} {error : ConfigError}
    (failed : (call.result limits before log).fault = some (.config error)) :
    (call.result limits before log).loaded = .fresh before.defaultAgent := by
  unfold result Loaded.load at failed ⊢
  cases asked : call.text? with
  | some text =>
      rw [asked] at failed
      exact Loaded.fresh_of_config failed
  | none =>
      rw [asked] at failed
      dsimp only at failed ⊢
      cases read : call.files.readText (Path.ofText call.file) with
      | ok text =>
          rw [read] at failed
          exact Loaded.fresh_of_config failed
      | error reason => cases reason <;> rfl

namespace Loader

variable {l l' : Loader} {call : LoadCall} {earlier : EventLog}
variable {environment : Environment} {text file : Text}

/-! ## A loader that is used again -/

/-- The agent that is used by default. -/
def agent (l : Loader) : Text := l.progress.loaded.defaultAgent

/-- A loader that has never been used. -/
def fresh (limits : Limits) (agent : Text) : Loader :=
  ⟨limits, { loaded := .fresh agent, files := {}, log := #[] }⟩

/-- Forget what the last load has left behind. The files are what they are now. -/
def begin (files : FileSystem) (l : Loader) : Loader :=
  { l with
    progress := { l.progress with loaded := l.progress.loaded.reset, block := .none, files } }

/-- Read a text as the root of a load. -/
def readText (environment : Environment) (text file : Text) (l : Loader) :
    Option LoadFault × Loader :=
  match Encoding.lines text file l.limits.functionName with
  | .error error => (some (.config error), l)
  | .ok lines =>
    let start := l.progress.modify fun s => { s with files := s.files ++ [file] }
    match Progress.readFile ⟨l.limits, environment⟩ l.limits.includeDepth file lines start >>=
        (·.finish file) with
    | .ok p => (none, { l with progress := p.tell (p.loaded.report file) })
    | .error ⟨.config error, p⟩ =>
      (some (.config error), { l with progress := p.modify Loaded.reset })
    | .error ⟨.crash crash, p⟩ => (some (.crash crash), { l with progress := p })

/-- Read what a load is asked for. -/
def perform (call : LoadCall) (l : Loader) : Option LoadFault × Loader :=
  match call.text? with
  | some text => l.readText call.environment text call.file
  | none =>
    match call.files.readText (Path.ofText call.file) with
    | .ok text => l.readText call.environment text call.file
    | .error .badPath => (some (.crash (.file .badPath)), l)
    | .error reason => (some (.config ⟨.unreadable reason, some call.file, none⟩), l)

/-- Load. -/
def run (call : LoadCall) (l : Loader) : Option LoadFault × Loader :=
  (l.begin call.files).perform call

/-- Load several times, one time after the other, however the loads end. -/
def runs (calls : List LoadCall) (l : Loader) : Loader :=
  calls.foldl (fun l call => (l.run call).2) l

/-! ## Each load by itself -/

/-- The result of a load by a loader. -/
def result (r : Option LoadFault × Loader) : LoadResult :=
  ⟨r.1, r.2.progress.loaded, r.2.progress.files, r.2.progress.log⟩

theorem result_readText (files : FileSystem) :
    result ((l.begin files).readText environment text file) =
      l.progress.loaded.loadText ⟨l.limits, environment⟩ text file files l.progress.log := by
  have start : (l.begin files).progress.modify (fun s => { s with files := s.files ++ [file] }) =
      l.progress.loaded.begin file files l.progress.log := rfl
  have same : (l.begin files).limits = l.limits := rfl
  unfold readText Loaded.loadText
  rw [start, same]
  dsimp only
  cases Encoding.lines text file l.limits.functionName with
  | error error => rfl
  | ok lines =>
      dsimp only
      cases Progress.readFile ⟨l.limits, environment⟩ l.limits.includeDepth file lines
          (l.progress.loaded.begin file files l.progress.log) >>= (·.finish file) with
      | ok p => rfl
      | error stop =>
          obtain ⟨fault, p⟩ := stop
          cases fault <;> rfl

/-- A loader that is used again loads what a load from its state would. -/
theorem result_run (call : LoadCall) (l : Loader) :
    result (l.run call) = call.result l.limits l.progress.loaded l.progress.log := by
  unfold run perform LoadCall.result Loaded.load
  cases call.text? with
  | some text => exact result_readText call.files
  | none =>
      dsimp only
      cases call.files.readText (Path.ofText call.file) with
      | ok text => exact result_readText call.files
      | error reason => cases reason <;> rfl

/-! ## What a loader keeps -/

theorem limits_readText : (l.readText environment text file).2.limits = l.limits := by
  unfold readText
  split
  · rfl
  · dsimp only
    split <;> rfl

theorem limits_run : (l.run call).2.limits = l.limits := by
  unfold run perform
  split
  · exact limits_readText
  · split
    · exact limits_readText
    · rfl
    · rfl

theorem agent_run : (l.run call).2.agent = l.agent := by
  have same := call.defaultAgent_result l.limits l.progress.loaded l.progress.log
  rwa [← result_run] at same

/-- However its loads end, a loader keeps its limits and its agent. -/
theorem keeps_runs (calls : List LoadCall) (l : Loader) :
    (l.runs calls).limits = l.limits ∧ (l.runs calls).agent = l.agent := by
  induction calls generalizing l with
  | nil => exact ⟨rfl, rfl⟩
  | cons call calls ih =>
      obtain ⟨limits, agent⟩ := ih (l.run call).2
      exact ⟨limits.trans limits_run, agent.trans agent_run⟩

/-! ## What a loader forgets -/

/-- The loader if these events had been told earlier. -/
def after (earlier : EventLog) (l : Loader) : Loader :=
  { l with progress := l.progress.after earlier }

/-- A loader starts a load like one that has never been used, but for the events told before. -/
theorem begin_eq (files : FileSystem) (l : Loader) :
    l.begin files = ((fresh l.limits l.agent).begin files).after l.progress.log := by
  have log : l.progress.log ++ #[] = l.progress.log := Array.append_empty
  simp only [after, begin, fresh, Progress.after, log]
  rfl

theorem readText_after : (l.after earlier).readText environment text file =
    Prod.map id (after earlier) (l.readText environment text file) := by
  have limits : (l.after earlier).limits = l.limits := rfl
  unfold readText
  rw [limits]
  cases Encoding.lines text file l.limits.functionName with
  | error error => rfl
  | ok lines =>
      let start := l.progress.modify fun s => { s with files := s.files ++ [file] }
      have read : Progress.readFile ⟨l.limits, environment⟩ l.limits.includeDepth file lines
          (start.after earlier) >>= (·.finish file) =
            Except.after earlier (Progress.after earlier)
              (Progress.readFile ⟨l.limits, environment⟩ l.limits.includeDepth file lines start >>=
                (·.finish file)) :=
        Progress.readFile_after
      have begun : (l.after earlier).progress.modify
          (fun s => { s with files := s.files ++ [file] }) = start.after earlier := rfl
      dsimp only
      rw [begun, read]
      cases Progress.readFile ⟨l.limits, environment⟩ l.limits.includeDepth file lines start >>=
          (·.finish file) with
      | ok p => exact congrArg (fun p => (none, { l with progress := p })) (Progress.after_tell _)
      | error stop =>
          obtain ⟨fault, p⟩ := stop
          cases fault <;> rfl

theorem perform_after : (l.after earlier).perform call =
    Prod.map id (after earlier) (l.perform call) := by
  unfold perform
  cases call.text? with
  | some text => exact readText_after
  | none =>
      dsimp only
      cases call.files.readText (Path.ofText call.file) with
      | ok text => exact readText_after
      | error reason => cases reason <;> rfl

/-- A load by a loader that has been used is one by a loader that has not, but for the events told
before. -/
theorem run_eq (call : LoadCall) (l : Loader) :
    l.run call = Prod.map id (after l.progress.log) ((fresh l.limits l.agent).run call) := by
  rw [run, begin_eq, perform_after]
  rfl

/-! ## Any history -/

/-- What comes of a load does not depend on the loads before it, however they ended and whatever
they left behind, as long as the limits and the agent used by default are the same: the load stops
for the same reason or succeeds, loads the same, stops in the same block, leaves the same files and
tells the same events. If it stops at a fault of the configuration, nothing is loaded, wherever the
fault lies. -/
theorem load_forgets (l l' : Loader) (limits : l'.limits = l.limits) (agent : l'.agent = l.agent)
    (calls calls' : List LoadCall) (call : LoadCall) :
    ∃ fault loaded block files told,
      (l.runs calls).run call =
          (fault, ⟨l.limits, ⟨loaded, block, files, (l.runs calls).progress.log ++ told⟩⟩) ∧
        (l'.runs calls').run call =
          (fault, ⟨l.limits, ⟨loaded, block, files, (l'.runs calls').progress.log ++ told⟩⟩) ∧
        call.result l.limits (l.runs calls).progress.loaded (l.runs calls).progress.log =
          ⟨fault, loaded, files, (l.runs calls).progress.log ++ told⟩ ∧
        ∀ error, fault = some (.config error) → loaded = .fresh l.agent := by
  obtain ⟨limits₁, agent₁⟩ := keeps_runs calls l
  obtain ⟨limits₂, agent₂⟩ := keeps_runs calls' l'
  have first := run_eq call (l.runs calls)
  have second := run_eq call (l'.runs calls')
  have result := result_run call (l.runs calls)
  have unused : Loader.result ((fresh l.limits l.agent).run call) =
      call.result l.limits (.fresh l.agent) #[] := result_run call (fresh l.limits l.agent)
  have kept : ((fresh l.limits l.agent).run call).2.limits = l.limits := limits_run
  rw [limits₁, agent₁] at first
  rw [limits₂, agent₂, limits, agent] at second
  rw [limits₁, first] at result
  generalize (fresh l.limits l.agent).run call = r at first second result unused kept
  obtain ⟨fault, ⟨limits₃, ⟨loaded, block, files, told⟩⟩⟩ := r
  cases kept
  refine ⟨fault, loaded, block, files, told, first, second, result.symm, fun error failed => ?_⟩
  have failed' : (call.result l.limits (.fresh l.agent) #[]).fault = some (.config error) := by
    rw [← unused]
    exact failed
  have empty := LoadCall.fresh_of_config failed'
  rw [← unused] at empty
  exact empty

/-- A load of a text where there are no files. -/
def loadOf (text : Text) : LoadCall := ⟨{}, {}, some text, ['r']⟩

/-- A loader that stands inside a function that it has begun to load. -/
def stranded : Loader :=
  ⟨{}, { (fresh {} ['a']).progress with
    block := .function (some { name := ['f'], line := 1 }) []
    log := #[.echo ['e']] }⟩

theorem load_forgets_stranded :
    let call := loadOf "nojs=a.b\nfunction:f\x7b\n\x7d\n".toList
    let calls := [loadOf Loaded.squaredAgent, loadOf "mail\x7b\nlogin=b\n".toList]
    ((fresh {} ['a']).run (loadOf Loaded.squaredAgent)).1 = some (.crash .badNumber) ∧
      stranded.limits = (fresh {} ['a']).limits ∧ stranded.agent = (fresh {} ['a']).agent ∧
      ∃ fault loaded block files told,
        ((fresh {} ['a']).runs calls).run call =
            (fault, ⟨{}, ⟨loaded, block, files,
              ((fresh {} ['a']).runs calls).progress.log ++ told⟩⟩) ∧
          (stranded.runs []).run call =
            (fault, ⟨{}, ⟨loaded, block, files, (stranded.runs []).progress.log ++ told⟩⟩) ∧
          call.result {} ((fresh {} ['a']).runs calls).progress.loaded
              ((fresh {} ['a']).runs calls).progress.log =
            ⟨fault, loaded, files, ((fresh {} ['a']).runs calls).progress.log ++ told⟩ ∧
          ∀ error, fault = some (.config error) → loaded = .fresh ['a'] := by
  intro call calls
  have crashed : ((fresh {} ['a']).run (loadOf Loaded.squaredAgent)).1 =
      some (.crash .badNumber) := by decide +kernel
  exact ⟨crashed, rfl, rfl, load_forgets (fresh {} ['a']) stranded rfl rfl calls [] call⟩

end Loader

end Ebrc
