import Ebrc.Proofs.Load.Course
import Ebrc.Proofs.Load.Validity

/-!
# How a load fails

A load that does not succeed stops at a fault of the configuration, and then nothing is loaded, or
it crashes and leaves what it had loaded until then. It crashes at the hazards of keywords only, as
long as the texts that it opens hold no marks: the lines of such texts never close a block that is
no function, and the body of a function can be decoded.
-/

namespace Ebrc

/-! ## What is left at a fault -/

/-- Where a reading stops, this is the agent that is used by default. -/
def StopsWith {α : Type} (agent : Text) (r : Except Stop α) : Prop :=
  ∀ stop, r = .error stop → stop.progress.loaded.defaultAgent = agent

namespace Loaded

variable {around : Surroundings} {text file : Text} {before s : Loaded} {files : FileSystem}
variable {log : EventLog}

/-- A load keeps the agent that is used by default, also where it stops. -/
theorem stopsWith_readRoot {lines : List Line} :
    StopsWith before.defaultAgent (before.readRoot around file lines files log) := by
  intro stop stopped
  obtain ⟨sights, p, reads, agrees⟩ := reads_of_stopped stopped
  rw [agrees.defaultAgent, reads.defaultAgent]
  rfl

/-- A load that stops at a fault of the configuration leaves nothing loaded. -/
theorem fresh_of_config {error : ConfigError}
    (failed : (before.loadText around text file files log).fault = some (.config error)) :
    (before.loadText around text file files log).loaded = fresh before.defaultAgent := by
  cases encoded : Encoding.lines text file around.limits.functionName with
  | error error => rw [loadText, encoded]; rfl
  | ok lines =>
      rw [loadText_of_lines encoded] at failed ⊢
      cases whole : before.readRoot around file lines files log with
      | ok p =>
          rw [whole] at failed
          contradiction
      | error stop =>
          have agent := stopsWith_readRoot stop whole
          obtain ⟨fault, p⟩ := stop
          rw [whole] at failed
          cases fault with
          | crash c => simp at failed
          | config =>
              simp only [reset]
              rw [agent]

/-- The default user agent is the first one. -/
def DefaultFirst (agent : Text) (s : Loaded) : Prop :=
  s.defaultAgent = agent ∧ s.agents.head? = some agent

theorem DefaultFirst.of_reads {sights : List Sight} {p : Progress}
    (reads : Progress.Reads around (before.begin file files log) sights p) :
    p.loaded.DefaultFirst before.defaultAgent := by
  refine ⟨reads.defaultAgent, ?_⟩
  obtain ⟨more, agents⟩ := reads.keeps_agents
  rw [← agents]
  rfl

/-- Whatever comes of a load, the default agent is the first one after it. -/
theorem defaultFirst_loadText :
    (before.loadText around text file files log).loaded.DefaultFirst before.defaultAgent := by
  cases encoded : Encoding.lines text file around.limits.functionName with
  | error error =>
      rw [loadText, encoded]
      exact ⟨rfl, rfl⟩
  | ok lines =>
      rw [loadText_of_lines encoded]
      cases whole : before.readRoot around file lines files log with
      | ok p' =>
          obtain ⟨p, read, finished⟩ := exists_of_bind_eq_ok whole
          obtain ⟨agent, first⟩ := DefaultFirst.of_reads (Progress.reads_of_readFile read)
          simp only [(Progress.finish_eq_ok finished).2]
          split <;> exact ⟨agent, first⟩
      | error stop =>
          obtain ⟨sights, p, reads, agrees⟩ := reads_of_stopped whole
          obtain ⟨agent, first⟩ := DefaultFirst.of_reads reads
          rw [← agrees.defaultAgent] at agent
          obtain ⟨fault, p₁⟩ := stop
          cases fault with
          | config error => exact ⟨agent, by rw [← agent]; rfl⟩
          | crash c => exact ⟨agent, agrees.agents ▸ first⟩

theorem defaultFirst_load :
    (before.load around file files log).loaded.DefaultFirst before.defaultAgent := by
  unfold load
  split
  · exact defaultFirst_loadText
  · exact ⟨rfl, rfl⟩
  · exact ⟨rfl, rfl⟩

end Loaded

/-! ## Texts without marks -/

section Unmarked

variable {around : Surroundings} {limits : Limits} {here : Position} {line : Line}
variable {p p' : Progress} {inner : List (Option Char)}

/-- Lines that are collected fit. -/
theorem Line.Collected.fit {Fit : Line → Prop} {lines : List Line}
    (collected : Line.Collected limits Fit lines inner) : ∀ line ∈ lines, Fit line := by
  induction collected with
  | nil => simp
  | cons fit _ _ ih => exact List.forall_mem_cons.2 ⟨fit, ih⟩

/-- A block of a text without marks has a letter. -/
theorem Line.Encoded.letter (encoded : line.Encoded) (opening : line.head? = some Line.openMark) :
    line.tail.head? ≠ none := by
  rcases encoded with text | header
  · exact absurd opening (Line.isControl_eq_false_iff.1 text).1
  · cases header with
    | close => exact absurd opening (by decide)
    | between => exact absurd opening (by decide)
    | record | test | loop | function => simp [Line.opening]

/-- The block that stands in the place of a function is one. -/
def Progress.Headed (p : Progress) : Prop := ∀ inner, p.block ≠ .function none inner

theorem Reading.headed (reading : Reading around here line p p') (encoded : line.Encoded)
    (headed : p.Headed) : p'.Headed := by
  have stays (same : p'.block = p.block) : p'.Headed := by
    rw [Progress.Headed, same]
    exact headed
  cases reading with
  | void => exact headed
  | aside _ _ aside => exact stays aside.block
  | imapFetch | cacheSize | agent | rule | filterRule | standard => exact stays rfl
  | start outside opening starts =>
      have lettered := encoded.letter opening
      generalize line.tail.head? = letter at starts lettered
      cases starts with
      | letterless => exact absurd rfl lettered
      | _ => exact fun _ impossible => nomatch impossible
  | @keep function _ _ block kept =>
      cases function with
      | none => exact absurd block (headed _)
      | some f => exact fun _ impossible => nomatch impossible
  | _ => exact fun _ impossible => nomatch impossible

theorem Progress.Reads.headed {sights : List Sight} (reads : Progress.Reads around p sights p')
    (encoded : ∀ here line, .line here line ∈ sights → line.Encoded) (headed : p.Headed) :
    p'.Headed := by
  induction reads with
  | nil => exact headed
  | line other read later ih =>
      refine ih (fun here line among => encoded here line (List.mem_cons_of_mem _ among)) ?_
      exact (reading_of_readLine other read).headed (encoded _ _ (List.mem_cons_self ..)) headed
  | passed included later ih =>
      exact ih (fun here line among => encoded here line (List.mem_cons_of_mem _ among)) headed
  | opened included read opens later ih =>
      refine ih (fun here line among => encoded here line ?_) headed
      exact List.mem_cons_of_mem _ (List.mem_cons_of_mem _ among)

end Unmarked

namespace Loaded

variable {around : Surroundings} {text file : Text} {before : Loaded} {files : FileSystem}
variable {log : EventLog} {visit : Visit} {c : Crash}

/-- No line of a text without marks makes a load crash by closing a block. -/
theorem not_closingHazard
    (unmarked : ∀ sight ∈ before.trail around text file files log, sight.Unmarked)
    (among : visit ∈ before.visits around text file files log) : ¬visit.ClosingHazard c := by
  obtain ⟨sights, trail, earlier, later, rfl, reads⟩ := leadsTo_of_mem_visits among
  have encoded (here : Position) (line : Line) (seen : .line here line ∈ earlier) :
      line.Encoded := by
    have onTrail : .line here line ∈ before.trail around text file files log := by
      rw [trail]
      exact List.mem_cons_of_mem _ (List.mem_append_left _ seen)
    obtain ⟨there, opened, lines, inTrail, encoded, lineAmong⟩ := readFrom_of_mem_trail onTrail
    exact Encoding.encoded_of_mem_lines (unmarked _ inTrail) encoded line lineAmong
  have whole : visit.before.Whole around.limits Line.Encoded := by
    refine reads.whole encoded ?_ ?_
    · intro kind impossible
      contradiction
    · intro rule none
      contradiction
  have headed : visit.before.Headed :=
    reads.headed encoded fun _ impossible => nomatch impossible
  intro hazard
  cases hazard with
  | letterless _ block => exact headed _ block
  | body _ block undecoded =>
      obtain ⟨-, -, -, -, -, collected⟩ := (Progress.whole_inside block).1 whole
      obtain ⟨code, decoded⟩ := Line.exists_ofLines fun line among =>
        collected.fit line (List.mem_reverse.1 among)
      rw [decoded] at undecoded
      contradiction

/-- A load of texts without marks crashes if and only if it comes to a line with a hazard. -/
theorem crash_iff_of_unmarked
    (unmarked : ∀ sight ∈ before.trail around text file files log, sight.Unmarked) :
    (before.loadText around text file files log).fault = some (.crash c) ↔
      ∃ visit ∈ before.visits around text file files log, visit.Hazard around.environment c := by
  rw [loadText_crash_iff]
  refine exists_congr fun visit => and_congr_right fun among => or_iff_left ?_
  exact not_closingHazard unmarked among

end Loaded

/-! ## Loads that fail -/

/-- A load that succeeds, or stops at a fault of the configuration and leaves nothing loaded, or
crashes, and then for one of these reasons. -/
structure LoadResult.CleanUnless (before : Loaded) (reason : Crash → Prop)
    (result : LoadResult) : Prop where
  fresh : ∀ error, result.fault = some (.config error) →
    result.loaded = .fresh before.defaultAgent
  crash : ∀ c, result.fault = some (.crash c) ↔ reason c

namespace Loaded

/-- An agent, and a site with an agent whose number is a digit without a value. -/
def squaredAgent : Text := "agent = b\nagentsite = c.d ²\n".toList

end Loaded

end Ebrc
