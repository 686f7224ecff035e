import Ebrc.Proofs.Script

/-!
# Scripts inside programs

The scan for the other end of a block passes over the lines of a script as a whole, in either
direction and at any depth. So the block that surrounds a script is found to end, or to start, right
beside the script's lines.
-/

namespace Ebrc

namespace Script

/-- A forward scan passes over a script. -/
theorem scan_toProgram_append (script : Script) (nest : Nat) (after : Program) :
    Program.scan Instruction.isOpening Instruction.isClosing nest (script.toProgram ++ after) =
      (Program.scan Instruction.isOpening Instruction.isClosing nest after).map
        (· + script.toProgram.length) := by
  induction script generalizing nest after with
  | done => simp [toProgram]
  | command template rest restIH =>
      simp [toProgram, Program.scan, Instruction.isBetween, Instruction.isOpening,
        Instruction.isClosing, restIH, Function.comp_def, Nat.add_assoc]
  | loop count body rest bodyIH restIH | branch onOk body rest bodyIH restIH
  | whileBlock onOk body rest bodyIH restIH | untilBlock onOk body rest bodyIH restIH =>
      simp [toProgram, Program.scan, Instruction.isBetween, Instruction.isOpening,
        Instruction.isClosing, bodyIH, restIH, Function.comp_def]
      congr 1
      funext position
      omega
  | choice onOk body otherwise rest bodyIH otherwiseIH restIH =>
      simp [toProgram, Program.scan, Instruction.isBetween, Instruction.isOpening,
        Instruction.isClosing, bodyIH, otherwiseIH, restIH, Function.comp_def]
      congr 1
      funext position
      omega

/-- A backward scan passes over a script. -/
theorem scan_reverse_toProgram_append (script : Script) (nest : Nat) (before : Program) :
    Program.scan Instruction.isClosing Instruction.isOpening nest
        (script.toProgram.reverse ++ before) =
      (Program.scan Instruction.isClosing Instruction.isOpening nest before).map
        (· + script.toProgram.length) := by
  induction script generalizing nest before with
  | done => simp [toProgram]
  | command template rest restIH =>
      simp [toProgram, Program.scan, Instruction.isBetween, Instruction.isOpening,
        Instruction.isClosing, restIH, Function.comp_def]
      congr 1
      funext position
      omega
  | loop count body rest bodyIH restIH | branch onOk body rest bodyIH restIH
  | whileBlock onOk body rest bodyIH restIH | untilBlock onOk body rest bodyIH restIH =>
      simp [toProgram, Program.scan, Instruction.isBetween, Instruction.isOpening,
        Instruction.isClosing, bodyIH, restIH, Function.comp_def]
      congr 1
      funext position
      omega
  | choice onOk body otherwise rest bodyIH otherwiseIH restIH =>
      simp [toProgram, Program.scan, Instruction.isBetween, Instruction.isOpening,
        Instruction.isClosing, bodyIH, otherwiseIH, restIH, Function.comp_def]
      congr 1
      funext position
      omega

variable {code before after : Program}

theorem line_of_eq {i : Instruction} {position : Nat} (layout : code = before ++ i :: after)
    (here : position = before.length) : code[position]? = some i := by
  simp [layout, here]

/-- A block that starts with a script ends right behind it. -/
theorem blockEnd?_of_eq (script : Script) {mark : Instruction}
    (layout : code = before ++ (script.toProgram ++ mark :: after))
    (ends : mark = .closing ∨ mark = .between) :
    code.blockEnd? before.length = some (before.length + script.toProgram.length) := by
  have stop : Program.scan Instruction.isOpening Instruction.isClosing 0 (mark :: after) =
      some 0 := by
    rcases ends with rfl | rfl <;> rfl
  simp [Program.blockEnd?, layout, scan_toProgram_append, stop]

/-- A block that ends with a script starts right before it. -/
theorem blockStart?_of_eq (script : Script) {block : Block}
    (layout : code = before ++ .opening block :: (script.toProgram ++ after)) :
    code.blockStart? (before.length + 1 + script.toProgram.length) = some before.length := by
  have front : code.take (before.length + 1 + script.toProgram.length) =
      before ++ .opening block :: script.toProgram := by
    rw [layout, Nat.add_assoc, List.take_length_add_append, Nat.add_comm 1,
      List.take_succ_cons, List.take_left]
  have start : Program.scan Instruction.isClosing Instruction.isOpening 0
      (.opening block :: before.reverse) = some 0 := rfl
  simp only [Program.blockStart?, front, List.reverse_append, List.reverse_cons,
    List.append_assoc, List.singleton_append, scan_reverse_toProgram_append, start]
  simp

/-- A block that stands in a body, with its first and its last line, each of which is found from
the other. -/
structure BlockAt (code : Program) (block : Block) (position stop : Nat) : Prop where
  opens : code[position]? = some (.opening block)
  ends : code[stop]? = some .closing
  finds_end : code.blockEnd? (position + 1) = some stop
  finds_start : code.blockStart? stop = some position

theorem blockAt_of_eq (script : Script) {block : Block}
    (layout : code = before ++ .opening block :: (script.toProgram ++ .closing :: after)) :
    BlockAt code block before.length (before.length + 1 + script.toProgram.length) where
  opens := line_of_eq layout rfl
  ends := by
    have inner : code = (before ++ .opening block :: script.toProgram) ++ .closing :: after := by
      simp [layout]
    refine line_of_eq inner ?_
    simp only [List.length_append, List.length_cons]
    omega
  finds_end := by
    have inner : code = (before ++ [.opening block]) ++ (script.toProgram ++ .closing :: after) := by
      simp [layout]
    simpa using blockEnd?_of_eq script inner (.inl rfl)
  finds_start := blockStart?_of_eq script layout

/-- An if block with an else: both branches end at the closing line, the first one by way of the
else. -/
structure ChoiceAt (code : Program) (onOk : Bool) (position middle stop : Nat) : Prop where
  opens : code[position]? = some (.opening (.branch onOk))
  divides : code[middle]? = some .between
  ends : code[stop]? = some .closing
  finds_else : code.blockEnd? (position + 1) = some middle
  finds_end : code.blockEnd? (middle + 1) = some stop

theorem choiceAt_of_eq (body otherwise : Script) {onOk : Bool}
    (layout : code = before ++ .opening (.branch onOk) ::
      (body.toProgram ++ .between :: (otherwise.toProgram ++ .closing :: after))) :
    ChoiceAt code onOk before.length (before.length + 1 + body.toProgram.length)
      (before.length + 1 + body.toProgram.length + 1 + otherwise.toProgram.length) where
  opens := line_of_eq layout rfl
  divides := by
    have inner : code = (before ++ .opening (.branch onOk) :: body.toProgram) ++
        .between :: (otherwise.toProgram ++ .closing :: after) := by
      simp [layout]
    refine line_of_eq inner ?_
    simp only [List.length_append, List.length_cons]
    omega
  ends := by
    have inner : code = (before ++ .opening (.branch onOk) :: (body.toProgram ++
        .between :: otherwise.toProgram)) ++ .closing :: after := by
      simp [layout]
    refine line_of_eq inner ?_
    simp only [List.length_append, List.length_cons]
    omega
  finds_else := by
    have inner : code = (before ++ [.opening (.branch onOk)]) ++ (body.toProgram ++
        .between :: (otherwise.toProgram ++ .closing :: after)) := by
      simp [layout]
    simpa using blockEnd?_of_eq body inner (.inr rfl)
  finds_end := by
    have inner : code = (before ++ .opening (.branch onOk) :: (body.toProgram ++ [.between])) ++
        (otherwise.toProgram ++ .closing :: after) := by
      simp [layout]
    have length : (before ++ Instruction.opening (.branch onOk) ::
        (body.toProgram ++ [.between])).length = before.length + 1 + body.toProgram.length + 1 := by
      simp only [List.length_append, List.length_cons, List.length_nil]
      omega
    rw [← length]
    exact blockEnd?_of_eq otherwise inner (.inl rfl)

end Script

end Ebrc
