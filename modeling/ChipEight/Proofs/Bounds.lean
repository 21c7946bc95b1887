import ChipEight.Proofs.Effects
import ChipEight.Proofs.History
import ChipEight.Proofs.Ticks

/-! The bounds that every reachable machine keeps: the program counter lies inside of memory,
the call stack is at most full and holds return addresses only, and the program kept for
resets fits into memory.
-/

namespace ChipEight.Machine

/-- The bounds of the parts that could leave them. Return addresses are not reduced: those of
calls in the last two cells lie behind the end of memory.
-/
structure Bounded (m : Machine) : Prop where
  pc : m.pc < memorySize
  depth : m.stack.depth ≤ stackCapacity
  entries : ∀ address ∈ m.stack.entries, 2 ≤ address ∧ address ≤ 0x1001
  program : m.program.size ≤ programCapacity

namespace Bounded

variable {m next : Machine}

/-- The bounds depend on the program counter, the call stack and the kept program only. -/
theorem of_eq (h : Bounded m) (pc : next.pc = m.pc) (stack : next.stack = m.stack)
    (program : next.program = m.program)
    : Bounded next where
  pc := pc ▸ h.pc
  depth := stack ▸ h.depth
  entries := stack ▸ h.entries
  program := program ▸ h.program

theorem advance (h : Bounded m) (flow : Flow) : Bounded (m.advance flow) where
  pc := flow.apply_lt m.pc
  depth := h.depth
  entries := h.entries
  program := h.program

/-- An executed instruction keeps the bounds, by the three ways to treat the call stack. -/
theorem execute (h : Bounded m) {instruction : Instruction} {done : Executed}
    (executed : m.execute instruction = .ok done)
    : Bounded done.machine := by
  have same := execute_sameProgram executed
  have counter : done.machine.pc < memorySize := same.pc ▸ h.pc
  have kept : done.machine.program.size ≤ programCapacity := same.program ▸ h.program
  cases execute_stackEffect executed with
  | kept _ _ stack => exact h.of_eq same.pc stack same.program
  | called pushed _ =>
    obtain ⟨room, opened⟩ := CallStack.entries_push pushed
    refine ⟨counter, ?_, ?_, kept⟩
    · simp only [CallStack.depth, opened, List.length_cons]
      exact room
    · intro address member
      rw [opened] at member
      rcases List.mem_cons.mp member with rfl | earlier
      · have := h.pc
        simp only [memorySize, opcodeSize] at this ⊢
        omega
      · exact h.entries address earlier
  | returned popped _ =>
    have closed := CallStack.entries_pop popped
    refine ⟨counter, ?_, ?_, kept⟩
    · have full := h.depth
      simp only [CallStack.depth, closed, List.length_cons] at full
      exact Nat.le_of_succ_le full
    · intro address member
      exact h.entries address (closed ▸ List.mem_cons_of_mem _ member)

/-- Performing an instruction keeps the bounds, whether it is refused or not. -/
theorem perform (h : Bounded m) (instruction : Instruction)
    : Bounded (m.perform instruction).1 := by
  cases executed : m.execute instruction with
  | error e => rwa [perform_of_error executed]
  | ok done =>
    rw [perform_of_ok executed]
    exact (h.execute executed).advance done.flow

theorem step (h : Bounded m) : Bounded m.step.1 := by
  cases fetched : m.memory.fetch m.pc with
  | error e => rwa [step_of_error fetched]
  | ok opcode =>
    rw [step_of_ok fetched]
    have noted : Bounded { m with opcode } := h.of_eq rfl rfl rfl
    exact noted.perform (.decode opcode)

theorem countDown (h : Bounded m) : Bounded m.countDown := by
  obtain ⟨_, _, same⟩ := m.countDown_eq
  rw [same]
  exact h.of_eq rfl rfl rfl

theorem reset (h : Bounded m) : Bounded m.reset where
  pc := by simp [Machine.reset]
  depth := by simp [Machine.reset, CallStack.depth]
  entries := by simp [Machine.reset]
  program := h.program

/-- Loading keeps the bounds, because a program that is too long is refused. -/
theorem act_loadProgram (h : Bounded m) (data : Array UInt8)
    : Bounded (m.act (.loadProgram data)).1 := by
  simp only [Machine.act, loadProgram_eq]
  split
  · next fits => exact ⟨h.pc, h.depth, h.entries, fits⟩
  · exact h

theorem act_loadRom (h : Bounded m) (rom : Rom) : Bounded (m.act (.loadRom rom)).1 := by
  simp only [Machine.act, loadRom_eq]
  split
  · next fits => exact ⟨h.pc, h.depth, h.entries, fits⟩
  · exact h

/-- Every operation keeps the bounds, by cases on the operation. -/
theorem act (h : Bounded m) (action : Action) : Bounded (m.act action).1 := by
  cases action with
  | step => exact h.step
  | cycle count =>
    exact cycle_preserves (fun kept => kept.step) (fun kept => kept.countDown) h count
  | perform opcode => exact h.perform (.decode opcode)
  | advance flow => exact h.advance flow
  | loadProgram data => exact h.act_loadProgram data
  | loadRom rom => exact h.act_loadRom rom
  | reset => exact h.reset
  | pressKey key =>
    obtain ⟨_, _, same⟩ := m.pressKey_eq key
    simp only [Machine.act, same]
    exact h.of_eq rfl rfl rfl
  | loadGlyphs | setKey | toggle | drawSprite | clear | present =>
    apply h.of_eq <;> simp only [Machine.act, withDisplay, Machine.loadGlyphs, Machine.setKey]

/-- The machine keeps the bounds when it is switched on. -/
theorem powerOn (random : RandomSource) : Bounded (powerOn random) where
  pc := by simp [Machine.powerOn]
  depth := by simp [Machine.powerOn, CallStack.depth]
  entries := by simp [Machine.powerOn]
  program := by simp [Machine.powerOn]

end Bounded

/-- Every reachable machine keeps the bounds, by induction on its history. -/
theorem Reachable.bounded {m : Machine} (reachable : m.Reachable) : Bounded m := by
  induction reachable with
  | powerOn random => exact Bounded.powerOn random
  | act _ action ih => exact ih.act action

end ChipEight.Machine
