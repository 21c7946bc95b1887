import ChipEight.Proofs.Bounds
import ChipEight.Proofs.Raw.Instructions

/-! On plain arrays and words every operation goes as on the machine itself, as long as the
bounds are kept: no check fails, and what comes out is the layout of what the machine makes.
-/

namespace ChipEight.Machine

-----------------------------------------------------------------------------------------
-- Steps and ticks
-----------------------------------------------------------------------------------------

/-- An operation on plain arrays and words with the outcome of one on the machine. -/
def outcome {α : Type} (made : Machine × α) : Raw.Machine × α :=
  (made.1.layout, made.2)

/-- Instructions are performed as on the machine, whether they are refused or not. -/
theorem perform?_layout {m : Machine} (inside : m.pc < memorySize) (instruction : Instruction)
    : m.layout.perform? instruction = some (outcome (m.perform instruction)) := by
  rw [Raw.Machine.perform?, execute?_layout inside]
  cases executed : m.execute instruction with
  | error e =>
    rw [perform_of_error executed]
    rfl
  | ok done =>
    have stays : done.machine.pc < memorySize := (execute_sameProgram executed).pc ▸ inside
    rw [perform_of_ok executed]
    simp only [Except.map, Executed.layout, Option.bind_eq_bind, Option.bind_some,
      advance?_layout stays]
    rfl

/-- Every opcode is of a known family, so decoding adds no failure of its own. -/
theorem performOpcode?_layout {m : Machine} (inside : m.pc < memorySize) (opcode : Opcode)
    : m.layout.performOpcode? opcode = some (outcome (m.perform (.decode opcode))) := by
  rw [Raw.Machine.performOpcode?, Raw.decode?_eq]
  exact perform?_layout inside (.decode opcode)

theorem step?_layout {m : Machine} (inside : m.pc < memorySize)
    : m.layout.step? = some (outcome m.step) := by
  rw [Raw.Machine.step?, fetch?_layout inside]
  cases fetched : m.memory.fetch m.pc with
  | error e =>
    rw [step_of_error fetched]
    rfl
  | ok opcode =>
    rw [step_of_ok fetched]
    exact @performOpcode?_layout { m with opcode } inside opcode

/-- Batches go as on the machine, by induction on the steps that are left. -/
theorem batch?_layout {m : Machine} (bounded : m.Bounded) (count : Nat) (drew : Bool)
    : m.layout.batch? count drew = some (outcome (m.batch count drew)) := by
  induction count generalizing m drew with
  | zero => rfl
  | succ count ih =>
    rw [Raw.Machine.batch?, batch, layout_paused]
    split
    · rfl
    · rw [step?_layout bounded.pc]
      have next := bounded.step
      generalize m.step = stepped at next ⊢
      obtain ⟨later, result⟩ := stepped
      cases result with
      | error e => rfl
      | ok request => exact ih next _

theorem countDown_layout (m : Machine) : m.layout.countDown = m.countDown.layout := by
  rw [Raw.Machine.countDown, countDown, layout_paused]
  split <;> rfl

theorem cycle?_layout {m : Machine} (bounded : m.Bounded) (count : Nat)
    : m.layout.cycle? count = some (outcome (m.cycle count)) := by
  rw [Raw.Machine.cycle?, cycle, batch?_layout bounded]
  generalize m.batch count false = batched
  obtain ⟨ran, result⟩ := batched
  cases result with
  | error e => rfl
  | ok redraw =>
    simp only [outcome, Option.bind_eq_bind, Option.bind_some, countDown_layout]
    rfl

-----------------------------------------------------------------------------------------
-- Loading, resets and keys
-----------------------------------------------------------------------------------------

/-- The glyphs fit into memory. -/
theorem loadGlyphs?_layout (m : Machine) : m.layout.loadGlyphs? = some m.loadGlyphs.layout := by
  have copied : Raw.copy? m.layout.memory glyphStart glyphs
      = some m.memory.withGlyphs.cells.toArray :=
    Memory.copy?_cells (by decide)
  simp only [Raw.Machine.loadGlyphs?, copied, Option.bind_eq_bind, Option.bind_some]
  simp only [layout, loadGlyphs, isPaused]

/-- A program that is not refused fits into memory. -/
theorem loadProgram?_layout (m : Machine) (data : Array UInt8)
    : m.layout.loadProgram? data = some ((m.loadProgram data).map layout) := by
  by_cases fits : data.size ≤ programCapacity
  · have copied : Raw.copy? m.layout.memory programStart data.toList
        = some (m.memory.withProgram data).cells.toArray :=
      Memory.copy?_cells (by simp at fits ⊢; omega)
    rw [Raw.Machine.loadProgram?, loadProgram_eq, if_pos fits, if_neg (Nat.not_lt.mpr fits)]
    simp only [copied, Option.bind_eq_bind, Option.bind_some]
    rfl
  · rw [Raw.Machine.loadProgram?, loadProgram_eq, if_neg fits, if_pos (Nat.not_le.mp fits)]
    rfl

theorem loadRom?_layout (m : Machine) (rom : Rom)
    : m.layout.loadRom? rom = some ((m.loadRom rom).map layout) := by
  rw [Raw.Machine.loadRom?, loadProgram?_layout, loadRom]
  cases m.loadProgram rom.data <;> rfl

/-- The screen is blank when the machine is switched on. -/
theorem layout_blank_display : ({} : Display).layout = {} := by
  simp only [Display.layout, Vector.map_replicate, Vector.toArray_replicate]
  rfl

/-- The machine is switched on as it should be. -/
theorem powerOn?_layout (random : RandomSource)
    : Raw.Machine.powerOn? random = some (powerOn random).layout := by
  have blank : ({ random } : Raw.Machine) = layout { random, memory := {} } := by
    simp only [layout, layout_blank_display]
    rfl
  have image : loadGlyphs { random, memory := {} } = powerOn random := by
    simp only [loadGlyphs, powerOn, Memory.image, Memory.withProgram, Memory.writeBlock]
  rw [Raw.Machine.powerOn?, blank, loadGlyphs?_layout, image]

theorem start?_layout (rom : Rom) (random : RandomSource)
    : Raw.Machine.start? rom random = some ((start rom random).map layout) := by
  rw [Raw.Machine.start?, powerOn?_layout]
  exact loadRom?_layout (powerOn random) rom

/-- A reset goes as on the machine, if the kept program fits into memory. -/
theorem reset?_layout {m : Machine} (fits : m.program.size ≤ programCapacity)
    : m.layout.reset? = some m.reset.layout := by
  let blank : Machine := { m with opcode := 0, memory := {} }
  -- Memory is blank between the loop that zeroes it and the copy of the glyphs.
  have zeros : m.layout.memory.map (fun _ => (0 : UInt8)) = ({} : Memory).cells.toArray := by
    apply Array.ext
    · simp [layout]
    · simp [layout]
  have glyphed : Raw.Machine.loadGlyphs?
        { m.layout with opcode := 0, memory := m.layout.memory.map fun _ => 0 }
      = some blank.loadGlyphs.layout := by
    rw [zeros]
    exact loadGlyphs?_layout blank
  have copied : Raw.copy? blank.loadGlyphs.layout.memory programStart m.layout.program.toList
      = some (Memory.image m.program).cells.toArray :=
    Memory.copy?_cells (by simp [layout] at fits ⊢; omega)
  simp only [Raw.Machine.reset?, glyphed, copied, Option.bind_eq_bind, Option.bind_some]
  rw [layout_display, Display.clear_layout]
  simp only [layout, reset, loadGlyphs, blank, isPaused]
  rfl

theorem setKey?_layout (m : Machine) (key : Key) (down : Bool)
    : m.layout.setKey? key.val down = some (m.setKey key down).layout := by
  have stored : Raw.store? m.layout.keypad.held key.val down
      = some (m.keypad.held.set key.val down key.isLt).toArray :=
    Raw.store?_toArray m.keypad.held key.isLt down
  simp only [Raw.Machine.setKey?, stored, Option.bind_eq_bind, Option.bind_some]
  rfl

/-- A key press goes to the register that waits for it, which exists, and ends the pause. -/
theorem pressKey?_layout (m : Machine) (key : Nat)
    : m.layout.pressKey? key = some (m.pressKey key).layout := by
  -- The flag of the pause is read off the prompt, so the keypad is taken apart first.
  obtain ⟨name, opcode, memory, registers, index, pc, stack, delay, sound, display,
    ⟨held, pending⟩, random, program⟩ := m
  cases pending with
  | none => rfl
  | some x =>
    have stored : Raw.store? registers.values.toArray x.val (UInt8.ofNat key)
        = some (registers.set x (UInt8.ofNat key)).values.toArray :=
      Raw.store?_toArray registers.values x.isLt _
    simp only [Raw.Machine.pressKey?, layout, Keypad.layout, Option.map_some, stored,
      Option.bind_eq_bind, Option.bind_some]
    rfl

-----------------------------------------------------------------------------------------
-- Histories
-----------------------------------------------------------------------------------------

/-- Every operation goes as on the machine, as long as the bounds are kept and the coordinates
fit; by cases on the operation.
-/
theorem act?_layout {m : Machine} (bounded : m.Bounded) {action : Action}
    (fits : action.Fits)
    : m.layout.act? action = some (outcome (m.act action)) := by
  cases action with
  | step =>
    rw [Raw.Machine.act?, step?_layout bounded.pc]
    rfl
  | cycle count =>
    rw [Raw.Machine.act?, cycle?_layout bounded]
    rfl
  | perform opcode =>
    rw [Raw.Machine.act?, performOpcode?_layout bounded.pc]
    rfl
  | advance flow =>
    rw [Raw.Machine.act?, advance?_layout bounded.pc]
    rfl
  | loadProgram data =>
    rw [Raw.Machine.act?, loadProgram?_layout, act]
    cases m.loadProgram data <;> rfl
  | loadRom rom =>
    rw [Raw.Machine.act?, loadRom?_layout, act]
    cases m.loadRom rom <;> rfl
  | loadGlyphs =>
    rw [Raw.Machine.act?, loadGlyphs?_layout]
    rfl
  | reset =>
    rw [Raw.Machine.act?, reset?_layout bounded.program]
    rfl
  | setKey key down =>
    rw [Raw.Machine.act?, setKey?_layout]
    rfl
  | pressKey key =>
    rw [Raw.Machine.act?, pressKey?_layout]
    rfl
  | toggle x y =>
    rw [Raw.Machine.act?, layout_display, Display.toggle?_layout]
    rfl
  | drawSprite x y rows =>
    rw [Raw.Machine.act?, layout_display, Display.drawSprite?_layout m.display fits]
    rfl
  | clear =>
    rw [Raw.Machine.act?, layout_display, Display.clear_layout]
    rfl
  | present => rfl

/-- Every history goes as on the machine, by induction on the history. -/
theorem run?_layout {m : Machine} (bounded : m.Bounded) {history : List Action}
    (fits : ∀ action ∈ history, action.Fits)
    : m.layout.run? history = some (outcome (m.run history)) := by
  induction history generalizing m with
  | nil => rfl
  | cons action rest ih =>
    have later := ih (bounded.act action)
      (fun action member => fits action (List.mem_cons_of_mem _ member))
    rw [Raw.Machine.run?, act?_layout bounded (fits action List.mem_cons_self)]
    simp only [outcome, Option.bind_eq_bind, Option.bind_some, later]
    rfl

end ChipEight.Machine
