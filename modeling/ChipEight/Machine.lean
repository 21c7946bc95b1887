import ChipEight.CallStack
import ChipEight.Display
import ChipEight.Flow
import ChipEight.Keypad
import ChipEight.Memory
import ChipEight.RandomSource
import ChipEight.Registers
import ChipEight.Timer

/-! The state of the machine, how it starts, and what reaches it from outside: programs,
resets and keys.
-/

namespace ChipEight

/-- A program with its name. -/
structure Rom where
  name : String
  data : Array UInt8
  deriving DecidableEq, Repr

/-- The complete state of the machine. -/
structure Machine where
  /-- The name of the loaded program. -/
  name : String := ""
  /-- The opcode that was fetched last. -/
  opcode : Opcode := 0
  memory : Memory := Memory.image #[]
  registers : Registers := {}
  /-- The index register I; memory is addressed by its twelve lowest bits. -/
  index : UInt16 := 0
  /-- The address of the next instruction. -/
  pc : Nat := programStart
  stack : CallStack := {}
  delay : Timer := {}
  /-- The tone sounds as long as this timer runs. -/
  sound : Timer := {}
  display : Display := {}
  keypad : Keypad Register := {}
  random : RandomSource
  /-- The program that was loaded last, kept for resets. -/
  program : Array UInt8 := #[]

namespace Machine

/-- The machine right after it was switched on. -/
def powerOn (random : RandomSource) : Machine :=
  { random }

/-- The machine waits for a key press. -/
def isPaused (m : Machine) : Bool :=
  m.keypad.isWaiting

/-- The tone sounds. -/
def toneActive (m : Machine) : Bool :=
  m.sound.isActive

/-- Put a program into memory and keep it for resets. Nothing else changes: what an earlier,
longer program left behind it stays.
-/
def loadProgram (m : Machine) (data : Array UInt8) : Except LoadError Machine :=
  if programCapacity < data.size then
    .error (.tooLarge data.size programCapacity)
  else
    .ok { m with memory := m.memory.withProgram data, program := data }

/-- Load a program and take over its name. -/
def loadRom (m : Machine) (rom : Rom) : Except LoadError Machine :=
  match m.loadProgram rom.data with
  | .error e => .error e
  | .ok loaded => .ok { loaded with name := rom.name }

/-- A machine that was just switched on, with a program loaded. -/
def start (rom : Rom) (random : RandomSource) : Except LoadError Machine :=
  (powerOn random).loadRom rom

/-- Put the digit glyphs back to their place. -/
def loadGlyphs (m : Machine) : Machine :=
  { m with memory := m.memory.withGlyphs }

/-- Start over with the same program and name; the random source goes on where it is. -/
def reset (m : Machine) : Machine :=
  { m with
    opcode := 0
    memory := Memory.image m.program
    registers := {}
    index := 0
    pc := programStart
    stack := {}
    delay := {}
    sound := {}
    display := m.display.clear
    keypad := {} }

/-- Press or release a key without answering a prompt. -/
def setKey (m : Machine) (key : Key) (down : Bool) : Machine :=
  { m with keypad := m.keypad.setKey key down }

/-- Deliver a key press: if a prompt waits, its register takes the number of the key. -/
def pressKey (m : Machine) (key : Nat) : Machine :=
  match m.keypad.press key with
  | (none, keypad) => { m with keypad }
  | (some press, keypad) =>
    { m with registers := m.registers.set press.asked (UInt8.ofNat press.key), keypad }

/-- Loading a program is refused exactly if it is longer than the memory behind its start. -/
theorem loadProgram_eq (m : Machine) (data : Array UInt8)
    : m.loadProgram data
      = if data.size ≤ programCapacity then
          .ok { m with memory := m.memory.withProgram data, program := data }
        else
          .error (.tooLarge data.size programCapacity) := by
  unfold loadProgram
  split
  · next long => rw [if_neg (by omega)]
  · next fits => rw [if_pos (by omega)]

/-- Loading a named program is loading its bytes, with the name taken over. -/
theorem loadRom_eq (m : Machine) (rom : Rom)
    : m.loadRom rom
      = if rom.data.size ≤ programCapacity then
          .ok
            { m with
              name := rom.name
              memory := m.memory.withProgram rom.data
              program := rom.data }
        else
          .error (.tooLarge rom.data.size programCapacity) := by
  unfold loadRom
  rw [loadProgram_eq]
  by_cases fits : rom.data.size ≤ programCapacity
  · simp only [if_pos fits]
  · simp only [if_neg fits]

/-- A key press touches nothing but the registers and the keypad. -/
theorem pressKey_eq (m : Machine) (key : Nat)
    : ∃ registers keypad, m.pressKey key = { m with registers, keypad } := by
  unfold pressKey
  split
  · exact ⟨m.registers, _, rfl⟩
  · exact ⟨_, _, rfl⟩

end Machine

end ChipEight
