import ChipEight.Proofs.Raw.Execute

/-! How the machine lies in plain arrays and words, and that reading and writing its parts
needs no check there: registers, memory, the program counter and the call stack.
-/

namespace ChipEight

/-- The screen with a byte for each pixel, which is zero or one. -/
def Display.layout (display : Display) : Raw.Display where
  pixels := (display.pixels.map Bool.toUInt8).toArray
  dirty := display.dirty

/-- The keypad with the number of the register that waits. -/
def Keypad.layout (keypad : Keypad Register) : Raw.Keypad where
  held := keypad.held.toArray
  pending := keypad.pending.map Fin.val

/-- The machine in plain arrays and words, with the pause as a flag of its own. -/
def Machine.layout (m : Machine) : Raw.Machine where
  name := m.name
  opcode := m.opcode
  memory := m.memory.cells.toArray
  registers := m.registers.values.toArray
  index := m.index
  pc := m.pc
  stack := m.stack.toList.toArray
  delay := m.delay
  sound := m.sound
  display := m.display.layout
  keypad := m.keypad.layout
  random := m.random
  paused := m.isPaused
  program := m.program

/-- The flag of the pause says what the keypad says. -/
theorem Machine.layout_paused (m : Machine) : m.layout.paused = m.isPaused := rfl

theorem Machine.layout_display (m : Machine) : m.layout.display = m.display.layout := rfl

-----------------------------------------------------------------------------------------
-- Memory
-----------------------------------------------------------------------------------------

namespace Memory

/-- Every address is the number of a cell, once it is reduced. -/
theorem getElem?_cells (memory : Memory) (address : Nat)
    : memory.cells.toArray[address % memorySize]? = some (memory.read address) :=
  Raw.getElem?_toArray memory.cells (Nat.mod_lt _ (by decide))

theorem store?_cells (memory : Memory) (address : Nat) (byte : UInt8)
    : Raw.store? memory.cells.toArray (address % memorySize) byte
      = some (memory.write address byte).cells.toArray :=
  Raw.store?_toArray memory.cells (Nat.mod_lt _ (by decide)) byte

/-- Overwriting cells writes a block, if the block ends inside of memory; by induction on the
bytes.
-/
theorem overwrite_cells {memory : Memory} {start : Nat} {bytes : List UInt8}
    (fits : start + bytes.length ≤ memorySize)
    : Raw.overwrite memory.cells.toArray start bytes
      = (memory.writeBlock start bytes).cells.toArray := by
  induction bytes generalizing memory start with
  | nil => rfl
  | cons byte rest ih =>
    rw [List.length_cons] at fits
    have inside : start < memorySize := by omega
    have written : memory.cells.toArray.setIfInBounds start byte
        = (memory.write start byte).cells.toArray := by
      simp [write, Nat.mod_eq_of_lt inside, Array.setIfInBounds, inside]
    rw [Raw.overwrite, written, ih (by omega), writeBlock]

/-- A block that ends inside of memory can be copied there as a whole. -/
theorem copy?_cells {memory : Memory} {start : Nat} {bytes : List UInt8}
    (fits : start + bytes.length ≤ memorySize)
    : Raw.copy? memory.cells.toArray start bytes
      = some (memory.writeBlock start bytes).cells.toArray := by
  have bound : start + bytes.length ≤ memory.cells.toArray.size := by simpa using fits
  have word : Raw.word? (start + bytes.length) = some (start + bytes.length) :=
    Raw.word?_of_le (by simp only [memorySize] at fits; omega)
  simp only [Raw.copy?, word, Option.bind_eq_bind, Option.bind_some, if_pos bound,
    overwrite_cells fits]

end Memory

-----------------------------------------------------------------------------------------
-- Registers and the index
-----------------------------------------------------------------------------------------

namespace Machine

@[simp] theorem register?_layout (m : Machine) (x : Register)
    : m.layout.register? x = some (m.registers.get x) :=
  Raw.getElem?_toArray m.registers.values x.isLt

@[simp] theorem setRegister?_layout (m : Machine) (x : Register) (value : UInt8)
    : m.layout.setRegister? x value
      = some (layout { m with registers := m.registers.set x value }) := by
  simp only [Raw.Machine.setRegister?, layout, Raw.store?_toArray _ x.isLt]
  rfl

/-- The sum of the index and an offset fits into a word, so every address exists. -/
theorem address?_layout (m : Machine) {offset : Nat} (small : offset ≤ 0x10000)
    : m.layout.address? offset = some ((m.index.toNat + offset) % memorySize) := by
  have bound := m.index.toNat_lt
  have word : Raw.word? (m.index.toNat + offset) = some (m.index.toNat + offset) :=
    Raw.word?_of_le (by omega)
  simp only [Raw.Machine.address?, layout, word, Option.bind_eq_bind, Option.bind_some]

-----------------------------------------------------------------------------------------
-- Blocks of memory at the index
-----------------------------------------------------------------------------------------

/-- Reading a block needs no check, by induction on its length. -/
theorem readBytes?_layout (m : Machine) {offset count : Nat}
    (small : offset + count ≤ 0x10000)
    : m.layout.readBytes? offset count
      = some (m.memory.readBlock (m.index.toNat + offset) count) := by
  induction count generalizing offset with
  | zero => rfl
  | succ count ih =>
    have first : m.layout.memory[(m.index.toNat + offset) % memorySize]?
        = some (m.memory.read (m.index.toNat + offset)) :=
      m.memory.getElem?_cells _
    rw [Raw.Machine.readBytes?, m.address?_layout (by omega), ih (by omega)]
    simp only [Option.bind_eq_bind, Option.bind_some, first, Memory.readBlock,
      List.range_succ_eq_map, List.map_cons, List.map_map, Option.some.injEq, Nat.add_zero]
    congr 2
    funext i
    simp only [Function.comp, Nat.succ_eq_add_one]
    congr 1
    omega

/-- Storing bytes needs no check, by induction on the bytes. -/
theorem storeBytes?_layout (m : Machine) {offset : Nat} {bytes : List UInt8}
    (small : offset + bytes.length ≤ 0x10000)
    : m.layout.storeBytes? offset bytes
      = some
          (layout
            { m with memory := m.memory.writeBlock (m.index.toNat + offset) bytes }) := by
  induction bytes generalizing m offset with
  | nil => rfl
  | cons byte rest ih =>
    rw [List.length_cons] at small
    have first : Raw.store? m.layout.memory ((m.index.toNat + offset) % memorySize) byte
        = some (m.memory.write (m.index.toNat + offset) byte).cells.toArray :=
      m.memory.store?_cells _ byte
    have later := @ih { m with memory := m.memory.write (m.index.toNat + offset) byte }
      (offset + 1) (by omega)
    rw [Raw.Machine.storeBytes?, m.address?_layout (by omega)]
    simp only [Option.bind_eq_bind, Option.bind_some, first]
    exact later

/-- Storing registers is storing their bytes, by induction on the registers that are left. -/
theorem storeRegisters?_layout (m : Machine) {offset count : Nat}
    (inside : offset + count ≤ registerCount)
    : m.layout.storeRegisters? offset count
      = m.layout.storeBytes? offset ((m.registers.values.toList.drop offset).take count) := by
  induction count generalizing m offset with
  | zero => rfl
  | succ count ih =>
    have known : offset < registerCount := by omega
    have listed : offset < m.registers.values.toList.length := by simpa using known
    have value : m.layout.registers[offset]? = some m.registers.values.toList[offset] := by
      rw [Vector.getElem_toList]
      exact Raw.getElem?_toArray m.registers.values known
    have first : Raw.store? m.layout.memory ((m.index.toNat + offset) % memorySize)
          m.registers.values.toList[offset]
        = some (m.memory.write (m.index.toNat + offset) _).cells.toArray :=
      m.memory.store?_cells _ _
    rw [List.drop_eq_getElem_cons listed, List.take_succ_cons, Raw.Machine.storeRegisters?,
      Raw.Machine.storeBytes?, m.address?_layout (by simp only [registerCount] at inside; omega)]
    simp only [Option.bind_eq_bind, Option.bind_some, value, first]
    exact ih { m with memory := m.memory.write (m.index.toNat + offset) _ } (by omega)

/-- Loading registers needs no check, and the other registers stay; by induction on the
registers that are left.
-/
theorem loadRegisters?_layout (m : Machine) {offset count : Nat}
    (inside : offset + count ≤ registerCount)
    : ∃ registers : Registers,
        m.layout.loadRegisters? offset count = some (layout { m with registers })
        ∧ ∀ j, registers.get j
            = if offset ≤ j.val ∧ j.val < offset + count then
                m.memory.read (m.index.toNat + j.val)
              else
                m.registers.get j := by
  induction count generalizing m offset with
  | zero =>
    refine ⟨m.registers, rfl, fun j => ?_⟩
    rw [if_neg (by omega)]
  | succ count ih =>
    have known : offset < registerCount := by omega
    -- Registers loaded before do not move the cells that are still to be read.
    let byte := m.memory.read (m.index.toNat + offset)
    let changed := m.registers.set ⟨offset, known⟩ byte
    obtain ⟨registers, loaded, values⟩ :=
      @ih { m with registers := changed } (offset + 1) (by omega)
    have first : m.layout.memory[(m.index.toNat + offset) % memorySize]? = some byte :=
      m.memory.getElem?_cells _
    have stored : Raw.store? m.layout.registers offset byte = some changed.values.toArray :=
      Raw.store?_toArray m.registers.values known byte
    refine ⟨registers, ?_, fun j => ?_⟩
    · rw [Raw.Machine.loadRegisters?,
        m.address?_layout (by simp only [registerCount] at inside; omega)]
      simp only [Option.bind_eq_bind, Option.bind_some, first, stored]
      exact loaded
    · rw [values]
      simp only [changed, Registers.get_set, Fin.ext_iff]
      by_cases here : offset = j.val
      · rw [if_neg (by omega), if_pos here, if_pos (by omega), ← here]
      · rw [if_neg here]
        congr 1
        rw [eq_iff_iff]
        omega

-----------------------------------------------------------------------------------------
-- The program counter and the call stack
-----------------------------------------------------------------------------------------

theorem advance?_layout {m : Machine} (inside : m.pc < memorySize) (flow : Flow)
    : m.layout.advance? flow = some (layout (m.advance flow)) := by
  simp only [memorySize] at inside
  cases flow with
  | stay | jump target => rfl
  | next =>
    have word : Raw.word? (m.layout.pc + opcodeSize) = some (m.layout.pc + opcodeSize) :=
      Raw.word?_of_le (by simp only [layout, opcodeSize]; omega)
    simp only [Raw.Machine.advance?, word, Option.bind_eq_bind, Option.bind_some]
    rfl
  | skip =>
    have word : Raw.word? (m.layout.pc + 2 * opcodeSize)
        = some (m.layout.pc + 2 * opcodeSize) :=
      Raw.word?_of_le (by simp only [layout, opcodeSize]; omega)
    simp only [Raw.Machine.advance?, word, Option.bind_eq_bind, Option.bind_some]
    rfl

/-- A fetch from inside of memory only fails to find the second byte. -/
theorem fetch?_layout {m : Machine} (inside : m.pc < memorySize)
    : m.layout.fetch? = some (m.memory.fetch m.pc) := by
  simp only [memorySize] at inside
  have word : Raw.word? (m.layout.pc + 1) = some (m.pc + 1) :=
    Raw.word?_of_le (by simp only [layout]; omega)
  have high : m.layout.memory[m.layout.pc]? = some (m.memory.read m.pc) := by
    have cell := m.memory.getElem?_cells m.pc
    rwa [Nat.mod_eq_of_lt inside] at cell
  by_cases room : m.pc + 1 < memorySize
  · have low : m.layout.memory[m.pc + 1]? = some (m.memory.read (m.pc + 1)) := by
      have cell := m.memory.getElem?_cells (m.pc + 1)
      rwa [Nat.mod_eq_of_lt room] at cell
    rw [Memory.fetch_of_lt room]
    simp only [Raw.Machine.fetch?, word, Option.bind_eq_bind, Option.bind_some, high, low]
  · have low : m.layout.memory[m.pc + 1]? = none := by
      simp only [layout, Array.getElem?_eq_none_iff, Vector.size_toArray]
      omega
    rw [Memory.fetch_of_le (Nat.not_lt.mp room)]
    simp only [Raw.Machine.fetch?, word, Option.bind_eq_bind, Option.bind_some, high, low]
    simp only [layout, Vector.size_toArray]

end Machine

/-- An executed instruction with its machine in plain arrays and words. -/
def Executed.layout (done : Executed) : Raw.Executed where
  machine := done.machine.layout
  flow := done.flow
  request := done.request

namespace Machine

/-- A return takes the innermost call from the end of the array. -/
theorem ret_layout (m : Machine) : m.layout.ret = (m.execute .ret).map Executed.layout := by
  cases entries : m.stack.entries with
  | nil => simp [Raw.Machine.ret, layout, execute, CallStack.pop, CallStack.toList, entries,
      Except.map]
  | cons address rest =>
    simp [Raw.Machine.ret, layout, execute, CallStack.pop, CallStack.toList, entries,
      Except.map, Executed.layout, Machine.isPaused]

/-- The return address of a call fits into a word, and is put to the end of the array. -/
theorem call?_layout {m : Machine} (inside : m.pc < memorySize) (nnn : Fin memorySize)
    : m.layout.call? nnn.val = some ((m.execute (.call nnn)).map Executed.layout) := by
  simp only [memorySize] at inside
  have word : Raw.word? (m.layout.pc + opcodeSize) = some (m.pc + opcodeSize) :=
    Raw.word?_of_le (by simp only [layout, opcodeSize]; omega)
  have depth : m.layout.stack.size = m.stack.depth := by
    simp [layout, CallStack.toList, CallStack.depth]
  simp only [Raw.Machine.call?, word, Option.bind_eq_bind, Option.bind_some, depth]
  by_cases room : m.stack.depth < stackCapacity
  · have pushed : m.stack.push (m.pc + opcodeSize)
        = .ok { entries := (m.pc + opcodeSize) :: m.stack.entries } :=
      if_pos room
    rw [if_pos room]
    simp [execute, pushed, Except.map, Executed.layout, layout, CallStack.toList, isPaused]
  · have refused : m.stack.push (m.pc + opcodeSize) = .error .overflow := if_neg room
    rw [if_neg room]
    simp only [execute, refused, Except.map]

end Machine

end ChipEight
