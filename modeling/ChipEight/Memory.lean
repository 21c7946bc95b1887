import ChipEight.Opcode.Fetch

/-! The memory of the machine. Single cells are addressed modulo the size of memory; the
digit glyphs and a program make up the image that it holds when the machine starts.
-/

namespace ChipEight

/-- The addressable bytes. -/
structure Memory where
  cells : Vector UInt8 memorySize := Vector.replicate memorySize 0
  deriving DecidableEq

namespace Memory

/-- The byte at an address, taken modulo the size of memory. -/
def read (memory : Memory) (address : Nat) : UInt8 :=
  have : address % memorySize < memorySize := Nat.mod_lt _ (by decide)
  memory.cells[address % memorySize]

/-- Put a byte at an address, taken modulo the size of memory. -/
def write (memory : Memory) (address : Nat) (byte : UInt8) : Memory :=
  { cells := memory.cells.set (address % memorySize) byte (Nat.mod_lt _ (by decide)) }

/-- The bytes of successive addresses from `start` on. -/
def readBlock (memory : Memory) (start length : Nat) : List UInt8 :=
  (List.range length).map fun offset => memory.read (start + offset)

/-- Put bytes at successive addresses from `start` on. -/
def writeBlock (memory : Memory) (start : Nat) : List UInt8 → Memory
  | [] => memory
  | byte :: rest => (memory.write start byte).writeBlock (start + 1) rest

/-- The memory with the digit glyphs at their place. -/
def withGlyphs (memory : Memory) : Memory :=
  memory.writeBlock glyphStart glyphs

/-- The memory with a program at its start. -/
def withProgram (memory : Memory) (program : Array UInt8) : Memory :=
  memory.writeBlock programStart program.toList

/-- What memory holds when the machine starts with a program. -/
def image (program : Array UInt8) : Memory :=
  (withGlyphs {}).withProgram program

/-- The opcode at an address, which has to lie inside of memory with both bytes. -/
def fetch (memory : Memory) (pointer : Nat) : Except OpcodeError Opcode :=
  Opcode.fetch memory.cells.toArray pointer

theorem length_readBlock (memory : Memory) (start length : Nat)
    : (memory.readBlock start length).length = length := by
  simp [readBlock]

theorem getElem?_readBlock {memory : Memory} {start length i : Nat} (inside : i < length)
    : (memory.readBlock start length)[i]? = some (memory.read (start + i)) := by
  simp [readBlock, inside]

/-- A part of a block is a block of its own. -/
theorem take_drop_readBlock {memory : Memory} {start length offset count : Nat}
    (room : offset + count ≤ length)
    : ((memory.readBlock start length).drop offset).take count
      = memory.readBlock (start + offset) count := by
  apply List.ext_getElem?
  intro i
  by_cases inside : i < count
  · rw [List.getElem?_take_of_lt inside, List.getElem?_drop, getElem?_readBlock (by omega),
      getElem?_readBlock inside, Nat.add_assoc]
  · rw [List.getElem?_eq_none, List.getElem?_eq_none]
    · rw [length_readBlock]
      exact Nat.le_of_not_lt inside
    · exact Nat.le_trans (List.length_take_le _ _) (Nat.le_of_not_lt inside)

/-- Cells are read modulo the size of memory. -/
theorem read_mod (memory : Memory) (address : Nat)
    : memory.read (address % memorySize) = memory.read address := by
  simp only [read, memorySize, Nat.mod_mod]

/-- A cell holds what was last written to it. -/
theorem read_write (memory : Memory) (address other : Nat) (byte : UInt8)
    : (memory.write address byte).read other
        = if address % memorySize = other % memorySize then byte else memory.read other := by
  simp only [read, write, Vector.getElem_set]

/-- A block leaves every cell alone that none of its addresses names. -/
theorem read_writeBlock_of_ne {memory : Memory} {start address : Nat} {bytes : List UInt8}
    (apart
      : ∀ offset < bytes.length, (start + offset) % memorySize ≠ address % memorySize)
    : (memory.writeBlock start bytes).read address = memory.read address := by
  induction bytes generalizing memory start with
  | nil => rfl
  | cons byte rest ih =>
    have first : start % memorySize ≠ address % memorySize := apart 0 (Nat.succ_pos _)
    rw [writeBlock, ih, read_write, if_neg first]
    intro offset inside
    have later := apart (offset + 1) (Nat.succ_lt_succ inside)
    rwa [← Nat.add_assoc, Nat.add_right_comm] at later

/-- A block that is no longer than memory can be read back, also if it wraps around. -/
theorem read_writeBlock {memory : Memory} {start i : Nat} {bytes : List UInt8}
    (inside : i < bytes.length) (short : bytes.length ≤ memorySize)
    : (memory.writeBlock start bytes).read (start + i) = bytes[i] := by
  induction bytes generalizing memory start i with
  | nil => cases inside
  | cons byte rest ih =>
    rw [List.length_cons] at short inside
    cases i with
    | zero =>
      rw [writeBlock, read_writeBlock_of_ne, read_write]
      · simp
      · intro offset later
        simp only [memorySize] at short ⊢
        omega
    | succ i =>
      have shifted : start + (i + 1) = start + 1 + i := by omega
      rw [writeBlock, shifted, ih (by omega) (by omega)]
      rfl

/-- Memory holds zeros as long as nothing was written. -/
@[simp] theorem read_blank (address : Nat) : ({} : Memory).read address = 0 := by
  simp [read]

/-- A fetch reads two successive cells if both exist. -/
theorem fetch_of_lt {memory : Memory} {pointer : Nat} (h : pointer + 1 < memorySize)
    : memory.fetch pointer
      = .ok (Opcode.ofBytes (memory.read pointer) (memory.read (pointer + 1))) := by
  have hp : pointer < memorySize := Nat.lt_of_succ_lt h
  simp [fetch, Opcode.fetch, read, h, Nat.mod_eq_of_lt h, Nat.mod_eq_of_lt hp]

/-- A fetch fails if the second cell would lie behind the end of memory. -/
theorem fetch_of_le {memory : Memory} {pointer : Nat} (h : memorySize ≤ pointer + 1)
    : memory.fetch pointer = .error (.outOfMemory pointer memorySize) := by
  simp [fetch, Opcode.fetch, Nat.not_lt.mpr h]

/-- A program that fits is fetched from where it was put. -/
theorem fetch_withProgram {memory : Memory} {program : Array UInt8} {i : Nat}
    (inside : i + 2 ≤ program.size) (fits : program.size ≤ programCapacity)
    : (memory.withProgram program).fetch (programStart + i)
      = .ok (Opcode.ofBytes program[i] program[i + 1]) := by
  have room : programStart + program.toList.length ≤ memorySize := by
    simp only [programCapacity, programStart, memorySize, Array.length_toList] at fits ⊢
    omega
  rw [fetch_of_lt (by rw [Array.length_toList] at room; omega), withProgram, Nat.add_assoc,
    read_writeBlock (by rw [Array.length_toList]; omega) (by omega),
    read_writeBlock inside (by omega)]
  rfl

/-- Two memories with the same cells are equal. -/
theorem ext_read {left right : Memory}
    (h : ∀ address < memorySize, left.read address = right.read address)
    : left = right := by
  obtain ⟨cells⟩ := left
  obtain ⟨others⟩ := right
  congr 1
  apply Vector.ext
  intro i hi
  simpa only [read, Nat.mod_eq_of_lt hi] using h i hi

end Memory

end ChipEight
