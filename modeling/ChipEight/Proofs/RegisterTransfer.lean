import ChipEight.Proofs.Effects
import ChipEight.Proofs.History

/-! Registers that are stored to memory and loaded from it, a block of cells from the index on.
The cells of a block are different from each other wherever it lies, so what was stored is
loaded again, and what was loaded is stored again.
-/

namespace ChipEight.Machine

-----------------------------------------------------------------------------------------
-- Blocks from the index on
-----------------------------------------------------------------------------------------

/-- The cell of a block from the index on. -/
def blockCell (m : Machine) (offset : Nat) : Nat :=
  (m.index.toNat + offset) % memorySize

theorem blockCell_congr {m other : Machine} (same : other.index = m.index) (offset : Nat)
    : other.blockCell offset = m.blockCell offset := by
  rw [blockCell, blockCell, same]

/-- The machine after bytes were stored. -/
structure StoresBlock (m : Machine) (bytes : List UInt8) (next : Machine) : Prop where
  stored
    : ∀ offset < bytes.length, bytes[offset]? = some (next.memory.read (m.blockCell offset))
  others
    : ∀ address < memorySize,
        (∀ offset < bytes.length, m.blockCell offset ≠ address)
        → next.memory.read address = m.memory.read address
  registers : next.registers = m.registers
  index : next.index = m.index

/-- A block that is no longer than memory is stored byte by byte, wherever it lies. -/
theorem storesBlock_storeAtIndex (m : Machine) {bytes : List UInt8}
    (short : bytes.length ≤ memorySize)
    : m.StoresBlock bytes (m.storeAtIndex bytes) := by
  refine ⟨?_, ?_, rfl, rfl⟩
  · intro offset inside
    rw [blockCell, Memory.read_mod, storeAtIndex, Memory.read_writeBlock inside short,
      List.getElem?_eq_getElem inside]
  · intro address inside apart
    refine Memory.read_writeBlock_of_ne ?_
    rwa [Nat.mod_eq_of_lt inside]

/-- Where the program counter stands and which opcode was noted before does not matter. -/
theorem StoresBlock.ofExecuted {m next : Machine} {bytes : List UInt8} {noted : Opcode}
    (stores : StoresBlock { m with opcode := noted } bytes next) (flow : Flow)
    : m.StoresBlock bytes (next.advance flow) where
  stored := stores.stored
  others := stores.others
  registers := stores.registers
  index := stores.index

-----------------------------------------------------------------------------------------
-- Blocks of registers
-----------------------------------------------------------------------------------------

/-- The machine after V0 to VX were stored. -/
structure StoresRegisters (m : Machine) (x : Register) (next : Machine) : Prop where
  stored : ∀ r, r.val ≤ x.val → next.memory.read (m.blockCell r.val) = m.registers.get r
  others
    : ∀ address < memorySize,
        (∀ r : Register, r.val ≤ x.val → m.blockCell r.val ≠ address)
        → next.memory.read address = m.memory.read address
  index : next.index = m.index

/-- The machine after V0 to VX were loaded. -/
structure LoadsRegisters (m : Machine) (x : Register) (next : Machine) : Prop where
  loaded : ∀ r, r.val ≤ x.val → next.registers.get r = m.memory.read (m.blockCell r.val)
  others : ∀ r, x.val < r.val → next.registers.get r = m.registers.get r
  memory : next.memory = m.memory
  index : next.index = m.index

theorem length_take_registers (registers : Registers) (x : Register)
    : (registers.values.toList.take (x.val + 1)).length = x.val + 1 := by
  rw [List.length_take, Vector.length_toList]
  exact Nat.min_eq_left x.isLt

theorem StoresBlock.storesRegisters {m next : Machine} {x : Register}
    (stores : m.StoresBlock (m.registers.values.toList.take (x.val + 1)) next)
    : m.StoresRegisters x next := by
  have count := length_take_registers m.registers x
  refine ⟨?_, ?_, stores.index⟩
  · intro r first
    have inside := Nat.lt_succ_of_le first
    have stored := stores.stored r.val (by rwa [count])
    rw [List.getElem?_take_of_lt inside, Vector.getElem?_toList,
      Vector.getElem?_eq_getElem r.isLt] at stored
    exact (Option.some.inj stored).symm
  · intro address inside apart
    apply stores.others address inside
    intro offset short
    rw [count] at short
    exact apart ⟨offset, Nat.lt_of_lt_of_le short x.isLt⟩ (Nat.le_of_lt_succ short)

theorem loadsRegisters_loadFromIndex (m : Machine) (x : Register)
    : m.LoadsRegisters x (m.loadFromIndex x) := by
  refine ⟨?_, ?_, by simp only [loadFromIndex], by simp only [loadFromIndex]⟩
  · intro r first
    rw [get_loadFromIndex, if_pos (Fin.le_def.mpr first), blockCell, Memory.read_mod]
  · intro r later
    rw [get_loadFromIndex, if_neg (mt Fin.le_def.mp (Nat.not_le.mpr later))]

-----------------------------------------------------------------------------------------
-- The opcodes that move them
-----------------------------------------------------------------------------------------

variable {m : Machine} {opcode : Opcode} {result : Machine × Except Fault Request}

/-- Storing registers is never refused. -/
theorem Runs.storesRegisters (runs : m.Runs opcode result) (saves : opcode.IsMisc 0x55)
    : ∃ next, result = (next, .ok .nothing) ∧ m.StoresRegisters opcode.x next := by
  obtain ⟨noted, rfl⟩ := runs.misc .storeRegisters saves
  have short : (m.registers.values.toList.take (opcode.x.val + 1)).length ≤ memorySize := by
    have := opcode.x.isLt
    rw [length_take_registers]
    simp only [registerCount, memorySize] at this ⊢
    omega
  have stores := storesBlock_storeAtIndex { m with opcode := noted } short
  exact ⟨_, rfl, (stores.ofExecuted .next).storesRegisters⟩

/-- Loading registers is never refused. -/
theorem Runs.loadsRegisters (runs : m.Runs opcode result) (loads : opcode.IsMisc 0x65)
    : ∃ next, result = (next, .ok .nothing) ∧ m.LoadsRegisters opcode.x next := by
  obtain ⟨noted, rfl⟩ := runs.misc .loadRegisters loads
  have loads := loadsRegisters_loadFromIndex { m with opcode := noted } opcode.x
  exact ⟨_, rfl, loads.loaded, loads.others, loads.memory, loads.index⟩

/-- Storing V0 to VX puts each of them into its cell and changes no other cell; loading takes
them from their cells and changes no other register; both keep the index, and neither is ever
refused. Whatever happens in between, what was stored is loaded again as long as the index and
the cells stay; and what was loaded is stored again where it was. The block may lie across the
end of memory, and the index may be larger than any address.
Witness: the cells of a block are different from each other.
-/
theorem stored_registers_come_back (m : Machine) {save load : Opcode}
    (saves : save.IsMisc 0x55) (loads : load.IsMisc 0x65)
    : (∀ result,
        m.Runs save result
        → ∃ next, result = (next, .ok .nothing) ∧ m.StoresRegisters save.x next)
      ∧ (∀ result,
          m.Runs load result
          → ∃ next, result = (next, .ok .nothing) ∧ m.LoadsRegisters load.x next)
      ∧ (∀ saved request restored request' (between : List Action),
          let later := (saved.run between).1
          load.x = save.x
          → m.Runs save (saved, request)
          → later.index = saved.index
          → (∀ r : Register,
              r.val ≤ save.x.val
              → later.memory.read (m.blockCell r.val) = saved.memory.read (m.blockCell r.val))
          → later.Runs load (restored, request')
          → ∀ r, r.val ≤ save.x.val → restored.registers.get r = m.registers.get r)
      ∧ ∀ loaded request stored request',
          save.x = load.x
          → m.Runs load (loaded, request)
          → loaded.Runs save (stored, request')
          → stored.memory = m.memory := by
  refine ⟨?_, ?_, ?_, ?_⟩
  · intro result runs
    exact runs.storesRegisters saves
  · intro result runs
    exact runs.loadsRegisters loads
  · intro saved request restored request' between later same first index kept second r inside
    obtain ⟨_, ⟨⟩, stores⟩ := first.storesRegisters saves
    obtain ⟨_, ⟨⟩, loaded⟩ := second.loadsRegisters loads
    have place : later.blockCell r.val = m.blockCell r.val :=
      blockCell_congr (index.trans stores.index) r.val
    rw [loaded.loaded r (by rwa [same]), place, kept r inside, stores.stored r inside]
  · intro loaded request stored request' same first second
    obtain ⟨_, ⟨⟩, loads⟩ := first.loadsRegisters loads
    obtain ⟨_, ⟨⟩, stores⟩ := second.storesRegisters saves
    apply Memory.ext_read
    intro address inside
    by_cases own : ∃ r : Register, r.val ≤ save.x.val ∧ loaded.blockCell r.val = address
    · obtain ⟨r, first, rfl⟩ := own
      rw [stores.stored r first, loads.loaded r (by rwa [← same]), blockCell_congr loads.index]
    · rw [stores.others address inside, loads.memory]
      exact fun r first here => own ⟨r, first, here⟩

/-- A machine about to store V0 and V1 in the last cell of memory and the first one. -/
def wrappingSaver : Machine :=
  { powerOn { stream := fun _ => 0 } with
    registers := (Registers.set {} 0 0x11).set 1 0xAB
    index := 0xFFFF }

/-- V0 and V1 are stored across the end of memory, put to zero and loaded again. -/
theorem stored_registers_come_back_wrapping
    : Opcode.IsMisc 0xF155 0x55
      ∧ Opcode.IsMisc 0xF165 0x65
      ∧ ∃ saved restored,
          wrappingSaver.perform (.decode 0xF155) = (saved, .ok .nothing)
          ∧ saved.memory.read 0xFFF = 0x11
          ∧ saved.memory.read 0x000 = 0xAB
          ∧ let later := (saved.run [.perform 0x6000, .perform 0x6100]).1
            later.registers.get 1 = 0
            ∧ later.perform (.decode 0xF165) = (restored, .ok .nothing)
            ∧ restored.registers.get 0 = 0x11
            ∧ restored.registers.get 1 = 0xAB := by
  have saves : Opcode.IsMisc 0xF155 0x55 := by decide
  have loads : Opcode.IsMisc 0xF165 0x65 := by decide
  have saveDigit : Opcode.x 0xF155 = 1 := by decide
  have loadDigit : Opcode.x 0xF165 = 1 := by decide
  have v0 : wrappingSaver.registers.get 0 = 0x11 := by simp [wrappingSaver]
  have v1 : wrappingSaver.registers.get 1 = 0xAB := by simp [wrappingSaver]
  obtain ⟨saving, _, back, _⟩ := stored_registers_come_back wrappingSaver saves loads
  obtain ⟨saved, stored, stores⟩ := saving _ .performed
  rw [saveDigit] at stores
  let later := (saved.run [.perform 0x6000, .perform 0x6100]).1
  obtain ⟨_, loading, _⟩ := stored_registers_come_back later saves loads
  obtain ⟨restored, loaded, _⟩ := loading _ .performed
  have comes := back saved (.ok .nothing) restored (.ok .nothing)
    [.perform 0x6000, .perform 0x6100] (loadDigit.trans saveDigit.symm) (.of_perform stored)
    rfl (fun _ _ => rfl) (.of_perform loaded)
  rw [saveDigit] at comes
  refine ⟨saves, loads, saved, restored, stored, ?_, ?_, ?_, loaded, ?_, ?_⟩
  · exact (stores.stored 0 (by decide)).trans v0
  · exact (stores.stored 1 (by decide)).trans v1
  · have zeroed : later.registers = (saved.registers.set 0 0).set 1 0 := rfl
    rw [zeroed, Registers.get_set, if_pos rfl]
  · exact (comes 0 (by decide)).trans v0
  · exact (comes 1 (by decide)).trans v1

end ChipEight.Machine
