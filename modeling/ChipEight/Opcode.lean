import ChipEight.Constants

/-! Raw two byte opcodes: the order of their bytes and the operands that their bits carry. -/

namespace ChipEight

/-- The number of one of the registers V0 to VF. -/
abbrev Register := Fin registerCount

/-- A raw instruction word. -/
abbrev Opcode := UInt16

namespace Opcode

/-- The word whose high byte comes first in memory. -/
def ofBytes (high low : UInt8) : Opcode :=
  UInt16.ofNat (high.toNat * 256 + low.toNat)

/-- The two bytes of a word, high byte first. -/
def toBytes (opcode : Opcode) : UInt8 × UInt8 :=
  (UInt8.ofNat (opcode.toNat / 256), UInt8.ofNat (opcode.toNat % 256))

/-- The four highest bits, which select the family of the instruction. -/
def family (opcode : Opcode) : Fin 16 :=
  ⟨opcode.toNat / 4096, by have := opcode.toNat_lt; omega⟩

/-- The address `NNN` in the twelve lowest bits. -/
def nnn (opcode : Opcode) : Fin memorySize :=
  ⟨opcode.toNat % memorySize, Nat.mod_lt _ (by decide)⟩

/-- The register `X` in the second nibble. -/
def x (opcode : Opcode) : Register :=
  ⟨opcode.toNat / 256 % registerCount, Nat.mod_lt _ (by decide)⟩

/-- The register `Y` in the third nibble. -/
def y (opcode : Opcode) : Register :=
  ⟨opcode.toNat / 16 % registerCount, Nat.mod_lt _ (by decide)⟩

/-- The number `N` in the lowest nibble. -/
def n (opcode : Opcode) : Fin 16 :=
  ⟨opcode.toNat % 16, by omega⟩

/-- The byte `KK` in the eight lowest bits. -/
def kk (opcode : Opcode) : UInt8 :=
  UInt8.ofNat (opcode.toNat % 256)

theorem toNat_ofBytes (high low : UInt8)
    : (ofBytes high low).toNat = high.toNat * 256 + low.toNat := by
  have hh := high.toNat_lt
  have hl := low.toNat_lt
  simp [ofBytes]
  omega

/-- The bytes of a word rebuild it. -/
theorem ofBytes_toBytes (opcode : Opcode)
    : ofBytes opcode.toBytes.1 opcode.toBytes.2 = opcode := by
  have h := opcode.toNat_lt
  apply UInt16.toNat_inj.mp
  simp [ofBytes, toBytes]
  omega

/-- A word keeps both bytes that it was made of. -/
theorem toBytes_ofBytes (high low : UInt8)
    : (ofBytes high low).toBytes = (high, low) := by
  have hh := high.toNat_lt
  have hl := low.toNat_lt
  apply Prod.ext
  · apply UInt8.toNat_inj.mp
    simp [ofBytes, toBytes]
    omega
  · apply UInt8.toNat_inj.mp
    simp [ofBytes, toBytes]

end Opcode

end ChipEight
