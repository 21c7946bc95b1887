import ChipEight.Opcode

/-! The instructions of the machine and the decoding of opcodes into them. Every opcode
decodes: the gaps inside of a family become `unassigned`.
-/

namespace ChipEight

/-- The operations on two registers, selected by the last nibble of family 8. -/
inductive Arithmetic where
  | assign
  | or
  | and
  | xor
  | add
  | sub
  | shiftRight
  | subReverse
  | shiftLeft
  deriving DecidableEq, Repr

/-- The operations on timers, memory and input, selected by the last byte of family F. -/
inductive Misc where
  /-- Copy the delay timer into VX. -/
  | getDelay
  /-- Stop until a key is pressed and put its number into VX. -/
  | awaitKey
  /-- Start the delay timer from VX. -/
  | setDelay
  /-- Start the sound timer from VX. -/
  | setSound
  /-- Add VX to the index. -/
  | addToIndex
  /-- Point the index at the glyph of the digit VX. -/
  | pointToGlyph
  /-- Store the three decimal digits of VX. -/
  | storeDigits
  /-- Store V0 to VX. -/
  | storeRegisters
  /-- Load V0 to VX. -/
  | loadRegisters
  deriving DecidableEq, Repr

/-- A decoded instruction with its operands. -/
inductive Instruction where
  /-- Switch every pixel off. -/
  | clear
  /-- Go back to behind the last open call. -/
  | ret
  /-- Call a routine of the host processor, which is skipped. -/
  | routine (nnn : Fin memorySize)
  | jump (nnn : Fin memorySize)
  | call (nnn : Fin memorySize)
  | skipEqual (x : Register) (kk : UInt8)
  | skipNotEqual (x : Register) (kk : UInt8)
  | skipSame (x y : Register)
  | set (x : Register) (kk : UInt8)
  | add (x : Register) (kk : UInt8)
  | arithmetic (op : Arithmetic) (x y : Register)
  | skipDifferent (x y : Register)
  | setIndex (nnn : Fin memorySize)
  /-- Jump to the address plus V0. -/
  | jumpOffset (nnn : Fin memorySize)
  /-- Put a random byte under the mask into VX. -/
  | random (x : Register) (kk : UInt8)
  /-- Draw `n` sprite rows at the position in VX and VY. -/
  | draw (x y : Register) (n : Fin 16)
  /-- Skip if the key whose number is in VX is held. -/
  | skipHeld (x : Register)
  /-- Skip if the key whose number is in VX is not held. -/
  | skipNotHeld (x : Register)
  | misc (op : Misc) (x : Register)
  /-- An opcode that no instruction uses, which is skipped. -/
  | unassigned (opcode : Opcode)
  deriving DecidableEq, Repr

/-- The register operation with the given last nibble, if there is one. -/
def Arithmetic.ofNibble? : Nat → Option Arithmetic
  | 0x0 => some .assign
  | 0x1 => some .or
  | 0x2 => some .and
  | 0x3 => some .xor
  | 0x4 => some .add
  | 0x5 => some .sub
  | 0x6 => some .shiftRight
  | 0x7 => some .subReverse
  | 0xE => some .shiftLeft
  | _ => none

/-- The last nibble that selects a register operation. -/
def Arithmetic.nibble : Arithmetic → Nat
  | .assign => 0x0
  | .or => 0x1
  | .and => 0x2
  | .xor => 0x3
  | .add => 0x4
  | .sub => 0x5
  | .shiftRight => 0x6
  | .subReverse => 0x7
  | .shiftLeft => 0xE

/-- The operation of family F with the given last byte, if there is one. -/
def Misc.ofByte? (kk : UInt8) : Option Misc :=
  if kk = 0x07 then some .getDelay
  else if kk = 0x0A then some .awaitKey
  else if kk = 0x15 then some .setDelay
  else if kk = 0x18 then some .setSound
  else if kk = 0x1E then some .addToIndex
  else if kk = 0x29 then some .pointToGlyph
  else if kk = 0x33 then some .storeDigits
  else if kk = 0x55 then some .storeRegisters
  else if kk = 0x65 then some .loadRegisters
  else none

/-- The last byte that selects an operation of family F. -/
def Misc.byte : Misc → UInt8
  | .getDelay => 0x07
  | .awaitKey => 0x0A
  | .setDelay => 0x15
  | .setSound => 0x18
  | .addToIndex => 0x1E
  | .pointToGlyph => 0x29
  | .storeDigits => 0x33
  | .storeRegisters => 0x55
  | .loadRegisters => 0x65

/-- A nibble selects an operation exactly if it is that operation's nibble. -/
theorem Arithmetic.ofNibble?_eq_some_iff {nibble : Nat} {op : Arithmetic}
    : ofNibble? nibble = some op ↔ nibble = op.nibble := by
  constructor
  · fun_cases ofNibble? nibble <;> grind [Arithmetic.nibble]
  · rintro rfl
    cases op <;> rfl

/-- A byte selects an operation exactly if it is that operation's byte. -/
theorem Misc.ofByte?_eq_some_iff {kk : UInt8} {op : Misc}
    : ofByte? kk = some op ↔ kk = op.byte := by
  cases op <;> grind [ofByte?, byte]

/-- The instruction that an opcode stands for. -/
def Instruction.decode (opcode : Opcode) : Instruction :=
  match opcode.family with
  | 0x0 =>
    if opcode = 0x00E0 then .clear
    else if opcode = 0x00EE then .ret
    else .routine opcode.nnn
  | 0x1 => .jump opcode.nnn
  | 0x2 => .call opcode.nnn
  | 0x3 => .skipEqual opcode.x opcode.kk
  | 0x4 => .skipNotEqual opcode.x opcode.kk
  | 0x5 => if opcode.n.val = 0 then .skipSame opcode.x opcode.y else .unassigned opcode
  | 0x6 => .set opcode.x opcode.kk
  | 0x7 => .add opcode.x opcode.kk
  | 0x8 =>
    match Arithmetic.ofNibble? opcode.n.val with
    | some op => .arithmetic op opcode.x opcode.y
    | none => .unassigned opcode
  | 0x9 => if opcode.n.val = 0 then .skipDifferent opcode.x opcode.y else .unassigned opcode
  | 0xA => .setIndex opcode.nnn
  | 0xB => .jumpOffset opcode.nnn
  | 0xC => .random opcode.x opcode.kk
  | 0xD => .draw opcode.x opcode.y opcode.n
  | 0xE =>
    if opcode.kk = 0x9E then .skipHeld opcode.x
    else if opcode.kk = 0xA1 then .skipNotHeld opcode.x
    else .unassigned opcode
  | _ =>
    match Misc.ofByte? opcode.kk with
    | some op => .misc op opcode.x
    | none => .unassigned opcode

end ChipEight
