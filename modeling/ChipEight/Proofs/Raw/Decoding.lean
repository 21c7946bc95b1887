import ChipEight.Instruction
import ChipEight.Opcode.Fetch
import ChipEight.Proofs.Raw.Words
import Mathlib.Data.Nat.Bitwise
import Mathlib.Data.Fintype.Basic
import Mathlib.Tactic.FinCases

/-! Fetching and decoding on plain words. The pointer has 64 bits, so that the place behind the last
one is the first one; operands are cut out of the opcode by masks and shifts, and their size is
not known from their types: an operand that is too large for its instruction would give no result.
-/

namespace ChipEight.Raw

-----------------------------------------------------------------------------------------
-- Fetching
-----------------------------------------------------------------------------------------

/-- The opcode at a pointer, if both of its bytes are found. The sum wraps around, as it does where
nothing checks for overflow; under such a check the last pointer would have no sum, as in
`Machine.fetch?`.
-/
def fetch (data : Array UInt8) (pointer : UInt64) : Except OpcodeError Opcode :=
  match data[pointer.toNat]?, data[(pointer + 1).toNat]? with
  | some high, some low => .ok (Opcode.ofBytes high low)
  | _, _ => .error (.outOfMemory pointer.toNat data.size)

/-- The sum only wraps around where there is no first byte, as long as the length of the data fits
into a word, too.
-/
theorem fetch_eq {data : Array UInt8} (pointer : UInt64) (sized : data.size < 0x10000000000000000)
    : fetch data pointer = Opcode.fetch data pointer.toNat := by
  have bound := pointer.toNat_lt
  rw [fetch, Opcode.fetch]
  by_cases last : pointer.toNat + 1 < 0x10000000000000000
  · have next : (pointer + 1).toNat = pointer.toNat + 1 := by
      simp only [UInt64.toNat_add, UInt64.reduceToNat]
      omega
    rw [next]
    by_cases room : pointer.toNat + 1 < data.size
    · rw [dif_pos room, Array.getElem?_eq_getElem (Nat.lt_of_succ_lt room),
        Array.getElem?_eq_getElem room]
    · rw [dif_neg room, Array.getElem?_eq_none (Nat.le_of_not_lt room)]
      cases data[pointer.toNat]? <;> rfl
  · have outside : data.size ≤ pointer.toNat := by omega
    rw [dif_neg (by omega), Array.getElem?_eq_none outside]

-----------------------------------------------------------------------------------------
-- Operands
-----------------------------------------------------------------------------------------

namespace Operand

/-- The first digit, which tells the family. -/
def family (opcode : Opcode) : Nat :=
  ((opcode &&& 0xF000) >>> 12).toNat

/-- The last three digits. -/
def nnn (opcode : Opcode) : Nat :=
  (opcode &&& 0x0FFF).toNat

/-- The second digit. -/
def x (opcode : Opcode) : Nat :=
  ((opcode &&& 0x0F00) >>> 8).toNat

/-- The third digit. -/
def y (opcode : Opcode) : Nat :=
  ((opcode &&& 0x00F0) >>> 4).toNat

/-- The last digit. -/
def n (opcode : Opcode) : Nat :=
  (opcode &&& 0x000F).toNat

/-- The last two digits. -/
def kk (opcode : Opcode) : UInt8 :=
  (opcode &&& 0x00FF).toUInt8

/-- A mask of four bits, shifted away, leaves the digit in its place. -/
theorem and_digit_shiftRight (value places : Nat)
    : (value &&& (0xF <<< places)) >>> places = value >>> places % 16 := by
  rw [Nat.shiftRight_and_distrib, Nat.shiftLeft_shiftRight]
  exact Nat.and_two_pow_sub_one_eq_mod (value >>> places) 4

theorem family_eq (opcode : Opcode) : family opcode = opcode.family.val := by
  have digit : (opcode.toNat &&& 0xF000) >>> 12 = opcode.toNat >>> 12 % 16 :=
    and_digit_shiftRight opcode.toNat 12
  have bound := opcode.toNat_lt
  rw [Nat.shiftRight_eq_div_pow opcode.toNat] at digit
  simp only [family, UInt16.toNat_shiftRight, UInt16.toNat_and, UInt16.reduceToNat, Nat.reduceMod,
    digit, Opcode.family]
  omega

theorem x_eq (opcode : Opcode) : x opcode = opcode.x.val := by
  have digit : (opcode.toNat &&& 0x0F00) >>> 8 = opcode.toNat >>> 8 % 16 :=
    and_digit_shiftRight opcode.toNat 8
  rw [Nat.shiftRight_eq_div_pow opcode.toNat] at digit
  simp only [x, UInt16.toNat_shiftRight, UInt16.toNat_and, UInt16.reduceToNat, Nat.reduceMod,
    digit, Opcode.x, Nat.reducePow]

theorem y_eq (opcode : Opcode) : y opcode = opcode.y.val := by
  have digit : (opcode.toNat &&& 0x00F0) >>> 4 = opcode.toNat >>> 4 % 16 :=
    and_digit_shiftRight opcode.toNat 4
  rw [Nat.shiftRight_eq_div_pow opcode.toNat] at digit
  simp only [y, UInt16.toNat_shiftRight, UInt16.toNat_and, UInt16.reduceToNat, Nat.reduceMod,
    digit, Opcode.y, Nat.reducePow]

theorem nnn_eq (opcode : Opcode) : nnn opcode = opcode.nnn.val :=
  Nat.and_two_pow_sub_one_eq_mod opcode.toNat 12

theorem n_eq (opcode : Opcode) : n opcode = opcode.n.val :=
  Nat.and_two_pow_sub_one_eq_mod opcode.toNat 4

theorem kk_eq (opcode : Opcode) : kk opcode = opcode.kk := by
  have byte : opcode.toNat &&& 0x00FF = opcode.toNat % 256 :=
    Nat.and_two_pow_sub_one_eq_mod opcode.toNat 8
  apply UInt8.toNat_inj.mp
  simp only [kk, UInt16.toNat_toUInt8, UInt16.toNat_and, UInt16.reduceToNat, byte, Opcode.kk,
    UInt8.toNat_ofNat']

end Operand

-----------------------------------------------------------------------------------------
-- Decoding
-----------------------------------------------------------------------------------------

/-- A number that has to be smaller than a bound. -/
def below? (bound number : Nat) : Option (Fin bound) :=
  if inside : number < bound then some ⟨number, inside⟩ else none

theorem below?_eq {bound number : Nat} {value : Fin bound} (same : number = value.val)
    : below? bound number = some value := by
  rw [same, below?, dif_pos value.isLt]

/-- The instruction that an opcode from a pointer stands for, by its operands. An opcode of no known
family is refused.
-/
def decodeOperands (opcode : Opcode) (pointer : Nat) (x y : Register) (n : Fin 16)
    (nnn : Fin memorySize) (kk : UInt8) : Except OpcodeError Instruction :=
  match Operand.family opcode with
  | 0x0 =>
    .ok
      (if opcode = 0x00E0 then .clear
      else if opcode = 0x00EE then .ret
      else .routine nnn)
  | 0x1 => .ok (.jump nnn)
  | 0x2 => .ok (.call nnn)
  | 0x3 => .ok (.skipEqual x kk)
  | 0x4 => .ok (.skipNotEqual x kk)
  | 0x5 => .ok (if n.val = 0 then .skipSame x y else .unassigned opcode)
  | 0x6 => .ok (.set x kk)
  | 0x7 => .ok (.add x kk)
  | 0x8 =>
    .ok
      (match Arithmetic.ofNibble? n.val with
      | some op => .arithmetic op x y
      | none => .unassigned opcode)
  | 0x9 => .ok (if n.val = 0 then .skipDifferent x y else .unassigned opcode)
  | 0xA => .ok (.setIndex nnn)
  | 0xB => .ok (.jumpOffset nnn)
  | 0xC => .ok (.random x kk)
  | 0xD => .ok (.draw x y n)
  | 0xE =>
    .ok
      (if kk = 0x9E then .skipHeld x
      else if kk = 0xA1 then .skipNotHeld x
      else .unassigned opcode)
  | 0xF =>
    .ok
      (match Misc.ofByte? kk with
      | some op => .misc op x
      | none => .unassigned opcode)
  | _ => .error (.unknown opcode pointer)

/-- Decode an opcode from a pointer, if its operands are in their ranges. -/
def decode? (opcode : Opcode) (pointer : Nat) : Option (Except OpcodeError Instruction) := do
  let x ← below? registerCount (Operand.x opcode)
  let y ← below? registerCount (Operand.y opcode)
  let n ← below? 16 (Operand.n opcode)
  let nnn ← below? memorySize (Operand.nnn opcode)
  some (decodeOperands opcode pointer x y n nnn (Operand.kk opcode))

/-- Every opcode is of a known family, and its operands are in their ranges. -/
theorem decode?_eq (opcode : Opcode) (pointer : Nat)
    : decode? opcode pointer = some (.ok (.decode opcode)) := by
  rw [decode?, below?_eq (Operand.x_eq opcode), below?_eq (Operand.y_eq opcode),
    below?_eq (Operand.n_eq opcode), below?_eq (Operand.nnn_eq opcode), Operand.kk_eq]
  simp only [Option.bind_eq_bind, Option.bind_some]
  rw [decodeOperands, Operand.family_eq, Instruction.decode]
  -- The families are told apart in the same way, there as numbers and here as digits.
  generalize opcode.family = family
  fin_cases family <;> rfl

end ChipEight.Raw
