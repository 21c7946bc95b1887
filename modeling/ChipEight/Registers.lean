import ChipEight.Instruction

/-! The registers V0 to VF and the operations of family 8 on them. -/

namespace ChipEight

/-- The values of V0 to VF. -/
structure Registers where
  values : Vector UInt8 registerCount := Vector.replicate registerCount 0
  deriving DecidableEq, Repr

namespace Registers

/-- VF, which also takes carries, borrows, shifted bits and collisions. -/
def flag : Register := ⟨0xF, by decide⟩

/-- V0, which jumps with an offset add to their target. -/
def offset : Register := ⟨0x0, by decide⟩

/-- The value of a register. -/
def get (registers : Registers) (x : Register) : UInt8 :=
  registers.values[x]

/-- Change one register. -/
def set (registers : Registers) (x : Register) (value : UInt8) : Registers :=
  { values := registers.values.set x.val value x.isLt }

/-- A register holds what was last put into it. -/
@[simp] theorem get_set (registers : Registers) (x y : Register) (value : UInt8)
    : (registers.set x value).get y = if x = y then value else registers.get y := by
  simp [get, set, Vector.getElem_set, Fin.ext_iff]

/-- Two register files with the same values are equal. -/
theorem ext_get {left right : Registers} (h : ∀ x, left.get x = right.get x)
    : left = right := by
  obtain ⟨values⟩ := left
  obtain ⟨others⟩ := right
  congr 1
  apply Vector.ext
  intro i hi
  exact h ⟨i, hi⟩

end Registers

namespace Arithmetic

/-- The result of an operation on VX and VY, and the flag if it has one. -/
def apply (op : Arithmetic) (vx vy : UInt8) : UInt8 × Option Bool :=
  match op with
  | .assign => (vy, none)
  | .or => (vx ||| vy, none)
  | .and => (vx &&& vy, none)
  | .xor => (vx ^^^ vy, none)
  | .add => (vx + vy, some (decide (256 ≤ vx.toNat + vy.toNat)))
  | .sub => (vx - vy, some (decide (vy < vx)))
  | .shiftRight => (vx / 2, some (vx % 2 == 1))
  | .subReverse => (vy - vx, some (decide (vx < vy)))
  | .shiftLeft => (2 * vx, some (decide (128 ≤ vx)))

end Arithmetic

/-- Run an operation of family 8. The flag is written before the result, so the result
stays if VX is the flag register itself.
-/
def Registers.arithmetic (registers : Registers) (op : Arithmetic) (x y : Register)
    : Registers :=
  match op.apply (registers.get x) (registers.get y) with
  | (result, none) => registers.set x result
  | (result, some bit) => (registers.set flag bit.toUInt8).set x result

end ChipEight
