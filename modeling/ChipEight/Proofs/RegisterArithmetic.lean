import ChipEight.Proofs.Effects

/-! What the operations on two registers compute. Their laws relate the values before to the
result and the flag after, as numbers, and hold for every choice of the two registers: the same
one twice, or VF, which then keeps the result and not the flag.
-/

namespace ChipEight

-----------------------------------------------------------------------------------------
-- The laws of the operations
-----------------------------------------------------------------------------------------

namespace Arithmetic

/-- The operation writes VX only. -/
def IsPlain (op : Arithmetic) : Prop :=
  op = .assign ∨ op = .or ∨ op = .and ∨ op = .xor

/-- The operation shifts VX, whatever VY holds. -/
def IsShift (op : Arithmetic) : Prop :=
  op = .shiftRight ∨ op = .shiftLeft

/-- The values of VX and VY before an operation, its result and its flag. The plain operations
have no flag.
-/
def Law (op : Arithmetic) (vx vy result flag : Nat) : Prop :=
  match op with
  | .assign => result = vy
  | .or => result = vx ||| vy
  | .and => result = vx &&& vy
  | .xor => result = vx ^^^ vy
  | .add => flag ≤ 1 ∧ 256 * flag + result = vx + vy
  | .sub => flag ≤ 1 ∧ (flag = 1 ↔ vy < vx) ∧ (result : Int) = ((vx : Int) - vy) % 256
  | .shiftRight => flag ≤ 1 ∧ 2 * result + flag = vx
  | .subReverse => flag ≤ 1 ∧ (flag = 1 ↔ vx < vy) ∧ (result : Int) = ((vy : Int) - vx) % 256
  | .shiftLeft => flag ≤ 1 ∧ 256 * flag + result = 2 * vx

theorem toNat_decide (p : Prop) [Decidable p] : (decide p).toNat = if p then 1 else 0 := by
  by_cases holds : p
  · rw [decide_eq_true holds, if_pos holds, Bool.toNat_true]
  · rw [decide_eq_false holds, if_neg holds, Bool.toNat_false]

theorem add_law (vx vy : UInt8)
    : 256 * (decide (256 ≤ vx.toNat + vy.toNat)).toNat + (vx + vy).toNat
      = vx.toNat + vy.toNat := by
  have := vx.toNat_lt
  have := vy.toNat_lt
  rw [UInt8.toNat_add, toNat_decide]
  split
  · omega
  · omega

theorem sub_law (vx vy : UInt8)
    : ((vx - vy).toNat : Int) = ((vx.toNat : Int) - vy.toNat) % 256 := by
  have := vx.toNat_lt
  have := vy.toNat_lt
  rw [UInt8.toNat_sub]
  omega

theorem greater_iff (vx vy : UInt8) : (decide (vy < vx)).toNat = 1 ↔ vy.toNat < vx.toNat := by
  rw [Bool.toNat_eq_one, decide_eq_true_iff, UInt8.lt_iff_toNat_lt]

theorem shiftRight_law (vx : UInt8) : 2 * (vx / 2).toNat + (vx % 2 == 1).toNat = vx.toNat := by
  have odd : (vx % 2 == 1) = decide (vx.toNat % 2 = 1) := by
    rw [Bool.eq_iff_iff, beq_iff_eq, decide_eq_true_iff, ← UInt8.toNat_inj, UInt8.toNat_mod]
    rfl
  rw [UInt8.toNat_div, odd, toNat_decide]
  change 2 * (vx.toNat / 2) + _ = vx.toNat
  split
  · omega
  · omega

theorem shiftLeft_law (vx : UInt8)
    : 256 * (decide (128 ≤ vx)).toNat + (2 * vx).toNat = 2 * vx.toNat := by
  have := vx.toNat_lt
  have high : decide (128 ≤ vx) = decide (128 ≤ vx.toNat) :=
    decide_eq_decide.mpr UInt8.le_iff_toNat_le
  rw [UInt8.toNat_mul, high, toNat_decide]
  change _ + 2 * vx.toNat % 256 = _
  split
  · omega
  · omega

/-- An operation with a flag obeys its law, by cases on the operation. -/
theorem law_of_flag {op : Arithmetic} {vx vy result : UInt8} {bit : Bool}
    (applied : op.apply vx vy = (result, some bit))
    : op.Law vx.toNat vy.toNat result.toNat bit.toUInt8.toNat := by
  have number : bit.toUInt8.toNat = bit.toNat := by cases bit <;> rfl
  have small := bit.toNat_le
  rw [number]
  cases op with
  | assign | or | and | xor => cases applied
  | add =>
    cases applied
    exact ⟨small, add_law vx vy⟩
  | sub =>
    cases applied
    exact ⟨small, greater_iff vx vy, sub_law vx vy⟩
  | shiftRight =>
    cases applied
    exact ⟨small, shiftRight_law vx⟩
  | subReverse =>
    cases applied
    exact ⟨small, greater_iff vy vx, sub_law vy vx⟩
  | shiftLeft =>
    cases applied
    exact ⟨small, shiftLeft_law vx⟩

/-- A plain operation obeys its law whatever VF holds, by cases on the operation. -/
theorem law_of_plain {op : Arithmetic} {vx vy result : UInt8}
    (applied : op.apply vx vy = (result, none)) (flag : Nat)
    : op.Law vx.toNat vy.toNat result.toNat flag := by
  cases op with
  | assign =>
    cases applied
    rfl
  | or =>
    cases applied
    exact UInt8.toNat_or vx vy
  | and =>
    cases applied
    exact UInt8.toNat_and vx vy
  | xor =>
    cases applied
    exact UInt8.toNat_xor vx vy
  | add | sub | shiftRight | subReverse | shiftLeft => cases applied

theorem not_isPlain_of_flag {op : Arithmetic} {vx vy result : UInt8} {bit : Bool}
    (applied : op.apply vx vy = (result, some bit))
    : ¬op.IsPlain := by
  rintro (rfl | rfl | rfl | rfl)
  all_goals cases applied

end Arithmetic

-----------------------------------------------------------------------------------------
-- The registers after an operation
-----------------------------------------------------------------------------------------

namespace Registers

/-- The registers after an operation on VX and VY. If VX is VF itself, it keeps the result, and
the flag is lost.
-/
structure Computes (op : Arithmetic) (x y : Register) (before after : Registers) : Prop where
  law
    : x ≠ flag
      → op.Law (before.get x).toNat (before.get y).toNat (after.get x).toNat
          (after.get flag).toNat
  onFlag
    : x = flag
      → ∃ lost,
          op.Law (before.get x).toNat (before.get y).toNat (after.get flag).toNat lost
  others : ∀ r, r ≠ x → r ≠ flag ∨ op.IsPlain → after.get r = before.get r

theorem computes_arithmetic (registers : Registers) (op : Arithmetic) (x y : Register)
    : registers.Computes op x y (registers.arithmetic op x y) := by
  unfold arithmetic
  split
  · next result plain =>
    have written : (registers.set x result).get x = result := by simp
    refine ⟨?_, ?_, ?_⟩
    · intro _
      rw [written]
      exact Arithmetic.law_of_plain plain _
    · rintro rfl
      rw [written]
      exact ⟨0, Arithmetic.law_of_plain plain 0⟩
    · intro r other _
      rw [get_set, if_neg (Ne.symm other)]
  · next result bit flagged =>
    have written : ((registers.set flag bit.toUInt8).set x result).get x = result := by simp
    refine ⟨?_, ?_, ?_⟩
    · intro other
      have noted : ((registers.set flag bit.toUInt8).set x result).get flag = bit.toUInt8 := by
        rw [get_set, if_neg other, get_set, if_pos rfl]
      rw [written, noted]
      exact Arithmetic.law_of_flag flagged
    · -- The result is written last and replaces the flag.
      rintro rfl
      rw [written]
      exact ⟨_, Arithmetic.law_of_flag flagged⟩
    · intro r other kept
      have apart : r ≠ flag := kept.resolve_right (Arithmetic.not_isPlain_of_flag flagged)
      rw [get_set, if_neg (Ne.symm other), get_set, if_neg (Ne.symm apart)]

/-- A shift does not look at VY. -/
theorem arithmetic_of_isShift {op : Arithmetic} (shift : op.IsShift) (registers : Registers)
    (x y z : Register)
    : registers.arithmetic op x y = registers.arithmetic op x z := by
  rcases shift with rfl | rfl <;> rfl

end Registers

namespace Machine

theorem execute_of_arithmetic (m : Machine) {opcode : Opcode} {op : Arithmetic}
    (family : opcode.family = 0x8) (last : opcode.n.val = op.nibble)
    : m.execute (.decode opcode)
      = .ok
          { machine :=
              { m with registers := m.registers.arithmetic op opcode.x opcode.y } } := by
  have decoded : Instruction.decode opcode = .arithmetic op opcode.x opcode.y := by
    simp [Instruction.decode, family, Arithmetic.ofNibble?_eq_some_iff.mpr last]
  rw [decoded]
  rfl

/-- The operations of family 8 obey their laws for every choice of the two registers: the same
one twice, or VF as either of them. They keep the registers but VX and VF, the plain ones keep
VF as well, and the shifts ignore VY. None of them can be refused, and a step that fetches one
does the same.
Witness: both operands are read before VF is written, and VF is written before VX.
-/
theorem arithmetic_obeys_its_law (m : Machine) {opcode : Opcode} {op : Arithmetic}
    (family : opcode.family = 0x8) (last : opcode.n.val = op.nibble)
    : (∃ next,
        m.perform (.decode opcode) = (next, .ok .nothing)
        ∧ m.registers.Computes op opcode.x opcode.y next.registers)
      ∧ (m.memory.fetch m.pc = .ok opcode
        → ∃ next,
            m.step = (next, .ok .nothing)
            ∧ m.registers.Computes op opcode.x opcode.y next.registers)
      ∧ ∀ other : Opcode,
          other.family = 0x8
          → other.n = opcode.n
          → other.x = opcode.x
          → op.IsShift
          → m.perform (.decode other) = m.perform (.decode opcode) := by
  have computes := m.registers.computes_arithmetic op opcode.x opcode.y
  refine ⟨⟨_, perform_of_ok (execute_of_arithmetic m family last), computes⟩, ?_, ?_⟩
  · intro fetched
    have performed := perform_of_ok (execute_of_arithmetic { m with opcode } family last)
    exact ⟨_, (step_of_ok fetched).trans performed, computes⟩
  · intro other otherFamily sameLast sameX shift
    have otherLast : other.n.val = op.nibble := by rw [sameLast, last]
    rw [perform_of_ok (execute_of_arithmetic m family last),
      perform_of_ok (execute_of_arithmetic m otherFamily otherLast), sameX,
      Registers.arithmetic_of_isShift shift _ _ other.y opcode.y]

/-- A machine with 200 in VF and 7 in VA. -/
def flagHolder : Machine :=
  { powerOn { stream := fun _ => 0 } with
    registers := (Registers.set {} 0xF 200).set 0xA 7 }

/-- VF added to itself keeps the sum without the carry, and VF subtracted from VA is read before
the missing borrow is noted there.
-/
theorem arithmetic_obeys_its_law_flagHolder
    : Opcode.family 0x8FF4 = 0x8
      ∧ (Opcode.n 0x8FF4).val = Arithmetic.add.nibble
      ∧ (∃ next,
        flagHolder.perform (.decode 0x8FF4) = (next, .ok .nothing)
        ∧ next.registers.get 0xF = 144)
      ∧ Opcode.family 0x8AF5 = 0x8
      ∧ (Opcode.n 0x8AF5).val = Arithmetic.sub.nibble
      ∧ ∃ next,
          flagHolder.perform (.decode 0x8AF5) = (next, .ok .nothing)
          ∧ next.registers.get 0xA = 63
          ∧ next.registers.get 0xF = 0 := by
  have vf : flagHolder.registers.get 0xF = 200 := by simp [flagHolder]
  have va : flagHolder.registers.get 0xA = 7 := by simp [flagHolder]
  have adding : Opcode.family 0x8FF4 = 0x8 := by decide
  have addLast : (Opcode.n 0x8FF4).val = Arithmetic.add.nibble := by decide
  have subtracting : Opcode.family 0x8AF5 = 0x8 := by decide
  have subLast : (Opcode.n 0x8AF5).val = Arithmetic.sub.nibble := by decide
  have sumDigits : Opcode.x 0x8FF4 = 0xF ∧ Opcode.y 0x8FF4 = 0xF := by decide
  have differenceDigits : Opcode.x 0x8AF5 = 0xA ∧ Opcode.y 0x8AF5 = 0xF := by decide
  obtain ⟨⟨sum, added, sums⟩, _⟩ := arithmetic_obeys_its_law flagHolder adding addLast
  obtain ⟨⟨difference, subtracted, differs⟩, _⟩ :=
    arithmetic_obeys_its_law flagHolder subtracting subLast
  rw [sumDigits.1, sumDigits.2] at sums
  rw [differenceDigits.1, differenceDigits.2] at differs
  obtain ⟨lost, carried, total⟩ := sums.onFlag rfl
  obtain ⟨small, borrowed, result⟩ := differs.law (by decide)
  rw [vf] at total
  rw [va, vf] at borrowed result
  have whole : 256 * lost + (sum.registers.get 0xF).toNat = 400 := total
  have part : ((difference.registers.get 0xA).toNat : Int) = 63 := result
  have noBorrow : ¬(difference.registers.get 0xF).toNat = 1 := mt borrowed.mp (by decide)
  have byte := (sum.registers.get 0xF).toNat_lt
  refine ⟨adding, addLast, ⟨sum, added, ?_⟩, subtracting, subLast, difference, subtracted, ?_, ?_⟩
  · apply UInt8.toNat_inj.mp
    change _ = 144
    omega
  · apply UInt8.toNat_inj.mp
    change _ = 63
    omega
  · apply UInt8.toNat_inj.mp
    change _ = 0
    change (difference.registers.get 0xF).toNat ≤ 1 at small
    omega

end Machine

end ChipEight
