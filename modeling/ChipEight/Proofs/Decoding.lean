import ChipEight.Instruction

/-! The table of the opcodes, read off their digits. Decoding follows it line by line, so what
is proved by cases on the table holds of every opcode.
-/

namespace ChipEight

namespace Opcode

/-- An opcode `FXKK` with the given last byte. -/
def IsMisc (opcode : Opcode) (last : UInt8) : Prop :=
  opcode.family = 0xF ∧ opcode.kk = last

instance (opcode : Opcode) (last : UInt8) : Decidable (opcode.IsMisc last) :=
  inferInstanceAs (Decidable (_ ∧ _))

/-- A gap inside of a family that tells its opcodes apart. -/
inductive IsGap (opcode : Opcode) : Prop
  | skips (family : opcode.family = 0x5 ∨ opcode.family = 0x9) (last : opcode.n.val ≠ 0)
  | arithmetic (family : opcode.family = 0x8)
    (last : ∀ op : Arithmetic, opcode.n.val ≠ op.nibble)
  | keys (family : opcode.family = 0xE) (noHeld : opcode.kk ≠ 0x9E)
    (noNotHeld : opcode.kk ≠ 0xA1)
  | misc (family : opcode.family = 0xF) (last : ∀ op : Misc, opcode.kk ≠ op.byte)

end Opcode

/-- The lines of the table: an opcode stands for an instruction. -/
inductive Decodes (opcode : Opcode) : Instruction → Prop
  | clear (whole : opcode = 0x00E0) : Decodes opcode .clear
  | ret (whole : opcode = 0x00EE) : Decodes opcode .ret
  | routine (family : opcode.family = 0x0) (noClear : opcode ≠ 0x00E0)
    (noReturn : opcode ≠ 0x00EE)
    : Decodes opcode (.routine opcode.nnn)
  | jump (family : opcode.family = 0x1) : Decodes opcode (.jump opcode.nnn)
  | call (family : opcode.family = 0x2) : Decodes opcode (.call opcode.nnn)
  | skipEqual (family : opcode.family = 0x3)
    : Decodes opcode (.skipEqual opcode.x opcode.kk)
  | skipNotEqual (family : opcode.family = 0x4)
    : Decodes opcode (.skipNotEqual opcode.x opcode.kk)
  | skipSame (family : opcode.family = 0x5) (last : opcode.n.val = 0)
    : Decodes opcode (.skipSame opcode.x opcode.y)
  | set (family : opcode.family = 0x6) : Decodes opcode (.set opcode.x opcode.kk)
  | add (family : opcode.family = 0x7) : Decodes opcode (.add opcode.x opcode.kk)
  | arithmetic {op : Arithmetic} (family : opcode.family = 0x8)
    (last : opcode.n.val = op.nibble)
    : Decodes opcode (.arithmetic op opcode.x opcode.y)
  | skipDifferent (family : opcode.family = 0x9) (last : opcode.n.val = 0)
    : Decodes opcode (.skipDifferent opcode.x opcode.y)
  | setIndex (family : opcode.family = 0xA) : Decodes opcode (.setIndex opcode.nnn)
  | jumpOffset (family : opcode.family = 0xB) : Decodes opcode (.jumpOffset opcode.nnn)
  | random (family : opcode.family = 0xC) : Decodes opcode (.random opcode.x opcode.kk)
  | draw (family : opcode.family = 0xD)
    : Decodes opcode (.draw opcode.x opcode.y opcode.n)
  | skipHeld (family : opcode.family = 0xE) (last : opcode.kk = 0x9E)
    : Decodes opcode (.skipHeld opcode.x)
  | skipNotHeld (family : opcode.family = 0xE) (last : opcode.kk = 0xA1)
    : Decodes opcode (.skipNotHeld opcode.x)
  | misc {op : Misc} (digits : opcode.IsMisc op.byte) : Decodes opcode (.misc op opcode.x)
  | unassigned (gap : opcode.IsGap) : Decodes opcode (.unassigned opcode)

namespace Instruction

/-- Every opcode stands for what it is decoded to, by the branches of the decoder. -/
theorem decodes_decode (opcode : Opcode) : Decodes opcode (decode opcode) := by
  unfold decode
  split
  case h_1 family =>
    split
    · next whole => exact .clear whole
    · next noClear =>
      split
      · next whole => exact .ret whole
      · next noReturn => exact .routine family noClear noReturn
  case h_2 family => exact .jump family
  case h_3 family => exact .call family
  case h_4 family => exact .skipEqual family
  case h_5 family => exact .skipNotEqual family
  case h_6 family =>
    split
    · next last => exact .skipSame family last
    · next last => exact .unassigned (.skips (.inl family) last)
  case h_7 family => exact .set family
  case h_8 family => exact .add family
  case h_9 family =>
    split
    · next selected => exact .arithmetic family (Arithmetic.ofNibble?_eq_some_iff.mp selected)
    · next none =>
      refine .unassigned (.arithmetic family ?_)
      intro op same
      rw [Arithmetic.ofNibble?_eq_some_iff.mpr same] at none
      cases none
  case h_10 family =>
    split
    · next last => exact .skipDifferent family last
    · next last => exact .unassigned (.skips (.inr family) last)
  case h_11 family => exact .setIndex family
  case h_12 family => exact .jumpOffset family
  case h_13 family => exact .random family
  case h_14 family => exact .draw family
  case h_15 family =>
    split
    · next last => exact .skipHeld family last
    · next noHeld =>
      split
      · next last => exact .skipNotHeld family last
      · next noNotHeld => exact .unassigned (.keys family noHeld noNotHeld)
  case h_16 =>
    have family : opcode.family = 0xF := by
      grind
    split
    · next selected => exact .misc ⟨family, Misc.ofByte?_eq_some_iff.mp selected⟩
    · next none =>
      refine .unassigned (.misc family ?_)
      intro op same
      rw [Misc.ofByte?_eq_some_iff.mpr same] at none
      cases none

/-- Only `00EE` decodes to a return. -/
theorem decode_eq_ret_iff {opcode : Opcode} : decode opcode = .ret ↔ opcode = 0x00EE := by
  constructor
  · intro h
    have line := decodes_decode opcode
    rw [h] at line
    cases line with
    | ret whole => exact whole
  · rintro rfl
    decide

/-- Exactly the opcodes of family 2 decode to calls. -/
theorem decode_eq_call_iff {opcode : Opcode} {nnn : Fin memorySize}
    : decode opcode = .call nnn ↔ opcode.family = 0x2 ∧ nnn = opcode.nnn := by
  constructor
  · intro h
    have line := decodes_decode opcode
    rw [h] at line
    cases line with
    | call family => exact ⟨family, rfl⟩
  · rintro ⟨family, rfl⟩
    simp [decode, family]

/-- Exactly the opcodes of family C decode to random instructions. -/
theorem decode_eq_random_iff {opcode : Opcode} {x : Register} {kk : UInt8}
    : decode opcode = .random x kk ↔ opcode.family = 0xC ∧ x = opcode.x ∧ kk = opcode.kk := by
  constructor
  · intro h
    have line := decodes_decode opcode
    rw [h] at line
    cases line with
    | random family => exact ⟨family, rfl, rfl⟩
  · rintro ⟨family, rfl, rfl⟩
    simp [decode, family]

/-- Exactly the opcodes `FXKK` with the byte of an operation decode to it. -/
theorem decode_eq_misc_iff {opcode : Opcode} {op : Misc} {x : Register}
    : decode opcode = .misc op x ↔ opcode.IsMisc op.byte ∧ x = opcode.x := by
  constructor
  · intro h
    have line := decodes_decode opcode
    rw [h] at line
    cases line with
    | misc digits => exact ⟨digits, rfl⟩
  · rintro ⟨⟨family, last⟩, rfl⟩
    simp [decode, family, Misc.ofByte?_eq_some_iff.mpr last]

end Instruction

end ChipEight
