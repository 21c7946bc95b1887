import ChipEight.Proofs.Decoding
import ChipEight.Proofs.Raw.Decoding

/-! Writing instructions as opcodes again. An opcode is told by its family and its operands, so
decoding loses nothing: no two opcodes stand for one instruction, and an instruction tells the two
bytes that were fetched for it.
-/

namespace ChipEight

-----------------------------------------------------------------------------------------
-- Opcodes out of their digits
-----------------------------------------------------------------------------------------

namespace Opcode

/-- The opcode of a family with an address as operand. -/
def ofAddress (family : Fin 16) (nnn : Fin memorySize) : Opcode :=
  UInt16.ofNat (family.val * 4096 + nnn.val)

/-- The opcode of a family with a register and a byte. -/
def ofByte (family : Fin 16) (x : Register) (kk : UInt8) : Opcode :=
  UInt16.ofNat (family.val * 4096 + x.val * 256 + kk.toNat)

/-- The opcode of a family with two registers and a last digit. -/
def ofDigits (family : Fin 16) (x y : Register) (n : Nat) : Opcode :=
  UInt16.ofNat (family.val * 4096 + x.val * 256 + y.val * 16 + n)

/-- A number that an opcode is equal to as a number is the opcode. -/
theorem ofNat_eq {opcode : Opcode} {number : Nat} (same : number = opcode.toNat)
    : UInt16.ofNat number = opcode := by
  rw [same, UInt16.ofNat_toNat]

theorem ofAddress_eq (opcode : Opcode) : ofAddress opcode.family opcode.nnn = opcode := by
  refine ofNat_eq ?_
  simp only [family, nnn, memorySize]
  omega

theorem ofByte_eq (opcode : Opcode) : ofByte opcode.family opcode.x opcode.kk = opcode := by
  have bound := opcode.toNat_lt
  refine ofNat_eq ?_
  simp only [family, x, kk, registerCount, UInt8.toNat_ofNat']
  omega

theorem ofDigits_eq (opcode : Opcode)
    : ofDigits opcode.family opcode.x opcode.y opcode.n.val = opcode := by
  have bound := opcode.toNat_lt
  refine ofNat_eq ?_
  simp only [family, x, y, n, registerCount]
  omega

end Opcode

-----------------------------------------------------------------------------------------
-- Instructions as opcodes
-----------------------------------------------------------------------------------------

namespace Instruction

/-- The opcode of an instruction. -/
def encode : Instruction → Opcode
  | .clear => 0x00E0
  | .ret => 0x00EE
  | .routine nnn => .ofAddress 0x0 nnn
  | .jump nnn => .ofAddress 0x1 nnn
  | .call nnn => .ofAddress 0x2 nnn
  | .skipEqual x kk => .ofByte 0x3 x kk
  | .skipNotEqual x kk => .ofByte 0x4 x kk
  | .skipSame x y => .ofDigits 0x5 x y 0
  | .set x kk => .ofByte 0x6 x kk
  | .add x kk => .ofByte 0x7 x kk
  | .arithmetic op x y => .ofDigits 0x8 x y op.nibble
  | .skipDifferent x y => .ofDigits 0x9 x y 0
  | .setIndex nnn => .ofAddress 0xA nnn
  | .jumpOffset nnn => .ofAddress 0xB nnn
  | .random x kk => .ofByte 0xC x kk
  | .draw x y n => .ofDigits 0xD x y n.val
  | .skipHeld x => .ofByte 0xE x 0x9E
  | .skipNotHeld x => .ofByte 0xE x 0xA1
  | .misc op x => .ofByte 0xF x op.byte
  | .unassigned opcode => opcode

/-- An instruction is written as the opcode that stands for it, line by line of the table. -/
theorem encode_of_decodes {opcode : Opcode} {instruction : Instruction}
    (line : Decodes opcode instruction)
    : instruction.encode = opcode := by
  cases line with
  | clear whole => exact whole.symm
  | ret whole => exact whole.symm
  | routine family | jump family | call family | setIndex family | jumpOffset family =>
    rw [encode, ← family, Opcode.ofAddress_eq]
  | skipEqual family | skipNotEqual family | set family | add family | random family =>
    rw [encode, ← family, Opcode.ofByte_eq]
  | skipSame family last | skipDifferent family last | arithmetic family last =>
    rw [encode, ← family, ← last, Opcode.ofDigits_eq]
  | draw family => rw [encode, ← family, Opcode.ofDigits_eq]
  | skipHeld family last | skipNotHeld family last =>
    rw [encode, ← family, ← last, Opcode.ofByte_eq]
  | misc selected => rw [encode, ← selected.1, ← selected.2, Opcode.ofByte_eq]
  | unassigned => rfl

theorem encode_decode (opcode : Opcode) : (decode opcode).encode = opcode :=
  encode_of_decodes (decodes_decode opcode)

/-- The two bytes of an instruction as they stand in memory. -/
def bytes (instruction : Instruction) : UInt8 × UInt8 :=
  instruction.encode.toBytes

theorem bytes_decode_ofBytes (high low : UInt8)
    : (decode (.ofBytes high low)).bytes = (high, low) := by
  rw [bytes, encode_decode, Opcode.toBytes_ofBytes]

end Instruction

/-- What is fetched are the two bytes at the pointer. -/
theorem Opcode.fetch_eq_ok_iff {data : Array UInt8} {pointer : Nat} {opcode : Opcode}
    : fetch data pointer = .ok opcode
      ↔ ∃ high low,
          data[pointer]? = some high
          ∧ data[pointer + 1]? = some low
          ∧ ofBytes high low = opcode := by
  rw [fetch]
  split
  next room =>
    have first : data[pointer]? = some data[pointer] :=
      Array.getElem?_eq_getElem (Nat.lt_of_succ_lt room)
    have second : data[pointer + 1]? = some data[pointer + 1] := Array.getElem?_eq_getElem room
    constructor
    · intro fetched
      exact ⟨_, _, first, second, Except.ok.inj fetched⟩
    · rintro ⟨high, low, high_eq, low_eq, rfl⟩
      rw [Option.some.inj (first.symm.trans high_eq), Option.some.inj (second.symm.trans low_eq)]
  next outside =>
    have second : data[pointer + 1]? = none := Array.getElem?_eq_none (Nat.le_of_not_lt outside)
    constructor
    · nofun
    · rintro ⟨_, _, _, low_eq, _⟩
      rw [second] at low_eq
      cases low_eq

namespace Instruction

/-- The bytes of the instruction that was fetched are those at the pointer. -/
theorem bytes_of_fetch {data : Array UInt8} {pointer : Nat} {opcode : Opcode}
    (fetched : Opcode.fetch data pointer = .ok opcode)
    : data[pointer]? = some (decode opcode).bytes.1
      ∧ data[pointer + 1]? = some (decode opcode).bytes.2 := by
  obtain ⟨high, low, first, second, rfl⟩ := Opcode.fetch_eq_ok_iff.mp fetched
  rw [bytes_decode_ofBytes]
  exact ⟨first, second⟩

/-- Fetching and decoding lose nothing. A fetch fails exactly if the second byte lies outside of
the data, and tells where; also if the pointer is a word whose sum with one wraps around. What is
fetched is decoded, by masks and shifts with every operand in its range, and the instruction tells
the two bytes that stand at the pointer. So fetches that give one instruction, from wherever, found
the same bytes.
Witness: the opcode of an instruction, which decoding came from.
-/
theorem fetch_and_decode_lose_nothing
    : (∀ (data : Array UInt8) (pointer : UInt64),
        data.size < 0x10000000000000000
        → Raw.fetch data pointer = Opcode.fetch data pointer.toNat)
      ∧ (∀ (data : Array UInt8) (pointer : Nat) (e : OpcodeError),
          Opcode.fetch data pointer = .error e
            ↔ e = .outOfMemory pointer data.size ∧ ¬ pointer + 1 < data.size)
      ∧ (∀ (data : Array UInt8) (pointer : Nat),
          pointer + 1 < data.size
          → ∃ opcode,
              Opcode.fetch data pointer = .ok opcode
              ∧ Raw.decode? opcode pointer = some (.ok (decode opcode))
              ∧ data[pointer]? = some (decode opcode).bytes.1
              ∧ data[pointer + 1]? = some (decode opcode).bytes.2)
      ∧ ∀ (left right : Array UInt8) (pointer other : Nat) (first second : Opcode),
          Opcode.fetch left pointer = .ok first
          → Opcode.fetch right other = .ok second
          → decode first = decode second
          → left[pointer]? = right[other]? ∧ left[pointer + 1]? = right[other + 1]? := by
  refine ⟨fun data pointer sized => Raw.fetch_eq pointer sized, ?_, ?_, ?_⟩
  · intro data pointer e
    rw [Opcode.fetch_eq_error_iff, Nat.not_lt]
  · intro data pointer room
    cases fetched : Opcode.fetch data pointer with
    | error e => exact absurd room (Nat.not_lt.mpr (Opcode.fetch_eq_error_iff.mp fetched).2)
    | ok opcode => exact ⟨opcode, rfl, Raw.decode?_eq opcode pointer, bytes_of_fetch fetched⟩
  · intro left right pointer other first second here there same
    obtain ⟨high, low⟩ := bytes_of_fetch here
    obtain ⟨otherHigh, otherLow⟩ := bytes_of_fetch there
    rw [high, low, otherHigh, otherLow, same]
    exact ⟨rfl, rfl⟩

/-- One prompt is fetched from two places, and nothing behind the last pointer. -/
theorem fetch_and_decode_lose_nothing_lastPointer
    : let left : Array UInt8 := #[0xF3, 0x0A]
      let right : Array UInt8 := #[0x5A, 0xF3, 0x0A]
      left.size < 0x10000000000000000
      ∧ Raw.fetch left 0xFFFFFFFFFFFFFFFF = .error (.outOfMemory 0xFFFFFFFFFFFFFFFF 2)
      ∧ 1 + 1 < right.size
      ∧ Opcode.fetch left 0 = .ok 0xF30A
      ∧ Opcode.fetch right 1 = .ok 0xF30A
      ∧ decode 0xF30A = .misc .awaitKey 3
      ∧ (decode 0xF30A).bytes = (0xF3, 0x0A)
      ∧ left[0]? = right[1]? := by
  intro left right
  obtain ⟨wraps, fails, found, same⟩ := fetch_and_decode_lose_nothing
  have sized : left.size < 0x10000000000000000 := by decide
  have room : 1 + 1 < right.size := by decide
  have here : Opcode.fetch left 0 = .ok 0xF30A :=
    Opcode.fetch_eq_ok_iff.mpr ⟨0xF3, 0x0A, rfl, rfl, rfl⟩
  have there : Opcode.fetch right 1 = .ok 0xF30A :=
    Opcode.fetch_eq_ok_iff.mpr ⟨0xF3, 0x0A, rfl, rfl, rfl⟩
  have prompt : decode 0xF30A = .misc .awaitKey 3 := by decide
  refine ⟨sized, ?_, room, here, there, prompt, ?_, (same left right 0 1 _ _ here there rfl).1⟩
  · rw [wraps left _ sized, fails]
    decide
  · obtain ⟨opcode, fetched, _, high, low⟩ := found right 1 room
    obtain rfl : 0xF30A = opcode := Except.ok.inj (there.symm.trans fetched)
    exact Prod.ext (Option.some.inj high).symm (Option.some.inj low).symm

end Instruction

end ChipEight
