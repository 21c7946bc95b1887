import ChipEight.Fault

/-! Taking an opcode out of a block of bytes. -/

namespace ChipEight.Opcode

/-- The opcode at `pointer`, if both of its bytes lie inside of the data. -/
def fetch (data : Array UInt8) (pointer : Nat) : Except OpcodeError Opcode :=
  if h : pointer + 1 < data.size then
    .ok (ofBytes data[pointer] data[pointer + 1])
  else
    .error (.outOfMemory pointer data.size)

/-- A fetch fails exactly if the second byte lies outside of the data, and says where. -/
theorem fetch_eq_error_iff {data : Array UInt8} {pointer : Nat} {e : OpcodeError}
    : fetch data pointer = .error e
      ↔ e = .outOfMemory pointer data.size ∧ data.size ≤ pointer + 1 := by
  unfold fetch
  split
  · simp
    omega
  · simp [eq_comm]
    omega

end ChipEight.Opcode
