/-! Numbers in a block of bytes, with the low byte first. -/

namespace ChipEight.LittleEndian

/-- The number that some bytes hold. -/
def number : List UInt8 → Nat
  | [] => 0
  | byte :: rest => byte.toNat + 256 * number rest

/-- The bytes from `start` on, if all of them lie inside of the data. -/
def slice? (data : Array UInt8) (start length : Nat) : Option (List UInt8) :=
  if start + length ≤ data.size then
    some (data.extract start (start + length)).toList
  else
    none

/-- The number in `width` bytes from `start` on, if all of them lie inside of the data. -/
def read? (data : Array UInt8) (start width : Nat) : Option Nat :=
  (slice? data start width).map number

/-- The number at `start`, or zero if it lies outside of the data. -/
def readD (data : Array UInt8) (start width : Nat) : Nat :=
  (read? data start width).getD 0

end ChipEight.LittleEndian
