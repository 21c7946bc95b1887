/-! The cyclic redundancy check of archive entries. -/

namespace ChipEight.Checksum

/-- Shift one bit out of the remainder; a set bit subtracts the generator polynomial. -/
def shiftBit (remainder : UInt32) : UInt32 :=
  if remainder &&& 1 = 1 then (remainder >>> 1) ^^^ 0xEDB88320 else remainder >>> 1

/-- Take a byte into the remainder, lowest bit first. -/
def takeByte (remainder : UInt32) (byte : UInt8) : UInt32 :=
  Nat.repeat shiftBit 8 (remainder ^^^ byte.toUInt32)

/-- The checksum of a block of bytes. -/
def crc32 (data : Array UInt8) : UInt32 :=
  data.foldl takeByte 0xFFFFFFFF ^^^ 0xFFFFFFFF

end ChipEight.Checksum
