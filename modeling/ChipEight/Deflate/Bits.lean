/-! Compressed data as a stream of bits: the bits of each byte from the lowest to the highest.
-/

namespace ChipEight.Deflate

/-- Why compressed data cannot be decompressed. -/
inductive StreamDefect where
  /-- The data ends before the stream does. -/
  | cutOff
  /-- No stream continues in this way. -/
  | corrupt
  deriving DecidableEq, Repr

/-- The bits that are still to be read. -/
abbrev Bits := List Bool

/-- The bits of a block of bytes. -/
def bitsOf (data : Array UInt8) : Bits :=
  data.toList.flatMap fun byte => (List.range 8).map byte.toNat.testBit

/-- Read a number of `width` bits with its lowest bit first. -/
def takeNumber : Nat → Bits → Except StreamDefect (Nat × Bits)
  | 0, bits => .ok (0, bits)
  | _ + 1, [] => .error .cutOff
  | width + 1, bit :: bits =>
    match takeNumber width bits with
    | .error e => .error e
    | .ok (upper, rest) => .ok (bit.toNat + 2 * upper, rest)

/-- Leave out the rest of a byte of which some bits were read. -/
def alignByte (bits : Bits) : Bits :=
  bits.drop (bits.length % 8)

/-- Read whole bytes. -/
def takeBytes : Nat → Bits → Array UInt8 → Except StreamDefect (Array UInt8 × Bits)
  | 0, bits, out => .ok (out, bits)
  | count + 1, bits, out =>
    match takeNumber 8 bits with
    | .error e => .error e
    | .ok (byte, rest) => takeBytes count rest (out.push (UInt8.ofNat byte))

end ChipEight.Deflate
