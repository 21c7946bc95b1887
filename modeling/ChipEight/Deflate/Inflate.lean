import ChipEight.Deflate.CodeTree

/-! Decompression of deflated data: stored blocks, and blocks of literals and repetitions
under fixed or given prefix codes.
-/

namespace ChipEight.Deflate

/-- The base lengths of repetitions with their numbers of extra bits, from symbol 257 on. -/
def lengthRanges : List (Nat × Nat) :=
  [(3, 0), (4, 0), (5, 0), (6, 0), (7, 0), (8, 0), (9, 0), (10, 0), (11, 1), (13, 1), (15, 1),
   (17, 1), (19, 2), (23, 2), (27, 2), (31, 2), (35, 3), (43, 3), (51, 3), (59, 3), (67, 4),
   (83, 4), (99, 4), (115, 4), (131, 5), (163, 5), (195, 5), (227, 5), (258, 0)]

/-- The base distances of repetitions with their numbers of extra bits. -/
def distanceRanges : List (Nat × Nat) :=
  [(1, 0), (2, 0), (3, 0), (4, 0), (5, 1), (7, 1), (9, 2), (13, 2), (17, 3), (25, 3), (33, 4),
   (49, 4), (65, 5), (97, 5), (129, 6), (193, 6), (257, 7), (385, 7), (513, 8), (769, 8),
   (1025, 9), (1537, 9), (2049, 10), (3073, 10), (4097, 11), (6145, 11), (8193, 12),
   (12289, 12), (16385, 13), (24577, 13)]

/-- A number out of a range: the base that a symbol selects, plus its extra bits. -/
def takeRanged (ranges : List (Nat × Nat)) (symbol : Nat) (bits : Bits)
    : Except StreamDefect (Nat × Bits) := do
  match ranges[symbol]? with
  | none => .error .corrupt
  | some (base, extra) =>
    let (more, bits) ← takeNumber extra bits
    return (base + more, bits)

/-- Repeat `count` bytes from `distance` bytes before the end. A distance may reach behind
the beginning of the output, where zeros lie.
-/
def copyBack (distance : Nat) : Nat → Array UInt8 → Array UInt8
  | 0, out => out
  | count + 1, out =>
    let byte := if distance ≤ out.size then out[out.size - distance]?.getD 0 else 0
    copyBack distance count (out.push byte)

/-- The two codes of a block: literals and lengths, and distances. -/
structure BlockCodes where
  literals : CodeTree
  distances : CodeTree

/-- Read the symbols of a block up to its end. Every symbol takes a bit at least, so the
number of bits bounds the number of rounds.
-/
def inflateSymbols (codes : BlockCodes) (rounds : Nat) (bits : Bits) (out : Array UInt8)
    : Except StreamDefect (Array UInt8 × Bits) :=
  match rounds with
  | 0 => .error .cutOff
  | rounds + 1 => do
    let (symbol, bits) ← codes.literals.decode bits
    if symbol < 256 then
      inflateSymbols codes rounds bits (out.push (UInt8.ofNat symbol))
    else if symbol = 256 then
      return (out, bits)
    else
      let (length, bits) ← takeRanged lengthRanges (symbol - 257) bits
      let (slot, bits) ← codes.distances.decode bits
      let (distance, bits) ← takeRanged distanceRanges slot bits
      inflateSymbols codes rounds bits (copyBack distance length out)

/-- A stored block: its length twice, the second time inverted, and its bytes. -/
def inflateStored (bits : Bits) (out : Array UInt8)
    : Except StreamDefect (Array UInt8 × Bits) := do
  let (length, bits) ← takeNumber 16 (alignByte bits)
  let (inverted, bits) ← takeNumber 16 bits
  if length + inverted = 65535 then takeBytes length bits out else .error .corrupt

/-- A code by the lengths of its words, which has to be one. -/
def codeOf (sparse : Bool) (lengths : List Nat) : Except StreamDefect CodeTree :=
  match CodeTree.ofLengths? sparse lengths with
  | none => .error .corrupt
  | some code => .ok code

/-- The codes of a block that brings none. -/
def fixedCodes : Except StreamDefect BlockCodes := do
  let literals ← codeOf false
    (List.replicate 144 8 ++ List.replicate 112 9 ++ List.replicate 24 7
      ++ List.replicate 8 8)
  let distances ← codeOf false (List.replicate 32 5)
  return { literals, distances }

/-- The order in which the lengths of the code for code lengths are written. -/
def lengthOrder : List Nat :=
  [16, 17, 18, 0, 8, 7, 9, 6, 10, 5, 11, 4, 12, 3, 13, 2, 14, 1, 15]

/-- Read numbers of three bits each. -/
def takeTriples : Nat → Bits → Except StreamDefect (List Nat × Bits)
  | 0, bits => .ok ([], bits)
  | count + 1, bits => do
    let (value, bits) ← takeNumber 3 bits
    let (values, bits) ← takeTriples count bits
    return (value :: values, bits)

/-- The lengths of the code for code lengths, from symbol 0 on. -/
def placeLengths (written : List Nat) : List Nat :=
  (List.range lengthOrder.length).map fun symbol =>
    ((lengthOrder.zip written).lookup symbol).getD 0

/-- What a symbol of the code for code lengths repeats, if it does not stand for a length: the
last length that was read, or zero.
-/
def repeatedLength (symbol : Nat) (read : List Nat) : Except StreamDefect Nat :=
  match symbol, read with
  | 16, [] => .error .corrupt
  | 16, last :: _ => .ok last
  | _, _ => .ok 0

/-- Read `total` code lengths, of which `read` holds those read so far, the last one first.
Three symbols repeat: the last length, or zeros in two ranges.
-/
def takeLengths (code : CodeTree) (total rounds : Nat) (bits : Bits) (read : List Nat)
    : Except StreamDefect (List Nat × Bits) :=
  match rounds with
  | 0 => .error .cutOff
  | rounds + 1 =>
    if read.length = total then
      .ok (read.reverse, bits)
    else if total < read.length then
      .error .corrupt
    else do
      let (symbol, bits) ← code.decode bits
      if symbol < 16 then
        takeLengths code total rounds bits (symbol :: read)
      else
        let length ← repeatedLength symbol read
        let (count, bits) ← takeRanged [(3, 2), (3, 3), (11, 7)] (symbol - 16) bits
        takeLengths code total rounds bits (List.replicate count length ++ read)

/-- The codes that a block brings along. -/
def takeCodes (bits : Bits) : Except StreamDefect (BlockCodes × Bits) := do
  let (literalCount, bits) ← takeNumber 5 bits
  let (distanceCount, bits) ← takeNumber 5 bits
  let (writtenCount, bits) ← takeNumber 4 bits
  let literalCount := literalCount + 257
  let distanceCount := distanceCount + 1
  if 286 < literalCount ∨ 30 < distanceCount then
    .error .corrupt
  let (written, bits) ← takeTriples (writtenCount + 4) bits
  let lengthCode ← codeOf false (placeLengths written)
  let total := literalCount + distanceCount
  let (lengths, bits) ← takeLengths lengthCode total (total + 1) bits []
  let literals ← codeOf true (lengths.take literalCount)
  let distances ← codeOf true (lengths.drop literalCount)
  return ({ literals, distances }, bits)

/-- Read one block behind its three header bits. -/
def inflateBlock (kind : Nat) (bits : Bits) (out : Array UInt8)
    : Except StreamDefect (Array UInt8 × Bits) :=
  match kind with
  | 0 => inflateStored bits out
  | 1 => do
    let codes ← fixedCodes
    inflateSymbols codes (bits.length + 1) bits out
  | 2 => do
    let (codes, bits) ← takeCodes bits
    inflateSymbols codes (bits.length + 1) bits out
  | _ => .error .corrupt

/-- Read blocks up to the last one; what follows it does not matter. -/
def inflateBlocks (rounds : Nat) (bits : Bits) (out : Array UInt8)
    : Except StreamDefect (Array UInt8) :=
  match rounds with
  | 0 => .error .cutOff
  | rounds + 1 => do
    let (last, bits) ← takeNumber 1 bits
    let (kind, bits) ← takeNumber 2 bits
    let (out, bits) ← inflateBlock kind bits out
    if last = 1 then return out else inflateBlocks rounds bits out

/-- The decompressed data, if the stream is sound up to the end of its last block. Every block
takes three bits at least, so the number of bits bounds the number of blocks.
-/
def inflate (data : Array UInt8) : Except StreamDefect (Array UInt8) :=
  let bits := bitsOf data
  inflateBlocks (bits.length + 1) bits #[]

end ChipEight.Deflate
