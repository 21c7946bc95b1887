/-! The source of random bytes: an endless stream of bytes of which some were taken. -/

namespace ChipEight

/-- An endless stream of bytes and the number of bytes taken from it. -/
structure RandomSource where
  stream : Nat → UInt8
  taken : Nat := 0

namespace RandomSource

/-- The bytes of a list, over and over; an empty list gives zeros. -/
def cycling (bytes : Array UInt8) : RandomSource :=
  { stream := fun i => bytes[i % bytes.size]?.getD 0 }

/-- Take the next byte. -/
def next (source : RandomSource) : UInt8 × RandomSource :=
  (source.stream source.taken, { source with taken := source.taken + 1 })

end RandomSource

end ChipEight
