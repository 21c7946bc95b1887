/-! What an archive is read from. A position in an archive is a number of 64 bits, but not
every medium lets its reader go to every position.
-/

namespace ChipEight.Archive

/-- What the bytes of an archive lie in. -/
inductive Medium where
  | memory
  | file
  deriving DecidableEq, Repr

/-- The number of positions that 64 bits can tell. -/
def addressCount : Nat := 0x10000000000000000

/-- A reader of the medium can go to the position, be there data or not. In a file a position
has a sign.
-/
def Medium.reaches (medium : Medium) (position : Nat) : Bool :=
  match medium with
  | .memory => position < addressCount
  | .file => position < addressCount / 2

end ChipEight.Archive
