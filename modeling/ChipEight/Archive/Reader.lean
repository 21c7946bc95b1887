import ChipEight.Archive.Medium
import ChipEight.Archive.NameTable
import ChipEight.Machine
import ChipEight.RomError
import ChipEight.Text.Utf8

/-! Listing an archive and taking programs out of it. What reads the archive itself is an interface:
it has a table of names and opens entries by their numbers. A name is listed and found through that
table.
-/

namespace ChipEight.Archive

/-- Why an entry is not opened. -/
inductive OpenError where
  | fileNotFound
  | archive (cause : ArchiveError)

/-- An opened entry: the size that the archive records for its data, and what reading the data up to
its end comes to.
-/
structure Opened where
  recordedSize : UInt64
  data : Except ReadError (Array UInt8)

/-- An archive whose directory was read. -/
structure Reader where
  /-- The names of the entries, in their order in the directory. -/
  entryNames : List String
  table : NameTable
  byIndex : Nat → Except OpenError Opened

/-- The largest number of bytes in one block of memory. -/
def maxCapacity : Nat := 0x7FFFFFFFFFFFFFFF

/-- There can be a block of memory of the recorded size, and there is one. What memory there is
comes from outside: `hasBlock` tells whether a block of so many bytes is to be had.
-/
def Opened.fits (opened : Opened) (hasBlock : Nat → Bool) : Bool :=
  opened.recordedSize.toNat ≤ maxCapacity && hasBlock opened.recordedSize.toNat

theorem Opened.fits_eq_false_iff {opened : Opened} {hasBlock : Nat → Bool}
    : opened.fits hasBlock = false
      ↔ maxCapacity < opened.recordedSize.toNat
        ∨ hasBlock opened.recordedSize.toNat = false := by
  rw [fits, Bool.and_eq_false_iff, decide_eq_false_iff_not, Nat.not_le]

namespace Reader

/-- Open the entry of a name. -/
def byName (reader : Reader) (name : String) : Except OpenError Opened :=
  match reader.table.number? name with
  | none => .error .fileNotFound
  | some number => reader.byIndex number

/-- The names in the table, sorted by their bytes. -/
def names (reader : Reader) : List String :=
  reader.table.names.mergeSort fun a b => Utf8.encode a ≤ Utf8.encode b

/-- Take a program out by its name. A block of memory of the recorded size is asked for before the
data is read; without one the program stops, so that there is no result.
-/
def extract? (reader : Reader) (hasBlock : Nat → Bool) (name : String)
    : Option (Except RomError Rom) :=
  match reader.byName name with
  | .error .fileNotFound => some (.error (.notFound name))
  | .error (.archive cause) => some (.error (.archive cause))
  | .ok opened =>
    if opened.fits hasBlock then
      match opened.data with
      | .error cause => some (.error (.read cause))
      | .ok data => some (.ok { name, data })
    else
      none

end Reader

/-- What can read archives. -/
structure Library where
  read : Medium → Array UInt8 → Except ArchiveError Reader

namespace Library

/-- Read an archive, and report it as the reason if that fails. -/
def openMedium (library : Library) (medium : Medium) (data : Array UInt8)
    : Except RomError Reader :=
  match library.read medium data with
  | .error cause => .error (.archive cause)
  | .ok reader => .ok reader

/-- Open an archive in memory. -/
def ofBytes (library : Library) (data : Array UInt8) : Except RomError Reader :=
  library.openMedium .memory data

/-- Open an archive in a file. A directory can be opened like a file, so it fails only when it is
read as an archive.
-/
def ofFile (library : Library) (content : Except OsError (Array UInt8)) : Except RomError Reader :=
  match content with
  | .error .isDirectory => .error (.archive (.read (.system .isDirectory)))
  | .error e => .error (.read (.system e))
  | .ok data => library.openMedium .file data

end Library

end ChipEight.Archive
