import ChipEight.Archive.EndRecord
import ChipEight.Archive.Entry

/-! A library that reads archives: a directory of entries, whose data is stored or compressed. What
is said of archives elsewhere holds for every library whose tables are sound, not only for this one.
-/

namespace ChipEight

/-- The bytes of an archive with the entries of its directory, in their order there. -/
structure Archive where
  medium : Archive.Medium
  data : Array UInt8
  entries : List Archive.Entry

namespace Archive

/-- Read the directory of an archive. -/
def read (medium : Medium) (data : Array UInt8) : Except ArchiveError Archive :=
  match findEndRecord data with
  | .error cause => .error cause
  | .ok record =>
    match record.place medium data with
    | .error cause => .error cause
    | .ok place =>
      match Entry.readAll data place.base place.count place.start with
      | .error cause => .error cause
      | .ok entries => .ok { medium, data, entries }

/-- Open the entry of a number. -/
def byIndex (archive : Archive) (number : Nat) : Except OpenError Opened :=
  match archive.entries[number]? with
  | none => .error .fileNotFound
  | some entry =>
    match entry.opened archive.medium archive.data with
    | .error cause => .error (.archive cause)
    | .ok opened => .ok opened

/-- The names and the entries of an archive; of entries with one name the last one counts. -/
def reader (archive : Archive) : Reader where
  entryNames := archive.entries.map Entry.name
  table := .ofNames (archive.entries.map Entry.name)
  byIndex := archive.byIndex

/-- The library that the program runs with. -/
def library : Library where
  read medium data :=
    match read medium data with
    | .error cause => .error cause
    | .ok archive => .ok archive.reader

end Archive

end ChipEight
