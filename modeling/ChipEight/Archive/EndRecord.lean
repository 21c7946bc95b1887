import ChipEight.Archive.Medium
import ChipEight.RomError
import ChipEight.Text.LittleEndian

/-! The end of an archive: the record that tells where its directory lies, and the extended
record of archives whose numbers do not fit into the first one.
-/

namespace ChipEight.Archive

open LittleEndian

/-- The numbers of the end record, and where it stands. -/
structure EndRecord where
  position : Nat
  disk : Nat
  directoryDisk : Nat
  entriesHere : Nat
  entries : Nat
  directorySize : Nat
  directoryOffset : Nat
  commentLength : Nat

/-- Where the directory stands and how many entries it has. All offsets in the archive count
from `base`, because other data may stand in front of it.
-/
structure DirectoryPlace where
  base : Nat
  start : Nat
  count : Nat
  deriving DecidableEq, Repr

/-- Bytes of the end record without its comment. -/
def endRecordSize : Nat := 22

/-- The largest comment. -/
def maxCommentSize : Nat := 65535

/-- Whether a number stands at a place of the data. -/
def hasSignature (data : Array UInt8) (position signature : Nat) : Bool :=
  read? data position 4 == some signature

/-- The last place of at most `tries` that holds a signature, going down. -/
def findDown (data : Array UInt8) (signature : Nat) : (tries position : Nat) → Option Nat
  | 0, _ => none
  | tries + 1, position =>
    if hasSignature data position signature then some position
    else findDown data signature tries (position - 1)

/-- The first place of at most `tries` that holds a signature, going up. -/
def findUp (data : Array UInt8) (signature : Nat) : (tries position : Nat) → Option Nat
  | 0, _ => none
  | tries + 1, position =>
    if hasSignature data position signature then some position
    else findUp data signature tries (position + 1)

/-- Find the end record, at most a comment away from the end of the data. -/
def findEndRecord (data : Array UInt8) : Except ArchiveError EndRecord :=
  if data.size < endRecordSize then
    .error (.invalid .tooShort)
  else
    let last := data.size - endRecordSize
    match findDown data 0x06054B50 (min last maxCommentSize + 1) last with
    | none => .error (.invalid .noEndRecord)
    | some position =>
      let commentLength := readD data (position + 20) 2
      if data.size < position + endRecordSize + commentLength then
        .error (.read .endOfData)
      else
        .ok
          { position
            disk := readD data (position + 4) 2
            directoryDisk := readD data (position + 6) 2
            entriesHere := readD data (position + 8) 2
            entries := readD data (position + 10) 2
            directorySize := readD data (position + 12) 4
            directoryOffset := readD data (position + 16) 4
            commentLength }

namespace EndRecord

/-- A number of the record stands at its largest value, so the true one stands in the
extended record.
-/
def isOverfull (record : EndRecord) : Bool :=
  record.disk == 0xFFFF || record.directoryDisk == 0xFFFF || record.entriesHere == 0xFFFF
    || record.entries == 0xFFFF || record.directorySize == 0xFFFFFFFF
    || record.directoryOffset == 0xFFFFFFFF

/-- Where the record stands that leads to the extended record, if there is one. -/
def locator? (record : EndRecord) (data : Array UInt8) : Option Nat :=
  let distance := 20 + endRecordSize + record.commentLength
  if data.size < distance then
    none
  else if hasSignature data (data.size - distance) 0x07064B50 then
    some (data.size - distance)
  else
    none

/-- The place of the directory by the end record alone. -/
def plainPlace (record : EndRecord) : Except ArchiveError DirectoryPlace :=
  if record.position < record.directorySize + record.directoryOffset then
    .error (.invalid .badDirectoryPlace)
  else
    let base := record.position - record.directorySize - record.directoryOffset
    .ok { base, start := record.directoryOffset + base, count := record.entriesHere }

/-- The place of the directory by the extended record that a locator leads to. -/
def extendedPlace (record : EndRecord) (data : Array UInt8) (locator : Nat)
    : Except ArchiveError DirectoryPlace :=
  let nominal := readD data (locator + 8) 8
  if !record.isOverfull && record.disk != readD data (locator + 4) 4 then
    .error (.unsupported .severalDisks)
  else if record.position < 60 then
    .error (.invalid .noRoomForExtendedEnd)
  else
    match findUp data 0x06064B50 (record.position - 60 + 1 - nominal) nominal with
    | none => .error (.invalid .noExtendedEnd)
    | some position =>
      if readD data (position + 16) 4 != readD data (position + 20) 4 then
        .error (.unsupported .severalDisks)
      else
        let base := position - nominal
        let start := readD data (position + 48) 8 + base
        if start < addressCount then
          .ok { base, start, count := readD data (position + 32) 8 }
        else
          .error (.invalid .badDirectoryPlace)

/-- The place of the directory as the records tell it. -/
def recordedPlace (record : EndRecord) (data : Array UInt8)
    : Except ArchiveError DirectoryPlace :=
  if !record.isOverfull && record.disk != record.directoryDisk then
    .error (.unsupported .severalDisks)
  else
    match record.locator? data with
    | none => record.plainPlace
    | some locator => record.extendedPlace data locator

/-- The place of the directory, if a reader can go there. -/
def place (record : EndRecord) (medium : Medium) (data : Array UInt8)
    : Except ArchiveError DirectoryPlace :=
  match record.recordedPlace data with
  | .error e => .error e
  | .ok place =>
    if medium.reaches place.start then .ok place
    else .error (.invalid .unreachableDirectory)

end EndRecord

end ChipEight.Archive
