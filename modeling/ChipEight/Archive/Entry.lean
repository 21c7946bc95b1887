import ChipEight.Archive.Checksum
import ChipEight.Archive.Reader
import ChipEight.Deflate.Inflate
import ChipEight.Text.CodePage437
import ChipEight.Text.LittleEndian

/-! The entries of an archive's directory, and the data they stand for. All that is known
about an entry stands in the directory; of the header in front of its data only the signature
and two lengths are used.
-/

namespace ChipEight.Archive

open LittleEndian

/-- An entry of the directory. -/
structure Entry where
  name : String
  encrypted : Bool
  /-- How the data is compressed, by its number in the format. -/
  method : Nat
  checksum : UInt32
  compressedSize : Nat
  size : Nat
  /-- Where the header in front of the data stands. -/
  headerStart : Nat
  /-- A field tells that the data is enciphered. -/
  cipher : Bool := false
  deriving DecidableEq, Repr

namespace Entry

/-- A size or offset that stands in an extra field because it is too large for its place. -/
def overfull : Nat := 0xFFFFFFFF

/-- The number that replaces an overfull one; the result has the place behind it. -/
def replaceOverfull (extra : Array UInt8) (position value : Nat) : Option (Nat × Nat) :=
  if value = overfull then
    (read? extra position 8).map fun number => (number, position + 8)
  else
    some (value, position)

/-- Take the true sizes and offset out of an extra field: each overfull number is replaced by
the next number of the field. If the field ends too early, the numbers before are replaced
nevertheless. The result has the place behind the numbers, if all were there.
-/
def takeLargeNumbers (entry : Entry) (extra : Array UInt8) (position : Nat)
    : Entry × Option Nat :=
  match replaceOverfull extra position entry.size with
  | none => (entry, none)
  | some (size, position) =>
    let entry := { entry with size }
    match replaceOverfull extra position entry.compressedSize with
    | none => (entry, none)
    | some (compressedSize, position) =>
      let entry := { entry with compressedSize }
      match replaceOverfull extra position entry.headerStart with
      | none => (entry, none)
      | some (headerStart, position) => ({ entry with headerStart }, some position)

/-- Take the cipher of an entry out of an extra field: vendor version, vendor, strength, and
the compression below the cipher. A field that is cut off is ignored.
-/
def takeCipher (entry : Entry) (extra : Array UInt8) (position length : Nat)
    : Except ArchiveError (Option Entry) :=
  if length ≠ 7 then
    .error (.unsupported .cipherFieldLength)
  else if extra.size < position + 7 then
    .ok none
  else if readD extra (position + 2) 2 ≠ 0x4541 then
    .error (.invalid .badCipherVendor)
  else if readD extra position 2 ≠ 1 ∧ readD extra position 2 ≠ 2 then
    .error (.invalid .badCipherVersion)
  else if readD extra (position + 4) 1 = 0 ∨ 3 < readD extra (position + 4) 1 then
    .error (.invalid .badCipherStrength)
  else
    .ok (some { entry with cipher := true, method := readD extra (position + 5) 2 })

/-- Go through the extra fields of an entry, each behind its kind and its length. Fields that
are cut off end the search. Every field takes four bytes at least, so the number of bytes
bounds the number of rounds.
-/
def takeExtra (extra : Array UInt8) : Nat → Nat → Entry → Except ArchiveError Entry
  | 0, _, entry => .ok entry
  | rounds + 1, position, entry =>
    match read? extra position 2, read? extra (position + 2) 2 with
    | some kind, some length =>
      let body := position + 4
      if kind = 0x0001 then
        match entry.takeLargeNumbers extra body with
        | (entry, none) => .ok entry
        | (entry, some behind) =>
          takeExtra extra rounds (max behind (body + length)) entry
      else if kind = 0x9901 then
        match entry.takeCipher extra body length with
        | .error e => .error e
        | .ok none => .ok entry
        | .ok (some entry) => takeExtra extra rounds (body + 7 + length) entry
      else
        takeExtra extra rounds (body + length) entry
    | _, _ => .ok entry

/-- Read the directory entry at a place; the result has the place behind it. Offsets count
from `base`.
-/
def read (data : Array UInt8) (base position : Nat) : Except ArchiveError (Entry × Nat) :=
  match read? data position 4 with
  | none => .error (.read .endOfData)
  | some signature =>
    if signature ≠ 0x02014B50 then
      .error (.invalid .badDirectoryEntry)
    else
      let nameLength := readD data (position + 28) 2
      let extraLength := readD data (position + 30) 2
      let commentLength := readD data (position + 32) 2
      let nameStart := position + 46
      let extraStart := nameStart + nameLength
      let behind := extraStart + extraLength + commentLength
      if data.size < behind then
        .error (.read .endOfData)
      else
        let flags := readD data (position + 8) 2
        let nameBytes := (data.extract nameStart extraStart).toList
        let extra := data.extract extraStart (extraStart + extraLength)
        let entry : Entry :=
          { name :=
              if flags.testBit 11 then Utf8.decode nameBytes else CodePage437.decode nameBytes
            encrypted := flags.testBit 0
            method := readD data (position + 10) 2
            checksum := UInt32.ofNat (readD data (position + 16) 4)
            compressedSize := readD data (position + 20) 4
            size := readD data (position + 24) 4
            headerStart := readD data (position + 42) 4 }
        match takeExtra extra extra.size 0 entry with
        | .error e => .error e
        | .ok entry =>
          if entry.method = 99 ∧ !entry.cipher then
            .error (.invalid .missingCipherField)
          else if addressCount ≤ entry.headerStart + base then
            .error (.invalid .headerBeyondAddresses)
          else
            .ok ({ entry with headerStart := entry.headerStart + base }, behind)

/-- Read the entries of a directory in turn. -/
def readAll (data : Array UInt8) (base : Nat) : Nat → Nat → Except ArchiveError (List Entry)
  | 0, _ => .ok []
  | count + 1, position =>
    match read data base position with
    | .error e => .error e
    | .ok (entry, behind) =>
      match readAll data base count behind with
      | .error e => .error e
      | .ok entries => .ok (entry :: entries)

/-- Where the data of an entry starts, if a reader can go to its header and finds it sound. -/
def dataStart (entry : Entry) (medium : Medium) (data : Array UInt8)
    : Except ArchiveError Nat :=
  if !medium.reaches entry.headerStart then
    .error (.read (.system .invalidArgument))
  else
    match read? data entry.headerStart 4 with
    | none => .error (.read .endOfData)
    | some signature =>
      if signature ≠ 0x04034B50 then
        .error (.invalid .badLocalHeader)
      else
        match read? data (entry.headerStart + 26) 2,
          read? data (entry.headerStart + 28) 2 with
        | some nameLength, some extraLength =>
          .ok (entry.headerStart + 30 + nameLength + extraLength)
        | _, _ => .error (.read .endOfData)

/-- Bytes with the recorded checksum pass. -/
def checked (entry : Entry) (content : Array UInt8) : Except ReadError (Array UInt8) :=
  if Checksum.crc32 content = entry.checksum then .ok content else .error .badChecksum

/-- What stands against reading a compressed stream. -/
def streamError : Deflate.StreamDefect → ReadError
  | .cutOff => .cutOffStream
  | .corrupt => .corruptStream

/-- Compressed bytes whose content has the recorded checksum pass. -/
def inflated (entry : Entry) (stored : Array UInt8) : Except ReadError (Array UInt8) :=
  match Deflate.inflate stored with
  | .error defect => .error (streamError defect)
  | .ok content => entry.checked content

/-- Open an entry. -/
def opened (entry : Entry) (medium : Medium) (data : Array UInt8) : Except ArchiveError Opened :=
  if entry.encrypted then
    .error (.unsupported .encryption)
  else
    match entry.dataStart medium data with
    | .error cause => .error cause
    | .ok start =>
      let stored := data.extract start (start + entry.compressedSize)
      let recordedSize := UInt64.ofNat entry.size
      if entry.method = 0 then
        .ok { recordedSize, data := entry.checked stored }
      else if entry.method = 8 then
        .ok { recordedSize, data := entry.inflated stored }
      else
        .error (.unsupported .otherCompression)

end Entry

end ChipEight.Archive
