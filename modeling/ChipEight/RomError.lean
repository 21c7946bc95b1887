/-! Why a program could not be fetched from a file or an archive. -/

namespace ChipEight

/-- A refusal by the operating system. -/
inductive OsError where
  | notFound
  | notDirectory
  | isDirectory
  | nameTooLong
  | invalidArgument
  /-- A name holds the character that ends names. -/
  | endInName
  /-- Any other refusal, with its wording and number. -/
  | other (wording : String) (code : Nat)
  deriving DecidableEq, Repr

/-- The wording of a refusal, which ends in its number. -/
def OsError.message : OsError → String
  | .notFound => "No such file or directory (os error 2)"
  | .notDirectory => "Not a directory (os error 20)"
  | .isDirectory => "Is a directory (os error 21)"
  | .nameTooLong => "File name too long (os error 36)"
  | .invalidArgument => "Invalid argument (os error 22)"
  | .endInName => "file name contained an unexpected NUL byte"
  | .other wording code => wording ++ " (os error " ++ toString code ++ ")"

/-- Why bytes could not be read. -/
inductive ReadError where
  | system (cause : OsError)
  /-- The data ends before all expected bytes were read. -/
  | endOfData
  /-- The bytes do not have the recorded checksum. -/
  | badChecksum
  /-- The compressed data is damaged. -/
  | corruptStream
  /-- The compressed data ends too early. -/
  | cutOffStream
  deriving DecidableEq, Repr

/-- The wording of a failed read. -/
def ReadError.message : ReadError → String
  | .system cause => cause.message
  | .endOfData => "failed to fill whole buffer"
  | .badChecksum => "Invalid checksum"
  | .corruptStream => "corrupt deflate stream"
  | .cutOffStream => "incomplete deflate stream"

/-- What makes bytes no archive. -/
inductive ArchiveDefect where
  /-- The data is shorter than the smallest archive. -/
  | tooShort
  | noEndRecord
  /-- The directory would lie in front of the data or beyond all addresses. -/
  | badDirectoryPlace
  /-- The medium does not reach the directory. -/
  | unreachableDirectory
  | badDirectoryEntry
  | badLocalHeader
  /-- The header in front of the data would lie beyond all addresses. -/
  | headerBeyondAddresses
  /-- The extended end record does not fit in front of the end record. -/
  | noRoomForExtendedEnd
  | noExtendedEnd
  | missingCipherField
  | badCipherVendor
  | badCipherVersion
  | badCipherStrength
  deriving DecidableEq, Repr

/-- The wording of a defect. -/
def ArchiveDefect.message : ArchiveDefect → String
  | .tooShort => "Invalid zip header"
  | .noEndRecord => "Could not find central directory end"
  | .badDirectoryPlace => "Invalid central directory size or offset"
  | .unreachableDirectory => "Could not seek to start of central directory"
  | .badDirectoryEntry => "Invalid Central Directory header"
  | .badLocalHeader => "Invalid local file header"
  | .headerBeyondAddresses => "Archive header is too large"
  | .noRoomForExtendedEnd => "File cannot contain ZIP64 central directory end"
  | .noExtendedEnd => "Could not find ZIP64 central directory end"
  | .missingCipherField => "AES encryption without AES extra data field"
  | .badCipherVendor => "Invalid AES vendor"
  | .badCipherVersion => "Invalid AES vendor version"
  | .badCipherStrength => "Invalid AES encryption strength"

/-- What an archive uses but is not supported. -/
inductive ArchiveFeature where
  | severalDisks
  | encryption
  | otherCompression
  | cipherFieldLength
  deriving DecidableEq, Repr

/-- The wording of an unsupported feature. -/
def ArchiveFeature.message : ArchiveFeature → String
  | .severalDisks => "Support for multi-disk files is not implemented"
  | .encryption => "Password required to decrypt file"
  | .otherCompression => "Compression method not supported"
  | .cipherFieldLength => "AES extra data field has an unsupported length"

/-- Why an archive could not be opened, or an entry not be found at its place. -/
inductive ArchiveError where
  | read (cause : ReadError)
  | invalid (defect : ArchiveDefect)
  | unsupported (feature : ArchiveFeature)
  deriving DecidableEq, Repr

/-- The wording of a failure with an archive. -/
def ArchiveError.message : ArchiveError → String
  | .read cause => cause.message
  | .invalid defect => "invalid Zip archive: " ++ defect.message
  | .unsupported feature => "unsupported Zip archive: " ++ feature.message

/-- Why a program could not be fetched. -/
inductive RomError where
  | read (cause : ReadError)
  | archive (cause : ArchiveError)
  /-- The archive has no entry of this name. -/
  | notFound (name : String)
  deriving DecidableEq, Repr

namespace RomError

/-- The wording of a failed fetch, which quotes its cause. -/
def message : RomError → String
  | .read cause => "Unable to read the rom '" ++ cause.message ++ "'"
  | .archive cause => "Invalid rom archive '" ++ cause.message ++ "'"
  | .notFound name => "There is no rom named '" ++ name ++ "' in the archive."

/-- The wordings of a failed fetch and of the causes behind it. -/
def chain (error : RomError) : List String :=
  match error with
  | .read cause => [error.message, cause.message]
  | .archive (.read cause) => [error.message, cause.message, cause.message]
  | .archive cause => [error.message, cause.message]
  | .notFound _ => [error.message]

end RomError

end ChipEight
