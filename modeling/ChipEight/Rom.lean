import ChipEight.Machine
import ChipEight.RomError
import ChipEight.Text.FileStem

/-! Fetching programs from files. -/

namespace ChipEight

/-- A program out of a file, named after the file. -/
def Rom.ofFile (path : String) (content : Except OsError (Array UInt8))
    : Except RomError Rom :=
  match content with
  | .error e => .error (.read (.system e))
  | .ok data => .ok { name := fileStem path, data }

end ChipEight
