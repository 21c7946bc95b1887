import ChipEight.Archive.Reader
import ChipEight.CommandLine.Options
import ChipEight.CommandLine.Report
import ChipEight.FileTree
import ChipEight.Rom

/-! From options to a loaded machine. Files are reached through a small interface, so the same
steps work on the files of a real directory and on a directory given as a value. What reads archives
and what memory there is comes from outside, too.
-/

namespace ChipEight.CommandLine

open Archive (Library Reader)

/-- How files are read and created. -/
structure FileAccess (m : Type → Type) where
  read : String → m (Except OsError (Array UInt8))
  create : String → m (Except OsError Unit)

/-- What else the program is given: a library that reads archives, and memory, of which it learns
whether a block of so many bytes is to be had.
-/
structure Host where
  library : Library
  hasBlock : Nat → Bool

/-- The files of a directory that is given as a value. -/
def FileAccess.ofTree : FileAccess (StateM FileTree) where
  read path := return (← get).read path
  create path := do
    match (← get).create path with
    | .error e => return .error e
    | .ok tree =>
      set tree
      return .ok ()

/-- What the options lead to. -/
inductive Launch where
  /-- The names of the programs in an archive were asked for. -/
  | listing (names : List String)
  | loaded (rom : Rom) (machine : Machine)
  | failed (report : Report)
  /-- There is no block of memory for the data that an entry of an archive claims to have. -/
  | stopped

/-- The report of a program that could not be fetched. -/
def fetchReport (context : String) (error : RomError) : Report :=
  { context, causes := error.chain }

/-- The report of a program that was stopped by a fault. -/
def faultReport (fault : Fault) : Report :=
  { context := "the interpreter stopped", causes := [fault.message, fault.innerMessage] }

/-- Open an archive. -/
def openArchive {m : Type → Type} [Monad m] (host : Host) (files : FileAccess m)
    (path : String) : m (Except Report Reader) := do
  match host.library.ofFile (← files.read path) with
  | .error e => return .error (fetchReport ("unable to open the archive " ++ path) e)
  | .ok reader => return .ok reader

/-- Fetch the program that the options name; there is no result if the program stops at that. -/
def fetchRom? {m : Type → Type} [Monad m] (host : Host) (files : FileAccess m)
    (options : Options) : m (Option (Except Report Rom)) := do
  match options.rom, options.archive, options.name with
  | some path, _, _ =>
    match Rom.ofFile path (← files.read path) with
    | .error e => return some (.error (fetchReport ("unable to read the rom " ++ path) e))
    | .ok rom => return some (.ok rom)
  | none, some path, some name =>
    match ← openArchive host files path with
    | .error report => return some (.error report)
    | .ok reader =>
      match reader.extract? host.hasBlock name with
      | none => return none
      | some (.error e) => return some (.error (fetchReport ("unable to extract " ++ name) e))
      | some (.ok rom) => return some (.ok rom)
  | none, _, _ =>
    return some
      (.error { context := "either --rom or --archive together with --name is required" })

/-- Create the log file if one is asked for. -/
def createLog {m : Type → Type} [Monad m] (files : FileAccess m) (options : Options)
    : m (Except Report Unit) := do
  match options.logFile with
  | none => return .ok ()
  | some path =>
    match ← files.create path with
    | .error e =>
      return .error
        { context := "unable to create the log file " ++ path, causes := [e.message] }
    | .ok () => return .ok ()

/-- List an archive, or load the program that the options name. -/
def listOrLoad {m : Type → Type} [Monad m] (host : Host) (files : FileAccess m)
    (options : Options) (random : RandomSource) : m Launch := do
  match options.list, options.archive with
  | true, some path =>
    match ← openArchive host files path with
    | .error report => return .failed report
    | .ok reader => return .listing reader.names
  | _, _ =>
    match ← fetchRom? host files options with
    | none => return .stopped
    | some (.error report) => return .failed report
    | some (.ok rom) =>
      match Machine.start rom random with
      | .error e =>
        return .failed { context := "unable to load " ++ rom.name, causes := [e.message] }
      | .ok machine => return .loaded rom machine

/-- Do what the options ask for, up to the point where the machine runs. -/
def launch {m : Type → Type} [Monad m] (host : Host) (files : FileAccess m)
    (options : Options) (random : RandomSource) : m Launch := do
  match ← createLog files options with
  | .error report => return .failed report
  | .ok () => listOrLoad host files options random

/-- The name and version of the program. -/
def versionText : String := "chip8-term 0.2.0"

end ChipEight.CommandLine
