import ChipEight.Archive
import ChipEight.CommandLine.Launch
import ChipEight.Machine.Dump
import ChipEight.Terminal.Console

/-! The program on a real terminal. Keys are read line by line, so they take effect when the
line is sent.
-/

namespace ChipEight.Main

open ChipEight.CommandLine ChipEight.Terminal

/-- The number of a refusal, which may come with a minus sign. -/
def errorNumber (code : UInt32) : Nat :=
  code.toInt32.toInt.natAbs

/-- A refusal by the operating system, by its number. -/
def osErrorOf : IO.Error → OsError
  | .noFileOrDirectory .. => .notFound
  | .inappropriateType _ code details =>
    match errorNumber code with
    | 20 => .notDirectory
    | 21 => .isDirectory
    | number => .other details number
  | .permissionDenied _ code _ => .other "Permission denied" (errorNumber code)
  | error => .other (toString error) 0

/-- Run an action on a file and keep a refusal as a value. -/
def attempt {α : Type} (action : IO α) : IO (Except OsError α) := do
  try
    return .ok (← action)
  catch error =>
    return .error (osErrorOf error)

/-- The files of the computer. -/
def realFiles : FileAccess IO where
  read path := attempt do return (← IO.FS.readBinFile path).data
  create path := attempt (IO.FS.writeFile path "")

/-- Archives are read by the library here, and memory is taken to be large enough. -/
def realHost : Host :=
  { library := Archive.library, hasBlock := fun _ => true }

/-- Bytes that are drawn before the random source starts over. -/
def randomPool : USize := 65536

/-- Where journal records go. -/
abbrev Log := Option IO.FS.Handle

/-- Write the records that are at least as important as debugging needs. -/
def writeRecords (log : Log) (records : List Record) : IO Unit := do
  match log with
  | none => return ()
  | some handle =>
    for record in Record.upTo .debug records do
      handle.putStrLn record.line

/-- The size of the terminal as its environment tells. -/
def terminalSize : IO Size := do
  let columns := (← IO.getEnv "COLUMNS").bind String.toNat?
  let rows := (← IO.getEnv "LINES").bind String.toNat?
  return { columns := columns.getD 80, rows := rows.getD 24 }

/-- Show a picture, and ring the bell if it has to ring. -/
def draw (size : Size) (rings : Nat) (picture : Picture) : IO Unit := do
  let lines := (picture.cells size).map (rowText · ++ "\x1b[K")
  let bells := String.ofList (List.replicate rings '\x07')
  let out ← IO.getStdout
  out.putStr ("\x1b[H" ++ "\r\n".intercalate lines ++ bells)
  out.flush

/-- Begin to wait for the next line of keys. -/
def nextLine : IO (Task (Except IO.Error String)) := do
  let input ← IO.getStdin
  IO.asTask input.getLine Task.Priority.dedicated

/-- The characters that were typed, once their line was sent; its end is no key. -/
def typedLine (line : Task (Except IO.Error String)) : IO (Option String) := do
  if ← IO.hasFinished line then
    match line.get with
    | .ok text => return some ((text.splitOn "\n").headD "")
    | .error error => throw error
  else
    return none

/-- Run frames and handle keys until the user quits or the machine fails. -/
partial def play (console : Console) (size : Size) (log : Log)
    (line : Task (Except IO.Error String)) : IO (Option Fault) := do
  let now ← IO.monoNanosNow
  let typed ← typedLine line
  match console.type now (Utf8.encode (typed.getD "")) with
  | none => return none
  | some handled =>
    let line ← if typed.isSome then nextLine else pure line
    let ready := handled.refresh now
    writeRecords log (ready.clock.tickJournal now ready.machine .debug)
    let (next, shown) := ready.frame now
    match shown with
    | .failed fault =>
      writeRecords log [⟨.error, fault.message ++ "\n" ++ next.machine.dumpText⟩]
      return some fault
    | .picture picture => draw size (next.bell.output.length - ready.bell.output.length) picture
    | .nothing => IO.sleep (UInt32.ofNat (min 5 (ready.clock.untilNext now / 1000000 + 1)))
    play next size log line

/-- Report a failure. -/
def report (failure : Report) : IO UInt32 := do
  IO.eprint failure.text
  return 1

/-- Run a loaded machine on the terminal. -/
def runMachine (rom : Rom) (machine : Machine) (options : Options) : IO UInt32 := do
  let out ← IO.getStdout
  if !(← out.isTty) then
    return ← report
      { context := "unable to setup the terminal"
        causes := [(OsError.other "Inappropriate ioctl for device" 25).message] }
  let log ← options.logFile.mapM fun path => IO.FS.Handle.mk path .append
  writeRecords log
    [⟨.info, "running " ++ rom.name ++ " (" ++ toString rom.data.size ++ " bytes)"⟩]
  out.putStr "\x1b[2J\x1b[?25l"
  let fault ← play (Console.start machine options.settings) (← terminalSize) log (← nextLine)
  out.putStr "\x1b[2J\x1b[H\x1b[?25h"
  out.flush
  match fault with
  | none => return 0
  | some fault => report (faultReport fault)

/-- Do what the arguments ask for; the result is the exit code. -/
def run (arguments : List String) : IO UInt32 := do
  match wishOf arguments with
  | .error e =>
    IO.eprintln ("error: " ++ e.message ++ "\n\n" ++ usageText)
    return 2
  | .ok .version =>
    IO.println versionText
    return 0
  | .ok .help =>
    IO.println usageText
    return 0
  | .ok (.run options) =>
    let random := RandomSource.cycling (← IO.getRandomBytes randomPool).data
    match ← launch realHost realFiles options random with
    | .failed failure => report failure
    | .stopped =>
      IO.eprintln "no memory for the entry"
      return 134
    | .listing names =>
      for name in names do
        IO.println name
      return 0
    | .loaded rom machine => runMachine rom machine options

end ChipEight.Main

/-- The exit code is not zero if something failed. -/
def main (arguments : List String) : IO UInt32 :=
  ChipEight.Main.run arguments
