import ChipEight.FrameClock

/-! The options of the command line. Arguments are taken one by one, so the first fault wins
over what follows it, and asking for the version or for help ends the search.
-/

namespace ChipEight.CommandLine

/-- The options by their meaning. -/
inductive Switch where
  | rom
  | archive
  | name
  | speed
  | frameRate
  | logFile
  | list
  | version
  | help
  deriving DecidableEq, Repr

namespace Switch

/-- The long form of an option, without its dashes. -/
def long : Switch → String
  | .rom => "rom"
  | .archive => "archive"
  | .name => "name"
  | .speed => "speed"
  | .frameRate => "frame-rate"
  | .logFile => "log-file"
  | .list => "list"
  | .version => "version"
  | .help => "help"

/-- The letter of an option, if it has one. -/
def short? : Switch → Option Char
  | .rom => some 'r'
  | .archive => some 'a'
  | .name => some 'n'
  | .speed => some 's'
  | .frameRate => some 'f'
  | .logFile => some 'l'
  | .list => none
  | .version => some 'V'
  | .help => some 'h'

/-- All options. -/
def all : List Switch :=
  [.rom, .archive, .name, .speed, .frameRate, .logFile, .list, .version, .help]

/-- The option with a long form. -/
def ofLong? (form : String) : Option Switch :=
  all.find? fun switch => switch.long == form

/-- The option with a letter. -/
def ofShort? (letter : Char) : Option Switch :=
  all.find? fun switch => switch.short? == some letter

/-- An option that stands for itself, without a value behind it. -/
def isBare : Switch → Bool
  | .list | .version | .help => true
  | _ => false

end Switch

/-- Why the arguments cannot be used. -/
inductive UsageError where
  | unknownOption (form : String)
  | unexpectedArgument (argument : String)
  | unexpectedValue (switch : Switch)
  | missingValue (switch : Switch)
  | badValue (switch : Switch) (value : String)
  | repeated (switch : Switch)
  | conflict (first second : Switch)
  | missing (switch : Switch)
  deriving DecidableEq, Repr

/-- The wording of a usage error. -/
def UsageError.message : UsageError → String
  | .unknownOption form => "unexpected argument '" ++ form ++ "' found"
  | .unexpectedArgument argument => "unexpected argument '" ++ argument ++ "' found"
  | .unexpectedValue switch => "unexpected value for '--" ++ switch.long ++ "'"
  | .missingValue switch => "a value is required for '--" ++ switch.long ++ "'"
  | .badValue switch value => "invalid value '" ++ value ++ "' for '--" ++ switch.long ++ "'"
  | .repeated switch => "'--" ++ switch.long ++ "' cannot be used multiple times"
  | .conflict first second =>
    "'--" ++ first.long ++ "' cannot be used with '--" ++ second.long ++ "'"
  | .missing switch => "'--" ++ switch.long ++ "' was not provided"

/-- The options that were given. -/
structure Options where
  rom : Option String := none
  archive : Option String := none
  name : Option String := none
  speed : Option Nat := none
  frameRate : Option Nat := none
  logFile : Option String := none
  list : Bool := false
  deriving DecidableEq, Repr

/-- What the arguments ask for. -/
inductive Wish where
  | version
  | help
  | run (options : Options)
  deriving DecidableEq, Repr

/-- A number of decimal digits. -/
def digits? (text : List Char) : Option Nat :=
  if text.isEmpty ∨ !text.all Char.isDigit then
    none
  else
    some (text.foldl (fun n c => n * 10 + (c.toNat - '0'.toNat)) 0)

/-- A count below `limit`, with or without a plus sign. -/
def count? (limit : Nat) (text : String) : Option Nat :=
  let digits :=
    match text.toList with
    | '+' :: rest => rest
    | rest => rest
  (digits? digits).filter (· < limit)

/-- A rate below `limit`, with or without a sign; only zero can have a minus sign. -/
def rate? (limit : Nat) (text : String) : Option Nat :=
  match text.toList with
  | '-' :: rest => (digits? rest).filter (· = 0)
  | _ => count? limit text

namespace Options

/-- How fast the machine runs under the options. -/
def settings (options : Options) : Settings :=
  { speed := options.speed.getD defaultSpeed
    frameRate := options.frameRate.getD defaultFrameRate }

/-- The value of a path option, which is given once and is not empty. -/
def takePath (switch : Switch) (old : Option String) (value : String)
    : Except UsageError (Option String) :=
  if old.isSome then .error (.repeated switch)
  else if value.isEmpty then .error (.missingValue switch)
  else .ok (some value)

/-- The value of a number option, which is given once. -/
def takeNumber (switch : Switch) (old read : Option Nat) (value : String)
    : Except UsageError (Option Nat) :=
  if old.isSome then .error (.repeated switch)
  else if read.isNone then .error (.badValue switch value)
  else .ok read

/-- Give an option its value. -/
def assign (options : Options) (switch : Switch) (value : String)
    : Except UsageError Options := do
  match switch with
  | .rom => return { options with rom := ← takePath .rom options.rom value }
  | .archive => return { options with archive := ← takePath .archive options.archive value }
  | .name =>
    if options.name.isSome then
      .error (.repeated .name)
    else
      .ok { options with name := some value }
  | .speed =>
    let speed ← takeNumber .speed options.speed (count? 0x10000000000000000 value) value
    return { options with speed }
  | .frameRate =>
    let frameRate ← takeNumber .frameRate options.frameRate (rate? 0x100000000 value) value
    return { options with frameRate }
  | .logFile => return { options with logFile := ← takePath .logFile options.logFile value }
  | .list | .version | .help => .error (.unexpectedValue switch)

/-- The options together: a program comes from a file or out of an archive, and what is asked
of an archive needs one. Naming a file already says that there is no archive.
-/
def validate (options : Options) : Except UsageError Options :=
  if options.rom.isSome then
    if options.archive.isSome then .error (.conflict .rom .archive) else .ok options
  else if options.archive.isNone ∧ (options.name.isSome ∨ options.list) then
    .error (.missing .archive)
  else
    .ok options

end Options

/-- What an argument turned out to be. -/
inductive Taken where
  /-- The options so far, and the option whose value has to follow. -/
  | more (options : Options) (pending : Option Switch)
  /-- The search is over. -/
  | done (wish : Wish)

/-- Take an option that stands for itself. -/
def takeBare (options : Options) (switch : Switch) : Except UsageError Taken :=
  match switch with
  | .version => .ok (.done .version)
  | .help => .ok (.done .help)
  | _ =>
    if options.list then
      .error (.repeated .list)
    else
      .ok (.more { options with list := true } none)

/-- Take an option by its long form, perhaps with a value behind an equals sign. -/
def takeLong (options : Options) (body : List Char) : Except UsageError Taken :=
  let form := String.ofList (body.takeWhile (· != '='))
  let value := body.dropWhile (· != '=')
  match Switch.ofLong? form with
  | none => .error (.unknownOption form)
  | some switch =>
    match switch.isBare, value with
    | true, [] => takeBare options switch
    | true, _ => .error (.unexpectedValue switch)
    | false, [] => .ok (.more options (some switch))
    | false, _ :: value =>
      (options.assign switch (String.ofList value)).map fun options => .more options none

/-- Take the letters behind a dash. What follows the letter of an option with a value is that
value, perhaps behind an equals sign.
-/
def takeShort (options : Options) : List Char → Except UsageError Taken
  | [] => .ok (.more options none)
  | letter :: rest =>
    match Switch.ofShort? letter with
    | none => .error (.unknownOption (String.singleton letter))
    | some switch =>
      if switch.isBare then
        takeBare options switch
      else
        match rest with
        | [] => .ok (.more options (some switch))
        | '=' :: value =>
          (options.assign switch (String.ofList value)).map fun options => .more options none
        | value =>
          (options.assign switch (String.ofList value)).map fun options => .more options none

/-- Take one argument. One that begins with a dash is never a value, except a dash alone. -/
def takeArgument (options : Options) (pending : Option Switch) (argument : String)
    : Except UsageError Taken :=
  match argument.toList, pending with
  | '-' :: _ :: _, some switch => .error (.missingValue switch)
  | '-' :: '-' :: body, none => takeLong options body
  | '-' :: letter :: rest, none => takeShort options (letter :: rest)
  | _, some switch =>
    (options.assign switch argument).map fun options => .more options none
  | _, none => .error (.unexpectedArgument argument)

/-- Take the arguments in turn. Two dashes alone end the options. -/
def takeArguments (options : Options) (pending : Option Switch)
    : List String → Except UsageError Wish
  | [] =>
    match pending with
    | some switch => .error (.missingValue switch)
    | none => options.validate.map .run
  | "--" :: rest =>
    match pending, rest with
    | some switch, _ => .error (.missingValue switch)
    | none, argument :: _ => .error (.unexpectedArgument argument)
    | none, [] => options.validate.map .run
  | argument :: rest =>
    match takeArgument options pending argument with
    | .error e => .error e
    | .ok (.done wish) => .ok wish
    | .ok (.more options pending) => takeArguments options pending rest

/-- What the arguments of the program ask for. -/
def wishOf (arguments : List String) : Except UsageError Wish :=
  takeArguments {} none arguments

/-- How the program is called. -/
def usageText : String :=
  "Usage: chip8-term [OPTIONS]\n\nOptions:\n"
    ++ "  -r, --rom PATH         a program to run\n"
    ++ "  -a, --archive PATH     a zip archive of programs\n"
    ++ "  -n, --name NAME        the program inside of the archive\n"
    ++ "  -s, --speed COUNT      instructions per frame\n"
    ++ "  -f, --frame-rate RATE  frames per second\n"
    ++ "  -l, --log-file PATH    write a journal into this file\n"
    ++ "      --list             list the programs inside of the archive\n"
    ++ "  -h, --help             print this text\n"
    ++ "  -V, --version          print the version"

end ChipEight.CommandLine
