/-! Key events out of the bytes that a terminal sends. Single keys send a character, other
keys a sequence that begins with an escape byte. A sequence may be sent in several pieces; the
bytes of an unfinished one are kept until it goes on.
-/

namespace ChipEight.Terminal

/-- What a key asks for. -/
inductive KeyEvent where
  | quit
  | reset
  | char (c : Char)
  | ignored
  deriving DecidableEq, Repr

namespace KeyEvent

/-- What the bytes that were read so far amount to. -/
inductive Reading where
  /-- They begin something that goes on. -/
  | unfinished
  /-- They are a key, or nothing that is a key. -/
  | complete (event : KeyEvent)
  deriving DecidableEq, Repr

/-- The byte that begins the sequences of keys. -/
def escape : UInt8 := 0x1B

/-- The byte of a character. -/
def byteOf (c : Char) : UInt8 :=
  UInt8.ofNat c.toNat

/-- A byte that can only stand inside of a character. -/
def isContinuation (byte : UInt8) : Bool :=
  0x80 ≤ byte && byte < 0xC0

/-- The number of bytes of a character by its first byte, if that can begin one. -/
def characterLength? (lead : UInt8) : Option Nat :=
  if lead < 0x80 then some 1
  else if lead < 0xC0 then none
  else if lead < 0xE0 then some 2
  else if lead < 0xF0 then some 3
  else if lead < 0xF8 then some 4
  else none

/-- Read a character. Those of several bytes are no keys of the machine. -/
def readCharacter : List UInt8 → Reading
  | [] => .unfinished
  | lead :: rest =>
    match characterLength? lead with
    | none => .complete .ignored
    | some 1 => .complete (.char (Char.ofNat lead.toNat))
    | some length =>
      if rest.all isContinuation && rest.length + 1 < length then .unfinished
      else .complete .ignored

/-- The letter that a control byte was typed with, if it has one. -/
def controlLetter? (byte : UInt8) : Option Char :=
  let n := byte.toNat
  if 1 ≤ n ∧ n ≤ 26 then some (Char.ofNat (n - 1 + 'a'.toNat))
  else if 0x1C ≤ n ∧ n ≤ 0x1F then some (Char.ofNat (n - 0x1C + '4'.toNat))
  else none

/-- Read a key that begins with another byte than the escape byte. -/
def readSingle (byte : UInt8) (rest : List UInt8) : Reading :=
  if byte = byteOf '\t' ∨ byte = byteOf '\r' ∨ byte = 0x7F then
    .complete .ignored
  else
    match controlLetter? byte with
    | some 'c' => .complete .quit
    | some letter => .complete (.char letter)
    | none => readCharacter (byte :: rest)

/-- A byte that is a decimal digit. -/
def isDigit (byte : UInt8) : Bool :=
  byteOf '0' ≤ byte && byte ≤ byteOf '9'

/-- The number that decimal digits stand for. -/
def numberOf (digits : List UInt8) : Nat :=
  digits.foldl (fun number digit => 10 * number + (digit.toNat - '0'.toNat)) 0

/-- The event of a sequence with parameters. The first parameter tells the key, the others
tell what was held with it.
-/
def ofParameters (parameters : List UInt8) (final : UInt8) : KeyEvent :=
  let first := parameters.takeWhile (· != byteOf ';')
  if final = byteOf '~' ∧ first.all isDigit ∧ numberOf first = 15 then .reset else .ignored

/-- A byte that ends a sequence with parameters. -/
def isFinal (byte : UInt8) : Bool :=
  64 ≤ byte && byte ≤ 126

/-- Read a sequence behind its escape byte and its bracket. The next byte tells whether it is
a function key of some consoles, a mouse report of a fixed length, one of any length, or a
sequence with parameters.
-/
def readSequence : List UInt8 → Reading
  | [] => .unfinished
  | first :: rest =>
    if first = byteOf '[' then
      match rest with
      | [] => .unfinished
      | key :: _ => .complete (if key = byteOf 'E' then .reset else .ignored)
    else if first = byteOf 'M' then
      if rest.length < 3 then .unfinished else .complete .ignored
    else if first = byteOf '<' then
      match rest.getLast? with
      | none => .unfinished
      | some last =>
        if last = byteOf 'M' ∨ last = byteOf 'm' then .complete .ignored else .unfinished
    else if isDigit first then
      match rest.getLast? with
      | none => .unfinished
      | some last =>
        if isFinal last then .complete (ofParameters (first :: rest.dropLast) last)
        else .unfinished
    else
      .complete .ignored

/-- Read what some bytes amount to. `more` tells whether further bytes were sent with them: an
escape byte that comes alone is a key.
-/
def read (bytes : List UInt8) (more : Bool) : Reading :=
  match bytes with
  | [] => .unfinished
  | first :: rest =>
    if first ≠ escape then
      readSingle first rest
    else
      match rest with
      | [] => if more then .unfinished else .complete .quit
      | second :: behind =>
        if second = byteOf 'O' then
          if behind.isEmpty then .unfinished else .complete .ignored
        else if second = byteOf '[' then readSequence behind
        else if second = escape then .complete .quit
        else readCharacter (second :: behind)

/-- Read bytes that were sent at once, behind those of an unfinished key. The result has the
bytes of the key that is unfinished now, and the events.
-/
def feed (pending : List UInt8) : List UInt8 → List UInt8 × List KeyEvent
  | [] => (pending, [])
  | byte :: rest =>
    let bytes := pending ++ [byte]
    match read bytes !rest.isEmpty with
    | .unfinished => feed bytes rest
    | .complete event =>
      let later := feed [] rest
      (later.1, event :: later.2)

end KeyEvent

end ChipEight.Terminal
