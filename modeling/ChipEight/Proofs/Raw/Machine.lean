import ChipEight.Machine
import ChipEight.Proofs.Raw.Words

/-! The machine on plain arrays and words, as a device of fixed width would hold it: nothing
about its parts is known from their types, a pixel is a byte, and the pause is a flag of its
own beside the prompt. Every operation makes every check and has no result where one fails.
-/

namespace ChipEight.Raw

-----------------------------------------------------------------------------------------
-- The screen
-----------------------------------------------------------------------------------------

/-- The screen with a byte for each pixel. -/
structure Display where
  pixels : Array UInt8 := Array.replicate screenArea 0
  dirty : Bool := true

namespace Display

/-- A coordinate on the grid, which wraps around at its size. -/
def wrap (value : Int) (size : Nat) : Nat :=
  (value % size).toNat

/-- Toggle a pixel and tell whether it went out. -/
def toggle? (display : Display) (x y : Int) : Option (Display × Bool) := do
  let location ← word? (wrap x screenWidth + wrap y screenHeight * screenWidth)
  let pixel ← display.pixels[location]?
  let pixels ← store? display.pixels location (pixel ^^^ 1)
  some ({ pixels, dirty := true }, pixel ^^^ 1 == 0)

/-- Draw `count` bits of a sprite row from a column on, and tell whether a pixel went out. -/
def drawColumns? (display : Display) (x y : Int) (row : Nat) (byte : UInt8) (column : Nat)
    : Nat → Option (Display × Bool)
  | 0 => some (display, false)
  | count + 1 => do
    let mask ← shiftRight? 0x80 column
    if byte &&& mask = 0 then
      display.drawColumns? x y row byte (column + 1) count
    else
      let left ← int32? (x + toInt32 column)
      let top ← int32? (y + toInt32 row)
      let toggled ← display.toggle? left top
      let drawn ← toggled.1.drawColumns? x y row byte (column + 1) count
      some (drawn.1, toggled.2 || drawn.2)

/-- Draw sprite rows, the first of which has the number `row`. -/
def drawRows? (display : Display) (x y : Int) (row : Nat)
    : List UInt8 → Option (Display × Bool)
  | [] => some (display, false)
  | byte :: rest => do
    let drawn ← display.drawColumns? x y row byte 0 spriteWidth
    let later ← drawn.1.drawRows? x y (row + 1) rest
    some (later.1, drawn.2 || later.2)

/-- Switch every pixel off. -/
def clear (display : Display) : Display :=
  { pixels := display.pixels.map fun _ => 0, dirty := true }

end Display

-----------------------------------------------------------------------------------------
-- The state
-----------------------------------------------------------------------------------------

/-- The keys, and the number of the register that waits for the next key press. -/
structure Keypad where
  held : Array Bool := Array.replicate keyCount false
  pending : Option Nat := none

/-- The complete state. -/
structure Machine where
  name : String := ""
  opcode : Opcode := 0
  memory : Array UInt8 := Array.replicate memorySize 0
  registers : Array UInt8 := Array.replicate registerCount 0
  index : UInt16 := 0
  pc : Nat := programStart
  /-- The return addresses, the innermost call last. -/
  stack : Array Nat := #[]
  delay : Timer := {}
  sound : Timer := {}
  display : Display := {}
  keypad : Keypad := {}
  random : RandomSource
  /-- The machine waits for a key press. -/
  paused : Bool := false
  program : Array UInt8 := #[]

namespace Machine

-----------------------------------------------------------------------------------------
-- Starting, loading and resetting
-----------------------------------------------------------------------------------------

/-- Put the digit glyphs to their place. -/
def loadGlyphs? (m : Machine) : Option Machine := do
  let memory ← copy? m.memory glyphStart glyphs
  some { m with memory }

/-- Switch the machine on. -/
def powerOn? (random : RandomSource) : Option Machine :=
  loadGlyphs? { random }

/-- Put a program into memory and keep it, unless it is too long. -/
def loadProgram? (m : Machine) (data : Array UInt8) : Option (Except LoadError Machine) :=
  if programCapacity < data.size then
    some (.error (.tooLarge data.size programCapacity))
  else do
    let memory ← copy? m.memory programStart data.toList
    some (.ok { m with memory, program := data })

/-- Load a program and take over its name. -/
def loadRom? (m : Machine) (rom : Rom) : Option (Except LoadError Machine) := do
  match ← m.loadProgram? rom.data with
  | .error e => some (.error e)
  | .ok loaded => some (.ok { loaded with name := rom.name })

/-- Switch the machine on and load a program. -/
def start? (rom : Rom) (random : RandomSource) : Option (Except LoadError Machine) := do
  let on ← powerOn? random
  on.loadRom? rom

/-- Start over: memory is blanked and gets its glyphs and the kept program back. -/
def reset? (m : Machine) : Option Machine := do
  let blank := { m with opcode := 0, memory := m.memory.map fun _ => 0 }
  let glyphed ← blank.loadGlyphs?
  let memory ← copy? glyphed.memory programStart m.program.toList
  some
    { glyphed with
      memory
      registers := Array.replicate registerCount 0
      index := 0
      pc := programStart
      stack := #[]
      delay := {}
      sound := {}
      display := m.display.clear
      keypad := {}
      paused := false }

-----------------------------------------------------------------------------------------
-- Keys
-----------------------------------------------------------------------------------------

/-- Press or release a key. -/
def setKey? (m : Machine) (key : Nat) (down : Bool) : Option Machine := do
  let held ← store? m.keypad.held key down
  some { m with keypad := { m.keypad with held } }

/-- Deliver a key press to the register that waits for it, if there is one. -/
def pressKey? (m : Machine) (key : Nat) : Option Machine :=
  match m.keypad.pending with
  | none => some m
  | some register => do
    let registers ← store? m.registers register (UInt8.ofNat key)
    some
      { m with registers, keypad := { m.keypad with pending := none }, paused := false }

-----------------------------------------------------------------------------------------
-- Registers and memory
-----------------------------------------------------------------------------------------

/-- The value of a register. -/
def register? (m : Machine) (x : Register) : Option UInt8 :=
  m.registers[x.val]?

/-- Change one register. -/
def setRegister? (m : Machine) (x : Register) (value : UInt8) : Option Machine := do
  let registers ← store? m.registers x.val value
  some { m with registers }

/-- The address at an offset to the index, taken modulo the size of memory. -/
def address? (m : Machine) (offset : Nat) : Option Nat := do
  let sum ← word? (m.index.toNat + offset)
  some (sum % memorySize)

/-- The bytes of `count` cells, from an offset to the index on. -/
def readBytes? (m : Machine) (offset : Nat) : Nat → Option (List UInt8)
  | 0 => some []
  | count + 1 => do
    let address ← m.address? offset
    let byte ← m.memory[address]?
    let rest ← m.readBytes? (offset + 1) count
    some (byte :: rest)

/-- Put bytes into memory, from an offset to the index on. -/
def storeBytes? (m : Machine) (offset : Nat) : List UInt8 → Option Machine
  | [] => some m
  | byte :: rest => do
    let address ← m.address? offset
    let memory ← store? m.memory address byte
    storeBytes? { m with memory } (offset + 1) rest

/-- Store `count` registers, the first of which has the number of the offset. -/
def storeRegisters? (m : Machine) (offset : Nat) : Nat → Option Machine
  | 0 => some m
  | count + 1 => do
    let address ← m.address? offset
    let byte ← m.registers[offset]?
    let memory ← store? m.memory address byte
    storeRegisters? { m with memory } (offset + 1) count

/-- Load `count` registers, the first of which has the number of the offset. -/
def loadRegisters? (m : Machine) (offset : Nat) : Nat → Option Machine
  | 0 => some m
  | count + 1 => do
    let address ← m.address? offset
    let byte ← m.memory[address]?
    let registers ← store? m.registers offset byte
    loadRegisters? { m with registers } (offset + 1) count

end Machine

end ChipEight.Raw
