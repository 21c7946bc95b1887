/-! The fixed sizes of the machine and the tables built into it: the digit glyphs and the
arrangement of the keypad.
-/

namespace ChipEight

/-- Addressable bytes; every address is taken modulo this number. -/
@[simp] abbrev memorySize : Nat := 4096

/-- Bytes of an opcode, stored with the high byte first. -/
@[simp] abbrev opcodeSize : Nat := 2

/-- Where programs are loaded and where they start. -/
@[simp] abbrev programStart : Nat := 0x200

/-- The longest program that fits between its start and the end of memory. -/
@[simp] abbrev programCapacity : Nat := memorySize - programStart

/-- The registers V0 to VF. -/
@[simp] abbrev registerCount : Nat := 16

/-- Hexadecimal digits are numerals of registers, keys and opcode families. -/
@[instance] theorem neZero_registerCount : @NeZero Nat Zero.ofOfNat0 registerCount :=
  ⟨by decide⟩

/-- Return addresses that the call stack holds at most. -/
@[simp] abbrev stackCapacity : Nat := 16

/-- Pixels of a screen row. -/
@[simp] abbrev screenWidth : Nat := 64

/-- Rows of the screen. -/
@[simp] abbrev screenHeight : Nat := 32

/-- All pixels, stored row by row. -/
@[simp] abbrev screenArea : Nat := screenWidth * screenHeight

/-- Pixels of a sprite row, one for each bit of its byte. -/
@[simp] abbrev spriteWidth : Nat := 8

/-- Where the digit glyphs lie in memory. -/
@[simp] abbrev glyphStart : Nat := 0

/-- Bytes of one digit glyph. -/
@[simp] abbrev glyphSize : Nat := 5

/-- Keys of the hexadecimal keypad. -/
@[simp] abbrev keyCount : Nat := 16

/-- Instructions that a tick runs unless told otherwise. -/
@[simp] abbrev defaultSpeed : Nat := 10

/-- Ticks per second unless told otherwise. -/
@[simp] abbrev defaultFrameRate : Nat := 60

/-- Nanoseconds of a second. -/
@[simp] abbrev nanosPerSecond : Nat := 1000000000

/-- The glyphs of the digits 0 to F, four pixels wide and five rows high. -/
def glyphs : List UInt8 :=
  [0xF0, 0x90, 0x90, 0x90, 0xF0,
   0x20, 0x60, 0x20, 0x20, 0x70,
   0xF0, 0x10, 0xF0, 0x80, 0xF0,
   0xF0, 0x10, 0xF0, 0x10, 0xF0,
   0x90, 0x90, 0xF0, 0x10, 0x10,
   0xF0, 0x80, 0xF0, 0x10, 0xF0,
   0xF0, 0x80, 0xF0, 0x90, 0xF0,
   0xF0, 0x10, 0x20, 0x40, 0x40,
   0xF0, 0x90, 0xF0, 0x90, 0xF0,
   0xF0, 0x90, 0xF0, 0x10, 0xF0,
   0xF0, 0x90, 0xF0, 0x90, 0x90,
   0xE0, 0x90, 0xE0, 0x90, 0xE0,
   0xF0, 0x80, 0x80, 0x80, 0xF0,
   0xE0, 0x90, 0x90, 0x90, 0xE0,
   0xF0, 0x80, 0xF0, 0x80, 0xF0,
   0xF0, 0x80, 0xF0, 0x80, 0x80]

/-- The keypad as it is printed on the device, row by row. -/
def keypadRows : List (List (Fin keyCount)) :=
  [[0x1, 0x2, 0x3, 0xC],
   [0x4, 0x5, 0x6, 0xD],
   [0x7, 0x8, 0x9, 0xE],
   [0xA, 0x0, 0xB, 0xF]]

end ChipEight
