import ChipEight.Machine.Journal

/-! The machine as text for people who debug a program: its registers, and memory in rows of
sixteen bytes where rows of zeros are left out.
-/

namespace ChipEight

/-- Bytes of a row of the memory dump. -/
@[simp] abbrev dumpRowSize : Nat := 16

/-- A row of the memory dump: where it starts and the bytes in it. -/
structure DumpRow where
  start : Nat
  bytes : List UInt8
  deriving DecidableEq, Repr

namespace DumpRow

/-- Every byte of the row is zero. -/
def isZero (row : DumpRow) : Bool :=
  row.bytes.all (· == 0)

/-- The range of addresses in front of a row. -/
def rangeText (row : DumpRow) : String :=
  "\t" ++ Hex.word row.start ++ " - " ++ Hex.word (row.start + row.bytes.length - 1) ++ " :"

/-- The words of a row; a single byte at its end counts as the high byte of a word. -/
def words : List UInt8 → List Opcode
  | [] => []
  | [high] => [Opcode.ofBytes high 0]
  | high :: low :: rest => Opcode.ofBytes high low :: words rest

/-- The line of a row with all of its words. -/
def fullLine (row : DumpRow) : String :=
  row.rangeText
    ++ String.join ((words row.bytes).map fun word => " " ++ Hex.word word.toNat)

/-- The line that stands for a run of zero rows. -/
def fillerLine (row : DumpRow) : String :=
  row.rangeText ++ " ..."

/-- The rows of a block of bytes from an address on; the last one may be shorter. -/
def split (start : Nat) (bytes : List UInt8) : List DumpRow :=
  match bytes with
  | [] => []
  | byte :: rest =>
    ⟨start, (byte :: rest).take dumpRowSize⟩
      :: split (start + dumpRowSize) ((byte :: rest).drop dumpRowSize)
termination_by bytes.length
decreasing_by
  simp only [List.length_drop, List.length_cons, dumpRowSize]
  omega

/-- The lines of successive rows. Of a run of zero rows only the first is shown, by a filler;
`inRun` tells that the row before was zero.
-/
def lines (inRun : Bool) : List DumpRow → List String
  | [] => []
  | row :: rest =>
    if row.isZero then
      if inRun then lines true rest else row.fillerLine :: lines true rest
    else
      row.fullLine :: lines false rest

end DumpRow

/-- The lines of a memory dump. -/
def dumpLines (bytes : List UInt8) : List String :=
  DumpRow.lines false (DumpRow.split 0 bytes)

namespace Machine

/-- The registers, each with its name. -/
def registersText (m : Machine) : String :=
  String.join ((List.finRange registerCount).map fun x =>
    " V" ++ Hex.plain x.val ++ "=" ++ Hex.padded 2 (m.registers.get x).toNat)

/-- The lines of the whole machine. -/
def dump (m : Machine) : List String :=
  ["Chipset \x7b",
    "\tname : " ++ m.name,
    "\tpc : " ++ Hex.word m.pc ++ " opcode : " ++ Hex.word m.opcode.toNat ++ " index : "
      ++ Hex.word m.index.toNat,
    "\tdelay : " ++ toString m.delay.value.toNat ++ " sound : "
      ++ toString m.sound.value.toNat ++ " paused : " ++ boolText m.isPaused,
    "\tregisters :" ++ m.registersText,
    "\tstack :" ++ String.join (m.stack.toList.map fun address => " " ++ Hex.word address),
    "\tmemory :"]
    ++ dumpLines m.memory.cells.toList
    ++ ["\x7d"]

/-- The whole machine as text. -/
def dumpText (m : Machine) : String :=
  "\n".intercalate m.dump

end Machine

end ChipEight
