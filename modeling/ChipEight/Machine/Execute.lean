import ChipEight.Machine

/-! What each instruction does to the machine. Memory is addressed from the index on, modulo
its size. Only calls and returns can be refused, and a refused instruction changes nothing.
-/

namespace ChipEight

/-- What an instruction asks of the program around the machine. -/
inductive Request where
  | nothing
  /-- A prompt waits for a key press. -/
  | wait
  /-- The picture changed. -/
  | redraw
  deriving DecidableEq, Repr

/-- The machine after an instruction, before the program counter moves. -/
structure Executed where
  machine : Machine
  flow : Flow := .next
  request : Request := .nothing

namespace Machine

/-- The bytes from the index on. -/
def indexBlock (m : Machine) (length : Nat) : List UInt8 :=
  m.memory.readBlock m.index.toNat length

/-- The machine with bytes put into memory from the index on. -/
def storeAtIndex (m : Machine) (bytes : List UInt8) : Machine :=
  { m with memory := m.memory.writeBlock m.index.toNat bytes }

/-- The machine with V0 to VX taken from memory, from the index on. -/
def loadFromIndex (m : Machine) (x : Register) : Machine :=
  { m with
    registers :=
      { values := Vector.ofFn fun j =>
          if j ≤ x then m.memory.read (m.index.toNat + j.val) else m.registers.get j } }

/-- Loading replaces V0 to VX by the bytes from the index on. -/
theorem get_loadFromIndex (m : Machine) (x r : Register)
    : (m.loadFromIndex x).registers.get r
      = if r ≤ x then m.memory.read (m.index.toNat + r.val) else m.registers.get r :=
  Vector.getElem_ofFn _

/-- The three decimal digits of a byte. -/
def decimalDigits (value : UInt8) : List UInt8 :=
  [value / 100, value / 10 % 10, value % 10]

/-- Run an operation of family F. -/
def executeMisc (m : Machine) (op : Misc) (x : Register) : Executed :=
  match op with
  | .getDelay => { machine := { m with registers := m.registers.set x m.delay.value } }
  | .awaitKey => { machine := { m with keypad := m.keypad.await x }, request := .wait }
  | .setDelay => { machine := { m with delay := { value := m.registers.get x } } }
  | .setSound => { machine := { m with sound := { value := m.registers.get x } } }
  | .addToIndex => { machine := { m with index := m.index + (m.registers.get x).toUInt16 } }
  | .pointToGlyph =>
    { machine :=
        { m with
          index := UInt16.ofNat (glyphStart + (m.registers.get x).toNat * glyphSize) } }
  | .storeDigits => { machine := m.storeAtIndex (decimalDigits (m.registers.get x)) }
  | .storeRegisters =>
    { machine := m.storeAtIndex (m.registers.values.toList.take (x.val + 1)) }
  | .loadRegisters => { machine := m.loadFromIndex x }

/-- No operation of family F jumps. -/
theorem flow_executeMisc (m : Machine) (op : Misc) (x : Register)
    : (m.executeMisc op x).flow = .next := by
  cases op <;> rfl

/-- Draw the sprite at the index; VF tells whether a pixel went out. -/
def executeDraw (m : Machine) (x y : Register) (n : Fin 16) : Executed :=
  let drawn :=
    m.display.drawSprite (m.registers.get x).toNat (m.registers.get y).toNat
      (m.indexBlock n.val)
  { machine :=
      { m with
        display := drawn.1
        registers := m.registers.set Registers.flag drawn.2.toUInt8 }
    request := .redraw }

/-- Put the next random byte under a mask into a register. -/
def executeRandom (m : Machine) (x : Register) (kk : UInt8) : Executed :=
  let drawn := m.random.next
  { machine :=
      { m with registers := m.registers.set x (drawn.1 &&& kk), random := drawn.2 } }

/-- Run an instruction; the program counter still stands on it. -/
def execute (m : Machine) : Instruction → Except StackError Executed
  | .clear =>
    .ok { machine := { m with display := m.display.clear }, request := .redraw }
  | .ret =>
    match m.stack.pop with
    | .error e => .error e
    | .ok (target, stack) => .ok { machine := { m with stack }, flow := .jump target }
  | .routine _ => .ok { machine := m }
  | .jump nnn => .ok { machine := m, flow := .jump nnn.val }
  | .call nnn =>
    match m.stack.push (m.pc + opcodeSize) with
    | .error e => .error e
    | .ok stack => .ok { machine := { m with stack }, flow := .jump nnn.val }
  | .skipEqual x kk => .ok { machine := m, flow := .skipIf (m.registers.get x == kk) }
  | .skipNotEqual x kk => .ok { machine := m, flow := .skipIf (m.registers.get x != kk) }
  | .skipSame x y =>
    .ok { machine := m, flow := .skipIf (m.registers.get x == m.registers.get y) }
  | .set x kk => .ok { machine := { m with registers := m.registers.set x kk } }
  | .add x kk =>
    .ok { machine := { m with registers := m.registers.set x (m.registers.get x + kk) } }
  | .arithmetic op x y =>
    .ok { machine := { m with registers := m.registers.arithmetic op x y } }
  | .skipDifferent x y =>
    .ok { machine := m, flow := .skipIf (m.registers.get x != m.registers.get y) }
  | .setIndex nnn => .ok { machine := { m with index := UInt16.ofNat nnn.val } }
  | .jumpOffset nnn =>
    .ok { machine := m, flow := .jump (nnn.val + (m.registers.get Registers.offset).toNat) }
  | .random x kk => .ok (m.executeRandom x kk)
  | .draw x y n => .ok (m.executeDraw x y n)
  | .skipHeld x =>
    .ok { machine := m, flow := .skipIf (m.keypad.isHeld (m.registers.get x).toNat) }
  | .skipNotHeld x =>
    .ok { machine := m, flow := .skipIf (!m.keypad.isHeld (m.registers.get x).toNat) }
  | .misc op x => .ok (m.executeMisc op x)
  | .unassigned _ => .ok { machine := m }

end Machine

end ChipEight
