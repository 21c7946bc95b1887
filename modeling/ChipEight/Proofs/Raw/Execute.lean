import ChipEight.Proofs.History
import ChipEight.Proofs.Raw.Decoding
import ChipEight.Proofs.Raw.Machine

/-! Instructions, steps, ticks and histories of the machine on plain arrays and words. -/

namespace ChipEight.Raw

/-- The machine after an instruction, before the program counter moves. -/
structure Executed where
  machine : Machine
  flow : Flow := .next
  request : Request := .nothing

namespace Machine

-----------------------------------------------------------------------------------------
-- Instructions
-----------------------------------------------------------------------------------------

/-- Run an operation of family 8: the flag is written before the result. -/
def arithmetic? (m : Machine) (op : Arithmetic) (x y : Register) : Option Machine := do
  let vx ← m.register? x
  let vy ← m.register? y
  match op.apply vx vy with
  | (result, none) => m.setRegister? x result
  | (result, some bit) =>
    let flagged ← m.setRegister? Registers.flag bit.toUInt8
    flagged.setRegister? x result

/-- Put the next random byte under a mask into a register. -/
def random? (m : Machine) (x : Register) (kk : UInt8) : Option Machine :=
  setRegister? { m with random := m.random.next.2 } x (m.random.next.1 &&& kk)

/-- Draw the sprite at the index; VF tells whether a pixel went out. -/
def draw? (m : Machine) (x y : Register) (n : Nat) : Option Machine := do
  let rows ← m.readBytes? 0 n
  let vx ← m.register? x
  let vy ← m.register? y
  let drawn ← m.display.drawRows? vx.toNat vy.toNat 0 rows
  setRegister? { m with display := drawn.1 } Registers.flag drawn.2.toUInt8

/-- The key whose number is in a register is held; numbers outside of the keypad are not. -/
def keyHeld? (m : Machine) (x : Register) : Option Bool := do
  let vx ← m.register? x
  some (m.keypad.held[vx.toNat]?.getD false)

/-- Point the index at the glyph of the digit in a register. -/
def pointToGlyph? (m : Machine) (x : Register) : Option Machine := do
  let vx ← m.register? x
  let glyph ← half? (vx.toNat * glyphSize)
  let index ← half? (glyphStart + glyph.toNat)
  some { m with index }

/-- Run an operation of family F. -/
def misc? (m : Machine) (op : Misc) (x : Register) : Option Machine :=
  match op with
  | .getDelay => m.setRegister? x m.delay.value
  | .awaitKey =>
    some { m with keypad := { m.keypad with pending := some x.val }, paused := true }
  | .setDelay => do
    let vx ← m.register? x
    some { m with delay := { value := vx } }
  | .setSound => do
    let vx ← m.register? x
    some { m with sound := { value := vx } }
  | .addToIndex => do
    let vx ← m.register? x
    some { m with index := m.index + vx.toUInt16 }
  | .pointToGlyph => m.pointToGlyph? x
  | .storeDigits => do
    let vx ← m.register? x
    m.storeBytes? 0 (Machine.decimalDigits vx)
  | .storeRegisters => m.storeRegisters? 0 (x.val + 1)
  | .loadRegisters => m.loadRegisters? 0 (x.val + 1)

/-- What an operation of family F asks of the program around the machine. -/
def miscRequest : Misc → Request
  | .awaitKey => .wait
  | _ => .nothing

/-- Go back to behind the innermost call. -/
def ret (m : Machine) : Except StackError Executed :=
  match m.stack.back? with
  | none => .error .underflow
  | some target => .ok { machine := { m with stack := m.stack.pop }, flow := .jump target }

/-- Open a call, unless every nesting level is in use. -/
def call? (m : Machine) (nnn : Nat) : Option (Except StackError Executed) := do
  let address ← word? (m.pc + opcodeSize)
  if m.stack.size < stackCapacity then
    some (.ok { machine := { m with stack := m.stack.push address }, flow := .jump nnn })
  else
    some (.error .overflow)

/-- Run an instruction; the program counter still stands on it. -/
def execute? (m : Machine) : Instruction → Option (Except StackError Executed)
  | .clear =>
    some (.ok { machine := { m with display := m.display.clear }, request := .redraw })
  | .ret => some m.ret
  | .routine _ => some (.ok { machine := m })
  | .jump nnn => some (.ok { machine := m, flow := .jump nnn.val })
  | .call nnn => m.call? nnn.val
  | .skipEqual x kk => do
    let vx ← m.register? x
    some (.ok { machine := m, flow := .skipIf (vx == kk) })
  | .skipNotEqual x kk => do
    let vx ← m.register? x
    some (.ok { machine := m, flow := .skipIf (vx != kk) })
  | .skipSame x y => do
    let vx ← m.register? x
    let vy ← m.register? y
    some (.ok { machine := m, flow := .skipIf (vx == vy) })
  | .set x kk => do
    let machine ← m.setRegister? x kk
    some (.ok { machine })
  | .add x kk => do
    let vx ← m.register? x
    let machine ← m.setRegister? x (vx + kk)
    some (.ok { machine })
  | .arithmetic op x y => do
    let machine ← m.arithmetic? op x y
    some (.ok { machine })
  | .skipDifferent x y => do
    let vx ← m.register? x
    let vy ← m.register? y
    some (.ok { machine := m, flow := .skipIf (vx != vy) })
  | .setIndex nnn => some (.ok { machine := { m with index := UInt16.ofNat nnn.val } })
  | .jumpOffset nnn => do
    let v0 ← m.register? Registers.offset
    let target ← word? (nnn.val + v0.toNat)
    some (.ok { machine := m, flow := .jump target })
  | .random x kk => do
    let machine ← m.random? x kk
    some (.ok { machine })
  | .draw x y n => do
    let machine ← m.draw? x y n.val
    some (.ok { machine, request := .redraw })
  | .skipHeld x => do
    let held ← m.keyHeld? x
    some (.ok { machine := m, flow := .skipIf held })
  | .skipNotHeld x => do
    let held ← m.keyHeld? x
    some (.ok { machine := m, flow := .skipIf (!held) })
  | .misc op x => do
    let machine ← m.misc? op x
    some (.ok { machine, request := miscRequest op })
  | .unassigned _ => some (.ok { machine := m })

-----------------------------------------------------------------------------------------
-- Steps and ticks
-----------------------------------------------------------------------------------------

/-- Move the program counter. -/
def advance? (m : Machine) (flow : Flow) : Option Machine := do
  let target ← match flow with
    | .stay => some m.pc
    | .next => word? (m.pc + opcodeSize)
    | .skip => word? (m.pc + 2 * opcodeSize)
    | .jump target => some target
  some { m with pc := target % memorySize }

/-- Run an instruction and move on. -/
def perform? (m : Machine) (instruction : Instruction)
    : Option (Machine × Except Fault Request) := do
  match ← m.execute? instruction with
  | .error e => some (m, .error (.stack e))
  | .ok done =>
    let machine ← done.machine.advance? done.flow
    some (machine, .ok done.request)

/-- The opcode at the program counter, if both of its bytes exist. -/
def fetch? (m : Machine) : Option (Except OpcodeError Opcode) := do
  let second ← word? (m.pc + 1)
  match m.memory[m.pc]?, m.memory[second]? with
  | some high, some low => some (.ok (Opcode.ofBytes high low))
  | _, _ => some (.error (.outOfMemory m.pc m.memory.size))

/-- Decode an opcode by masks and shifts, and run its instruction. -/
def performOpcode? (m : Machine) (opcode : Opcode)
    : Option (Machine × Except Fault Request) := do
  match ← decode? opcode m.pc with
  | .error e => some (m, .error (.opcode e))
  | .ok instruction => m.perform? instruction

/-- Fetch, decode and run one instruction. -/
def step? (m : Machine) : Option (Machine × Except Fault Request) := do
  match ← m.fetch? with
  | .error e => some (m, .error (.opcode e))
  | .ok opcode => performOpcode? { m with opcode } opcode

/-- Run up to `count` steps, until the machine is paused or fails. -/
def batch? (m : Machine) (count : Nat) (drew : Bool)
    : Option (Machine × Except Fault Bool) :=
  match count with
  | 0 => some (m, .ok drew)
  | count + 1 =>
    if m.paused then
      some (m, .ok drew)
    else do
      match ← m.step? with
      | (stopped, .error e) => some (stopped, .error e)
      | (next, .ok request) => next.batch? count (drew || request == .redraw)

/-- Count both timers down unless the machine is paused. -/
def countDown (m : Machine) : Machine :=
  if m.paused then m else { m with delay := m.delay.tick, sound := m.sound.tick }

/-- Run a tick: a batch of steps, then the countdown of the timers. -/
def cycle? (m : Machine) (count : Nat) : Option (Machine × Except Fault Tick) := do
  match ← m.batch? count false with
  | (stopped, .error e) => some (stopped, .error e)
  | (ran, .ok redraw) =>
    let counted := ran.countDown
    some
      (counted, .ok { tone := counted.sound.isActive, redraw, waiting := counted.paused })

-----------------------------------------------------------------------------------------
-- Histories
-----------------------------------------------------------------------------------------

/-- The machine after loading, which stays as it is if the program was refused. -/
def afterLoad (m : Machine) : Except LoadError Machine → Machine × Answer
  | .error cause => (m, .load (.error cause))
  | .ok loaded => (loaded, .load (.ok ()))

/-- The machine after an operation, and the answer. -/
def act? (m : Machine) : Action → Option (Machine × Answer)
  | .step => do
    let stepped ← m.step?
    some (stepped.1, .request stepped.2)
  | .cycle count => do
    let ticked ← m.cycle? count
    some (ticked.1, .tick ticked.2)
  | .perform opcode => do
    let performed ← m.performOpcode? opcode
    some (performed.1, .request performed.2)
  | .advance flow => do
    let advanced ← m.advance? flow
    some (advanced, .nothing)
  | .loadProgram data => do
    let loading ← m.loadProgram? data
    some (m.afterLoad loading)
  | .loadRom rom => do
    let loading ← m.loadRom? rom
    some (m.afterLoad loading)
  | .loadGlyphs => do
    let loaded ← m.loadGlyphs?
    some (loaded, .nothing)
  | .reset => do
    let restarted ← m.reset?
    some (restarted, .nothing)
  | .setKey key down => do
    let changed ← m.setKey? key.val down
    some (changed, .nothing)
  | .pressKey key => do
    let answered ← m.pressKey? key
    some (answered, .nothing)
  | .toggle x y => do
    let toggled ← m.display.toggle? x y
    some ({ m with display := toggled.1 }, .flag toggled.2)
  | .drawSprite x y rows => do
    let drawn ← m.display.drawRows? x y 0 rows
    some ({ m with display := drawn.1 }, .flag drawn.2)
  | .clear => some ({ m with display := m.display.clear }, .nothing)
  | .present =>
    some ({ m with display := { m.display with dirty := false } }, .flag m.display.dirty)

/-- The machine after a history, and the answers in turn. -/
def run? (m : Machine) : List Action → Option (Machine × List Answer)
  | [] => some (m, [])
  | action :: rest => do
    let acted ← m.act? action
    let later ← acted.1.run? rest
    some (later.1, acted.2 :: later.2)

end Machine

end ChipEight.Raw
