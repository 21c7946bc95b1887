import ChipEight.Machine.Run

/-! Histories: the operations that can happen to a machine, in any order, and what each of
them answers. A machine is reachable if a history leads to it from power-on.
-/

namespace ChipEight

/-- An operation on the machine. -/
inductive Action where
  | step
  | cycle (count : Nat)
  /-- Decode an opcode and run it, without a fetch. -/
  | perform (opcode : Opcode)
  | advance (flow : Flow)
  | loadProgram (data : Array UInt8)
  | loadRom (rom : Rom)
  | loadGlyphs
  | reset
  | setKey (key : Key) (down : Bool)
  | pressKey (key : Nat)
  | toggle (x y : Int)
  | drawSprite (x y : Int) (rows : List UInt8)
  | clear
  /-- Take note that the picture was presented. -/
  | present

/-- Ticks and keys that are held or let go, without a key press. -/
inductive Action.IsQuiet : Action → Prop
  | cycle (count : Nat) : IsQuiet (.cycle count)
  | setKey (key : Key) (down : Bool) : IsQuiet (.setKey key down)

/-- Ticks and key events. -/
inductive Action.IsPlay : Action → Prop
  | quiet {action : Action} (quiet : action.IsQuiet) : IsPlay action
  | pressKey (key : Nat) : IsPlay (.pressKey key)

/-- What an operation answers. -/
inductive Answer where
  | nothing
  | request (result : Except Fault Request)
  | tick (result : Except Fault Tick)
  | load (result : Except LoadError Unit)
  /-- Whether a pixel went out, or whether the picture had changed. -/
  | flag (value : Bool)

/-- The fault that an operation answers with, if it failed. -/
def Answer.fault? : Answer → Option Fault
  | .request (.error fault) => some fault
  | .tick (.error fault) => some fault
  | .load (.error cause) => some (.load cause)
  | _ => none

@[simp] theorem Answer.fault?_request (result : Except Fault Request) (fault : Fault)
    : (Answer.request result).fault? = some fault ↔ result = .error fault := by
  cases result <;> simp [fault?]

@[simp] theorem Answer.fault?_tick (result : Except Fault Tick) (fault : Fault)
    : (Answer.tick result).fault? = some fault ↔ result = .error fault := by
  cases result <;> simp [fault?]

namespace Machine

/-- The machine with another screen. -/
def withDisplay (m : Machine) (display : Display) : Machine :=
  { m with display }

/-- The machine after loading, which stays as it is if the program was refused. -/
def afterLoad (m : Machine) : Except LoadError Machine → Machine × Answer
  | .error cause => (m, .load (.error cause))
  | .ok loaded => (loaded, .load (.ok ()))

/-- The machine after an operation, and the answer. -/
def act (m : Machine) : Action → Machine × Answer
  | .step => (m.step.1, .request m.step.2)
  | .cycle count => ((m.cycle count).1, .tick (m.cycle count).2)
  | .perform opcode =>
    ((m.perform (.decode opcode)).1, .request (m.perform (.decode opcode)).2)
  | .advance flow => (m.advance flow, .nothing)
  | .loadProgram data => m.afterLoad (m.loadProgram data)
  | .loadRom rom => m.afterLoad (m.loadRom rom)
  | .loadGlyphs => (m.loadGlyphs, .nothing)
  | .reset => (m.reset, .nothing)
  | .setKey key down => (m.setKey key down, .nothing)
  | .pressKey key => (m.pressKey key, .nothing)
  | .toggle x y => (m.withDisplay (m.display.toggle x y).1, .flag (m.display.toggle x y).2)
  | .drawSprite x y rows =>
    (m.withDisplay (m.display.drawSprite x y rows).1, .flag (m.display.drawSprite x y rows).2)
  | .clear => (m.withDisplay m.display.clear, .nothing)
  | .present => (m.withDisplay m.display.presented, .flag m.display.dirty)

/-- The machine after a history, and the answers in turn. -/
def run (m : Machine) : List Action → Machine × List Answer
  | [] => (m, [])
  | action :: rest =>
    let later := (m.act action).1.run rest
    (later.1, (m.act action).2 :: later.2)

/-- A history leads from power-on to the machine. -/
inductive Reachable : Machine → Prop
  | powerOn (random : RandomSource) : Reachable (powerOn random)
  | act {m : Machine} (before : Reachable m) (action : Action) : Reachable (m.act action).1

/-- Every history leads from reachable machines to reachable ones, by induction on the
history.
-/
theorem Reachable.run {m : Machine} (reachable : m.Reachable) (history : List Action)
    : (m.run history).1.Reachable := by
  induction history generalizing m with
  | nil => exact reachable
  | cons action rest ih => exact ih (reachable.act action)

end Machine

end ChipEight
