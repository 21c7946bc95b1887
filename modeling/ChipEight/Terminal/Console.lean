import ChipEight.FrameClock
import ChipEight.KeyHold
import ChipEight.Terminal.Bell
import ChipEight.Terminal.KeyEvent
import ChipEight.Terminal.Keymap
import ChipEight.Terminal.Screen

/-! A machine on a terminal: keys go to the machine, and frames run it and show its screen.
Times are in nanoseconds after a fixed moment.
-/

namespace ChipEight.Terminal

/-- The machine with all that its terminal keeps. -/
structure Console where
  machine : Machine
  hold : KeyHold := {}
  clock : FrameClock := {}
  bell : Bell := {}
  status : Status := {}
  /-- The bytes of a key that is not finished. -/
  pending : List UInt8 := []

/-- A picture with the status line of its frame. -/
structure Picture where
  status : Status
  screen : Display

/-- The cells of a picture on a terminal. -/
def Picture.cells (picture : Picture) (size : Size) : List (List Cell) :=
  boxRows size picture.status picture.screen

namespace Console

/-- A console for a loaded machine. -/
def start (machine : Machine) (settings : Settings) : Console :=
  { machine, clock := { settings }, status := { name := machine.name } }

/-- Handle a key; nothing is left once the user quits. -/
def handle (console : Console) (event : KeyEvent) (now : Nat) : Option Console :=
  match event with
  | .quit => none
  | .reset =>
    let (hold, machine) := console.hold.releaseAll console.machine
    some { console with hold, machine := machine.reset }
  | .char c =>
    match mapKey c with
    | none => some console
    | some key =>
      let (hold, machine) := console.hold.press console.machine key now
      some { console with hold, machine }
  | .ignored => some console

/-- Let go the keys whose time has passed, and look what the status line has to tell. -/
def refresh (console : Console) (now : Nat) : Console :=
  let (hold, machine) := console.hold.releaseExpired console.machine now
  { console with
    hold
    machine
    status :=
      { console.status with tone := machine.toneActive, waiting := machine.isPaused } }

/-- Handle keys in turn, each as if the loop went round without a frame being due; nothing is
left once one of them quits.
-/
def handleAll (console : Console) (now : Nat) : List KeyEvent → Option Console
  | [] => some console
  | event :: rest =>
    match console.handle event now with
    | none => none
    | some next => (next.refresh now).handleAll now rest

/-- Handle bytes that were typed at once; nothing is left once the user quits. -/
def type (console : Console) (now : Nat) (bytes : List UInt8) : Option Console :=
  let fed := KeyEvent.feed console.pending bytes
  { console with pending := fed.1 }.handleAll now fed.2

/-- What an attempt to run a frame shows. -/
inductive Shown where
  | nothing
  | picture (picture : Picture)
  | failed (fault : Fault)

/-- A screen that is displayed is shown with the status line. -/
def Shown.ofScreen (status : Status) : Option Display → Shown
  | none => .nothing
  | some screen => .picture { status, screen }

/-- Run a frame if one is due. -/
def frame (console : Console) (now : Nat) : Console × Shown :=
  let (clock, machine, outcome) := console.clock.tick now console.machine
  let moved := { console with clock, machine }
  match outcome with
  | .early => (moved, .nothing)
  | .failed fault => (moved, .failed fault)
  | .ran _ calls =>
    ({ moved with bell := calls.foldl Bell.hear console.bell },
      .ofScreen console.status (calls.findSome? FrameCall.screen?))

/-- Go through the loop once without a key: look after held keys, then run a frame. -/
def round (console : Console) (now : Nat) : Console × Shown :=
  (console.refresh now).frame now

end Console

end ChipEight.Terminal
