import ChipEight.Machine.Run

/-! The timing of frames. A frame runs once the interval of the frame rate has passed; late
frames do not move the grid on which later frames are due. Times are in nanoseconds after a
fixed moment; if they run backwards, the time passed counts as zero.
-/

namespace ChipEight

/-- How fast the machine runs. -/
structure Settings where
  /-- Instructions of a tick. -/
  speed : Nat := defaultSpeed
  /-- Ticks of a second. -/
  frameRate : Nat := defaultFrameRate
  deriving DecidableEq, Repr

/-- The time between two frames. -/
def Settings.interval (settings : Settings) : Nat :=
  nanosPerSecond / max settings.frameRate 1

/-- The settings, the slot of the frame that ran last, and the number of frames so far.
The number is not cut to 64 bits, because so many frames take centuries.
-/
structure FrameClock where
  settings : Settings := {}
  lastFrame : Option Nat := none
  frames : Nat := 0
  deriving DecidableEq, Repr

/-- What a frame calls outside of the machine. -/
inductive FrameCall where
  | setTone (active : Bool)
  /-- The screen is displayed as it was before it counted as presented. -/
  | display (screen : Display)

/-- The screen that a call displays. -/
def FrameCall.screen? : FrameCall → Option Display
  | .setTone _ => none
  | .display screen => some screen

/-- What became of an attempt to run a frame. -/
inductive FrameOutcome where
  /-- No frame is due yet. -/
  | early
  /-- A frame ran, and made the calls in this order. -/
  | ran (tick : Tick) (calls : List FrameCall)
  | failed (fault : Fault)

/-- Only a frame that ran calls anything. -/
def FrameOutcome.calls : FrameOutcome → List FrameCall
  | .ran _ calls => calls
  | .early | .failed _ => []

namespace FrameClock

/-- The time between two frames. -/
def interval (clock : FrameClock) : Nat :=
  clock.settings.interval

/-- The time until the next frame is due. -/
def untilNext (clock : FrameClock) (now : Nat) : Nat :=
  match clock.lastFrame with
  | none => 0
  | some last => clock.interval - (now - last)

/-- The slot of a frame that runs now, if one is due. -/
def dueSlot? (clock : FrameClock) (now : Nat) : Option Nat :=
  match clock.lastFrame with
  | none => some now
  | some last =>
    let elapsed := now - last
    if elapsed < clock.interval then
      none
    else
      some (now - elapsed % max clock.interval 1)

/-- Run a frame if one is due: a tick of the machine, which sets the tone and displays the screen.
The picture then counts as presented.
-/
def tick (clock : FrameClock) (now : Nat) (m : Machine)
    : FrameClock × Machine × FrameOutcome :=
  match clock.dueSlot? now with
  | none => (clock, m, .early)
  | some slot =>
    let started := { clock with lastFrame := some slot }
    match m.cycle clock.settings.speed with
    | (stopped, .error fault) => (started, stopped, .failed fault)
    | (ran, .ok tick) =>
      ({ started with frames := clock.frames + 1 },
        { ran with display := ran.display.presented },
        .ran tick [.setTone tick.tone, .display ran.display])

end FrameClock

end ChipEight
