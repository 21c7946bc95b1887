import ChipEight.FrameClock

/-! The tone on a terminal: a bell whenever the tone begins. -/

namespace ChipEight.Terminal

/-- Whether the tone sounds, and the bytes written so far. -/
structure Bell where
  audible : Bool := false
  output : List UInt8 := []
  deriving DecidableEq, Repr

namespace Bell

/-- Start or stop the tone; the bell rings when it starts. -/
def setTone (bell : Bell) (audible : Bool) : Bell :=
  { audible
    output := if audible && !bell.audible then bell.output ++ [0x07] else bell.output }

/-- The bell after a call of a frame, which may set the tone. -/
def hear (bell : Bell) : FrameCall → Bell
  | .setTone active => bell.setTone active
  | .display _ => bell

end Bell

end ChipEight.Terminal
