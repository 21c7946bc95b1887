import ChipEight.CommandLine.Launch
import ChipEight.Terminal.Console
import ChipEight.Terminal.View

/-! Whole sessions on simulated time. Every frame runs when it is due. The user waits until the
terminal asks for a key and nothing on it has moved for a moment, and types the next keys if
the screen is another one than the last time.
-/

namespace ChipEight.Terminal

open CommandLine

/-- A machine on a terminal, and the keys that its user is going to type. -/
structure Session where
  console : Console
  size : Size
  /-- What is still to be typed, in turn. -/
  keys : List String
  /-- When the next frame is due. -/
  now : Nat := 0
  /-- The status line on the terminal, once a frame was shown. -/
  status : Option Status := none
  /-- What the terminal shows. -/
  view : View := .blank size
  /-- The text on the terminal. -/
  screen : List String := []
  /-- When the text changed last. -/
  changed : Nat := 0
  /-- The screens at which keys were typed, the last one first. -/
  prompts : List (List String) := []

/-- How a session ended. -/
inductive Ending where
  | quit
  | failed (report : Report)
  /-- The machine waits, but nothing more is typed. -/
  | idle
  deriving DecidableEq, Repr

/-- What a session looked like from outside. -/
structure Transcript where
  ending : Ending
  bells : Nat := 0
  /-- The screens at which keys were typed. -/
  prompts : List (List String) := []
  /-- The last screen, without lines if there was none. -/
  last : List String := []
  /-- The number of keys that were never typed. -/
  unused : Nat
  deriving DecidableEq, Repr

namespace Session

/-- The shortest time that the loop takes for a round. -/
def shortestRound : Nat := 100000

/-- How long nothing may move before the user types. It is longer than a key stays down. -/
def settleTime : Nat := 2 * holdTime

/-- The first line of the terminal asks for a key. -/
def asksForKey (lines : List String) : Bool :=
  (lines.headD "").contains "waiting for a key"

/-- The keys that the screen asks for, with those behind them. -/
def wanted? (session : Session) : Option (String × List String) :=
  match session.keys with
  | [] => none
  | keys :: rest =>
    if asksForKey session.screen && session.prompts.head? != some session.screen then
      some (keys, rest)
    else
      none

/-- Nothing is going to change any more unless a key is typed. -/
def isStill (session : Session) : Bool :=
  session.console.machine.isPaused
    && (session.status.map fun status => status.waiting).getD false

/-- The end of a session as it was seen. -/
def transcript (session : Session) (ending : Ending) : Transcript :=
  { ending
    bells := session.console.bell.output.length + session.view.bells
    prompts := session.prompts.reverse
    last := session.screen
    unused := session.keys.length }

/-- Take the keys to type off those that are left. -/
def prompt (session : Session) (rest : List String) : Session :=
  { session with keys := rest, prompts := session.screen :: session.prompts }

/-- A frame shows a picture. If neither the status line nor the screen of the machine changed,
there is nothing to draw.
-/
def present (session : Session) (picture : Picture) : Session :=
  if session.status = some picture.status ∧ !picture.screen.dirty then
    session
  else
    let view := session.view.draw (picture.cells session.size)
    let lines := view.lines
    { session with
      status := some picture.status
      view
      screen := lines
      changed := if lines = session.screen then session.changed else session.now }

/-- The next frame is due an interval later. -/
def waitForFrame (session : Session) : Session :=
  { session with now := session.now + max session.console.clock.interval shortestRound }

/-- Run the loop up to some number of rounds. -/
def run (session : Session) : Nat → Transcript
  | 0 => session.transcript .idle
  | rounds + 1 =>
    let wanted := session.wanted?
    if wanted.isNone ∧ session.isStill then
      session.transcript .idle
    else
      let moment := session.changed + settleTime
      match wanted.filter fun _ => moment ≤ session.now with
      | some (keys, rest) =>
        match session.console.type moment (Utf8.encode keys) with
        | none => (session.prompt rest).transcript .quit
        | some console => { session.prompt rest with console }.run rounds
      | none =>
        let (console, shown) := session.console.round session.now
        match shown with
        | .nothing => { session with console }.waitForFrame.run rounds
        | .failed fault => { session with console }.transcript (.failed (faultReport fault))
        | .picture picture => ({ session with console }.present picture).waitForFrame.run rounds

end Session

/-- The transcript of a program that failed before anything was shown. -/
def Transcript.failedEarly (report : Report) (keys : List String) : Transcript :=
  { ending := .failed report, unused := keys.length }

end ChipEight.Terminal
