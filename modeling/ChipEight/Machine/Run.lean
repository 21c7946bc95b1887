import ChipEight.Machine.Execute

/-! Running programs: single steps, and ticks that run a batch of steps and then count the
timers down.
-/

namespace ChipEight

/-- The report of a tick. -/
structure Tick where
  /-- The tone has to sound. -/
  tone : Bool
  /-- The picture changed. -/
  redraw : Bool
  /-- A prompt waits for a key press. -/
  waiting : Bool
  deriving DecidableEq, Repr

namespace Machine

/-- Move the program counter. -/
def advance (m : Machine) (flow : Flow) : Machine :=
  { m with pc := flow.apply m.pc }

/-- Run an instruction and move on. A refused instruction leaves the machine as it is. -/
def perform (m : Machine) (instruction : Instruction) : Machine × Except Fault Request :=
  match m.execute instruction with
  | .error e => (m, .error (.stack e))
  | .ok done => (done.machine.advance done.flow, .ok done.request)

/-- Fetch, decode and run one instruction. -/
def step (m : Machine) : Machine × Except Fault Request :=
  match m.memory.fetch m.pc with
  | .error e => (m, .error (.opcode e))
  | .ok opcode => { m with opcode }.perform (.decode opcode)

/-- Run up to `count` steps. A prompt ends the batch before its next step, and so does a
fault. The result tells whether the picture changed, now or in the steps before (`drew`).
-/
def batch (m : Machine) (count : Nat) (drew : Bool) : Machine × Except Fault Bool :=
  match count with
  | 0 => (m, .ok drew)
  | count + 1 =>
    if m.isPaused then
      (m, .ok drew)
    else
      match m.step with
      | (stopped, .error e) => (stopped, .error e)
      | (next, .ok request) => next.batch count (drew || request == .redraw)

/-- Count both timers down unless a prompt waits. -/
def countDown (m : Machine) : Machine :=
  if m.isPaused then m else { m with delay := m.delay.tick, sound := m.sound.tick }

/-- Run a tick: a batch of steps, then the countdown of the timers. A fault ends the tick
before the countdown.
-/
def cycle (m : Machine) (count : Nat) : Machine × Except Fault Tick :=
  match m.batch count false with
  | (stopped, .error e) => (stopped, .error e)
  | (ran, .ok redraw) =>
    let counted := ran.countDown
    (counted, .ok { tone := counted.toneActive, redraw, waiting := counted.isPaused })

/-- The countdown touches nothing but the timers. -/
theorem countDown_eq (m : Machine)
    : ∃ delay sound, m.countDown = { m with delay, sound } := by
  unfold countDown
  split
  · exact ⟨m.delay, m.sound, rfl⟩
  · exact ⟨_, _, rfl⟩

end Machine

end ChipEight
