import ChipEight.Proofs.Effects
import ChipEight.Proofs.FrameGrid
import ChipEight.Proofs.Ticks

/-! No change of the picture is lost. Whatever changes it marks it as changed, and only a frame
takes the mark away, right after it displayed the picture. A tick that reports no change made
none, so it is enough to present the picture after the ticks that report one.
-/

namespace ChipEight

-----------------------------------------------------------------------------------------
-- Changes are marked
-----------------------------------------------------------------------------------------

namespace Display

/-- The screen is the same as before, or it is marked as changed. -/
def MarksChange (before after : Display) : Prop :=
  after = before ∨ after.dirty = true

theorem MarksChange.trans {first second third : Display} (before : MarksChange first second)
    (after : MarksChange second third)
    : MarksChange first third := by
  rcases after with rfl | marked
  · exact before
  · exact .inr marked

/-- Toggling pixels in turn marks the change if there is a pixel to toggle. -/
theorem marksChange_toggleAll (display : Display) (cells : List (Int × Int))
    : MarksChange display (display.toggleAll cells).1 := by
  induction cells generalizing display with
  | nil => exact .inl rfl
  | cons cell rest ih =>
    have toggled : MarksChange display (display.toggle cell.1 cell.2).1 := .inr rfl
    exact toggled.trans (ih _)

end Display

namespace Machine

open Display (MarksChange)

/-- Only clearing and drawing touch the screen, and both mark the change. -/
theorem Effect.marksChange {m next : Machine} {opcode : Opcode} {request : Request}
    (effect : Effect m opcode next request)
    : MarksChange m.display next.display := by
  cases effect with
  | clear => exact .inr rfl
  | draw _ drew =>
    rw [← drew]
    exact m.display.marksChange_toggleAll _
  | _ => exact .inl rfl

theorem marksChange_perform (m : Machine) (opcode : Opcode)
    : MarksChange m.display (m.perform (.decode opcode)).1.display := by
  cases executed : m.execute (.decode opcode) with
  | error e =>
    rw [perform_of_error executed]
    exact .inl rfl
  | ok done =>
    rw [perform_of_ok executed]
    exact (execute_effect executed).marksChange

theorem marksChange_step (m : Machine) : MarksChange m.display m.step.1.display := by
  cases fetched : m.memory.fetch m.pc with
  | error e =>
    rw [step_of_error fetched]
    exact .inl rfl
  | ok opcode =>
    rw [step_of_ok fetched]
    exact marksChange_perform { m with opcode } opcode

theorem marksChange_cycle (m : Machine) (count : Nat)
    : MarksChange m.display (m.cycle count).1.display := by
  apply @cycle_preserves (fun later => MarksChange m.display later.display)
  · intro later marked
    exact marked.trans later.marksChange_step
  · intro later marked
    obtain ⟨_, _, same⟩ := later.countDown_eq
    rw [same]
    exact marked
  · exact .inl rfl

theorem marksChange_of_cycle {m next : Machine} {count : Nat} {result : Except Fault Tick}
    (ran : m.cycle count = (next, result))
    : MarksChange m.display next.display := by
  have marks := m.marksChange_cycle count
  rwa [ran] at marks

/-- Every operation but taking note of a presentation marks a change of the picture, by cases
on the operation.
-/
theorem marksChange_act (m : Machine) {action : Action} (other : action ≠ .present)
    : MarksChange m.display (m.act action).1.display := by
  cases action with
  | step => exact m.marksChange_step
  | cycle count => exact m.marksChange_cycle count
  | perform opcode => exact m.marksChange_perform opcode
  | loadProgram data =>
    rw [act, loadProgram_eq]
    split <;> exact .inl rfl
  | loadRom rom =>
    rw [act, loadRom_eq]
    split <;> exact .inl rfl
  | pressKey key =>
    obtain ⟨_, _, same⟩ := m.pressKey_eq key
    rw [act, same]
    exact .inl rfl
  | drawSprite x y rows => exact m.display.marksChange_toggleAll _
  | reset | toggle | clear => exact .inr rfl
  | advance | loadGlyphs | setKey =>
    simp only [act, advance, loadGlyphs, setKey]
    exact .inl rfl
  | present => exact absurd rfl other

-----------------------------------------------------------------------------------------
-- Changes are reported
-----------------------------------------------------------------------------------------

/-- What asks for no redraw leaves the screen alone. -/
theorem Effect.display_eq {m next : Machine} {opcode : Opcode} {request : Request}
    (effect : Effect m opcode next request) (quiet : request ≠ .redraw)
    : next.display = m.display := by
  cases effect with
  | clear | draw => exact absurd rfl quiet
  | _ => rfl

/-- A batch reports the redraws that its steps ask for, and without any it leaves the screen
alone. Witness: induction on the steps that are left.
-/
theorem batch_reports {m next : Machine} {count : Nat} {drew redraw : Bool}
    (ran : m.batch count drew = (next, .ok redraw))
    : (drew = true → redraw = true) ∧ (redraw = false → next.display = m.display) := by
  induction count generalizing m drew with
  | zero =>
    cases ran
    exact ⟨id, fun _ => rfl⟩
  | succ count ih =>
    cases paused : m.isPaused with
    | true =>
      rw [batch_of_paused paused] at ran
      cases ran
      exact ⟨id, fun _ => rfl⟩
    | false =>
      rcases stepped : m.step with ⟨after, fault | request⟩
      · rw [batch_of_failure paused stepped] at ran
        cases ran
      · rw [batch_of_step paused stepped] at ran
        obtain ⟨reported, kept⟩ := ih ran
        refine ⟨fun drawn => reported (by rw [drawn, Bool.true_or]), ?_⟩
        intro quiet
        have noRedraw : request ≠ .redraw := by
          rintro rfl
          rw [quiet] at reported
          exact absurd (reported (Bool.or_true drew)) Bool.false_ne_true
        obtain ⟨_, _, effect, same⟩ := step_effect stepped
        rw [kept quiet, same]
        exact effect.display_eq noRedraw

/-- A tick that reports no redraw leaves the screen and its mark alone. -/
theorem display_cycle {m next : Machine} {count : Nat} {report : Tick}
    (ran : m.cycle count = (next, .ok report)) (quiet : report.redraw = false)
    : next.display = m.display := by
  obtain ⟨last, batch, rfl, _⟩ := cycle_eq_ok ran
  obtain ⟨_, _, same⟩ := last.countDown_eq
  rw [same]
  exact (batch_reports batch).2 quiet

/-- The picture that is shown after operations, if it is presented after the ticks that report
a redraw and otherwise stays what it was.
-/
def shownAfter (m : Machine) (shown : Vector Bool screenArea)
    : List Action → Vector Bool screenArea
  | [] => shown
  | action :: rest =>
    let next := m.act action
    let picture :=
      match next.2 with
      | .tick (.ok report) => if report.redraw then next.1.display.pixels else shown
      | _ => shown
    next.1.shownAfter picture rest

/-- While ticks succeed and keys come and go, presenting after the reported redraws keeps the
picture up to date. Witness: induction on the operations.
-/
theorem shownAfter_play {m : Machine} {actions : List Action}
    (play : ∀ action ∈ actions, action.IsPlay)
    (succeed : ∀ answer ∈ (m.run actions).2, answer.fault? = none)
    : m.shownAfter m.display.pixels actions = (m.run actions).1.display.pixels := by
  have playing := playing_of_succeed play succeed
  clear play succeed
  induction playing with
  | done => rfl
  | @tick m next count report rest ran later ih =>
    rw [run, act, ran, ← ih, shownAfter, act, ran]
    congr 1
    change (if report.redraw then next.display.pixels else m.display.pixels) = _
    cases redraw : report.redraw with
    | true => rfl
    | false => rw [if_neg Bool.false_ne_true, display_cycle ran redraw]
  | key same later ih =>
    rw [run, shownAfter, same]
    exact ih

end Machine

-----------------------------------------------------------------------------------------
-- Frames
-----------------------------------------------------------------------------------------

/-- A machine with the clock of its frames, and what they called so far. -/
structure Driver where
  clock : FrameClock
  machine : Machine
  calls : List FrameCall := []

/-- What can happen to a driven machine. -/
inductive DriverEvent where
  | tick (now : Nat)
  | act (action : Action)

namespace Driver

/-- A machine that was just switched on, before its first frame. -/
def start (settings : Settings) (random : RandomSource) : Driver :=
  { clock := { settings }, machine := .powerOn random }

def handle (driver : Driver) : DriverEvent → Driver
  | .tick now =>
    let (clock, machine, outcome) := driver.clock.tick now driver.machine
    { clock, machine, calls := driver.calls ++ outcome.calls }
  | .act action => { driver with machine := (driver.machine.act action).1 }

def run (driver : Driver) : List DriverEvent → Driver
  | [] => driver
  | event :: rest => (driver.handle event).run rest

/-- The screen of the last call that displayed one. -/
def lastShown? (driver : Driver) : Option Display :=
  (driver.calls.filterMap FrameCall.screen?).getLast?

/-- The picture is marked as changed, or it is the one that was displayed last. -/
def UpToDate (driver : Driver) : Prop :=
  driver.machine.display.dirty = false
    → ∃ screen,
        driver.lastShown? = some screen ∧ screen.pixels = driver.machine.display.pixels

/-- What marks its changes and calls nobody keeps a driver up to date. -/
theorem UpToDate.of_marksChange {driver next : Driver} (before : driver.UpToDate)
    (marks : driver.machine.display.MarksChange next.machine.display)
    (silent : next.calls = driver.calls)
    : next.UpToDate := by
  intro clean
  rcases marks with same | marked
  · rw [same] at clean
    obtain ⟨screen, last, pixels⟩ := before clean
    refine ⟨screen, ?_, by rw [same, pixels]⟩
    rw [lastShown?, silent]
    exact last
  · rw [marked] at clean
    cases clean

/-- A tick does one of three things. Before a frame is due it changes nothing and calls nobody.
A frame runs the machine for exactly one tick of its own, sets the tone, displays the screen,
takes the mark away and is counted. A frame that fails stops in the middle: it calls nobody, is
not counted and takes no mark away.
-/
inductive TickEffect (driver : Driver) : FrameOutcome → Driver → Prop
  | early : TickEffect driver .early driver
  | ran {last : Machine} {report : Tick} {clock : FrameClock}
    (cycle : driver.machine.cycle driver.clock.settings.speed = (last, .ok report))
    (tone : report.tone = decide (0 < last.sound.value))
    (counted : clock.frames = driver.clock.frames + 1)
    : TickEffect driver
        (.ran report [.setTone (decide (0 < last.sound.value)), .display last.display])
        { clock
          machine := { last with display := { last.display with dirty := false } }
          calls :=
            driver.calls
              ++ [.setTone (decide (0 < last.sound.value)), .display last.display] }
  | failed {stopped : Machine} {fault : Fault} {clock : FrameClock}
    (cycle : driver.machine.cycle driver.clock.settings.speed = (stopped, .error fault))
    (counted : clock.frames = driver.clock.frames)
    (marked : driver.machine.display.dirty = true → stopped.display.dirty = true)
    : TickEffect driver (.failed fault) { driver with clock, machine := stopped }

theorem tick_effect (driver : Driver) (now : Nat)
    : TickEffect driver (driver.clock.tick now driver.machine).2.2
        (driver.handle (.tick now)) := by
  rcases ticked : driver.clock.tick now driver.machine with ⟨clock, machine, outcome⟩
  simp only [handle, ticked]
  cases FrameClock.tick_effect ticked with
  | early =>
    simp only [FrameOutcome.calls, List.append_nil]
    exact .early
  | failed _ cycle =>
    simp only [FrameOutcome.calls, List.append_nil]
    refine .failed cycle rfl ?_
    intro dirty
    rcases Machine.marksChange_of_cycle cycle with same | marked
    · rw [same, dirty]
    · exact marked
  | ran _ cycle =>
    have tone := Machine.tone_cycle cycle
    rw [tone]
    exact .ran cycle tone rfl

/-- Every event but taking note of a presentation without one keeps a driver up to date. -/
theorem UpToDate.handle {driver : Driver} (before : driver.UpToDate) {event : DriverEvent}
    (other : event ≠ .act .present)
    : (driver.handle event).UpToDate := by
  cases event with
  | act action =>
    have marks := driver.machine.marksChange_act (fun same => other (congrArg _ same))
    exact before.of_marksChange marks rfl
  | tick now =>
    have effect := driver.tick_effect now
    generalize (driver.clock.tick now driver.machine).2.2 = outcome at effect
    generalize driver.handle (.tick now) = next at effect ⊢
    cases effect with
    | early => exact before
    | failed cycle => exact before.of_marksChange (Machine.marksChange_of_cycle cycle) rfl
    | @ran last =>
      intro _
      refine ⟨last.display, ?_, rfl⟩
      simp only [lastShown?, List.filterMap_append]
      exact List.getLast?_concat

/-- A whole run keeps a driver up to date, by induction on the events. -/
theorem UpToDate.run {driver : Driver} (before : driver.UpToDate) {events : List DriverEvent}
    (untouched : .act .present ∉ events)
    : (driver.run events).UpToDate := by
  induction events generalizing driver with
  | nil => exact before
  | cons event rest ih =>
    have other : event ≠ .act .present := by
      rintro rfl
      exact untouched List.mem_cons_self
    exact ih (before.handle other) (fun member => untouched (List.mem_cons_of_mem _ member))

/-- No change of the picture is lost. In a run of ticks and operations from power-on, in which
only frames take note of presentations, the picture is marked as changed or is the one that was
displayed last; and each tick does one of the three things that `TickEffect` lists.
A tick of the machine that reports no redraw leaves the screen and its mark alone. Therefore,
while ticks succeed and keys come and go, it is enough to present the picture once and then
after the reported redraws.
Witness: every operation marks its changes, and every step that touches the screen asks for a
redraw.
-/
theorem no_change_lost (settings : Settings) (random : RandomSource)
    : (∀ events, .act .present ∉ events → ((start settings random).run events).UpToDate)
      ∧ (∀ (driver : Driver) now,
          TickEffect driver (driver.clock.tick now driver.machine).2.2
            (driver.handle (.tick now)))
      ∧ (∀ (m next : Machine) count report,
          m.cycle count = (next, .ok report)
          → report.redraw = false
          → next.display = m.display)
      ∧ ∀ (m : Machine) actions,
          (∀ action ∈ actions, action.IsPlay)
          → (∀ answer ∈ (m.run actions).2, answer.fault? = none)
          → m.shownAfter m.display.pixels actions = (m.run actions).1.display.pixels := by
  refine ⟨?_, tick_effect, fun _ _ _ _ => Machine.display_cycle,
    fun _ _ => Machine.shownAfter_play⟩
  intro events untouched
  have marked : (start settings random).UpToDate := nofun
  exact marked.run untouched

/-- A program that draws the top of the first glyph, jumps back and draws it again. -/
def drawer : Machine :=
  ((Machine.powerOn { stream := fun _ => 0 }).act (.loadProgram #[0xD0, 0x01, 0x12, 0x00])).1

/-- The machine after its first drawing. -/
def drawn : Machine :=
  ({ drawer with opcode := 0xD001 }.executeDraw 0 0 1).machine.advance .next

/-- A tick of one step draws and reports it. -/
theorem cycle_drawer
    : drawer.cycle 1 = (drawn, .ok { tone := false, redraw := true, waiting := false }) := by
  have fetched : drawer.memory.fetch 0x200 = .ok 0xD001 := by
    refine (Memory.fetch_withProgram (i := 0) (by decide) (by decide)).trans ?_
    rfl
  have stepped : drawer.step = (drawn, .ok .redraw) := Machine.step_of_ok (m := drawer) fetched
  rw [Machine.cycle, Machine.batch_of_step rfl stepped]
  rfl

/-- A tick of one step that jumps reports nothing. -/
theorem cycle_of_jump {m : Machine} (ready : m.isPaused = false)
    (fetched : m.memory.fetch m.pc = .ok 0x1200)
    : ∃ next report, m.cycle 1 = (next, .ok report) ∧ report.redraw = false := by
  have stepped : m.step = ({ m with opcode := 0x1200, pc := 0x200 }, .ok .nothing) :=
    Machine.step_of_ok fetched
  rw [Machine.cycle, Machine.batch_of_step ready stepped]
  exact ⟨_, _, rfl, rfl⟩

theorem fetch_drawn : drawn.memory.fetch drawn.pc = .ok 0x1200 := by
  refine (Memory.fetch_withProgram (i := 2) (by decide) (by decide)).trans ?_
  rfl

/-- The drawing program with its first frame. -/
def drawingDriver : Driver :=
  (start { speed := 1 } { stream := fun _ => 0 }).run
    [.act (.loadProgram #[0xD0, 0x01, 0x12, 0x00]), .tick 5]

/-- The first frame of the drawing program lights a pixel and displays the screen. The next tick
jumps and leaves the screen alone, so presenting after the reported redraw is enough for a run that
draws, holds a key and jumps.
-/
theorem no_change_lost_drawing
    : drawer.display.pixel 0 0 = false
      ∧ drawingDriver.machine.display.pixel 0 0 = true
      ∧ drawingDriver.machine.display.dirty = false
      ∧ (∃ screen,
          drawingDriver.lastShown? = some screen
          ∧ screen.pixels = drawingDriver.machine.display.pixels)
      ∧ (drawn.cycle 1).1.display = drawn.display
      ∧ drawer.shownAfter drawer.display.pixels [.cycle 1, .setKey 3 true, .cycle 1]
        = (drawer.run [.cycle 1, .setKey 3 true, .cycle 1]).1.display.pixels := by
  obtain ⟨upToDate, _, quiet, play⟩ :=
    no_change_lost { speed := 1 } { stream := fun _ => 0 }
  have framed
      : drawingDriver.machine = { drawn with display := drawn.display.presented } := by
    have loaded : ((Machine.powerOn { stream := fun _ => 0 }).act
        (.loadProgram #[0xD0, 0x01, 0x12, 0x00])).1 = drawer := rfl
    simp only [drawingDriver, start, run, handle, loaded, FrameClock.tick, FrameClock.dueSlot?,
      cycle_drawer]
  have clean : drawingDriver.machine.display.dirty = false := by
    rw [framed]
    rfl
  have lit : drawn.display.pixel 0 0 = true := by decide +kernel
  have untouched
      : .act .present ∉
          [DriverEvent.act (.loadProgram #[0xD0, 0x01, 0x12, 0x00]), .tick 5] := by
    simp
  have fresh : drawingDriver.UpToDate := upToDate _ untouched
  have plays
      : ∀ action ∈ [Action.cycle 1, .setKey 3 true, .cycle 1], action.IsPlay := by
    simp [Action.IsPlay.quiet, Action.IsQuiet.cycle, Action.IsQuiet.setKey]
  obtain ⟨jumped, report, jumps, silent⟩ := cycle_of_jump rfl fetch_drawn
  obtain ⟨last, _, again, _⟩ := cycle_of_jump (m := drawn.setKey 3 true) rfl fetch_drawn
  refine ⟨rfl, ?_, clean, fresh clean, ?_, play drawer _ plays ?_⟩
  · rw [framed]
    exact lit
  · exact (congrArg (·.1.display) jumps).trans (quiet drawn jumped 1 report jumps silent)
  · simp [Machine.run, Machine.act, cycle_drawer, again, Answer.fault?]

end Driver

end ChipEight
