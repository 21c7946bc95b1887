import ChipEight.Proofs.Footprint
import ChipEight.Proofs.Lockstep

/-! How the timers run down. A tick takes one from both timers unless it ends while a prompt
waits, and only the opcodes `FX15` and `FX18` start a timer anew; so what is left of a timer is
told by its last start and the ticks since then, and so is how long the tone sounds.
-/

namespace ChipEight

/-- One of the two timers. -/
inductive TimerName where
  | delay
  | sound

namespace TimerName

/-- The timer in a machine. -/
def of (timer : TimerName) (m : Machine) : Timer :=
  match timer with
  | .delay => m.delay
  | .sound => m.sound

/-- The ticks that are left of the timer. -/
def left (timer : TimerName) (m : Machine) : Nat :=
  (timer.of m).value.toNat

/-- The operation that starts the timer. -/
def starter : TimerName → Misc
  | .delay => .setDelay
  | .sound => .setSound

/-- The opcode starts the timer from VX. -/
def IsStartedBy (timer : TimerName) (opcode : Opcode) : Prop :=
  opcode.IsMisc timer.starter.byte

instance (timer : TimerName) (opcode : Opcode) : Decidable (timer.IsStartedBy opcode) :=
  inferInstanceAs (Decidable (opcode.IsMisc timer.starter.byte))

end TimerName

/-- The report of a tick that succeeds. -/
def Answer.report? : Answer → Option Tick
  | .tick (.ok report) => some report
  | _ => none

namespace Machine

variable {m next : Machine} {count : Nat} {timer : TimerName}

-----------------------------------------------------------------------------------------
-- Steps and batches
-----------------------------------------------------------------------------------------

theorem left_congr (delay : next.delay = m.delay) (sound : next.sound = m.sound)
    : timer.left next = timer.left m := by
  cases timer with
  | delay => exact congrArg (·.value.toNat) delay
  | sound => exact congrArg (·.value.toNat) sound

theorem left_perform_start (timer : TimerName) (m : Machine) (x : Register)
    : timer.left (m.perform (.misc timer.starter x)).1 = (m.registers.get x).toNat := by
  cases timer <;> rfl

theorem left_step_of_start {request : Request} (stepped : m.step = (next, .ok request))
    (starts : timer.IsStartedBy next.opcode)
    : timer.left next = (m.registers.get next.opcode.x).toNat := by
  have decoded : Instruction.decode next.opcode = .misc timer.starter next.opcode.x :=
    Instruction.decode_eq_misc_iff.mpr ⟨starts, rfl⟩
  have started := left_perform_start timer { m with opcode := next.opcode } next.opcode.x
  rwa [← decoded, ← step_of_ok (step_effect stepped).1, stepped] at started

theorem left_step_of_not_start {request : Request} (stepped : m.step = (next, .ok request))
    (other : ¬timer.IsStartedBy next.opcode)
    : timer.left next = timer.left m := by
  obtain ⟨_, moved, effect, same⟩ := step_effect stepped
  apply Decidable.byContradiction
  intro changed
  rw [same] at changed
  cases timer with
  | delay => exact other (effect.delay_changed (mt (congrArg (·.value.toNat)) changed))
  | sound => exact other (effect.sound_changed (mt (congrArg (·.value.toNat)) changed))

/-- What is left of a timer after executed opcodes: the value of the last one that starts it, or
what was left before.
-/
def leftAfter (timer : TimerName) (before : Nat) : List Execution → Nat
  | [] => before
  | execution :: rest =>
    if timer.IsStartedBy execution.opcode then
      leftAfter timer (execution.before.registers.get execution.opcode.x).toNat rest
    else
      leftAfter timer before rest

/-- A batch starts timers, and nothing in it counts them down. By induction on the steps that are
left.
-/
theorem left_batch (timer : TimerName) (m : Machine) (count : Nat) (drew : Bool)
    : timer.left (m.batch count drew).1 = leftAfter timer (timer.left m) (m.batchLog count) := by
  induction count generalizing m drew with
  | zero => rfl
  | succ count ih =>
    cases paused : m.isPaused with
    | true =>
      rw [batch_of_paused paused, batchLog_of_paused paused]
      rfl
    | false =>
      rcases stepped : m.step with ⟨next, fault | request⟩
      · obtain ⟨_, same⟩ := step_error_withOpcode stepped
        rw [batch_of_failure paused stepped, batchLog_of_failure stepped, same]
        exact left_congr rfl rfl
      · rw [batch_of_step paused stepped, batchLog_of_step paused stepped, ih, leftAfter]
        split
        · next starts => rw [left_step_of_start stepped starts]
        · next other => rw [left_step_of_not_start stepped other]

theorem leftAfter_append (timer : TimerName) (before : Nat) (first second : List Execution)
    : leftAfter timer before (first ++ second)
      = leftAfter timer (leftAfter timer before first) second := by
  induction first generalizing before with
  | nil => rfl
  | cons execution rest ih =>
    rw [List.cons_append, leftAfter, leftAfter]
    split
    · exact ih _
    · exact ih _

theorem leftAfter_of_not_start {before : Nat} {log : List Execution}
    (others : ∀ opcode ∈ opcodes log, ¬timer.IsStartedBy opcode)
    : leftAfter timer before log = before := by
  induction log with
  | nil => rfl
  | cons execution rest ih =>
    obtain ⟨first, later⟩ := List.forall_mem_cons.mp others
    rw [leftAfter, if_neg first]
    exact ih later

-----------------------------------------------------------------------------------------
-- Ticks
-----------------------------------------------------------------------------------------

/-- A tick takes one from what its opcodes left of a timer, unless it ends with a prompt. -/
theorem left_cycle {report : Tick} (ran : m.cycle count = (next, .ok report))
    : timer.left next
      = if next.isPaused then
          leftAfter timer (timer.left m) (m.batchLog count)
        else
          leftAfter timer (timer.left m) (m.batchLog count) - 1 := by
  obtain ⟨last, batch, rfl, _⟩ := cycle_eq_ok ran
  have spent := left_batch timer m count false
  rw [batch] at spent
  rw [← spent]
  cases paused : last.isPaused with
  | true =>
    have waits : last.countDown = last := if_pos paused
    rw [waits, paused, if_pos rfl]
  | false =>
    have counted : last.countDown
        = { last with delay := last.delay.tick, sound := last.sound.tick } := by
      rw [countDown, paused]
      rfl
    have still : last.countDown.isPaused = false := by
      rw [counted]
      exact paused
    rw [still, if_neg Bool.false_ne_true, counted]
    cases timer with
    | delay => exact last.delay.toNat_value_tick
    | sound => exact last.sound.toNat_value_tick

/-- The last opcode of a tick that starts a timer starts it from a value. -/
inductive LastStarts (timer : TimerName) (m : Machine) (count : Nat) (value : UInt8) : Prop
  | start {earlier later : List Execution} {execution : Execution}
    (log : m.batchLog count = earlier ++ execution :: later)
    (starts : timer.IsStartedBy execution.opcode)
    (held : execution.before.registers.get execution.opcode.x = value)
    (others : ∀ opcode ∈ opcodes later, ¬timer.IsStartedBy opcode)

/-- A tick that starts a timer takes one from its new value, unless it ends with a prompt. -/
theorem LastStarts.left_cycle {value : UInt8} (starts : LastStarts timer m count value)
    {report : Tick} (ran : m.cycle count = (next, .ok report))
    : timer.left next = if next.isPaused then value.toNat else value.toNat - 1 := by
  obtain ⟨log, starts, rfl, others⟩ := starts
  rw [Machine.left_cycle ran, log, leftAfter_append, leftAfter, if_pos starts,
    leftAfter_of_not_start others]

-----------------------------------------------------------------------------------------
-- Runs
-----------------------------------------------------------------------------------------

/-- Ticks and key events in a row, of which all succeed. -/
structure Plays (m : Machine) (actions : List Action) : Prop where
  play : ∀ action ∈ actions, action.IsPlay
  succeed : ∀ answer ∈ (m.run actions).2, answer.fault? = none

theorem Plays.playing {actions : List Action} (plays : m.Plays actions)
    : m.Playing actions :=
  playing_of_succeed plays.play plays.succeed

/-- The reports of the ticks of a run, in turn. -/
def reports (m : Machine) (actions : List Action) : List Tick :=
  (m.run actions).2.filterMap Answer.report?

/-- The number of ticks of a run that end while no prompt waits. -/
def unpausedTicks (m : Machine) (actions : List Action) : Nat :=
  (m.reports actions).countP fun report => !report.waiting

theorem reports_of_cycle {report : Tick} (ran : m.cycle count = (next, .ok report))
    (rest : List Action)
    : m.reports (.cycle count :: rest) = report :: next.reports rest := by
  rw [reports, run, act, ran]
  rfl

theorem unpausedTicks_of_cycle {report : Tick} (ran : m.cycle count = (next, .ok report))
    (rest : List Action)
    : m.unpausedTicks (.cycle count :: rest)
      = next.unpausedTicks rest + if next.isPaused then 0 else 1 := by
  rw [unpausedTicks, reports_of_cycle ran, List.countP_cons, waiting_of_cycle ran]
  cases next.isPaused <;> rfl

theorem tone_eq_left {report : Tick} (ran : m.cycle count = (next, .ok report))
    : report.tone = decide (0 < TimerName.sound.left next) := by
  rw [tone_cycle ran]
  exact decide_eq_decide.mpr UInt8.lt_iff_toNat_lt

/-- A tick that does not start a timer takes one from it, unless it ends with a prompt. -/
theorem left_cycle_of_not_start {report : Tick} (ran : m.cycle count = (next, .ok report))
    (others : ∀ opcode ∈ opcodes (m.batchLog count), ¬timer.IsStartedBy opcode)
    : timer.left next = timer.left m - if next.isPaused then 0 else 1 := by
  rw [left_cycle ran, leftAfter_of_not_start others]
  cases next.isPaused <;> rfl

/-- A run that does not start a timer takes one from it with each tick that ends while no prompt
waits. By induction on the operations.
-/
theorem left_run {actions : List Action} (plays : m.Plays actions)
    (others : ∀ opcode ∈ opcodes (m.historyLog actions), ¬timer.IsStartedBy opcode)
    : timer.left (m.run actions).1 = timer.left m - m.unpausedTicks actions := by
  have playing := plays.playing
  clear plays
  induction playing with
  | done => rfl
  | @tick m next count report rest ran later ih =>
    rw [historyLog, opcodes_append, List.forall_mem_append, act, ran] at others
    have first := left_cycle_of_not_start ran others.1
    have last := ih others.2
    rw [unpausedTicks_of_cycle ran, run, act, ran]
    show timer.left (next.run rest).1 = _
    omega
  | key same later ih =>
    rw [historyLog, opcodes_append, List.forall_mem_append, same] at others
    rw [unpausedTicks, reports, run, same]
    exact ih others.2

/-- While no tick ends with a prompt and none starts the sound timer, the tone sounds until the
timer has run down. By induction on the operations.
-/
theorem tone_run {actions : List Action} (plays : m.Plays actions)
    (others : ∀ opcode ∈ opcodes (m.historyLog actions), ¬TimerName.sound.IsStartedBy opcode)
    (awake : ∀ report ∈ m.reports actions, report.waiting = false) {i : Nat} {report : Tick}
    (shown : (m.reports actions)[i]? = some report)
    : report.tone = decide (i + 1 < TimerName.sound.left m) := by
  have playing := plays.playing
  clear plays
  induction playing generalizing i with
  | done => cases shown
  | @tick m next count first rest ran later ih =>
    rw [historyLog, opcodes_append, List.forall_mem_append, act, ran] at others
    rw [reports_of_cycle ran] at awake shown
    obtain ⟨runs, awake⟩ := List.forall_mem_cons.mp awake
    rw [waiting_of_cycle ran] at runs
    have counted := left_cycle_of_not_start ran others.1
    rw [runs, if_neg Bool.false_ne_true] at counted
    cases i with
    | zero =>
      cases shown
      rw [tone_eq_left ran, counted]
      exact decide_eq_decide.mpr (by omega)
    | succ i =>
      rw [ih others.2 awake shown, counted]
      exact decide_eq_decide.mpr (by omega)
  | key same later ih =>
    rw [historyLog, opcodes_append, List.forall_mem_append, same] at others
    rw [reports, run, same] at awake shown
    exact ih others.2 awake shown

/-- In a run without a prompt, a tick that starts the sound timer last from a value, and the
ticks that follow it without another start, report the tone as often as that value less one.
-/
theorem LastStarts.tone_run {value : UInt8} (starts : LastStarts .sound m count value)
    {first : Tick} (ran : m.cycle count = (next, .ok first)) (runs : first.waiting = false)
    {actions : List Action} (plays : next.Plays actions)
    (others : ∀ opcode ∈ opcodes (next.historyLog actions), ¬TimerName.sound.IsStartedBy opcode)
    (awake : ∀ report ∈ next.reports actions, report.waiting = false) {i : Nat} {report : Tick}
    (shown : (first :: next.reports actions)[i]? = some report)
    : report.tone = decide (i < value.toNat - 1) := by
  have left := starts.left_cycle ran
  rw [← waiting_of_cycle ran, runs, if_neg Bool.false_ne_true] at left
  cases i with
  | zero =>
    cases shown
    rw [tone_eq_left ran, left]
  | succ i => rw [Machine.tone_run plays others awake shown, left]

/-- What is left of the timers is told by their starts and the ticks. A run of ticks and key
events that starts a timer nowhere takes one from it with each tick that ends while no prompt
waits. A tick that starts one leaves the value it was started from last, less one unless a prompt
waits at the end. The tone is reported while the sound timer is above zero, so that it sounds for
as many ticks in a row as the value less one, if no prompt stops the timer.
-/
theorem timers_run_down (m : Machine)
    : (∀ (timer : TimerName) actions,
          m.Plays actions
          → (∀ opcode ∈ opcodes (m.historyLog actions), ¬timer.IsStartedBy opcode)
          → timer.left (m.run actions).1 = timer.left m - m.unpausedTicks actions)
      ∧ ∀ count next first,
          m.cycle count = (next, .ok first)
          → first.tone = decide (0 < TimerName.sound.left next)
            ∧ first.waiting = next.isPaused
            ∧ (∀ (timer : TimerName) value,
                LastStarts timer m count value
                → timer.left next
                  = if next.isPaused then value.toNat else value.toNat - 1)
            ∧ ∀ value actions,
                LastStarts .sound m count value
                → first.waiting = false
                → next.Plays actions
                → (∀ opcode ∈ opcodes (next.historyLog actions),
                    ¬TimerName.sound.IsStartedBy opcode)
                → (∀ report ∈ next.reports actions, report.waiting = false)
                → ∀ (i : Nat) (report : Tick),
                    (first :: next.reports actions)[i]? = some report
                    → report.tone = decide (i < value.toNat - 1) := by
  refine ⟨fun timer actions plays others => left_run plays others, ?_⟩
  intro count next first ran
  refine ⟨tone_eq_left ran, waiting_of_cycle ran, ?_, ?_⟩
  · intro timer value starts
    exact starts.left_cycle ran
  · intro value actions starts runs plays others awake i report shown
    exact starts.tone_run ran runs plays others awake shown

/-- A program that sets V0 to three and starts the sound timer from it. -/
def beeper : Machine :=
  ((powerOn { stream := fun _ => 0 }).act
    (.loadProgram #[0x60, 0x03, 0xF0, 0x18])).1

/-- The beeper after its two steps, with some ticks left. -/
def beeping (left : UInt8) : Machine :=
  { beeper with
    opcode := 0xF018
    registers := beeper.registers.set 0x0 0x03
    pc := 0x204
    sound := { value := left } }

/-- A tick of two steps starts the timer and takes one from it. -/
theorem cycle_beeper
    : LastStarts .sound beeper 2 3
      ∧ beeper.cycle 2
        = (beeping 2, .ok { tone := true, redraw := false, waiting := false }) := by
  have first : beeper.memory.fetch 0x200 = .ok 0x6003 := by
    refine (Memory.fetch_withProgram (i := 0) (by decide) (by decide)).trans ?_
    rfl
  have second : beeper.memory.fetch 0x202 = .ok 0xF018 := by
    refine (Memory.fetch_withProgram (i := 2) (by decide) (by decide)).trans ?_
    rfl
  let set : Machine :=
    { beeper with
      opcode := 0x6003
      registers := beeper.registers.set 0x0 0x03
      pc := 0x202 }
  have stepped : beeper.step = (set, .ok .nothing) := step_of_ok (m := beeper) first
  have started : set.step = (beeping 3, .ok .nothing) := step_of_ok (m := set) second
  constructor
  · have log : beeper.batchLog 2
        = beeper.stepLog ++ { before := set, opcode := 0xF018, after := beeping 3 } :: [] := by
      rw [batchLog_of_step rfl stepped, batchLog_of_step rfl started, stepLog_of_step stepped]
      rfl
    have starts : TimerName.sound.IsStartedBy 0xF018 := ⟨rfl, rfl⟩
    have held : (beeper.registers.set 0x0 0x03).get (0xF018 : Opcode).x = 0x03 := rfl
    exact .start log starts held nofun
  · rw [cycle, batch_of_step rfl stepped, batch_of_step rfl started]
    rfl

/-- Started from three, the tone sounds in the tick that starts it and in the next one. -/
theorem timers_run_down_beeper
    : let rest := [.cycle 0, .setKey 3 true, .cycle 0]
      LastStarts .sound beeper 2 3
      ∧ TimerName.sound.left (beeping 2) = 2
      ∧ TimerName.sound.left ((beeping 2).run rest).1 = 0
      ∧ ((beeping 2).reports rest).map (·.tone) = [true, false] := by
  intro rest
  obtain ⟨starts, ran⟩ := cycle_beeper
  obtain ⟨_, _, started, sounds⟩ := (timers_run_down beeper).2 2 _ _ ran
  have shown : (beeping 2).reports rest
      = [{ tone := true, redraw := false, waiting := false },
          { tone := false, redraw := false, waiting := false }] :=
    rfl
  have plays : (beeping 2).Plays rest := by
    constructor
    · simp [rest, Action.IsPlay.quiet, Action.IsQuiet.cycle, Action.IsQuiet.setKey]
    · simp [rest, Machine.run, Machine.act, cycle, batch, Answer.fault?]
  have awake : ∀ report ∈ (beeping 2).reports rest, report.waiting = false := by
    simp [shown]
  have others : ∀ opcode ∈ opcodes ((beeping 2).historyLog rest),
      ¬TimerName.sound.IsStartedBy opcode :=
    List.forall_mem_nil _
  have tones := sounds 3 rest starts rfl plays others awake
  rw [shown] at tones ⊢
  refine ⟨starts, started .sound 3 starts, ?_, ?_⟩
  · exact (timers_run_down (beeping 2)).1 .sound rest plays others
  · rw [List.map_cons, List.map_singleton, tones 1 _ rfl, tones 2 _ rfl]
    rfl

end Machine

end ChipEight
