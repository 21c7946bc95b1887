import ChipEight.Proofs.History

/-! Batches and ticks are steps in a row: what every step keeps, they keep. -/

namespace ChipEight.Machine

-----------------------------------------------------------------------------------------
-- The opcodes of a batch
-----------------------------------------------------------------------------------------

/-- The opcodes that a batch executes, in turn. -/
def executed (m : Machine) (count : Nat) : List Opcode :=
  match count with
  | 0 => []
  | count + 1 =>
    if m.isPaused then
      []
    else
      match m.step with
      | (_, .error _) => []
      | (next, .ok _) => next.opcode :: next.executed count

/-- A machine that waits executes nothing. -/
theorem executed_of_paused {m : Machine} (paused : m.isPaused = true) (count : Nat)
    : m.executed count = [] := by
  cases count with
  | zero => rfl
  | succ count => rw [executed, if_pos paused]

theorem batch_of_paused {m : Machine} (paused : m.isPaused = true) (count : Nat) (drew : Bool)
    : m.batch count drew = (m, .ok drew) := by
  cases count with
  | zero => rfl
  | succ count => rw [batch, if_pos paused]

/-- A tick of a machine that waits changes nothing, and only tells what it finds. -/
theorem cycle_of_paused {m : Machine} (paused : m.isPaused = true) (count : Nat)
    : m.cycle count
      = (m, .ok { tone := decide (0 < m.sound.value), redraw := false, waiting := true }) := by
  have waits : m.countDown = m := if_pos paused
  simp only [cycle, batch_of_paused paused, waits, toneActive, Timer.isActive_eq, paused]

theorem executed_of_step {m next : Machine} {request : Request}
    (unpaused : m.isPaused = false) (stepped : m.step = (next, .ok request)) (count : Nat)
    : m.executed (count + 1) = next.opcode :: next.executed count := by
  rw [executed, unpaused, stepped]
  rfl

theorem batch_of_step {m next : Machine} {request : Request}
    (unpaused : m.isPaused = false) (stepped : m.step = (next, .ok request)) (count : Nat)
    (drew : Bool)
    : m.batch (count + 1) drew = next.batch count (drew || request == .redraw) := by
  rw [batch, unpaused, stepped]
  rfl

theorem executed_of_failure {m stopped : Machine} {fault : Fault}
    (failed : m.step = (stopped, .error fault)) (count : Nat)
    : m.executed count = [] := by
  cases count with
  | zero => rfl
  | succ count =>
    rw [executed, failed]
    exact ite_self _

theorem batch_of_failure {m stopped : Machine} {fault : Fault}
    (unpaused : m.isPaused = false) (failed : m.step = (stopped, .error fault)) (count : Nat)
    (drew : Bool)
    : m.batch (count + 1) drew = (stopped, .error fault) := by
  rw [batch, unpaused, failed]
  rfl

theorem cycle_of_failure {m stopped : Machine} {count : Nat} {fault : Fault}
    (failed : m.batch count false = (stopped, .error fault))
    : m.cycle count = (stopped, .error fault) := by
  rw [cycle, failed]

theorem cycle_of_batch {m ran : Machine} {count : Nat} {redraw : Bool}
    (done : m.batch count false = (ran, .ok redraw))
    : m.cycle count
      = (ran.countDown,
          .ok { tone := ran.countDown.toneActive, redraw, waiting := ran.countDown.isPaused }) := by
  rw [cycle, done]

/-- What a successful tick reports, read off the batch and the countdown. -/
theorem cycle_eq_ok {m next : Machine} {count : Nat} {report : Tick}
    (ran : m.cycle count = (next, .ok report))
    : ∃ last,
        m.batch count false = (last, .ok report.redraw)
        ∧ next = last.countDown
        ∧ report.tone = decide (0 < next.sound.value) := by
  unfold cycle at ran
  split at ran
  · cases ran
  · next last redraw batch =>
    cases ran
    exact ⟨last, batch, rfl, Timer.isActive_eq _⟩

theorem tone_cycle {m next : Machine} {count : Nat} {report : Tick}
    (ran : m.cycle count = (next, .ok report))
    : report.tone = decide (0 < next.sound.value) := by
  obtain ⟨_, _, _, tone⟩ := cycle_eq_ok ran
  exact tone

/-- A tick that succeeds tells whether a prompt waits. -/
theorem waiting_of_cycle {m next : Machine} {count : Nat} {report : Tick}
    (ticked : m.cycle count = (next, .ok report))
    : report.waiting = next.isPaused := by
  rcases ran : m.batch count false with ⟨last, fault | redraw⟩
  · rw [cycle_of_failure ran] at ticked
    cases ticked
  · rw [cycle_of_batch ran] at ticked
    cases ticked
    rfl

-----------------------------------------------------------------------------------------
-- Ticks and key events in turn
-----------------------------------------------------------------------------------------

/-- A run of ticks that succeed and of key events, which touch nothing but the registers and the
keypad.
-/
inductive Playing : Machine → List Action → Prop
  | done (m : Machine) : Playing m []
  | tick {m next : Machine} {count : Nat} {report : Tick} {rest : List Action}
    (ran : m.cycle count = (next, .ok report)) (later : Playing next rest)
    : Playing m (.cycle count :: rest)
  | key {m : Machine} {action : Action} {registers : Registers}
    {keypad : Keypad Register} {rest : List Action}
    (same : m.act action = ({ m with registers, keypad }, .nothing))
    (later : Playing { m with registers, keypad } rest)
    : Playing m (action :: rest)

theorem playing_of_succeed {m : Machine} {actions : List Action}
    (play : ∀ action ∈ actions, action.IsPlay)
    (succeed : ∀ answer ∈ (m.run actions).2, answer.fault? = none)
    : Playing m actions := by
  induction actions generalizing m with
  | nil => exact .done m
  | cons action rest ih =>
    obtain ⟨play, others⟩ := List.forall_mem_cons.mp play
    obtain ⟨succeeds, later⟩ := List.forall_mem_cons.mp succeed
    have playing := ih others later
    cases play with
    | pressKey key =>
      obtain ⟨registers, keypad, pressed⟩ := m.pressKey_eq key
      have same : m.act (.pressKey key) = ({ m with registers, keypad }, .nothing) :=
        congrArg (·, Answer.nothing) pressed
      rw [same] at playing
      exact .key same playing
    | quiet quiet =>
      cases quiet with
      | setKey key down => exact .key rfl playing
      | cycle count =>
        rcases ran : m.cycle count with ⟨next, fault | report⟩
        · rw [act, ran] at succeeds
          cases succeeds
        · rw [act, ran] at playing
          exact .tick ran playing

-----------------------------------------------------------------------------------------
-- What every step keeps
-----------------------------------------------------------------------------------------

/-- A batch keeps what every step keeps, by induction on the steps that are left. -/
theorem batch_preserves {P : Machine → Prop} (step : ∀ {m}, P m → P m.step.1) {m : Machine}
    (h : P m) (count : Nat) (drew : Bool)
    : P (m.batch count drew).1 := by
  induction count generalizing m drew with
  | zero => exact h
  | succ count ih =>
    unfold batch
    split
    · exact h
    · have kept := step h
      split
      · next stepped => rwa [stepped] at kept
      · next stepped =>
        rw [stepped] at kept
        exact ih kept _

/-- A tick keeps what every step and the countdown keep. -/
theorem cycle_preserves {P : Machine → Prop} (step : ∀ {m}, P m → P m.step.1)
    (countDown : ∀ {m}, P m → P m.countDown) {m : Machine} (h : P m) (count : Nat)
    : P (m.cycle count).1 := by
  have kept := batch_preserves step h count false
  unfold cycle
  split
  · next ran => rwa [ran] at kept
  · next ran =>
    rw [ran] at kept
    exact countDown kept

/-- Two operations leave related machines behind and answer the same. -/
structure Alike (R : Machine → Machine → Prop) {α : Type} (left right : Machine × α)
    : Prop where
  related : R left.1 right.1
  answer : left.2 = right.2

end ChipEight.Machine
