import ChipEight.Proofs.Bounds
import ChipEight.Proofs.RandomStreams

/-! A reset undoes every history: what is left is a machine that was just switched on, with
what was loaded last. Nothing but a load that succeeds touches the kept program and its name.
-/

namespace ChipEight

-----------------------------------------------------------------------------------------
-- What a history loaded
-----------------------------------------------------------------------------------------

/-- The program that an operation loaded, judged by its answer. -/
def Action.program? : Action → Answer → Option (Array UInt8)
  | .loadProgram data, .load (.ok ()) => some data
  | .loadRom rom, .load (.ok ()) => some rom.data
  | _, _ => none

/-- The name that an operation loaded, judged by its answer. -/
def Action.name? : Action → Answer → Option String
  | .loadRom rom, .load (.ok ()) => some rom.name
  | _, _ => none

/-- The programs that were loaded by operations with these answers, in turn. -/
def loadedPrograms (record : List (Action × Answer)) : List (Array UInt8) :=
  record.filterMap fun entry => entry.1.program? entry.2

/-- The names that were loaded by operations with these answers, in turn. -/
def loadedNames (record : List (Action × Answer)) : List String :=
  record.filterMap fun entry => entry.1.name? entry.2

/-- The last program and the last name that were loaded. They may stem from two different
loads, because a program can be loaded without a name.
-/
def lastLoaded (record : List (Action × Answer)) : Rom where
  name := (loadedNames record).getLast?.getD ""
  data := (loadedPrograms record).getLast?.getD #[]

namespace Machine

/-- The operations of a history with their answers. -/
def record (m : Machine) (history : List Action) : List (Action × Answer) :=
  history.zip (m.run history).2

/-- The kept program with its name. -/
def loaded (m : Machine) : Rom where
  name := m.name
  data := m.program

-----------------------------------------------------------------------------------------
-- Loads
-----------------------------------------------------------------------------------------

/-- A program that is too long is refused, and the machine stays as it is. -/
theorem act_loadProgram_of_lt (m : Machine) {data : Array UInt8}
    (long : programCapacity < data.size)
    : m.act (.loadProgram data) = (m, .load (.error (.tooLarge data.size programCapacity))) := by
  simp only [act, loadProgram_eq, if_neg (Nat.not_le.mpr long), afterLoad]

/-- A named program that is too long is refused as well, and the name stays, too. -/
theorem act_loadRom_of_lt (m : Machine) {rom : Rom} (long : programCapacity < rom.data.size)
    : m.act (.loadRom rom)
      = (m, .load (.error (.tooLarge rom.data.size programCapacity))) := by
  simp only [act, loadRom_eq, if_neg (Nat.not_le.mpr long), afterLoad]

theorem act_loadProgram_of_le (m : Machine) {data : Array UInt8}
    (fits : data.size ≤ programCapacity)
    : m.act (.loadProgram data)
      = ({ m with memory := m.memory.withProgram data, program := data }, .load (.ok ())) := by
  simp only [act, loadProgram_eq, if_pos fits, afterLoad]

theorem act_loadRom_of_le (m : Machine) {rom : Rom} (fits : rom.data.size ≤ programCapacity)
    : m.act (.loadRom rom)
      = ({ m with
            name := rom.name
            memory := m.memory.withProgram rom.data
            program := rom.data },
          .load (.ok ())) := by
  simp only [act, loadRom_eq, if_pos fits, afterLoad]

-----------------------------------------------------------------------------------------
-- What every other operation keeps
-----------------------------------------------------------------------------------------

/-- Performing an instruction keeps what was loaded, whether it is refused or not. -/
theorem loaded_perform (m : Machine) (instruction : Instruction)
    : (m.perform instruction).1.loaded = m.loaded := by
  cases executed : m.execute instruction with
  | error e => rw [perform_of_error executed]
  | ok done =>
    obtain ⟨_, _, name, program⟩ := execute_sameProgram executed
    rw [perform_of_ok executed]
    simp only [loaded, advance, name, program]

theorem loaded_step (m : Machine) : m.step.1.loaded = m.loaded := by
  cases fetched : m.memory.fetch m.pc with
  | error e => rw [step_of_error fetched]
  | ok opcode =>
    rw [step_of_ok fetched]
    exact loaded_perform { m with opcode } (.decode opcode)

theorem loaded_countDown (m : Machine) : m.countDown.loaded = m.loaded := by
  obtain ⟨_, _, same⟩ := m.countDown_eq
  rw [same]
  rfl

theorem loaded_cycle (m : Machine) (count : Nat) : (m.cycle count).1.loaded = m.loaded := by
  apply @cycle_preserves (fun later => later.loaded = m.loaded)
  · intro later kept
    rw [loaded_step, kept]
  · intro later kept
    rw [loaded_countDown, kept]
  · rfl

/-- An operation loads the program and the name that its answer tells, by cases on the
operation; every other one keeps both.
-/
theorem loaded_act (m : Machine) (action : Action)
    : (m.act action).1.loaded
      = { name := (action.name? (m.act action).2).getD m.name
          data := (action.program? (m.act action).2).getD m.program } := by
  cases action with
  | loadProgram data =>
    by_cases fits : data.size ≤ programCapacity
    · rw [act_loadProgram_of_le m fits]
      rfl
    · rw [act_loadProgram_of_lt m (Nat.not_le.mp fits)]
      rfl
  | loadRom rom =>
    by_cases fits : rom.data.size ≤ programCapacity
    · rw [act_loadRom_of_le m fits]
      rfl
    · rw [act_loadRom_of_lt m (Nat.not_le.mp fits)]
      rfl
  | step => exact m.loaded_step
  | cycle count => exact m.loaded_cycle count
  | perform opcode => exact m.loaded_perform (.decode opcode)
  | pressKey key =>
    obtain ⟨_, _, same⟩ := m.pressKey_eq key
    simp only [act, same]
    rfl
  | advance | loadGlyphs | reset | setKey | toggle | drawSprite | clear | present =>
    simp [act, loaded, Action.name?, Action.program?, withDisplay, Machine.advance,
      Machine.loadGlyphs, Machine.reset, Machine.setKey]

-----------------------------------------------------------------------------------------
-- Histories
-----------------------------------------------------------------------------------------

/-- The last value that a list yields is the one of its tail, or else the one of its head. -/
theorem getLast?_filterMap_cons {α β : Type} (value? : α → Option β) (head : α)
    (tail : List α) (initial : β)
    : ((head :: tail).filterMap value?).getLast?.getD initial
      = (tail.filterMap value?).getLast?.getD ((value? head).getD initial) := by
  cases value : value? head with
  | none => rw [List.filterMap_cons_none value, Option.getD_none]
  | some _ =>
    rw [List.filterMap_cons_some value, List.getLast?_cons, Option.getD_some, Option.getD_some]

/-- A machine keeps what its history loaded last, by induction on the history. -/
theorem loaded_run (m : Machine) (history : List Action)
    : (m.run history).1.loaded
      = { name := (loadedNames (m.record history)).getLast?.getD m.name
          data := (loadedPrograms (m.record history)).getLast?.getD m.program } := by
  induction history generalizing m with
  | nil => rfl
  | cons action rest ih =>
    have first := m.loaded_act action
    have opened : m.record (action :: rest)
        = (action, (m.act action).2) :: (m.act action).1.record rest := rfl
    simp only [loaded, Rom.mk.injEq] at first
    -- What the first operation loaded is what the rest of the history starts with.
    simp only [opened, loadedNames, loadedPrograms, getLast?_filterMap_cons, ← first.1,
      ← first.2]
    exact ih (m.act action).1

/-- A reset leaves behind what power-on and loading the kept program would have made, but for
the random source.
-/
theorem start_loaded (m : Machine) (fits : m.program.size ≤ programCapacity)
    (random : RandomSource)
    : start m.loaded random = .ok { m.reset with random } := by
  rw [start, loadRom_eq, loaded, if_pos fits]
  rfl

/-- After every history a program that is too long is refused without a trace, and a reset
leaves behind what power-on and loading the last program under the last name would have made,
but for the random source. If the same bytes are to come from both sources, every later
history has the same answers on both machines.
Witness: the kept program is the last that was loaded, by induction on the history, and
machines on the same course act alike.
-/
theorem reset_restores_powerOn (initial : RandomSource) (history : List Action)
    : let m := ((powerOn initial).run history).1
      let rom := lastLoaded ((powerOn initial).record history)
      (∀ long : Rom, programCapacity < long.data.size →
          m.act (.loadProgram long.data)
            = (m, .load (.error (.tooLarge long.data.size 3584)))
          ∧ m.act (.loadRom long) = (m, .load (.error (.tooLarge long.data.size 3584))))
      ∧ (∀ random, start rom random = .ok { m.reset with random })
      ∧ m.reset.random = m.random
      ∧ m.reset.display.dirty = true
      ∧ ∀ random fresh,
          start rom random = .ok fresh
          → random.upcoming = m.random.upcoming
          → ∀ later, Alike SameCourse (m.reset.run later) (fresh.run later) := by
  intro m rom
  have kept : m.loaded = rom := loaded_run (powerOn initial) history
  have reachable : m.Reachable := (Reachable.powerOn initial).run history
  have fits : m.program.size ≤ programCapacity := reachable.bounded.program
  have restored (random : RandomSource) : start rom random = .ok { m.reset with random } := by
    rw [← kept]
    exact m.start_loaded fits random
  refine ⟨?_, restored, rfl, rfl, ?_⟩
  · intro long tooLong
    exact ⟨m.act_loadProgram_of_lt tooLong, m.act_loadRom_of_lt tooLong⟩
  · intro random fresh started same later
    rw [restored] at started
    cases started
    have course : SameCourse m.reset { m.reset with random } := ⟨same, rfl⟩
    exact course.run later

/-- A program that is one byte too long. -/
def oversized : Rom where
  name := "oversized"
  data := Array.replicate 3585 0

/-- A history that loads a named program, overwrites a glyph, loads a shorter program without
a name and then fails to load one that is too long.
-/
def reloadHistory : List Action :=
  [ .loadRom { name := "first", data := #[0x00, 0xE0, 0x12, 0x00] },
    .perform 0xF055,
    .loadProgram #[0x12, 0x00],
    .loadRom oversized ]

/-- A program that jumps to itself, under the name of the one that was loaded before it. -/
def renamedLoop : Rom where
  name := "first"
  data := #[0x12, 0x00]

theorem act_loadRom_oversized (m : Machine)
    : m.act (.loadRom oversized) = (m, .load (.error (.tooLarge 3585 programCapacity))) := by
  have size : oversized.data.size = 3585 := Array.size_replicate
  have long : programCapacity < oversized.data.size := by rw [size]; decide
  rw [act_loadRom_of_lt m long, size]

/-- After that history a reset leaves behind the machine that starts with the shorter program
under the first name, and both answer alike from then on.
-/
theorem reset_restores_powerOn_reloaded
    : let m := ((powerOn { stream := fun _ => 0 }).run reloadHistory).1
      ∃ fresh,
        start renamedLoop { stream := fun _ => 0 } = .ok fresh
        ∧ ∀ later, (m.reset.run later).2 = (fresh.run later).2 := by
  intro m
  obtain ⟨_, restored, _, _, alike⟩ :=
    reset_restores_powerOn { stream := fun _ => 0 } reloadHistory
  have last : lastLoaded ((powerOn { stream := fun _ => 0 }).record reloadHistory)
      = renamedLoop := by
    simp only [reloadHistory, record, run, act_loadRom_oversized]
    rfl
  have untouched : m.random = { stream := fun _ => 0 } := by
    simp only [m, reloadHistory, run, act_loadRom_oversized]
    rfl
  rw [last] at restored alike
  refine ⟨_, restored _, fun later => ?_⟩
  exact (alike _ _ (restored _) (congrArg _ untouched.symm) later).answer

end Machine

end ChipEight
