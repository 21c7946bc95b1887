import ChipEight.Proofs.RandomStreams

/-! Randomness enters through random instructions only, by one byte each. The bytes are taken in
turn along a whole history, and what their masks hide never matters.
-/

namespace ChipEight

/-- The source after some more bytes were taken. -/
def RandomSource.skip (source : RandomSource) (count : Nat) : RandomSource :=
  { source with taken := source.taken + count }

theorem RandomSource.skip_next (source : RandomSource) (count : Nat)
    : source.next.2.skip count = source.skip (count + 1) := by
  simp only [skip, next, Nat.add_assoc, Nat.add_comm 1]

/-- The opcode is a random instruction. -/
def Execution.isDraw (execution : Execution) : Bool :=
  execution.opcode.family = 0xC

/-- A random instruction takes the next byte and puts it under its mask into its register; any
other opcode leaves the source alone.
-/
structure Execution.Draws (execution : Execution) : Prop where
  taken
    : execution.isDraw = true
      → execution.after.random = execution.before.random.next.2
        ∧ execution.after.registers
          = execution.before.registers.set execution.opcode.x
              (execution.before.random.next.1 &&& execution.opcode.kk)
  kept : execution.isDraw = false → execution.after.random = execution.before.random

/-- A random source goes through executions, from the first machine to the last one. -/
inductive Threads : RandomSource → List Execution → RandomSource → Prop
  | nil (source : RandomSource) : Threads source [] source
  | cons {execution : Execution} {rest : List Execution} {last : RandomSource}
    (draws : execution.Draws) (later : Threads execution.after.random rest last)
    : Threads execution.before.random (execution :: rest) last

namespace Threads

variable {source middle last : RandomSource} {log : List Execution}

theorem append {more : List Execution} (before : Threads source log middle)
    (after : Threads middle more last)
    : Threads source (log ++ more) last := by
  induction before with
  | nil => exact after
  | cons draws _ ih => exact .cons draws (ih after)

/-- What leaves the source alone and executes nothing keeps the thread. -/
theorem nil_of_eq (same : last = source) : Threads source [] last :=
  same ▸ .nil source

/-- Nothing but the random instructions takes bytes, and they take one each. -/
theorem eq_skip (thread : Threads source log last)
    : last = source.skip (log.filter Execution.isDraw).length := by
  induction thread with
  | nil => rfl
  | @cons execution _ _ draws _ ih =>
    cases drawn : execution.isDraw with
    | true =>
      rw [(draws.taken drawn).1, RandomSource.skip_next] at ih
      rw [List.filter_cons_of_pos drawn, List.length_cons]
      exact ih
    | false =>
      rw [draws.kept drawn] at ih
      rw [List.filter_cons_of_neg (by simp [drawn])]
      exact ih

/-- Each random instruction finds the source behind the bytes of those before it. -/
theorem getElem?_draws (thread : Threads source log last) {i : Nat} {execution : Execution}
    (found : (log.filter Execution.isDraw)[i]? = some execution)
    : execution.before.random = source.skip i ∧ execution.Draws := by
  induction thread generalizing i with
  | nil => cases found
  | @cons first _ _ draws _ ih =>
    cases drawn : first.isDraw with
    | true =>
      rw [List.filter_cons_of_pos drawn] at found
      cases i with
      | zero =>
        cases found
        exact ⟨rfl, draws⟩
      | succ i =>
        obtain ⟨place, also⟩ := ih found
        rw [(draws.taken drawn).1, RandomSource.skip_next] at place
        exact ⟨place, also⟩
    | false =>
      rw [List.filter_cons_of_neg (by simp [drawn])] at found
      rw [← draws.kept drawn]
      exact ih found

theorem draws (thread : Threads source log last) {execution : Execution}
    (member : execution ∈ log)
    : execution.Draws := by
  induction thread with
  | nil => cases member
  | cons draws _ ih =>
    rcases List.mem_cons.mp member with rfl | later
    · exact draws
    · exact ih later

end Threads

namespace Machine

-----------------------------------------------------------------------------------------
-- The source goes through every operation
-----------------------------------------------------------------------------------------

theorem draws_perform {m next : Machine} {opcode : Opcode} {request : Request}
    (performed : m.perform (.decode opcode) = (next, .ok request))
    : Execution.Draws { before := m, opcode, after := next } := by
  obtain ⟨done, executed, rfl, rfl⟩ := perform_eq_ok performed
  constructor
  · intro drawn
    have same := Except.ok.inj (executed.symm.trans (execute_of_random m (of_decide_eq_true drawn)))
    rw [same]
    exact ⟨rfl, rfl⟩
  · intro other
    exact random_execute executed (of_decide_eq_false other)

theorem draws_step {m next : Machine} {request : Request}
    (stepped : m.step = (next, .ok request))
    : Execution.Draws { before := m, opcode := next.opcode, after := next } := by
  have performed := stepped
  rw [step_of_ok (step_effect stepped).1] at performed
  obtain ⟨taken, kept⟩ := draws_perform performed
  exact ⟨taken, kept⟩

theorem random_step_of_error {m stopped : Machine} {fault : Fault}
    (failed : m.step = (stopped, .error fault))
    : stopped.random = m.random := by
  obtain ⟨_, same⟩ := step_error_withOpcode failed
  rw [same]

theorem threads_perform (m : Machine) (opcode : Opcode)
    : Threads m.random (m.performLog opcode) (m.perform (.decode opcode)).1.random := by
  rcases performed : m.perform (.decode opcode) with ⟨next, fault | request⟩
  · rw [performLog_of_error performed]
    have itself : SameControl m m := ⟨rfl, rfl, rfl, rfl⟩
    obtain ⟨same, _⟩ := itself.perform_of_error performed
    exact .nil_of_eq (congrArg random same)
  · rw [performLog_of_ok performed]
    exact .cons (draws_perform performed) (.nil _)

theorem threads_step (m : Machine) : Threads m.random m.stepLog m.step.1.random := by
  rcases stepped : m.step with ⟨next, fault | request⟩
  · rw [stepLog_of_failure stepped]
    exact .nil_of_eq (random_step_of_error stepped)
  · rw [stepLog_of_step stepped]
    exact .cons (draws_step stepped) (.nil _)

/-- The source goes through a batch, by induction on the steps that are left. -/
theorem threads_batch (m : Machine) (count : Nat) (drew : Bool)
    : Threads m.random (m.batchLog count) (m.batch count drew).1.random := by
  induction count generalizing m drew with
  | zero => exact .nil _
  | succ count ih =>
    cases paused : m.isPaused with
    | true =>
      rw [batchLog_of_paused paused, batch_of_paused paused]
      exact .nil _
    | false =>
      rcases stepped : m.step with ⟨next, fault | request⟩
      · rw [batchLog_of_failure stepped, batch_of_failure paused stepped]
        exact .nil_of_eq (random_step_of_error stepped)
      · rw [batchLog_of_step paused stepped, batch_of_step paused stepped]
        exact .cons (draws_step stepped) (ih next _)

theorem threads_cycle (m : Machine) (count : Nat)
    : Threads m.random (m.batchLog count) (m.cycle count).1.random := by
  have thread := m.threads_batch count false
  unfold cycle
  split
  · next ran => rwa [ran] at thread
  · next ran =>
    rw [ran] at thread
    obtain ⟨_, _, same⟩ := countDown_eq _
    rw [same]
    exact thread

/-- The source goes through every operation, by cases on the operation. -/
theorem threads_act (m : Machine) (action : Action)
    : Threads m.random (m.log action) (m.act action).1.random := by
  cases action with
  | step => exact m.threads_step
  | cycle count => exact m.threads_cycle count
  | perform opcode => exact m.threads_perform opcode
  | loadProgram data =>
    apply Threads.nil_of_eq
    rw [act, loadProgram_eq]
    split <;> rfl
  | loadRom rom =>
    apply Threads.nil_of_eq
    rw [act, loadRom_eq]
    split <;> rfl
  | pressKey key =>
    apply Threads.nil_of_eq
    obtain ⟨_, _, same⟩ := m.pressKey_eq key
    rw [act, same]
  | advance | loadGlyphs | reset | setKey | toggle | drawSprite | clear | present =>
    apply Threads.nil_of_eq
    simp only [act, Machine.advance, Machine.loadGlyphs, Machine.reset, Machine.setKey, withDisplay]

/-- The source goes through a whole history, by induction on the operations. -/
theorem threads_run (m : Machine) (actions : List Action)
    : Threads m.random (m.historyLog actions) (m.run actions).1.random := by
  induction actions generalizing m with
  | nil => exact .nil _
  | cons action rest ih => exact (m.threads_act action).append (ih _)

-----------------------------------------------------------------------------------------
-- The random instructions of a history
-----------------------------------------------------------------------------------------

/-- The random instructions that a history executes, in turn. -/
def draws (m : Machine) (actions : List Action) : List Execution :=
  (m.historyLog actions).filter Execution.isDraw

theorem randomMasks_opcodes (m : Machine) (actions : List Action)
    : randomMasks (opcodes (m.historyLog actions))
      = (m.draws actions).map (·.opcode.kk) := by
  rw [randomMasks, opcodes, List.filter_map, List.map_map]
  rfl

/-- Two machines answer every operation of a history the same and go through the same states:
after each operation, and between the opcodes that an operation executes. Only their random
sources may differ.
-/
structure SameRun (left right : Machine) (actions : List Action) : Prop where
  answers : (left.run actions).2 = (right.run actions).2
  states
    : ∀ {first later},
        actions = first ++ later → SameButRandom (left.run first).1 (right.run first).1
  executions
    : List.Forall₂ (AlikeExecution SameButRandom) (left.historyLog actions)
        (right.historyLog actions)

/-- Machines from which the same bits will be taken go through the same run. -/
theorem SameDraws.sameRun {left right : Machine} {actions : List Action}
    (h : SameDraws (opcodes (left.historyLog actions)) left right)
    : SameRun left right actions := by
  have whole : Tandem SameDraws [] _ _ _ _ := SameDraws.run (by rwa [List.append_nil])
  refine ⟨whole.alike.answer, ?_, ?_⟩
  · rintro first later rfl
    rw [historyLog_append, opcodes_append] at h
    exact h.run.alike.related.others
  · refine whole.logs.imp ?_
    rintro _ _ ⟨opcode, ⟨_, before⟩, ⟨_, after⟩⟩
    exact ⟨opcode, before.others, after.others⟩

/-- If the bytes agree under the mask of each random instruction, the same bits will be taken.
-/
theorem sameDraws_of_draws {left right : Machine} {actions : List Action}
    (others : SameButRandom left right)
    (bits
      : ∀ {i draw},
          (left.draws actions)[i]? = some draw
          → right.random.upcoming i &&& draw.opcode.kk
            = left.random.upcoming i &&& draw.opcode.kk)
    : SameDraws (opcodes (left.historyLog actions)) left right := by
  refine ⟨others, ?_⟩
  intro i mask masked
  rw [randomMasks_opcodes, List.getElem?_map] at masked
  obtain ⟨draw, found, rfl⟩ := Option.map_eq_some_iff.mp masked
  exact bits found

/-- Randomness comes in through the random instructions, a byte each: the one at place `i` of a
history takes the byte at place `i` and keeps the bits under its mask, and nothing else takes a
byte or gives one back. So a history is the same for all random sources that agree on these
bits, and for all of them if every mask is zero.
-/
theorem random_bytes_taken_in_turn (m : Machine) (actions : List Action)
    : (∀ i draw,
        (m.draws actions)[i]? = some draw
        → draw.before.random = m.random.skip i
          ∧ draw.after.random = m.random.skip (i + 1)
          ∧ draw.after.registers
            = draw.before.registers.set draw.opcode.x
                (m.random.upcoming i &&& draw.opcode.kk))
      ∧ (∀ execution ∈ m.historyLog actions,
          execution.isDraw = false → execution.after.random = execution.before.random)
      ∧ (m.run actions).1.random = m.random.skip (m.draws actions).length
      ∧ (∀ other,
          SameButRandom m other
          → (∀ i draw,
              (m.draws actions)[i]? = some draw
              → other.random.upcoming i &&& draw.opcode.kk
                = m.random.upcoming i &&& draw.opcode.kk)
          → SameRun m other actions)
      ∧ (∀ other,
          SameButRandom m other
          → (∀ draw ∈ m.draws actions, draw.opcode.kk = 0)
          → SameRun m other actions) := by
  have thread := m.threads_run actions
  refine ⟨?_, ?_, thread.eq_skip, ?_, ?_⟩
  · intro i draw found
    obtain ⟨place, draws⟩ := thread.getElem?_draws found
    obtain ⟨_, drawn⟩ := List.mem_filter.mp (List.mem_of_getElem? found)
    obtain ⟨taken, registers⟩ := draws.taken drawn
    rw [place] at taken registers
    exact ⟨place, taken, registers⟩
  · intro execution member
    exact (thread.draws member).kept
  · intro other others bits
    exact (sameDraws_of_draws others (bits _ _)).sameRun
  · intro other others zero
    refine (sameDraws_of_draws others ?_).sameRun
    intro i draw found
    rw [zero draw (List.mem_of_getElem? found), UInt8.and_zero, UInt8.and_zero]

/-- A machine with a program that takes the low digit of a random byte. -/
def roller (random : RandomSource) : Machine :=
  ((powerOn random).act (.loadProgram #[0xC0, 0x0F])).1

theorem step_reset_of_roll {m : Machine} (program : m.program = #[0xC0, 0x0F])
    : ∃ next,
        m.reset.step = (next, .ok .nothing)
        ∧ next.opcode = 0xC00F
        ∧ next.program = m.program := by
  have image : m.reset.memory = Memory.image m.program := rfl
  have fetched : m.reset.memory.fetch programStart = .ok 0xC00F := by
    rw [image, program]
    refine (Memory.fetch_withProgram (i := 0) (by decide) (by decide)).trans ?_
    rfl
  have family : Opcode.family 0xC00F = 0xC := by decide
  have executed := execute_of_random { m.reset with opcode := 0xC00F } family
  exact ⟨_, (step_of_ok fetched).trans (perform_of_ok executed), rfl, rfl⟩

/-- It takes one byte, and another one after a reset. -/
theorem draws_roller (random : RandomSource)
    : ((roller random).draws [.reset, .step, .reset, .step]).map (·.opcode)
      = [0xC00F, 0xC00F] := by
  obtain ⟨next, stepped, opcode, program⟩ := step_reset_of_roll (m := roller random) rfl
  obtain ⟨last, again, same, _⟩ := step_reset_of_roll (m := next) program
  have draw : Opcode.family 0xC00F = 0xC := by decide
  simp [draws, historyLog, log, act, stepped, stepLog_of_step stepped, stepLog_of_step again,
    opcode, same, Execution.isDraw, draw]

/-- Two sources that differ in the bits that are never taken make no difference. -/
theorem random_bytes_taken_in_turn_roller
    : let m := roller { stream := fun _ => 0x3A }
      let other := roller { stream := fun _ => 0xFA }
      (m.run [.reset, .step, .reset, .step]).1.random.taken = 2
      ∧ SameRun m other [.reset, .step, .reset, .step] := by
  intro m other
  have fresh : SameDraws [] (powerOn { stream := fun _ => 0x3A })
      (powerOn { stream := fun _ => 0xFA }) := ⟨rfl, nofun⟩
  have others : SameButRandom m other := (fresh.act_loadProgram _).related.others
  have taken := draws_roller { stream := fun _ => 0x3A }
  have two : (m.draws [.reset, .step, .reset, .step]).length = 2 := by
    rw [← List.length_map (·.opcode), taken]
    rfl
  obtain ⟨_, _, source, same, _⟩ :=
    random_bytes_taken_in_turn m [.reset, .step, .reset, .step]
  refine ⟨?_, same other others ?_⟩
  · rw [source, two]
    rfl
  · intro i draw found
    have opcode : draw.opcode ∈ [0xC00F, 0xC00F] := by
      rw [← taken]
      exact List.mem_map_of_mem (List.mem_of_getElem? found)
    have same : draw.opcode = 0xC00F := by simpa using opcode
    have digit : (0xFA : UInt8) &&& Opcode.kk 0xC00F = 0x3A &&& Opcode.kk 0xC00F := by decide
    rw [same]
    exact digit

end Machine

end ChipEight
