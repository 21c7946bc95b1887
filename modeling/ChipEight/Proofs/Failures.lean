import ChipEight.Proofs.Bounds

/-! How the machine fails. A step fails in exactly three ways, none of which changes more than
the last fetched opcode, and a machine that failed stays where it is however often it is
asked to go on.
-/

namespace ChipEight.Machine

-----------------------------------------------------------------------------------------
-- The three ways to fail
-----------------------------------------------------------------------------------------

/-- A step of the machine fails and leaves it in a state with a fault. -/
inductive StepFailure (m : Machine) : Machine → Fault → Prop
  /-- The opcode would reach behind the end of memory. -/
  | outOfMemory (atEnd : m.pc = 0xFFF)
    : StepFailure m m (.opcode (.outOfMemory 0xFFF 4096))
  /-- A return outside of any call. -/
  | underflow (fetched : m.memory.fetch m.pc = .ok 0x00EE) (empty : m.stack.isEmpty = true)
    : StepFailure m { m with opcode := 0x00EE } (.stack .underflow)
  /-- A call at the full depth. -/
  | overflow {opcode : Opcode} (fetched : m.memory.fetch m.pc = .ok opcode)
    (call : opcode.family = 0x2) (full : m.stack.depth = 16)
    : StepFailure m { m with opcode } (.stack .overflow)

/-- Within the bounds, a step fails exactly in the three ways. Witness: a fetch only fails at
the last cell, and a fetched instruction is only refused if it is a return or a call.
-/
theorem step_eq_error_iff {m stopped : Machine} {fault : Fault} (bounded : m.Bounded)
    : m.step = (stopped, .error fault) ↔ StepFailure m stopped fault := by
  have inside := bounded.pc
  constructor
  · intro failed
    cases fetched : m.memory.fetch m.pc with
    | error e =>
      -- The counter stays inside of memory, so only the second byte can be missing.
      have atEnd : m.pc = 0xFFF := by
        by_cases room : m.pc + 1 < memorySize
        · rw [Memory.fetch_of_lt room] at fetched
          cases fetched
        · simp only [memorySize] at inside room
          omega
      rw [step_of_error fetched] at failed
      rw [Memory.fetch_of_le (by simp [atEnd]), atEnd] at fetched
      cases fetched
      cases failed
      exact .outOfMemory atEnd
    | ok opcode =>
      rw [step_of_ok fetched] at failed
      cases executed : ({ m with opcode }).execute (.decode opcode) with
      | ok done =>
        rw [perform_of_ok executed] at failed
        cases failed
      | error e =>
        rw [perform_of_error executed] at failed
        cases failed
        rcases execute_eq_error_iff.mp executed with
          ⟨ret, empty, rfl⟩ | ⟨⟨nnn, call⟩, full, rfl⟩
        · cases Instruction.decode_eq_ret_iff.mp ret
          exact .underflow fetched empty
        · have depth : m.stack.depth ≤ 16 := bounded.depth
          exact .overflow fetched (Instruction.decode_eq_call_iff.mp call).1
            (Nat.le_antisymm depth full)
  · intro failure
    cases failure with
    | outOfMemory atEnd =>
      have fetched := @Memory.fetch_of_le m.memory m.pc (by simp [atEnd])
      rw [step_of_error fetched, atEnd]
    | underflow fetched empty =>
      rw [step_of_ok fetched]
      exact perform_of_error (execute_eq_error_iff.mpr (.inl ⟨by decide, empty, rfl⟩))
    | @overflow opcode fetched call full =>
      have decoded := Instruction.decode_eq_call_iff.mpr ⟨call, rfl⟩
      rw [step_of_ok fetched]
      exact perform_of_error
        (execute_eq_error_iff.mpr (.inr ⟨⟨_, decoded⟩, Nat.le_of_eq full.symm, rfl⟩))

namespace StepFailure

variable {m stopped : Machine} {fault : Fault}

/-- A failure changes nothing but the last fetched opcode. -/
theorem eq_withOpcode (failure : StepFailure m stopped fault)
    : ∃ opcode, stopped = { m with opcode } := by
  cases failure with
  | outOfMemory => exact ⟨m.opcode, rfl⟩
  | underflow | overflow => exact ⟨_, rfl⟩

/-- A machine that failed fails again in the same way, and then changes nothing at all. -/
theorem again (failure : StepFailure m stopped fault)
    : StepFailure stopped stopped fault := by
  cases failure with
  | outOfMemory atEnd => exact .outOfMemory atEnd
  | underflow fetched empty => exact .underflow (m := { m with opcode := 0x00EE }) fetched empty
  | @overflow opcode fetched call full =>
    exact .overflow (m := { m with opcode }) fetched call full

end StepFailure

-----------------------------------------------------------------------------------------
-- Batches and ticks that fail
-----------------------------------------------------------------------------------------

/-- Steps in a row that succeed, each made while no prompt waits. -/
inductive Steps : Nat → Machine → Machine → Prop
  | none (m : Machine) : Steps 0 m m
  | more {count : Nat} {m next last : Machine} {request : Request}
    (unpaused : m.isPaused = false) (stepped : m.step = (next, .ok request))
    (rest : Steps count next last)
    : Steps (count + 1) m last

theorem Steps.bounded {count : Nat} {m last : Machine} (steps : Steps count m last)
    (bounded : m.Bounded)
    : last.Bounded := by
  induction steps with
  | none => exact bounded
  | more _ stepped _ ih =>
    have next := bounded.step
    rw [stepped] at next
    exact ih next

/-- A batch fails exactly if one of its steps does, after steps that succeed; it ends in the
state of that step. Witness: induction on the steps that are left, and on the steps made.
-/
theorem batch_eq_error_iff {m stopped : Machine} {fault : Fault} {count : Nat} {drew : Bool}
    : m.batch count drew = (stopped, .error fault)
      ↔ ∃ done < count, ∃ ran,
          Steps done m ran ∧ ran.isPaused = false ∧ ran.step = (stopped, .error fault) := by
  constructor
  · intro failed
    induction count generalizing m drew with
    | zero => cases failed
    | succ count ih =>
      unfold batch at failed
      split at failed
      · cases failed
      · next unpaused =>
        rw [Bool.not_eq_true] at unpaused
        split at failed
        · next stepped =>
          cases failed
          exact ⟨0, Nat.succ_pos count, m, .none m, unpaused, stepped⟩
        · next stepped =>
          obtain ⟨done, fewer, ran, steps, last⟩ := ih failed
          exact ⟨done + 1, Nat.succ_lt_succ fewer, ran, .more unpaused stepped steps, last⟩
  · rintro ⟨done, fewer, ran, steps, unpaused, failed⟩
    induction steps generalizing count drew with
    | none =>
      obtain ⟨count, rfl⟩ := Nat.exists_eq_add_of_lt fewer
      rw [Nat.zero_add]
      exact batch_of_failure unpaused failed count drew
    | more before stepped _ ih =>
      cases count with
      | zero => cases fewer
      | succ count =>
        rw [batch_of_step before stepped]
        exact ih (Nat.lt_of_succ_lt_succ fewer) unpaused failed

/-- A tick fails exactly if its batch does: the countdown cannot fail. -/
theorem cycle_eq_error_iff {m stopped : Machine} {fault : Fault} {count : Nat}
    : m.cycle count = (stopped, .error fault)
      ↔ m.batch count false = (stopped, .error fault) := by
  unfold cycle
  split
  · next ran => rw [ran, Prod.ext_iff, Prod.ext_iff, Except.error.injEq, Except.error.injEq]
  · next ran => simp [ran]

-----------------------------------------------------------------------------------------
-- A failure is final
-----------------------------------------------------------------------------------------

/-- An attempt to go on: a step, or a tick of at least one step. -/
inductive IsRetry : Action → Prop
  | step : IsRetry .step
  | cycle (more : Nat) : IsRetry (.cycle (more + 1))

/-- Where a step fails and no prompt waits, any number of attempts to go on answer with the
same fault and change nothing, by induction on the attempts.
-/
theorem run_retries {m : Machine} {fault : Fault} (stuck : m.step = (m, .error fault))
    (unpaused : m.isPaused = false) {retries : List Action}
    (all : ∀ action ∈ retries, IsRetry action)
    : (m.run retries).1 = m ∧ ∀ answer ∈ (m.run retries).2, answer.fault? = some fault := by
  induction retries with
  | nil => simp [run]
  | cons action rest ih =>
    have once : (m.act action).1 = m ∧ (m.act action).2.fault? = some fault := by
      cases all action (by simp) with
      | step => simp [act, stuck, Answer.fault?]
      | cycle more =>
        have failed : m.cycle (more + 1) = (m, .error fault) :=
          cycle_eq_error_iff.mpr
            (batch_eq_error_iff.mpr ⟨0, Nat.succ_pos more, m, .none m, unpaused, stuck⟩)
        simp [act, failed, Answer.fault?]
    have later := ih (fun action member => all action (List.mem_cons_of_mem _ member))
    rw [run, once.1]
    refine ⟨later.1, ?_⟩
    intro answer member
    rcases List.mem_cons.mp member with rfl | member
    · exact once.2
    · exact later.2 answer member

/-- In every reachable state a step fails exactly in the three ways. A tick fails exactly if
one of its steps does, after steps that succeed: it ends in the state of the failing step,
without a countdown. From then on every attempt to go on answers with the same fault and
changes nothing.
Witness: the bounds of reachable states, and that a failed step fails again where it stopped.
-/
theorem failures_exact_and_final {m : Machine} (reachable : m.Reachable)
    : (∀ stopped fault, m.step = (stopped, .error fault) ↔ StepFailure m stopped fault)
      ∧ ∀ count stopped fault,
          (m.cycle count = (stopped, .error fault)
            ↔ ∃ done < count, ∃ ran,
                Steps done m ran
                ∧ ran.isPaused = false
                ∧ StepFailure ran stopped fault
                ∧ stopped.delay = ran.delay
                ∧ stopped.sound = ran.sound)
          ∧ (m.cycle count = (stopped, .error fault)
            → ∀ retries,
                (∀ action ∈ retries, IsRetry action)
                → (stopped.run retries).1 = stopped
                  ∧ ∀ answer ∈ (stopped.run retries).2, answer.fault? = some fault) := by
  refine ⟨fun stopped fault => step_eq_error_iff reachable.bounded, ?_⟩
  intro count stopped fault
  rw [cycle_eq_error_iff, batch_eq_error_iff]
  refine ⟨⟨?_, ?_⟩, ?_⟩
  · rintro ⟨done, fewer, ran, steps, unpaused, last⟩
    have failure := (step_eq_error_iff (steps.bounded reachable.bounded)).mp last
    obtain ⟨opcode, same⟩ := failure.eq_withOpcode
    exact ⟨done, fewer, ran, steps, unpaused, failure, by rw [same], by rw [same]⟩
  · rintro ⟨done, fewer, ran, steps, unpaused, failure, _, _⟩
    have last := (step_eq_error_iff (steps.bounded reachable.bounded)).mpr failure
    exact ⟨done, fewer, ran, steps, unpaused, last⟩
  -- The failing step left the opcode it failed on, so it fails again where it stopped.
  · rintro ⟨done, fewer, ran, steps, unpaused, last⟩ retries all
    have bounded := steps.bounded reachable.bounded
    have failure := (step_eq_error_iff bounded).mp last
    have ended := bounded.step
    rw [last] at ended
    have stuck := (step_eq_error_iff ended).mpr failure.again
    obtain ⟨opcode, same⟩ := failure.eq_withOpcode
    exact run_retries stuck (by rw [same]; exact unpaused) all

/-- A program that sets a register and then returns, although nothing called it. -/
def loneReturn : Machine :=
  ((powerOn { stream := fun _ => 0 }).act (.loadProgram #[0x60, 0x01, 0x00, 0xEE])).1

/-- Where a tick of ten steps stops: at the return, with the register set. -/
def loneReturnStopped : Machine :=
  { loneReturn with
    opcode := 0x00EE
    registers := loneReturn.registers.set Registers.offset 0x01
    pc := 0x202 }

/-- The lone return stops a tick of ten steps at its second one, for good. -/
theorem failures_exact_and_final_loneReturn
    : loneReturn.cycle 10 = (loneReturnStopped, .error (.stack .underflow))
      ∧ (loneReturnStopped.run [.step, .cycle 3, .cycle 1]).1 = loneReturnStopped := by
  have bytes {i : Nat} (inside : i < 4)
      : loneReturn.memory.read (0x200 + i) = [0x60, 0x01, 0x00, 0xEE][i] :=
    Memory.read_writeBlock inside (by decide)
  have first : loneReturn.memory.fetch 0x200 = .ok 0x6001 := by
    rw [Memory.fetch_of_lt (by decide), bytes (i := 0) (by decide), bytes (i := 1) (by decide)]
    rfl
  have second : loneReturn.memory.fetch 0x202 = .ok 0x00EE := by
    rw [Memory.fetch_of_lt (by decide), bytes (i := 2) (by decide), bytes (i := 3) (by decide)]
    rfl
  have reachable : loneReturn.Reachable := (Reachable.powerOn _).act _
  have ticks := (failures_exact_and_final reachable).2 10 loneReturnStopped (.stack .underflow)
  have failed : loneReturn.cycle 10 = (loneReturnStopped, .error (.stack .underflow)) := by
    have stepped := step_of_ok (m := loneReturn) first
    refine ticks.1.mpr ⟨1, by decide, _, .more rfl stepped (.none _), rfl, ?_, rfl, rfl⟩
    exact .underflow second rfl
  refine ⟨failed, (ticks.2 failed _ ?_).1⟩
  simp [IsRetry.step, IsRetry.cycle]

end ChipEight.Machine
