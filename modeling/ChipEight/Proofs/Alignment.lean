import ChipEight.Proofs.Footprint
import ChipEight.Proofs.Lockstep

/-! Programs whose jumps are aligned stay aligned. If every jump and call goes to an even address,
the program counter and all return addresses stay even, whatever is stored, called or pressed; the
last cell of memory is then never the first byte of an opcode, so that every fetch succeeds.
-/

namespace ChipEight

/-- Steps, ticks and key events. -/
inductive Action.IsRun : Action → Prop
  | step : IsRun .step
  | play {action : Action} (play : action.IsPlay) : IsRun action

namespace Machine

variable {m next : Machine} {opcode : Opcode} {request : Request} {count : Nat}

/-- The program counter stands at an even address of memory, and all return addresses are even.
Those need not lie inside of memory: a call in the last two cells returns to its end.
-/
structure Aligned (m : Machine) : Prop where
  inside : m.pc < memorySize
  pc : m.pc % 2 = 0
  entries : ∀ address ∈ m.stack.entries, address % 2 = 0

/-- If the opcode jumps or calls, it goes to an even address. -/
structure JumpsAligned (m : Machine) (opcode : Opcode) : Prop where
  direct : opcode.family = 0x1 ∨ opcode.family = 0x2 → opcode.nnn.val % 2 = 0
  offset
    : opcode.family = 0xB
      → (opcode.nnn.val + (m.registers.get Registers.offset).toNat) % 2 = 0

namespace Aligned

theorem of_eq (h : Aligned m) (pc : next.pc = m.pc) (stack : next.stack = m.stack)
    : Aligned next where
  inside := pc ▸ h.inside
  pc := pc ▸ h.pc
  entries := stack ▸ h.entries

theorem powerOn (random : RandomSource) : Aligned (powerOn random) where
  inside := by simp [Machine.powerOn]
  pc := by simp [Machine.powerOn]
  entries := by simp [Machine.powerOn]

theorem reset (m : Machine) : Aligned m.reset where
  inside := by simp [Machine.reset]
  pc := by simp [Machine.reset]
  entries := by simp [Machine.reset]

/-- Loading a program leaves the machine as aligned as it was switched on. -/
theorem start {rom : Rom} {random : RandomSource} (started : start rom random = .ok m)
    : Aligned m := by
  rw [Machine.start, loadRom_eq] at started
  split at started
  · cases started
    exact (powerOn random).of_eq rfl rfl
  · cases started

-----------------------------------------------------------------------------------------
-- Steps
-----------------------------------------------------------------------------------------

/-- An aligned machine finds both bytes of its next opcode inside of memory. -/
theorem fetch (h : Aligned m) : ∃ opcode, m.memory.fetch m.pc = .ok opcode := by
  have inside := h.inside
  have even := h.pc
  have room : m.pc + 1 < memorySize := by
    simp only [memorySize] at inside ⊢
    omega
  exact ⟨_, Memory.fetch_of_lt room⟩

/-- Where an opcode continues is even if its jumps are, by the ways to continue. -/
theorem continues (h : Aligned m) (jumps : m.JumpsAligned opcode) {target : Nat}
    (continues : m.Continues opcode target)
    : target < memorySize ∧ target % 2 = 0 := by
  have even := h.pc
  simp only [memorySize]
  cases continues with
  | jump family => exact ⟨opcode.nnn.isLt, jumps.direct family⟩
  | @ret address rest whole popped =>
    have pushed : address % 2 = 0 := h.entries address (popped ▸ List.mem_cons_self)
    simp only [memorySize]
    omega
  | offset family =>
    have sum := jumps.offset family
    simp only [memorySize]
    omega
  | skip | next =>
    simp only [memorySize]
    omega

/-- A call pushes an even address, and a return leaves only such; by the ways to treat the open
calls.
-/
theorem entries_step (h : Aligned m) (stepped : m.step = (next, .ok request))
    : ∀ address ∈ next.stack.entries, address % 2 = 0 := by
  obtain ⟨opcode, done, _, executed, rfl, _⟩ := step_eq_ok stepped
  have even := h.pc
  have effect := execute_stackEffect executed
  generalize Instruction.decode opcode = instruction at effect
  intro address member
  cases effect with
  | kept _ _ same =>
    have kept : address ∈ m.stack.entries := same ▸ member
    exact h.entries address kept
  | called pushed _ =>
    have opened : address ∈ (m.pc + opcodeSize) :: m.stack.entries :=
      (CallStack.entries_push pushed).2 ▸ member
    rcases List.mem_cons.mp opened with rfl | earlier
    · simp only [opcodeSize]
      omega
    · exact h.entries address earlier
  | returned popped _ =>
    have closed := CallStack.entries_pop popped
    have below : address ∈ m.stack.entries := closed ▸ List.mem_cons_of_mem _ member
    exact h.entries address below

/-- A successful step keeps the alignment if its jumps are aligned. -/
theorem step_of_ok (h : Aligned m) (stepped : m.step = (next, .ok request))
    (jumps : m.JumpsAligned next.opcode)
    : Aligned next := by
  obtain ⟨inside, even⟩ := h.continues jumps (step_continues stepped)
  exact ⟨inside, even, h.entries_step stepped⟩

/-- A step of an aligned machine can only fail by its call stack, and it stays aligned. -/
theorem step_of_error {stopped : Machine} {fault : Fault} (h : Aligned m)
    (failed : m.step = (stopped, .error fault))
    : Aligned stopped ∧ ∃ cause, fault = .stack cause := by
  obtain ⟨opcode, fetched⟩ := h.fetch
  rw [Machine.step_of_ok fetched] at failed
  cases executed : ({ m with opcode }).execute (.decode opcode) with
  | error cause =>
    rw [perform_of_error executed] at failed
    cases failed
    exact ⟨h.of_eq rfl rfl, cause, rfl⟩
  | ok done =>
    rw [perform_of_ok executed] at failed
    cases failed

end Aligned

-----------------------------------------------------------------------------------------
-- Runs
-----------------------------------------------------------------------------------------

/-- Every jump of a log goes to an even address. -/
def JumpsStayAligned (log : List Execution) : Prop :=
  ∀ execution ∈ log, execution.before.JumpsAligned execution.opcode

/-- What happens to an aligned machine: it ends aligned, every opcode is executed between aligned
machines, and nothing fails but by the call stack.
-/
structure StaysAligned (last : Machine) (log : List Execution) (Fails : Fault → Prop)
    : Prop where
  last : Aligned last
  during : ∀ execution ∈ log, execution.before.Aligned ∧ execution.after.Aligned
  stack : ∀ fault, Fails fault → ∃ cause, fault = .stack cause

/-- An aligned machine that executes nothing and reports no failure. -/
theorem StaysAligned.of_idle {Fails : Fault → Prop} (h : Aligned m)
    (silent : ∀ fault, ¬ Fails fault)
    : StaysAligned m [] Fails :=
  ⟨h, fun _ executed => absurd executed List.not_mem_nil,
    fun fault failed => absurd failed (silent fault)⟩

namespace Aligned

theorem step (h : Aligned m) (jumps : JumpsStayAligned m.stepLog)
    : StaysAligned m.step.1 m.stepLog (m.step.2 = .error ·) := by
  rcases stepped : m.step with ⟨next, fault | request⟩
  · obtain ⟨stopped, cause⟩ := h.step_of_error stepped
    rw [stepLog_of_failure stepped]
    exact ⟨stopped, nofun, fun _ same => Except.error.inj same ▸ cause⟩
  · rw [stepLog_of_step stepped] at jumps ⊢
    have moved := h.step_of_ok stepped (jumps _ List.mem_cons_self)
    exact ⟨moved, List.forall_mem_singleton.mpr ⟨h, moved⟩, nofun⟩

/-- A batch keeps the alignment if its jumps are aligned, by induction on the steps left. -/
theorem batch (h : Aligned m) (jumps : JumpsStayAligned (m.batchLog count)) (drew : Bool)
    : StaysAligned (m.batch count drew).1 (m.batchLog count)
        ((m.batch count drew).2 = .error ·) := by
  induction count generalizing m drew with
  | zero => exact .of_idle h nofun
  | succ count ih =>
    cases paused : m.isPaused with
    | true =>
      rw [batch_of_paused paused, batchLog_of_paused paused]
      exact .of_idle h nofun
    | false =>
      rcases stepped : m.step with ⟨next, fault | request⟩
      · rw [batch_of_failure paused stepped, batchLog_of_failure stepped]
        obtain ⟨stopped, cause⟩ := h.step_of_error stepped
        exact ⟨stopped, nofun, fun _ same => Except.error.inj same ▸ cause⟩
      · rw [batchLog_of_step paused stepped] at jumps ⊢
        obtain ⟨first, others⟩ := List.forall_mem_cons.mp jumps
        have moved := h.step_of_ok stepped first
        obtain ⟨last, during, stack⟩ := ih moved others (drew || request == .redraw)
        rw [batch_of_step paused stepped]
        exact ⟨last, List.forall_mem_cons.mpr ⟨⟨h, moved⟩, during⟩, stack⟩

/-- The countdown at the end of a tick touches neither the program counter nor the stack. -/
theorem cycle (h : Aligned m) (jumps : JumpsStayAligned (m.batchLog count))
    : StaysAligned (m.cycle count).1 (m.batchLog count) ((m.cycle count).2 = .error ·) := by
  obtain ⟨last, during, stack⟩ := h.batch jumps false
  rcases ran : m.batch count false with ⟨stopped, fault | redraw⟩
  · rw [ran] at last stack
    rw [cycle_of_failure ran]
    exact ⟨last, during, fun _ same => stack _ (congrArg _ (Except.error.inj same))⟩
  · rw [ran] at last
    rw [cycle_of_batch ran]
    obtain ⟨_, _, counted⟩ := stopped.countDown_eq
    have kept : Aligned stopped.countDown := by
      rw [counted]
      exact last.of_eq rfl rfl
    exact ⟨kept, during, nofun⟩

/-- A step, a tick or a key event keeps the alignment if its jumps are aligned. -/
theorem act (h : Aligned m) {action : Action} (runs : action.IsRun)
    (jumps : JumpsStayAligned (m.log action))
    : StaysAligned (m.act action).1 (m.log action) ((m.act action).2.fault? = some ·) := by
  cases runs with
  | step =>
    obtain ⟨last, during, stack⟩ := h.step jumps
    refine ⟨last, during, ?_⟩
    intro fault failed
    exact stack fault ((Answer.fault?_request _ _).mp failed)
  | play play =>
    cases play with
    | pressKey key =>
      obtain ⟨_, _, pressed⟩ := m.pressKey_eq key
      rw [Machine.act, pressed]
      exact .of_idle (h.of_eq rfl rfl) fun fault failed => Option.some_ne_none fault failed.symm
    | quiet quiet =>
      cases quiet with
      | setKey key down =>
        exact .of_idle (h.of_eq rfl rfl) fun fault failed => Option.some_ne_none fault failed.symm
      | cycle count =>
        obtain ⟨last, during, stack⟩ := h.cycle jumps
        refine ⟨last, during, ?_⟩
        intro fault failed
        exact stack fault ((Answer.fault?_tick _ _).mp failed)

/-- A run keeps the alignment if its jumps are aligned, by induction on the operations. -/
theorem run (h : Aligned m) {actions : List Action} (runs : ∀ action ∈ actions, action.IsRun)
    (jumps : JumpsStayAligned (m.historyLog actions))
    : StaysAligned (m.run actions).1 (m.historyLog actions)
        (fun fault => ∃ answer ∈ (m.run actions).2, answer.fault? = some fault) := by
  induction actions generalizing m with
  | nil => exact ⟨h, nofun, nofun⟩
  | cons action rest ih =>
    obtain ⟨play, others⟩ := List.forall_mem_cons.mp runs
    obtain ⟨now, later⟩ := List.forall_mem_append.mp jumps
    obtain ⟨next, before, first⟩ := h.act play now
    obtain ⟨last, after, stack⟩ := ih next others later
    refine ⟨last, List.forall_mem_append.mpr ⟨before, after⟩, ?_⟩
    rintro fault ⟨answer, member, failed⟩
    rcases List.mem_cons.mp member with rfl | member
    · exact first fault failed
    · exact stack fault ⟨answer, member, failed⟩

end Aligned

/-- Aligned programs never fall off the end of memory. From a machine whose program counter and
return addresses are even, as after it was switched on, loaded or reset, every run of steps, ticks
and key events in which all executed jumps and calls go to even addresses keeps them even, between
the opcodes and at the end. Nothing in it fails but by the call stack, so every fetch finds its
opcode, also where execution runs or skips across the end of memory; and so does the fetch that
would follow.
Witness: a step goes on at an even address whichever way it continues, and the only address from
which a fetch fails is odd.
-/
theorem aligned_run_never_leaves_memory
    : (∀ random, (powerOn random).Aligned)
      ∧ (∀ rom random m, start rom random = .ok m → m.Aligned)
      ∧ (∀ m : Machine, m.reset.Aligned)
      ∧ ∀ (m : Machine) actions,
          m.Aligned
          → (∀ action ∈ actions, action.IsRun)
          → JumpsStayAligned (m.historyLog actions)
          → (m.run actions).1.Aligned
            ∧ (∀ execution ∈ m.historyLog actions,
                execution.before.Aligned ∧ execution.after.Aligned)
            ∧ (∀ answer ∈ (m.run actions).2, ∀ fault,
                answer.fault? = some fault → ∃ cause, fault = .stack cause)
            ∧ ∃ opcode, (m.run actions).1.memory.fetch (m.run actions).1.pc = .ok opcode := by
  refine ⟨Aligned.powerOn, fun _ _ _ => Aligned.start, Aligned.reset, ?_⟩
  intro m actions aligned runs jumps
  obtain ⟨last, during, stack⟩ := aligned.run runs jumps
  exact ⟨last, during, fun answer member fault failed => stack fault ⟨answer, member, failed⟩,
    last.fetch⟩

/-- A machine about to skip across the end of memory. Then it jumps to the last opcode, from which
execution runs on at address zero.
-/
def endCrosser : Machine :=
  { powerOn { stream := fun _ => 0 } with
    memory :=
      (Memory.writeBlock {} 0xFFC [0x30, 0x00, 0x60, 0x01]).writeBlock 0x000 [0x1F, 0xFE]
    pc := 0xFFC }

/-- The states that follow it. -/
def crossing : Nat → Machine
  | 0 => endCrosser
  | 1 => { endCrosser with opcode := 0x3000, pc := 0x000 }
  | 2 => { endCrosser with opcode := 0x1FFE, pc := 0xFFE }
  | _ =>
    { endCrosser with
      opcode := 0x6001
      registers := endCrosser.registers.set Registers.offset 0x01
      pc := 0x000 }

/-- The opcodes on the way: a skip, a jump, and one that sets a register. -/
def crossingOpcode : Nat → Opcode
  | 0 => 0x3000
  | 1 => 0x1FFE
  | _ => 0x6001

theorem fetch_crossing {i : Nat} (inside : i < 3)
    : (crossing i).memory.fetch (crossing i).pc = .ok (crossingOpcode i) := by
  match i, inside with
  | 0, _ | 1, _ | 2, _ =>
    simp [crossing, endCrosser, crossingOpcode, Memory.fetch_of_lt, Memory.writeBlock,
      Memory.read_write]
    decide

theorem step_crossing {i : Nat} (inside : i < 3)
    : (crossing i).step = (crossing (i + 1), .ok .nothing) := by
  rw [step_of_ok (fetch_crossing inside)]
  match i, inside with
  | 0, _ | 1, _ | 2, _ => rfl

/-- Crossing the end of memory, by a skip and then by running on, ends at address zero. -/
theorem aligned_run_never_leaves_memory_crossing
    : let ended := (endCrosser.run [.step, .cycle 2]).1
      endCrosser.Aligned
      ∧ ended.pc = 0x000
      ∧ ended.Aligned
      ∧ ∃ opcode, ended.memory.fetch 0x000 = .ok opcode := by
  intro ended
  have skips : endCrosser.step = (crossing 1, .ok .nothing) := step_crossing (i := 0) (by decide)
  have jumps : (crossing 1).step = (crossing 2, .ok .nothing) := step_crossing (by decide)
  have sets : (crossing 2).step = (crossing 3, .ok .nothing) := step_crossing (by decide)
  have aligned : endCrosser.Aligned := ⟨by decide, by decide, nofun⟩
  have counter : ended.pc = 0x000 := by
    simp only [ended, run, act, skips, cycle, batch_of_step rfl jumps, batch_of_step rfl sets]
    rfl
  have runs : ∀ action ∈ [Action.step, .cycle 2], action.IsRun := by
    simp [Action.IsRun.step, Action.IsRun.play, Action.IsPlay.quiet, Action.IsQuiet.cycle]
  have even : JumpsStayAligned (endCrosser.historyLog [.step, .cycle 2]) := by
    have logged : endCrosser.historyLog [.step, .cycle 2]
        = [⟨endCrosser, 0x3000, crossing 1⟩, ⟨crossing 1, 0x1FFE, crossing 2⟩,
          ⟨crossing 2, 0x6001, crossing 3⟩] := by
      simp only [historyLog, log, stepLog_of_step skips, act, skips,
        batchLog_of_step rfl jumps, batchLog_of_step rfl sets]
      rfl
    rw [logged]
    intro execution member
    simp only [List.mem_cons, List.not_mem_nil, or_false] at member
    rcases member with rfl | rfl | rfl
    all_goals exact ⟨by decide, by decide⟩
  obtain ⟨_, _, _, kept⟩ := aligned_run_never_leaves_memory
  obtain ⟨last, _, _, next⟩ := kept endCrosser _ aligned runs even
  exact ⟨aligned, counter, last, counter ▸ next⟩

end Machine

end ChipEight
