import ChipEight.Machine.Run
import ChipEight.Proofs.Decoding

/-! What a single instruction can do. Calls and returns are the only instructions that can be
refused and the only ones that touch the call stack, and no instruction touches what belongs
to the loaded program.
-/

namespace ChipEight

namespace Machine

-----------------------------------------------------------------------------------------
-- Refused instructions
-----------------------------------------------------------------------------------------

/-- An instruction is refused exactly if it returns outside of any call or calls at the full
depth, by cases on the instruction.
-/
theorem execute_eq_error_iff {m : Machine} {instruction : Instruction} {e : StackError}
    : m.execute instruction = .error e
      ↔ (instruction = .ret ∧ m.stack.isEmpty = true ∧ e = .underflow)
        ∨ (∃ nnn, instruction = .call nnn)
          ∧ stackCapacity ≤ m.stack.depth
          ∧ e = .overflow := by
  cases instruction with
  | ret =>
    cases entries : m.stack.entries with
    | nil =>
      simp only [execute, CallStack.pop, CallStack.isEmpty, entries]
      grind
    | cons _ _ => simp [execute, CallStack.pop, CallStack.isEmpty, entries]
  | call nnn =>
    cases pushed : m.stack.push (m.pc + opcodeSize) with
    | error cause =>
      obtain ⟨rfl, full⟩ := CallStack.push_eq_error_iff.mp pushed
      simp only [execute, pushed]
      grind
    | ok stack =>
      have room : ¬stackCapacity ≤ m.stack.depth := by
        intro full
        rw [CallStack.push_eq_error_iff.mpr ⟨rfl, full⟩] at pushed
        cases pushed
      simp [execute, pushed, room]
  | _ => simp [execute]

-----------------------------------------------------------------------------------------
-- Executed instructions
-----------------------------------------------------------------------------------------

/-- How an instruction treats the open calls. -/
inductive StackEffect (m : Machine) : Instruction → Executed → Prop
  | returned {target : Nat} {done : Executed}
    (popped : m.stack.pop = .ok (target, done.machine.stack))
    (jumped : done.flow = .jump target)
    : StackEffect m .ret done
  | called {nnn : Fin memorySize} {done : Executed}
    (pushed : m.stack.push (m.pc + opcodeSize) = .ok done.machine.stack)
    (jumped : done.flow = .jump nnn.val)
    : StackEffect m (.call nnn) done
  | kept {instruction : Instruction} {done : Executed}
    (noReturn : instruction ≠ .ret)
    (noCall : ∀ nnn, instruction ≠ .call nnn)
    (same : done.machine.stack = m.stack)
    : StackEffect m instruction done

/-- Every executed instruction returns, calls or keeps the open calls, by cases on the
instruction.
-/
theorem execute_stackEffect {m : Machine} {instruction : Instruction} {done : Executed}
    (h : m.execute instruction = .ok done)
    : StackEffect m instruction done := by
  cases instruction with
  | ret =>
    simp only [execute] at h
    split at h
    · cases h
    · next popped =>
      cases h
      exact .returned popped rfl
  | call nnn =>
    simp only [execute] at h
    split at h
    · cases h
    · next pushed =>
      cases h
      exact .called pushed rfl
  | misc op x =>
    cases h
    refine .kept (by simp) (by simp) ?_
    cases op <;> simp only [executeMisc, storeAtIndex, loadFromIndex]
  | _ =>
    cases h
    exact .kept (by simp) (by simp) rfl

/-- What an instruction leaves alone: the program counter, the last fetched opcode and what
was loaded.
-/
structure SameProgram (m next : Machine) : Prop where
  pc : next.pc = m.pc
  opcode : next.opcode = m.opcode
  name : next.name = m.name
  program : next.program = m.program

/-- No instruction moves the program counter by itself or touches what was loaded, by cases on
the instruction.
-/
theorem execute_sameProgram {m : Machine} {instruction : Instruction} {done : Executed}
    (h : m.execute instruction = .ok done)
    : SameProgram m done.machine := by
  cases instruction with
  | ret | call nnn =>
    simp only [execute] at h
    split at h <;> cases h
    exact ⟨rfl, rfl, rfl, rfl⟩
  | misc op x =>
    cases h
    cases op <;> constructor <;> simp only [executeMisc, storeAtIndex, loadFromIndex]
  | _ =>
    cases h
    exact ⟨rfl, rfl, rfl, rfl⟩

-----------------------------------------------------------------------------------------
-- What the digits of an opcode say about its effect
-----------------------------------------------------------------------------------------

/-- The opcodes that do nothing but put a value into VX. -/
inductive Assigns (opcode : Opcode) : Prop
  | family (assigning : opcode.family = 0x6 ∨ opcode.family = 0x7)
  | arithmetic (family : opcode.family = 0x8) (last : opcode.n.val ≤ 3)
  | delay (digits : opcode.IsMisc 0x07)

/-- The opcodes that put a value into VX and a flag into VF. -/
structure AssignsWithFlag (opcode : Opcode) : Prop where
  family : opcode.family = 0x8
  last : opcode.n.val ∈ [0x4, 0x5, 0x6, 0x7, 0xE]

/-- What an executed opcode made of the machine, and what it asked for. -/
inductive Effect (m : Machine) (opcode : Opcode) : Machine → Request → Prop
  | nothing : Effect m opcode m .nothing
  | clear (whole : opcode = 0x00E0)
    : Effect m opcode { m with display := m.display.clear } .redraw
  | draw {drawn : Display × Bool} (family : opcode.family = 0xD)
    (drew
      : m.display.drawSprite (m.registers.get opcode.x).toNat (m.registers.get opcode.y).toNat
          (m.indexBlock opcode.n.val)
        = drawn)
    : Effect m opcode
        { m with
          display := drawn.1
          registers := m.registers.set Registers.flag drawn.2.toUInt8 }
        .redraw
  | stack {stack : CallStack} (nesting : opcode.family = 0x2 ∨ opcode = 0x00EE)
    : Effect m opcode { m with stack } .nothing
  | register {value : UInt8} (assigns : Assigns opcode)
    : Effect m opcode { m with registers := m.registers.set opcode.x value } .nothing
  | flagged {value bit : UInt8} (assigns : AssignsWithFlag opcode)
    : Effect m opcode
        { m with registers := (m.registers.set Registers.flag bit).set opcode.x value }
        .nothing
  | random (family : opcode.family = 0xC)
    : Effect m opcode
        { m with
          registers := m.registers.set opcode.x (m.random.next.1 &&& opcode.kk)
          random := m.random.next.2 }
        .nothing
  | index {index : UInt16}
    (pointing : opcode.family = 0xA ∨ opcode.IsMisc 0x1E ∨ opcode.IsMisc 0x29)
    : Effect m opcode { m with index } .nothing
  | delay (digits : opcode.IsMisc 0x15)
    : Effect m opcode { m with delay := { value := m.registers.get opcode.x } } .nothing
  | sound (digits : opcode.IsMisc 0x18)
    : Effect m opcode { m with sound := { value := m.registers.get opcode.x } } .nothing
  | prompt (digits : opcode.IsMisc 0x0A)
    : Effect m opcode { m with keypad := m.keypad.await opcode.x } .wait
  | storeDigits (digits : opcode.IsMisc 0x33)
    : Effect m opcode (m.storeAtIndex (decimalDigits (m.registers.get opcode.x))) .nothing
  | storeRegisters (digits : opcode.IsMisc 0x55)
    : Effect m opcode
        (m.storeAtIndex (m.registers.values.toList.take (opcode.x.val + 1))) .nothing
  | loadRegisters {registers : Registers} (digits : opcode.IsMisc 0x65)
    (loaded
      : ∀ r, registers.get r
          = if r ≤ opcode.x then m.memory.read (m.index.toNat + r.val)
            else m.registers.get r)
    : Effect m opcode { m with registers } .nothing

/-- An operation of family 8 writes VX, and VF before it if it has a flag. -/
theorem arithmetic_effect (m : Machine) {opcode : Opcode} {op : Arithmetic}
    (family : opcode.family = 0x8) (last : opcode.n.val = op.nibble)
    : Effect m opcode
        { m with registers := m.registers.arithmetic op opcode.x opcode.y } .nothing := by
  cases op with
  | assign | or | and | xor => exact .register (.arithmetic family (by rw [last]; decide))
  | add | sub | shiftRight | subReverse | shiftLeft =>
    exact .flagged ⟨family, by rw [last]; decide⟩

/-- Every executed opcode has the effect that its digits say, by cases on the table. -/
theorem execute_effect {m : Machine} {opcode : Opcode} {done : Executed}
    (h : m.execute (.decode opcode) = .ok done)
    : Effect m opcode done.machine done.request := by
  have line := Instruction.decodes_decode opcode
  generalize Instruction.decode opcode = instruction at h line
  cases line with
  | ret whole =>
    simp only [execute] at h
    split at h <;> cases h
    exact .stack (.inr whole)
  | call family =>
    simp only [execute] at h
    split at h <;> cases h
    exact .stack (.inl family)
  | clear whole =>
    cases h
    exact .clear whole
  | set family =>
    cases h
    exact .register (.family (.inl family))
  | add family =>
    cases h
    exact .register (.family (.inr family))
  | arithmetic family last =>
    cases h
    exact arithmetic_effect m family last
  | setIndex family =>
    cases h
    exact .index (.inl family)
  | random family =>
    cases h
    exact .random family
  | draw family =>
    cases h
    exact .draw family rfl
  | @misc op digits =>
    cases h
    cases op with
    | getDelay => exact .register (.delay digits)
    | awaitKey => exact .prompt digits
    | setDelay => exact .delay digits
    | setSound => exact .sound digits
    | addToIndex => exact .index (.inr (.inl digits))
    | pointToGlyph => exact .index (.inr (.inr digits))
    | storeDigits => exact .storeDigits digits
    | storeRegisters => exact .storeRegisters digits
    | loadRegisters => exact .loadRegisters digits (get_loadFromIndex m opcode.x)
  | _ =>
    cases h
    exact .nothing

-----------------------------------------------------------------------------------------
-- Instructions with the move of the program counter, and steps
-----------------------------------------------------------------------------------------

/-- A refused instruction changes nothing. -/
theorem perform_of_error {m : Machine} {instruction : Instruction} {e : StackError}
    (h : m.execute instruction = .error e)
    : m.perform instruction = (m, .error (.stack e)) := by
  simp only [perform, h]

theorem perform_of_ok {m : Machine} {instruction : Instruction} {done : Executed}
    (h : m.execute instruction = .ok done)
    : m.perform instruction = (done.machine.advance done.flow, .ok done.request) := by
  simp only [perform, h]

theorem step_of_error {m : Machine} {e : OpcodeError} (h : m.memory.fetch m.pc = .error e)
    : m.step = (m, .error (.opcode e)) := by
  simp only [step, h]

/-- A fetched opcode is noted and performed. -/
theorem step_of_ok {m : Machine} {opcode : Opcode} (h : m.memory.fetch m.pc = .ok opcode)
    : m.step = ({ m with opcode }).perform (.decode opcode) := by
  simp only [step, h]

theorem perform_eq_ok {m next : Machine} {instruction : Instruction} {request : Request}
    (h : m.perform instruction = (next, .ok request))
    : ∃ done,
        m.execute instruction = .ok done
        ∧ next = done.machine.advance done.flow
        ∧ request = done.request := by
  cases executed : m.execute instruction with
  | error e =>
    rw [perform_of_error executed] at h
    cases h
  | ok done =>
    rw [perform_of_ok executed] at h
    cases h
    exact ⟨done, rfl, rfl, rfl⟩

/-- A successful step fetched an opcode and executed its instruction. -/
theorem step_eq_ok {m next : Machine} {request : Request} (h : m.step = (next, .ok request))
    : ∃ opcode done,
        m.memory.fetch m.pc = .ok opcode
        ∧ ({ m with opcode }).execute (.decode opcode) = .ok done
        ∧ next = done.machine.advance done.flow
        ∧ request = done.request := by
  cases fetched : m.memory.fetch m.pc with
  | error e =>
    rw [step_of_error fetched] at h
    cases h
  | ok opcode =>
    rw [step_of_ok fetched] at h
    obtain ⟨done, executed, moved⟩ := perform_eq_ok h
    exact ⟨opcode, done, rfl, executed, moved⟩

/-- A successful step notes the opcode that it fetched, lets it have its effect and moves the
program counter.
-/
theorem step_effect {m next : Machine} {request : Request} (h : m.step = (next, .ok request))
    : m.memory.fetch m.pc = .ok next.opcode
      ∧ ∃ moved : Machine,
          Effect { m with opcode := next.opcode } next.opcode moved request
          ∧ next = { moved with pc := next.pc } := by
  obtain ⟨opcode, done, fetched, executed, rfl, rfl⟩ := step_eq_ok h
  have noted : (done.machine.advance done.flow).opcode = opcode :=
    (execute_sameProgram executed).opcode
  rw [noted]
  exact ⟨fetched, done.machine, execute_effect executed, rfl⟩

/-- The ways to run an opcode: a step that fetches it, or without a fetch. Both leave a machine and
answer.
-/
inductive Runs (m : Machine) (opcode : Opcode) : Machine × Except Fault Request → Prop
  | fetched (found : m.memory.fetch m.pc = .ok opcode) : Runs m opcode m.step
  | performed : Runs m opcode (m.perform (.decode opcode))

theorem Runs.of_perform {m : Machine} {opcode : Opcode} {result : Machine × Except Fault Request}
    (performed : m.perform (.decode opcode) = result)
    : m.Runs opcode result := by
  rw [← performed]
  exact .performed

/-- Whether a run opcode was fetched shows in the opcode that is noted, and nowhere else. -/
theorem Runs.eq_perform {m : Machine} {opcode : Opcode} {result : Machine × Except Fault Request}
    (runs : m.Runs opcode result)
    : ∃ noted, result = ({ m with opcode := noted }).perform (.decode opcode) := by
  cases runs with
  | fetched found => exact ⟨opcode, step_of_ok found⟩
  | performed => exact ⟨m.opcode, rfl⟩

/-- An operation of family F is never refused and goes on with the following instruction. -/
theorem Runs.misc {m : Machine} {opcode : Opcode} {result : Machine × Except Fault Request}
    (runs : m.Runs opcode result) (op : Misc) (digits : opcode.IsMisc op.byte)
    : ∃ noted,
        let done := ({ m with opcode := noted }).executeMisc op opcode.x
        result = (done.machine.advance .next, .ok done.request) := by
  obtain ⟨noted, rfl⟩ := runs.eq_perform
  have decoded : Instruction.decode opcode = .misc op opcode.x :=
    Instruction.decode_eq_misc_iff.mpr ⟨digits, rfl⟩
  refine ⟨noted, ?_⟩
  rw [decoded, perform_of_ok rfl, flow_executeMisc]

/-- A step that fails changes nothing but the last fetched opcode. -/
theorem step_error_withOpcode {m stopped : Machine} {fault : Fault}
    (h : m.step = (stopped, .error fault))
    : ∃ opcode, stopped = { m with opcode } := by
  cases fetched : m.memory.fetch m.pc with
  | error e =>
    rw [step_of_error fetched] at h
    cases h
    exact ⟨m.opcode, rfl⟩
  | ok opcode =>
    rw [step_of_ok fetched] at h
    cases executed : ({ m with opcode }).execute (.decode opcode) with
    | error e =>
      rw [perform_of_error executed] at h
      cases h
      exact ⟨opcode, rfl⟩
    | ok done =>
      rw [perform_of_ok executed] at h
      cases h

end Machine

end ChipEight
