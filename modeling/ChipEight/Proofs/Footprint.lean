import ChipEight.Proofs.Effects

/-! The footprint of a step: where it continues, and which parts of the machine it may change.
Both are said by the digits of the opcode it fetched, with all conditions read off the machine
before the step. Every part has a short list of opcodes that may change it.
-/

namespace ChipEight.Machine

-----------------------------------------------------------------------------------------
-- Where a step continues
-----------------------------------------------------------------------------------------

/-- The key with this number is down; a number outside of the keypad names no key. -/
def KeyDown (m : Machine) (number : UInt8) : Prop :=
  ∃ inside : number.toNat < keyCount, m.keypad.held[number.toNat] = true

/-- The opcode is a skip whose condition holds. -/
def Skips (m : Machine) (opcode : Opcode) : Prop :=
  let vx := m.registers.get opcode.x
  let vy := m.registers.get opcode.y
  match opcode.family with
  | 0x3 => vx = opcode.kk
  | 0x4 => vx ≠ opcode.kk
  | 0x5 => opcode.n.val = 0 ∧ vx = vy
  | 0x9 => opcode.n.val = 0 ∧ vx ≠ vy
  | 0xE => opcode.kk = 0x9E ∧ m.KeyDown vx ∨ opcode.kk = 0xA1 ∧ ¬m.KeyDown vx
  | _ => False

/-- The address at which the machine continues after an opcode. -/
inductive Continues (m : Machine) (opcode : Opcode) : Nat → Prop
  | jump (family : opcode.family = 0x1 ∨ opcode.family = 0x2)
    : Continues m opcode opcode.nnn
  | ret {target : Nat} {rest : List Nat} (whole : opcode = 0x00EE)
    (popped : m.stack.entries = target :: rest)
    : Continues m opcode (target % memorySize)
  | offset (family : opcode.family = 0xB)
    : Continues m opcode
        ((opcode.nnn + (m.registers.get Registers.offset).toNat) % memorySize)
  | skip (holds : m.Skips opcode) : Continues m opcode ((m.pc + 4) % memorySize)
  | next (noJump : opcode.family ∉ [0x1, 0x2, 0xB]) (noReturn : opcode ≠ 0x00EE)
    (noSkip : ¬m.Skips opcode)
    : Continues m opcode ((m.pc + 2) % memorySize)

theorem keyDown_iff {m : Machine} {number : UInt8}
    : m.keypad.isHeld number.toNat = true ↔ m.KeyDown number :=
  Keypad.isHeld_eq_true_iff

/-- An opcode of another family than 0 is no return. -/
theorem ne_ret_of_family {opcode : Opcode} {family : Fin 16} (h : opcode.family = family)
    (other : family ≠ 0x0)
    : opcode ≠ 0x00EE := by
  rintro rfl
  exact other (h.symm.trans (by decide))

/-- The target of a jump lies inside of memory. -/
theorem continues_jump {m : Machine} {opcode : Opcode}
    (family : opcode.family = 0x1 ∨ opcode.family = 0x2)
    : m.Continues opcode ((Flow.jump opcode.nnn).apply m.pc) := by
  have inside : opcode.nnn.val % memorySize = opcode.nnn := Nat.mod_eq_of_lt opcode.nnn.isLt
  simp only [Flow.apply, inside]
  exact .jump family

/-- A skip goes on behind the following opcode if its condition holds, else in front of it. -/
theorem continues_skipIf {m : Machine} {opcode : Opcode} {family : Fin 16}
    (h : opcode.family = family) (skipping : family ∈ [0x3, 0x4, 0x5, 0x9, 0xE])
    {condition : Bool} (holds : condition = true ↔ m.Skips opcode)
    : m.Continues opcode ((Flow.skipIf condition).apply m.pc) := by
  cases condition with
  | true => exact .skip (holds.mp rfl)
  | false =>
    have apart : ∀ family : Fin 16, family ∈ [0x3, 0x4, 0x5, 0x9, 0xE] →
        family ∉ [0x1, 0x2, 0xB] ∧ family ≠ 0x0 := by
      decide
    obtain ⟨noJump, noSystem⟩ := apart family skipping
    exact .next (h ▸ noJump) (ne_ret_of_family h noSystem)
      (fun skips => Bool.noConfusion (holds.mpr skips))

/-- The opcodes of these families neither jump nor skip. -/
theorem continues_next (m : Machine) {opcode : Opcode} {family : Fin 16}
    (h : opcode.family = family) (plain : family ∈ [0x6, 0x7, 0x8, 0xA, 0xC, 0xD, 0xF])
    : m.Continues opcode (Flow.next.apply m.pc) := by
  simp only [List.mem_cons, List.not_mem_nil, or_false] at plain
  rcases plain with rfl | rfl | rfl | rfl | rfl | rfl | rfl
  all_goals
    exact .next (by simp [h]) (ne_ret_of_family h (by decide)) (by simp [Skips, h])

/-- The gaps of the table are left out like instructions that do nothing. -/
theorem continues_gap (m : Machine) {opcode : Opcode} (gap : opcode.IsGap)
    : m.Continues opcode (Flow.next.apply m.pc) := by
  cases gap with
  | skips family last =>
    rcases family with family | family
    all_goals
      exact .next (by simp [family]) (ne_ret_of_family family (by decide))
        (by simp [Skips, family, last])
  | keys family noHeld noNotHeld =>
    exact .next (by simp [family]) (ne_ret_of_family family (by decide))
      (by simp [Skips, family, noHeld, noNotHeld])
  | arithmetic family last | misc family last => exact m.continues_next family (by decide)

/-- An executed opcode continues where its digits say, by cases on the table. -/
theorem execute_continues {m : Machine} {opcode : Opcode} {done : Executed}
    (h : m.execute (.decode opcode) = .ok done)
    : m.Continues opcode (done.flow.apply m.pc) := by
  have line := Instruction.decodes_decode opcode
  generalize Instruction.decode opcode = instruction at h line
  cases line with
  | ret whole =>
    simp only [execute] at h
    split at h
    · cases h
    · next popped =>
      cases h
      exact .ret whole (CallStack.entries_pop popped)
  | call family =>
    simp only [execute] at h
    split at h <;> cases h
    exact continues_jump (.inr family)
  | jump family =>
    cases h
    exact continues_jump (.inl family)
  | jumpOffset family =>
    cases h
    exact .offset family
  | skipEqual family =>
    cases h
    exact continues_skipIf family (by decide) (by simp [Skips, family])
  | skipNotEqual family =>
    cases h
    exact continues_skipIf family (by decide) (by simp [Skips, family])
  | skipSame family last | skipDifferent family last =>
    cases h
    exact continues_skipIf family (by decide) (by simp [Skips, family, last])
  | skipHeld family last | skipNotHeld family last =>
    cases h
    exact continues_skipIf family (by decide) (by simp [Skips, family, last, ← keyDown_iff])
  | misc digits =>
    cases h
    rw [flow_executeMisc]
    exact m.continues_next digits.1 (by decide)
  | clear whole =>
    cases h
    subst whole
    have family : Opcode.family 0x00E0 = 0 := by decide
    exact .next (by decide) (by decide) (by simp [Skips, family])
  | routine family noClear noReturn =>
    cases h
    exact .next (by simp [family]) noReturn (by simp [Skips, family])
  | unassigned gap =>
    cases h
    exact m.continues_gap gap
  | set family | add family | arithmetic family | setIndex family | random family
  | draw family =>
    cases h
    exact m.continues_next family (by decide)

-----------------------------------------------------------------------------------------
-- What a step may change
-----------------------------------------------------------------------------------------

/-- The registers that an opcode may change. -/
inductive WritesRegister (opcode : Opcode) : Register → Prop
  | assigned (assigns : Assigns opcode) : WritesRegister opcode opcode.x
  | result (assigns : AssignsWithFlag opcode) : WritesRegister opcode opcode.x
  | flag (assigns : AssignsWithFlag opcode) : WritesRegister opcode Registers.flag
  | random (family : opcode.family = 0xC) : WritesRegister opcode opcode.x
  | collision (family : opcode.family = 0xD) : WritesRegister opcode Registers.flag
  | loaded {r : Register} (digits : opcode.IsMisc 0x65) (first : r ≤ opcode.x)
    : WritesRegister opcode r

/-- The cells that an opcode may change: three for the digits of VX, or one for each of V0 to
VX, from the index on.
-/
inductive WritesCell (m : Machine) (opcode : Opcode) : Nat → Prop
  | digit {offset : Nat} (digits : opcode.IsMisc 0x33) (inside : offset < 3)
    : WritesCell m opcode ((m.index.toNat + offset) % memorySize)
  | register {offset : Nat} (digits : opcode.IsMisc 0x55) (inside : offset ≤ opcode.x.val)
    : WritesCell m opcode ((m.index.toNat + offset) % memorySize)

/-- A step with an opcode changes no part that the opcode may not change. -/
structure Footprint (m : Machine) (opcode : Opcode) (next : Machine) : Prop where
  memory
    : ∀ address < memorySize,
        next.memory.read address ≠ m.memory.read address → m.WritesCell opcode address
  registers
    : ∀ r, next.registers.get r ≠ m.registers.get r → WritesRegister opcode r
  index
    : next.index ≠ m.index → opcode.family = 0xA ∨ opcode.IsMisc 0x1E ∨ opcode.IsMisc 0x29
  stack : next.stack ≠ m.stack → opcode.family = 0x2 ∨ opcode = 0x00EE
  delay : next.delay ≠ m.delay → opcode.IsMisc 0x15
  sound : next.sound ≠ m.sound → opcode.IsMisc 0x18
  display : next.display ≠ m.display → opcode = 0x00E0 ∨ opcode.family = 0xD
  pending : next.keypad.pending ≠ m.keypad.pending → opcode.IsMisc 0x0A
  paused : next.isPaused ≠ m.isPaused → opcode.IsMisc 0x0A
  random : next.random ≠ m.random → opcode.family = 0xC
  held : next.keypad.held = m.keypad.held
  name : next.name = m.name
  program : next.program = m.program

namespace Effect

variable {m next : Machine} {opcode : Opcode} {request : Request}

/-- A block stored from the index on changes its own cells only. -/
theorem storeAtIndex_changes {bytes : List UInt8} {address : Nat}
    (inside : address < memorySize)
    (changed : (m.storeAtIndex bytes).memory.read address ≠ m.memory.read address)
    : ∃ offset < bytes.length, (m.index.toNat + offset) % memorySize = address := by
  apply Decidable.byContradiction
  intro none
  refine changed (Memory.read_writeBlock_of_ne ?_)
  intro offset short same
  rw [Nat.mod_eq_of_lt inside] at same
  exact none ⟨offset, short, same⟩

theorem memory_changed (effect : Effect m opcode next request) {address : Nat}
    (inside : address < memorySize)
    (changed : next.memory.read address ≠ m.memory.read address)
    : m.WritesCell opcode address := by
  cases effect with
  | storeDigits digits =>
    obtain ⟨offset, short, rfl⟩ := storeAtIndex_changes inside changed
    exact .digit digits short
  | storeRegisters digits =>
    obtain ⟨offset, short, rfl⟩ := storeAtIndex_changes inside changed
    have few := List.length_take_le (opcode.x.val + 1) m.registers.values.toList
    exact .register digits (Nat.le_of_lt_succ (Nat.lt_of_lt_of_le short few))
  | _ => exact absurd rfl changed

/-- A register that was set is another one, or the one that changed. -/
theorem eq_of_get_set_ne {registers : Registers} {x r : Register} {value : UInt8}
    (changed : (registers.set x value).get r ≠ registers.get r)
    : r = x := by
  apply Decidable.byContradiction
  intro other
  exact changed (by rw [Registers.get_set, if_neg (Ne.symm other)])

theorem registers_changed (effect : Effect m opcode next request) {r : Register}
    (changed : next.registers.get r ≠ m.registers.get r)
    : WritesRegister opcode r := by
  cases effect with
  | register assigns =>
    cases eq_of_get_set_ne changed
    exact .assigned assigns
  | random family =>
    cases eq_of_get_set_ne changed
    exact .random family
  | draw family =>
    cases eq_of_get_set_ne changed
    exact .collision family
  | @flagged value bit assigns =>
    by_cases first : (m.registers.set Registers.flag bit).get r = m.registers.get r
    · rw [← first] at changed
      cases eq_of_get_set_ne changed
      exact .result assigns
    · cases eq_of_get_set_ne first
      exact .flag assigns
  | loadRegisters digits loaded =>
    rw [loaded] at changed
    split at changed
    · next first => exact .loaded digits first
    · exact absurd rfl changed
  | _ => exact absurd rfl changed

theorem index_changed (effect : Effect m opcode next request) (changed : next.index ≠ m.index)
    : opcode.family = 0xA ∨ opcode.IsMisc 0x1E ∨ opcode.IsMisc 0x29 := by
  cases effect with
  | index pointing => exact pointing
  | _ => exact absurd rfl changed

theorem stack_changed (effect : Effect m opcode next request) (changed : next.stack ≠ m.stack)
    : opcode.family = 0x2 ∨ opcode = 0x00EE := by
  cases effect with
  | stack nesting => exact nesting
  | _ => exact absurd rfl changed

theorem delay_changed (effect : Effect m opcode next request) (changed : next.delay ≠ m.delay)
    : opcode.IsMisc 0x15 := by
  cases effect with
  | delay digits => exact digits
  | _ => exact absurd rfl changed

theorem sound_changed (effect : Effect m opcode next request) (changed : next.sound ≠ m.sound)
    : opcode.IsMisc 0x18 := by
  cases effect with
  | sound digits => exact digits
  | _ => exact absurd rfl changed

theorem display_changed (effect : Effect m opcode next request)
    (changed : next.display ≠ m.display)
    : opcode = 0x00E0 ∨ opcode.family = 0xD := by
  cases effect with
  | clear whole => exact .inl whole
  | draw family => exact .inr family
  | _ => exact absurd rfl changed

theorem keypad_changed (effect : Effect m opcode next request)
    (changed : next.keypad ≠ m.keypad)
    : opcode.IsMisc 0x0A := by
  cases effect with
  | prompt digits => exact digits
  | _ => exact absurd rfl changed

theorem random_changed (effect : Effect m opcode next request)
    (changed : next.random ≠ m.random)
    : opcode.family = 0xC := by
  cases effect with
  | random family => exact family
  | _ => exact absurd rfl changed

/-- No effect touches the held keys or what was loaded. -/
theorem untouched (effect : Effect m opcode next request)
    : next.keypad.held = m.keypad.held ∧ next.name = m.name ∧ next.program = m.program := by
  cases effect <;> exact ⟨rfl, rfl, rfl⟩

/-- An effect keeps to the footprint of its opcode, part by part. -/
theorem footprint (effect : Effect m opcode next request) : Footprint m opcode next where
  memory _ inside changed := effect.memory_changed inside changed
  registers _ changed := effect.registers_changed changed
  index := effect.index_changed
  stack := effect.stack_changed
  delay := effect.delay_changed
  sound := effect.sound_changed
  display := effect.display_changed
  pending changed := effect.keypad_changed (mt (congrArg Keypad.pending) changed)
  paused changed := effect.keypad_changed (mt (congrArg Keypad.isWaiting) changed)
  random := effect.random_changed
  held := effect.untouched.1
  name := effect.untouched.2.1
  program := effect.untouched.2.2

end Effect

-----------------------------------------------------------------------------------------
-- Steps
-----------------------------------------------------------------------------------------

variable {m next : Machine} {opcode noted : Opcode}

/-- Where an opcode continues does not depend on the opcode that is noted as the last one. -/
theorem Continues.forget {target : Nat}
    (continues : Continues { m with opcode := noted } opcode target)
    : m.Continues opcode target := by
  cases continues with
  | jump family => exact .jump family
  | ret whole popped => exact .ret whole popped
  | offset family => exact .offset family
  | skip holds => exact .skip holds
  | next noJump noReturn noSkip => exact .next noJump noReturn noSkip

/-- A successful step continues where the digits of its opcode say. -/
theorem step_continues {request : Request} (stepped : m.step = (next, .ok request))
    : m.Continues next.opcode next.pc := by
  obtain ⟨opcode, done, _, executed, rfl, _⟩ := step_eq_ok stepped
  have same := execute_sameProgram executed
  simp only [advance, same.opcode, same.pc]
  exact (execute_continues executed).forget

/-- Noting the opcode before its instruction, and moving the program counter after it, is part
of no footprint.
-/
theorem Footprint.ofExecuted (footprint : Footprint { m with opcode := noted } opcode next)
    (flow : Flow)
    : Footprint m opcode (next.advance flow) where
  memory address inside changed := by
    cases footprint.memory address inside changed with
    | digit digits short => exact .digit digits short
    | register digits short => exact .register digits short
  registers := footprint.registers
  index := footprint.index
  stack := footprint.stack
  delay := footprint.delay
  sound := footprint.sound
  display := footprint.display
  pending := footprint.pending
  paused := footprint.paused
  random := footprint.random
  held := footprint.held
  name := footprint.name
  program := footprint.program

/-- A successful step fetches an opcode, continues where its digits say, and changes no part
of the machine that the opcode may not change.
Witness: the effect of the executed opcode, by cases on the table of the opcodes.
-/
theorem step_continues_within_footprint {request : Request}
    (stepped : m.step = (next, .ok request))
    : ∃ opcode,
        m.memory.fetch m.pc = .ok opcode
        ∧ m.Continues opcode next.pc
        ∧ Footprint m opcode next := by
  obtain ⟨opcode, done, fetched, executed, rfl, _⟩ := step_eq_ok stepped
  have continues := (execute_continues executed).forget
  have footprint := (execute_effect executed).footprint.ofExecuted done.flow
  refine ⟨opcode, fetched, ?_, footprint⟩
  have counter : done.machine.pc = m.pc := (execute_sameProgram executed).pc
  simp only [advance, counter]
  exact continues

/-- A machine about to store V0 and V1 from the last cell on, by an opcode in the last two
cells.
-/
def wrappingStore : Machine :=
  { powerOn { stream := fun _ => 0 } with
    memory := Memory.writeBlock {} 0xFFE [0xF1, 0x55]
    registers := Registers.set {} 1 0xAB
    index := 0xFFF
    pc := 0xFFE }

/-- The machine after the store. -/
def wrappingStored : Machine :=
  { wrappingStore with
    opcode := 0xF155
    memory := wrappingStore.memory.writeBlock 0xFFF [0x00, 0xAB]
    pc := 0x000 }

/-- The store continues at address zero and changes the last cell and the first one only. -/
theorem step_continues_within_footprint_wrapping
    : wrappingStore.step = (wrappingStored, .ok .nothing)
      ∧ wrappingStore.Continues 0xF155 0x000
      ∧ ∀ address < memorySize,
          address ≠ 0xFFF
          → address ≠ 0x000
          → wrappingStored.memory.read address = wrappingStore.memory.read address := by
  have fetched : wrappingStore.memory.fetch 0xFFE = .ok 0xF155 := by
    simp [wrappingStore, Memory.fetch_of_lt, Memory.writeBlock, Memory.read_write]
    decide
  have stepped : wrappingStore.step = (wrappingStored, .ok .nothing) := by
    rw [step_of_ok (m := wrappingStore) fetched]
    rfl
  obtain ⟨opcode, again, continues, footprint⟩ := step_continues_within_footprint stepped
  cases fetched.symm.trans again
  refine ⟨stepped, continues, ?_⟩
  intro address inside high low
  apply Decidable.byContradiction
  intro changed
  cases footprint.memory address inside changed with
  | digit digits => exact absurd digits (by decide)
  | @register offset digits short =>
    have few : offset ≤ 1 := short
    rcases Nat.le_one_iff_eq_zero_or_eq_one.mp few with rfl | rfl
    · exact high (by decide)
    · exact low (by decide)

end ChipEight.Machine
