import ChipEight.Proofs.Footprint
import ChipEight.Proofs.RandomStreams
import Mathlib.Data.Nat.ModEq

/-! The parts of a machine that no program can tell: the name, the last opcode, the program that
is kept for resets, the mark of the screen and the four highest bits of the index.
-/

namespace ChipEight

-----------------------------------------------------------------------------------------
-- Addresses and pixels
-----------------------------------------------------------------------------------------

namespace Memory

variable {start other : Nat}

theorem read_congr (same : other ≡ start [MOD memorySize]) (memory : Memory)
    : memory.read other = memory.read start := by
  have cell : other % memorySize = start % memorySize := same
  simp only [read, cell]

theorem write_congr (same : other ≡ start [MOD memorySize]) (memory : Memory) (byte : UInt8)
    : memory.write other byte = memory.write start byte := by
  have cell : other % memorySize = start % memorySize := same
  simp only [write, cell]

theorem readBlock_congr (same : other ≡ start [MOD memorySize]) (memory : Memory)
    (length : Nat)
    : memory.readBlock other length = memory.readBlock start length := by
  apply List.map_congr_left
  intro offset _
  exact read_congr (same.add_right offset) memory

/-- Where a block goes depends on its address modulo the size of memory, by induction on its
bytes.
-/
theorem writeBlock_congr (same : other ≡ start [MOD memorySize]) (memory : Memory)
    (bytes : List UInt8)
    : memory.writeBlock other bytes = memory.writeBlock start bytes := by
  induction bytes generalizing memory start other with
  | nil => rfl
  | cons byte rest ih =>
    rw [writeBlock, writeBlock, write_congr same, ih (same.add_right 1)]

end Memory

/-- What is drawn depends on the pixels only. -/
theorem Display.drawSprite_congr {display other : Display}
    (same : other.pixels = display.pixels) (x y : Int) (rows : List UInt8)
    : (other.drawSprite x y rows).1.pixels = (display.drawSprite x y rows).1.pixels
      ∧ (other.drawSprite x y rows).2 = (display.drawSprite x y rows).2 := by
  unfold drawSprite
  cases Sprite.cells x y rows with
  | nil => exact ⟨same, rfl⟩
  | cons place rest =>
    -- Behind the first pixel both screens are equal, the mark included.
    have first : other.toggle place.1 place.2 = display.toggle place.1 place.2 := by
      simp only [toggle, same]
    simp only [toggleAll, first, and_self]

/-- Steps, ticks, moves of the program counter and keys. -/
inductive Action.IsUse : Action → Prop
  | step : IsUse .step
  | cycle (count : Nat) : IsUse (.cycle count)
  | advance (flow : Flow) : IsUse (.advance flow)
  | setKey (key : Key) (down : Bool) : IsUse (.setKey key down)
  | pressKey (key : Nat) : IsUse (.pressKey key)

namespace Machine

-----------------------------------------------------------------------------------------
-- Machines that a program cannot tell apart
-----------------------------------------------------------------------------------------

/-- Two machines agree in everything that a program can tell. -/
structure SameWorkings (left right : Machine) : Prop where
  memory : right.memory = left.memory
  registers : right.registers = left.registers
  pc : right.pc = left.pc
  stack : right.stack = left.stack
  delay : right.delay = left.delay
  sound : right.sound = left.sound
  pixels : right.display.pixels = left.display.pixels
  keypad : right.keypad = left.keypad
  upcoming : right.random.upcoming = left.random.upcoming
  index : right.index.toNat ≡ left.index.toNat [MOD memorySize]

namespace SameWorkings

variable {left right : Machine}

theorem control (h : SameWorkings left right) : SameControl left right where
  memory := h.memory
  pc := h.pc
  stack := h.stack
  paused := congrArg Keypad.isWaiting h.keypad

theorem advance (h : SameWorkings left right) (flow : Flow)
    : SameWorkings (left.advance flow) (right.advance flow) :=
  { h with pc := congrArg flow.apply h.pc }

theorem withRegisters (h : SameWorkings left right) {registers others : Registers}
    (same : others = registers)
    : SameWorkings { left with registers } { right with registers := others } :=
  { h with registers := same }

theorem withDisplay (h : SameWorkings left right) {display other : Display}
    (same : other.pixels = display.pixels)
    : SameWorkings { left with display } { right with display := other } :=
  { h with pixels := same }

-----------------------------------------------------------------------------------------
-- Single instructions
-----------------------------------------------------------------------------------------

theorem indexBlock (h : SameWorkings left right) (length : Nat)
    : right.indexBlock length = left.indexBlock length := by
  rw [Machine.indexBlock, Machine.indexBlock, h.memory, Memory.readBlock_congr h.index]

theorem storeAtIndex (h : SameWorkings left right) (bytes : List UInt8)
    : SameWorkings (left.storeAtIndex bytes) (right.storeAtIndex bytes) :=
  { h with
    memory := by
      simp only [Machine.storeAtIndex, h.memory]
      exact Memory.writeBlock_congr h.index _ _ }

theorem loadFromIndex (h : SameWorkings left right) (x : Register)
    : SameWorkings (left.loadFromIndex x) (right.loadFromIndex x) := by
  have read (j : Fin registerCount)
      : right.memory.read (right.index.toNat + j.val)
        = left.memory.read (left.index.toNat + j.val) := by
    rw [h.memory, Memory.read_congr (h.index.add_right j.val)]
  unfold Machine.loadFromIndex
  apply h.withRegisters
  simp only [read, h.registers]

/-- The index wraps around at a multiple of the size of memory, so its lowest bits stay the same.
-/
theorem addToIndex (h : SameWorkings left right) (value : UInt8)
    : SameWorkings { left with index := left.index + value.toUInt16 }
        { right with index := right.index + value.toUInt16 } :=
  { h with
    index := by
      have same := h.index
      simp only [Nat.ModEq, memorySize, UInt16.toNat_add] at same ⊢
      omega }

theorem executeMisc (h : SameWorkings left right) (op : Misc) (x : Register)
    : SameWorkings (left.executeMisc op x).machine (right.executeMisc op x).machine := by
  have value : right.registers.get x = left.registers.get x := by rw [h.registers]
  cases op with
  | getDelay => exact h.withRegisters (by rw [h.registers, h.delay])
  | awaitKey => exact { h with keypad := congrArg (·.await x) h.keypad }
  | setDelay =>
    simp only [Machine.executeMisc, value]
    exact { h with delay := rfl }
  | setSound =>
    simp only [Machine.executeMisc, value]
    exact { h with sound := rfl }
  | addToIndex =>
    simp only [Machine.executeMisc, value]
    exact h.addToIndex _
  | pointToGlyph =>
    simp only [Machine.executeMisc, value]
    exact { h with index := rfl }
  | storeDigits | storeRegisters =>
    simp only [Machine.executeMisc, h.registers]
    exact h.storeAtIndex _
  | loadRegisters => exact h.loadFromIndex x

theorem executeDraw (h : SameWorkings left right) (x y : Register) (n : Fin 16)
    : SameWorkings (left.executeDraw x y n).machine (right.executeDraw x y n).machine := by
  simp only [Machine.executeDraw, h.registers, h.indexBlock]
  obtain ⟨pixels, lit⟩ := Display.drawSprite_congr h.pixels (left.registers.get x).toNat
    (left.registers.get y).toNat (left.indexBlock n.val)
  rw [lit]
  exact (h.withDisplay pixels).withRegisters rfl

theorem executeRandom (h : SameWorkings left right) (x : Register) (kk : UInt8)
    : SameWorkings (left.executeRandom x kk).machine (right.executeRandom x kk).machine := by
  have byte : right.random.next.1 = left.random.next.1 := congrFun h.upcoming 0
  have rest : right.random.next.2.upcoming = left.random.next.2.upcoming := by
    rw [RandomSource.upcoming_next_snd, RandomSource.upcoming_next_snd, h.upcoming]
  simp only [Machine.executeRandom, h.registers, byte]
  exact { h.withRegisters rfl with upcoming := rest }

/-- Both machines execute every instruction in the same way, by cases on the instruction. -/
theorem execute (h : SameWorkings left right) {instruction : Instruction} {done : Executed}
    (executed : left.execute instruction = .ok done)
    : ∃ other,
        right.execute instruction = .ok other
        ∧ SameWorkings done.machine other.machine
        ∧ other.flow = done.flow
        ∧ other.request = done.request := by
  cases instruction with
  | ret =>
    simp only [Machine.execute, h.stack] at executed ⊢
    split at executed <;> cases executed
    exact ⟨_, rfl, { h with stack := rfl }, rfl, rfl⟩
  | call nnn =>
    simp only [Machine.execute, h.stack, h.pc] at executed ⊢
    split at executed <;> cases executed
    exact ⟨_, rfl, { h with stack := rfl, pc := rfl }, rfl, rfl⟩
  | clear =>
    cases executed
    exact ⟨_, rfl, h.withDisplay rfl, rfl, rfl⟩
  | set | add | arithmetic =>
    cases executed
    exact ⟨_, rfl, h.withRegisters (by rw [h.registers]), rfl, rfl⟩
  | setIndex nnn =>
    cases executed
    exact ⟨_, rfl, { h with index := rfl }, rfl, rfl⟩
  | random x kk =>
    cases executed
    exact ⟨_, rfl, h.executeRandom x kk, rfl, rfl⟩
  | draw x y n =>
    cases executed
    exact ⟨_, rfl, h.executeDraw x y n, rfl, rfl⟩
  | misc op x =>
    cases executed
    refine ⟨_, rfl, h.executeMisc op x, ?_, ?_⟩
    all_goals cases op <;> rfl
  | skipEqual | skipNotEqual | skipSame | skipDifferent | jumpOffset =>
    cases executed
    exact ⟨_, rfl, h, by rw [h.registers], rfl⟩
  | skipHeld | skipNotHeld =>
    cases executed
    exact ⟨_, rfl, h, by rw [h.registers, h.keypad], rfl⟩
  | routine | jump | unassigned =>
    cases executed
    exact ⟨_, rfl, h, rfl, rfl⟩

-----------------------------------------------------------------------------------------
-- Whole runs
-----------------------------------------------------------------------------------------

/-- Machines with the same workings are in lockstep, whatever is still to be executed. -/
theorem lockstep : Lockstep fun _ => SameWorkings where
  control := control
  noted _ h := { h with }
  advanced flow h := h.advance flow
  executed h executed := h.execute executed

theorem countDown (h : SameWorkings left right)
    : SameWorkings left.countDown right.countDown := by
  unfold Machine.countDown
  rw [h.control.paused]
  split
  · exact h
  · exact { h with delay := congrArg Timer.tick h.delay, sound := congrArg Timer.tick h.sound }

theorem pressKey (h : SameWorkings left right) (key : Nat)
    : SameWorkings (left.pressKey key) (right.pressKey key) := by
  simp only [Machine.pressKey, h.keypad]
  split
  · exact { h with keypad := rfl }
  · exact { h with registers := by rw [h.registers], keypad := rfl }

end SameWorkings

/-- Both machines answer the operations of a run the same and stay alike, by cases on the
operation.
-/
theorem SameWorkings.act {left right : Machine} {later : List Opcode} {action : Action}
    (use : action.IsUse) (h : SameWorkings left right)
    : Tandem (fun _ => SameWorkings) later (left.act action) (right.act action)
        (left.log action) (right.log action) := by
  cases use with
  | step => exact (lockstep.step h).answering Answer.request
  | cycle count =>
    have tone {left right : Machine} (h : SameWorkings left right)
        : right.toneActive = left.toneActive := congrArg Timer.isActive h.sound
    exact (lockstep.cycle countDown tone h).answering Answer.tick
  | advance flow => exact ⟨⟨h.advance flow, rfl⟩, .nil⟩
  | setKey key down =>
    have keypad : (right.setKey key down).keypad = (left.setKey key down).keypad :=
      congrArg (·.setKey key down) h.keypad
    exact ⟨⟨{ h with keypad }, rfl⟩, .nil⟩
  | pressKey key => exact ⟨⟨h.pressKey key, rfl⟩, .nil⟩

/-- No program can tell the name, the last opcode, the program that is kept for resets, the mark
of the screen or the four highest bits of the index: machines that only differ in these answer
all steps, ticks, moves of the program counter and keys the same, and still only differ in
these afterwards.
Witness: such machines are in lockstep, by cases on the instruction.
-/
theorem hidden_parts_never_matter {left right : Machine} (h : SameWorkings left right)
    {actions : List Action} (uses : ∀ action ∈ actions, action.IsUse)
    : Alike SameWorkings (left.run actions) (right.run actions) := by
  have tandem : Tandem (fun _ => SameWorkings) [] (left.run actions) (right.run actions)
      (left.historyLog actions) (right.historyLog actions) :=
    Tandem.history (fun action member _ _ _ related => related.act (uses action member)) h
  exact tandem.alike

/-- The machine that is about to store from the last cell on, with an index that is a multiple of
the size of memory higher, and with other hidden parts.
-/
def wrappingTwin : Machine :=
  { wrappingStore with
    name := "twin"
    opcode := 0x00E0
    index := 0xFFFF
    display := wrappingStore.display.presented
    program := #[0xF1, 0x55] }

/-- Both machines make the same of a step, a key press and a tick. -/
theorem hidden_parts_never_matter_wrapping
    : SameWorkings wrappingStore wrappingTwin
      ∧ let actions := [.step, .pressKey 3, .cycle 10]
        (wrappingStore.run actions).2 = (wrappingTwin.run actions).2
        ∧ (wrappingTwin.run actions).1.memory = (wrappingStore.run actions).1.memory := by
  have twins : SameWorkings wrappingStore wrappingTwin :=
    ⟨rfl, rfl, rfl, rfl, rfl, rfl, rfl, rfl, rfl, rfl⟩
  have uses : ∀ action ∈ [.step, .pressKey 3, .cycle 10], Action.IsUse action := by
    simp [Action.IsUse.step, Action.IsUse.pressKey, Action.IsUse.cycle]
  obtain ⟨related, answers⟩ := hidden_parts_never_matter twins uses
  exact ⟨twins, answers, related.memory⟩

end Machine

end ChipEight
