import ChipEight.Proofs.Lockstep

/-! Of its random source, a machine only sees the bytes that its random instructions take, and
of those only the bits under their masks: two machines that differ in nothing else answer every
history the same.
-/

namespace ChipEight

namespace RandomSource

/-- The bytes that are still to come. -/
def upcoming (source : RandomSource) (i : Nat) : UInt8 :=
  source.stream (source.taken + i)

/-- After a byte was taken, the ones behind it are to come. -/
theorem upcoming_next_snd (source : RandomSource)
    : source.next.2.upcoming = fun i => source.upcoming (i + 1) := by
  funext i
  simp only [next, upcoming, Nat.add_assoc, Nat.add_comm 1]

end RandomSource

/-- The masks of the random instructions among some opcodes, in turn. -/
def randomMasks (ops : List Opcode) : List UInt8 :=
  (ops.filter (·.family = 0xC)).map Opcode.kk

theorem randomMasks_cons_of_eq {opcode : Opcode} (family : opcode.family = 0xC)
    (ops : List Opcode)
    : randomMasks (opcode :: ops) = opcode.kk :: randomMasks ops := by
  simp [randomMasks, family]

theorem randomMasks_cons_of_ne {opcode : Opcode} (family : opcode.family ≠ 0xC)
    (ops : List Opcode)
    : randomMasks (opcode :: ops) = randomMasks ops := by
  simp [randomMasks, family]

namespace Machine

-----------------------------------------------------------------------------------------
-- What an instruction does to the random source
-----------------------------------------------------------------------------------------

/-- A random instruction takes a byte and puts it under its mask. -/
theorem execute_of_random (m : Machine) {opcode : Opcode} (family : opcode.family = 0xC)
    : m.execute (.decode opcode) = .ok (m.executeRandom opcode.x opcode.kk) := by
  rw [Instruction.decode_eq_random_iff.mpr ⟨family, rfl, rfl⟩]
  rfl

/-- Every other instruction leaves the random source alone. -/
theorem random_execute {m : Machine} {opcode : Opcode} {done : Executed}
    (executed : m.execute (.decode opcode) = .ok done) (family : opcode.family ≠ 0xC)
    : done.machine.random = m.random := by
  have effect := execute_effect executed
  generalize done.machine = next at effect ⊢
  generalize done.request = request at effect
  cases effect with
  | random taking => exact absurd taking family
  | _ => rfl

-----------------------------------------------------------------------------------------
-- Machines with different random sources
-----------------------------------------------------------------------------------------

/-- Two machines are equal but for their random sources. -/
def SameButRandom (left right : Machine) : Prop :=
  right = { left with random := right.random }

namespace SameButRandom

variable {left right : Machine}

/-- What does not depend on the random source is the same in both machines. -/
theorem same (h : SameButRandom left right) {α : Type} (view : Machine → α)
    (apart : ∀ m random, view { m with random } = view m)
    : view right = view left := by
  rw [h, apart]

/-- Instructions but the random ones are executed by both machines in the same way, by cases on
the instruction.
-/
theorem execute (h : SameButRandom left right) {instruction : Instruction} {done : Executed}
    (other : ∀ x kk, instruction ≠ .random x kk)
    (executed : left.execute instruction = .ok done)
    : ∃ also,
        right.execute instruction = .ok also
        ∧ SameButRandom done.machine also.machine
        ∧ also.flow = done.flow
        ∧ also.request = done.request := by
  unfold SameButRandom at h
  generalize right.random = source at h
  subst h
  cases instruction with
  | ret | call nnn =>
    simp only [Machine.execute] at executed ⊢
    split at executed <;> cases executed
    exact ⟨_, rfl, rfl, rfl, rfl⟩
  | random x kk => exact absurd rfl (other x kk)
  | misc op x =>
    cases executed
    refine ⟨_, rfl, ?_, ?_, ?_⟩
    all_goals cases op <;> simp only [SameButRandom, executeMisc, storeAtIndex, loadFromIndex]
  | _ =>
    cases executed
    exact ⟨_, rfl, rfl, rfl, rfl⟩

end SameButRandom

/-- Two machines are equal but for their random sources, and the random instructions among the
opcodes that are still to be executed will take the same bits from both.
-/
structure SameDraws (ops : List Opcode) (left right : Machine) : Prop where
  others : SameButRandom left right
  bytes
    : ∀ {i mask},
        (randomMasks ops)[i]? = some mask
        → right.random.upcoming i &&& mask = left.random.upcoming i &&& mask

namespace SameDraws

variable {ops : List Opcode} {left right : Machine}

/-- Operations that neither read nor change the random source keep what will be taken. -/
theorem lift (h : SameDraws ops left right) (change : Machine → Machine)
    (apart : ∀ m random, change { m with random } = { change m with random })
    : SameDraws ops (change left) (change right) := by
  have kept (m : Machine) : (change m).random = m.random := by
    have same : change m = { change m with random := m.random } := apart m m.random
    rw [same]
  refine ⟨?_, ?_⟩
  · rw [SameButRandom, kept right, ← apart, ← h.others]
  · intro i mask masked
    rw [kept left, kept right]
    exact h.bytes masked

theorem control (h : SameDraws ops left right) : SameControl left right where
  memory := h.others.same Machine.memory fun _ _ => rfl
  pc := h.others.same Machine.pc fun _ _ => rfl
  stack := h.others.same Machine.stack fun _ _ => rfl
  paused := h.others.same isPaused fun _ _ => rfl

/-- The bits that a random instruction takes are the same, and so are those that are taken after
it.
-/
theorem executeRandom {opcode : Opcode} (family : opcode.family = 0xC)
    (h : SameDraws (opcode :: ops) left right)
    : SameDraws ops (left.executeRandom opcode.x opcode.kk).machine
        (right.executeRandom opcode.x opcode.kk).machine := by
  have masks := randomMasks_cons_of_eq family ops
  have first : right.random.next.1 &&& opcode.kk = left.random.next.1 &&& opcode.kk :=
    h.bytes (by rw [masks, List.getElem?_cons_zero])
  refine ⟨?_, ?_⟩
  · have others := h.others
    unfold SameButRandom at others ⊢
    generalize right.random = source at others first
    subst others
    simp only [Machine.executeRandom, first]
  · intro i mask masked
    have later := h.bytes (i := i + 1) (by rw [masks, List.getElem?_cons_succ, masked])
    simp only [Machine.executeRandom, RandomSource.upcoming_next_snd]
    exact later

/-- Machines from which the same bits will be taken are in lockstep. -/
theorem lockstep : Lockstep SameDraws where
  control := control
  noted opcode h := h.lift (fun m => { m with opcode }) fun _ _ => rfl
  advanced flow h := h.lift (·.advance flow) fun _ _ => rfl
  executed := by
    intro ops left right opcode done h executed
    by_cases family : opcode.family = 0xC
    · rw [execute_of_random _ family] at executed
      cases executed
      exact ⟨_, execute_of_random _ family, executeRandom family h, rfl, rfl⟩
    · have other : ∀ x kk, Instruction.decode opcode ≠ .random x kk :=
        fun _ _ decoded => family (Instruction.decode_eq_random_iff.mp decoded).1
      obtain ⟨also, executes, others, flow, request⟩ := h.others.execute other executed
      refine ⟨also, executes, ⟨others, ?_⟩, flow, request⟩
      intro i mask masked
      rw [random_execute executed family, random_execute executes family]
      exact h.bytes (by rw [randomMasks_cons_of_ne family, masked])

theorem countDown (h : SameDraws ops left right)
    : SameDraws ops left.countDown right.countDown := by
  apply h.lift
  intro m random
  have paused : ({ m with random } : Machine).isPaused = m.isPaused := rfl
  unfold Machine.countDown
  rw [paused]
  split <;> rfl

theorem pressKey (h : SameDraws ops left right) (key : Nat)
    : SameDraws ops (left.pressKey key) (right.pressKey key) := by
  apply h.lift (·.pressKey key)
  intro m random
  simp only [Machine.pressKey]
  split <;> rfl

/-- Loading is alike, because what is refused depends on the program only. -/
theorem act_loadProgram (h : SameDraws ops left right) (data : Array UInt8)
    : Alike (SameDraws ops) (left.act (.loadProgram data))
        (right.act (.loadProgram data)) := by
  let loaded (m : Machine) : Machine :=
    { m with memory := m.memory.withProgram data, program := data }
  simp only [Machine.act, loadProgram_eq]
  split
  · exact ⟨h.lift loaded fun _ _ => rfl, rfl⟩
  · exact ⟨h, rfl⟩

theorem act_loadRom (h : SameDraws ops left right) (rom : Rom)
    : Alike (SameDraws ops) (left.act (.loadRom rom)) (right.act (.loadRom rom)) := by
  let loaded (m : Machine) : Machine :=
    { m with name := rom.name, memory := m.memory.withProgram rom.data, program := rom.data }
  simp only [Machine.act, loadRom_eq]
  split
  · exact ⟨h.lift loaded fun _ _ => rfl, rfl⟩
  · exact ⟨h, rfl⟩

/-- Every operation is alike, by cases on the operation. -/
theorem act {later : List Opcode} {action : Action}
    (h : SameDraws (opcodes (left.log action) ++ later) left right)
    : Tandem SameDraws later (left.act action) (right.act action) (left.log action)
        (right.log action) := by
  have display := h.others.same Machine.display fun _ _ => rfl
  cases action with
  | step => exact (lockstep.step h).answering Answer.request
  | cycle count =>
    have tone {ops : List Opcode} {left right : Machine} (h : SameDraws ops left right)
        : right.toneActive = left.toneActive := h.others.same toneActive fun _ _ => rfl
    exact (lockstep.cycle countDown tone h).answering Answer.tick
  | perform opcode => exact (lockstep.perform h).answering Answer.request
  | loadProgram data => exact ⟨h.act_loadProgram data, .nil⟩
  | loadRom rom => exact ⟨h.act_loadRom rom, .nil⟩
  | pressKey key => exact ⟨⟨h.pressKey key, rfl⟩, .nil⟩
  | advance flow => exact ⟨⟨h.lift (·.advance flow) fun _ _ => rfl, rfl⟩, .nil⟩
  | loadGlyphs => exact ⟨⟨h.lift (·.loadGlyphs) fun _ _ => rfl, rfl⟩, .nil⟩
  | reset => exact ⟨⟨h.lift (·.reset) fun _ _ => rfl, rfl⟩, .nil⟩
  | setKey key down => exact ⟨⟨h.lift (·.setKey key down) fun _ _ => rfl, rfl⟩, .nil⟩
  | toggle | drawSprite | clear | present =>
    refine ⟨?_, .nil⟩
    simp only [Machine.act, display]
    exact ⟨h.lift (·.withDisplay _) fun _ _ => rfl, rfl⟩

theorem run {actions : List Action} {later : List Opcode}
    (h : SameDraws (opcodes (left.historyLog actions) ++ later) left right)
    : Tandem SameDraws later (left.run actions) (right.run actions)
        (left.historyLog actions) (right.historyLog actions) :=
  Tandem.history (fun _ _ _ _ _ => act) h

end SameDraws

-----------------------------------------------------------------------------------------
-- Machines whose random sources give the same bytes
-----------------------------------------------------------------------------------------

/-- Two machines are equal but for their random sources, which will give the same bytes. -/
structure SameCourse (left right : Machine) : Prop where
  upcoming : right.random.upcoming = left.random.upcoming
  others : right = { left with random := right.random }

/-- The same bytes will be given exactly if the same bits will be taken by whatever is executed.
-/
theorem sameCourse_iff {left right : Machine}
    : SameCourse left right ↔ ∀ ops, SameDraws ops left right := by
  constructor
  · rintro ⟨upcoming, others⟩ ops
    exact ⟨others, fun _ => by rw [upcoming]⟩
  · intro draws
    refine ⟨?_, (draws []).others⟩
    funext i
    have all (byte : UInt8) : byte &&& 0xFF = byte := UInt8.and_neg_one
    have whole : (randomMasks (List.replicate (i + 1) 0xC0FF))[i]? = some 0xFF := by
      have family : Opcode.family 0xC0FF = 0xC := by decide
      have kk : Opcode.kk 0xC0FF = 0xFF := by decide
      simp [randomMasks, family, kk]
    rw [← all (right.random.upcoming i), (draws _).bytes whole, all]

theorem SameCourse.run {left right : Machine} (h : SameCourse left right)
    (actions : List Action)
    : Alike SameCourse (left.run actions) (right.run actions) := by
  have alike (later : List Opcode)
      : Alike (SameDraws later) (left.run actions) (right.run actions) :=
    (SameDraws.run (sameCourse_iff.mp h _)).alike
  refine ⟨sameCourse_iff.mpr fun later => (alike later).related, ?_⟩
  exact (alike []).answer

end Machine

end ChipEight
