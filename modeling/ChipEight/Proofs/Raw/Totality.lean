import ChipEight.Proofs.Raw.Agreement

/-! On plain arrays and words no history makes a check fail, and every state that it passes
through is well formed.
-/

namespace ChipEight

namespace Raw.Machine

/-- What every state keeps: the sizes of the arrays, the bounds of what is used as an index or
as an address, bytes of pixels that are zero or one, and a pause exactly as long as a register
waits for a key press.
-/
structure WellFormed (m : Machine) : Prop where
  memory : m.memory.size = memorySize
  registers : m.registers.size = registerCount
  pixels : m.display.pixels.size = screenArea
  held : m.keypad.held.size = keyCount
  pc : m.pc < memorySize
  depth : m.stack.size ≤ stackCapacity
  addresses : ∀ address ∈ m.stack, 2 ≤ address ∧ address ≤ 0x1001
  program : m.program.size ≤ 3584
  bits : ∀ pixel ∈ m.display.pixels, pixel = 0 ∨ pixel = 1
  pending : ∀ register, m.keypad.pending = some register → register < 16
  paused : m.paused = true ↔ m.keypad.pending.isSome = true

end Raw.Machine

namespace Machine

/-- The layout of a machine that keeps its bounds is well formed. -/
theorem Bounded.wellFormed {m : Machine} (bounded : m.Bounded) : m.layout.WellFormed where
  memory := by simp [layout]
  registers := by simp [layout]
  pixels := by simp [layout, Display.layout]
  held := by simp [layout, Keypad.layout]
  pc := bounded.pc
  depth := by simpa [layout, CallStack.toList, CallStack.depth] using bounded.depth
  addresses := by
    intro address member
    exact bounded.entries address (by simpa [layout, CallStack.toList] using member)
  program := bounded.program
  bits := by
    intro pixel member
    simp only [layout, Display.layout, Vector.mem_toArray_iff, Vector.mem_map] at member
    obtain ⟨lit, _, rfl⟩ := member
    cases lit
    · exact .inl rfl
    · exact .inr rfl
  pending := by
    intro register waits
    simp only [layout, Keypad.layout, Option.map_eq_some_iff] at waits
    obtain ⟨x, _, rfl⟩ := waits
    exact x.isLt
  paused := by
    simp [layout, Keypad.layout, isPaused, Keypad.isWaiting]

/-- A machine that starts with a program is reachable: it is switched on and loads it. -/
theorem Reachable.start {rom : Rom} {random : RandomSource} {m : Machine}
    (started : start rom random = .ok m)
    : m.Reachable := by
  have loaded := (Reachable.powerOn random).act (.loadRom rom)
  have same : ((Machine.powerOn random).act (.loadRom rom)).1 = m := by
    rw [Machine.act, show (Machine.powerOn random).loadRom rom = .ok m from started]
    rfl
  rwa [same] at loaded

/-- On plain arrays and words, switching on and starting with a program always have a result,
and so has every history after it whose coordinates fit, also after operations that failed. It
ends in a well formed state, which is the layout of what the machine makes of the history.
Witness: agreement with the machine under its bounds, by induction on the history.
-/
theorem checks_never_fail (random : RandomSource) (rom : Rom)
    : ∃ on loading,
        Raw.Machine.powerOn? random = some on
        ∧ Raw.Machine.start? rom random = some loading
        ∧ ∀ first,
            first = on ∨ loading = .ok first
            → ∀ history,
                (∀ action ∈ history, action.Fits)
                → ∃ last answers,
                    first.run? history = some (last, answers)
                    ∧ last.WellFormed
                    ∧ ∃ m : Machine,
                        m.Reachable
                        ∧ first = m.layout
                        ∧ last = (m.run history).1.layout
                        ∧ answers = (m.run history).2 := by
  refine ⟨_, _, powerOn?_layout random, start?_layout rom random, ?_⟩
  intro first origin history fits
  have laidOut : ∃ m : Machine, m.Reachable ∧ first = m.layout := by
    rcases origin with rfl | loaded
    · exact ⟨_, .powerOn random, rfl⟩
    · cases started : start rom random with
      | error e =>
        rw [started] at loaded
        cases loaded
      | ok m =>
        rw [started] at loaded
        cases loaded
        exact ⟨m, .start started, rfl⟩
  obtain ⟨m, reachable, rfl⟩ := laidOut
  have kept : (m.run history).1.Bounded := (reachable.run history).bounded
  exact ⟨_, _, run?_layout reachable.bounded fits, kept.wellFormed, m, reachable, rfl, rfl, rfl⟩

/-- A return outside of any call, a fetch from the last cell, a program that is too long, a key
outside of the keypad, and a sprite that is drawn across two edges.
-/
def roughHistory : List Action :=
  [ .perform 0x00EE,
    .advance (.jump 0xFFFF),
    .step,
    .cycle 10,
    .loadProgram (Array.replicate 4096 0xFF),
    .perform 0xFF0A,
    .pressKey 0x1234,
    .drawSprite (-4) 0x7FFFFFFE [0xFF, 0x81] ]

/-- The rough history has a result on the machine that was just switched on. -/
theorem checks_never_fail_roughHistory
    : ∃ on last answers,
        Raw.Machine.powerOn? { stream := fun _ => 0 } = some on
        ∧ on.run? roughHistory = some (last, answers)
        ∧ last.WellFormed := by
  obtain ⟨on, loading, switched, _, total⟩ :=
    checks_never_fail { stream := fun _ => 0 } { name := "", data := #[] }
  have fits : ∀ action ∈ roughHistory, action.Fits := by
    simp only [roughHistory, List.forall_mem_cons, Action.Fits]
    refine ⟨trivial, trivial, trivial, trivial, trivial, trivial, trivial, ?_, by simp⟩
    exact Sprite.fits_of_corners (by simp) (by simp) (by simp) (by simp) (by simp)
  obtain ⟨last, answers, ran, wellFormed, _⟩ := total on (.inl rfl) roughHistory fits
  exact ⟨on, last, answers, switched, ran, wellFormed⟩

end Machine

end ChipEight
