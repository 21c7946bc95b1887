import ChipEight.Proofs.Effects
import ChipEight.Proofs.SpriteParity

/-! What the draw instruction does: it flips exactly the pixels of its sprite, tells by VF
whether one of them was lit, and leaves the other registers, the index and memory alone.
-/

namespace ChipEight.Machine

/-- The sprite of a draw instruction has a bit on a pixel: a set bit in one of its bytes from
the index on, as far right and down of the position in VX and VY as the pixel. All three wrap
around.
-/
def DrawsOn (m : Machine) (opcode : Opcode) (column : Fin screenWidth)
    (row : Fin screenHeight)
    : Prop :=
  ∃ i < opcode.n.val, ∃ j < 8,
    column.val = ((m.registers.get opcode.x).toNat + j) % 64
    ∧ row.val = ((m.registers.get opcode.y).toNat + i) % 32
    ∧ (m.memory.read ((m.index.toNat + i) % 4096)).toNat.testBit (7 - j) = true

/-- The machine after a draw instruction, up to its program counter. -/
structure DrawsSprite (m : Machine) (opcode : Opcode) (next : Machine) : Prop where
  flipped
    : ∀ column row,
        next.display.pixel column row ≠ m.display.pixel column row
        ↔ m.DrawsOn opcode column row
  collided
    : next.registers.get Registers.flag = 1
      ↔ ∃ column row, m.DrawsOn opcode column row ∧ m.display.pixel column row = true
  missed
    : next.registers.get Registers.flag = 0
      ↔ ¬∃ column row, m.DrawsOn opcode column row ∧ m.display.pixel column row = true
  registers : ∀ r, r ≠ Registers.flag → next.registers.get r = m.registers.get r
  index : next.index = m.index
  memory : next.memory = m.memory

/-- The sprite of a draw instruction at its place. -/
def sprite (m : Machine) (opcode : Opcode) : PlacedSprite where
  x := (m.registers.get opcode.x).toNat
  y := (m.registers.get opcode.y).toNat
  rows := m.indexBlock opcode.n.val

theorem length_rows_sprite (m : Machine) (opcode : Opcode)
    : (m.sprite opcode).rows.length = opcode.n.val :=
  Memory.length_readBlock _ _ _

theorem isSet_sprite_iff {m : Machine} {opcode : Opcode} {i j : Nat}
    : (m.sprite opcode).IsSet i j
      ↔ i < opcode.n.val
        ∧ j < 8
        ∧ (m.memory.read (m.index.toNat + i)).toNat.testBit (7 - j) = true := by
  by_cases inside : i < opcode.n.val
  · simp [PlacedSprite.IsSet, sprite, indexBlock, Memory.readBlock, inside]
  · simp [PlacedSprite.IsSet, sprite, indexBlock, Memory.readBlock, inside]

theorem lands_sprite_iff {m : Machine} {opcode : Opcode} {i j : Nat}
    {column : Fin screenWidth} {row : Fin screenHeight}
    : (m.sprite opcode).Lands i j column row
      ↔ column.val = ((m.registers.get opcode.x).toNat + j) % 64
        ∧ row.val = ((m.registers.get opcode.y).toNat + i) % 32 := by
  simp only [PlacedSprite.Lands, Display.OnPixel, sprite]
  omega

/-- The pixels of a draw instruction are those that a set bit of its sprite lands on. -/
theorem drawsOn_iff {m : Machine} {opcode : Opcode} {column : Fin screenWidth}
    {row : Fin screenHeight}
    : m.DrawsOn opcode column row
      ↔ ∃ i j, (m.sprite opcode).IsSet i j ∧ (m.sprite opcode).Lands i j column row := by
  simp only [DrawsOn, isSet_sprite_iff, lands_sprite_iff, Memory.read_mod]
  constructor
  · rintro ⟨i, few, j, inside, across, down, set⟩
    exact ⟨i, j, ⟨few, inside, set⟩, across, down⟩
  · rintro ⟨i, j, ⟨few, inside, set⟩, across, down⟩
    exact ⟨i, few, j, inside, across, down, set⟩

/-- The machine after a draw instruction, before its program counter moves. -/
def drawn (m : Machine) (opcode : Opcode) : Machine :=
  { m with
    display := (m.display.draw (m.sprite opcode)).1
    registers :=
      m.registers.set Registers.flag (m.display.draw (m.sprite opcode)).2.toUInt8 }

theorem execute_of_draw (m : Machine) {opcode : Opcode} (family : opcode.family = 0xD)
    : m.execute (.decode opcode) = .ok { machine := m.drawn opcode, request := .redraw } := by
  have decoded : Instruction.decode opcode = .draw opcode.x opcode.y opcode.n := by
    simp [Instruction.decode, family]
  rw [decoded]
  rfl

/-- Drawing flips what the sprite has a bit on. Witness: the sprite of an instruction is too low
to overlay itself, so each of its pixels is hit once.
-/
theorem drawsSprite_drawn (m : Machine) (opcode : Opcode)
    : m.DrawsSprite opcode (m.drawn opcode) := by
  have low : (m.sprite opcode).rows.length ≤ 32 := by
    have := opcode.n.isLt
    rw [length_rows_sprite]
    omega
  have lit : (m.display.draw (m.sprite opcode)).2 = true
      ↔ ∃ column row, m.DrawsOn opcode column row ∧ m.display.pixel column row = true := by
    simp only [Display.draw_collides_iff_of_low low, drawsOn_iff]
    constructor
    · rintro ⟨i, j, column, row, set, lands, lit⟩
      exact ⟨column, row, ⟨i, j, set, lands⟩, lit⟩
    · rintro ⟨column, row, ⟨i, j, set, lands⟩, lit⟩
      exact ⟨i, j, column, row, set, lands, lit⟩
  refine ⟨?_, ?_, ?_, ?_, rfl, rfl⟩
  · intro column row
    have once := (m.sprite opcode).hits_le_one low column row
    rw [drawsOn_iff, ← PlacedSprite.hits_pos_iff, drawn, Display.pixel_draw]
    rcases Nat.le_one_iff_eq_zero_or_eq_one.mp once with none | one
    · simp [none]
    · simp [one]
  · rw [← lit, drawn, Registers.get_set, if_pos rfl]
    cases (m.display.draw (m.sprite opcode)).2 <;> decide
  · rw [← lit, drawn, Registers.get_set, if_pos rfl]
    cases (m.display.draw (m.sprite opcode)).2 <;> decide
  · intro r other
    rw [drawn, Registers.get_set, if_neg (Ne.symm other)]

/-- Where the program counter stands and which opcode was noted before does not matter. -/
theorem DrawsSprite.ofExecuted {m next : Machine} {opcode noted : Opcode}
    (draws : DrawsSprite { m with opcode := noted } opcode next) (flow : Flow)
    : m.DrawsSprite opcode (next.advance flow) where
  flipped := draws.flipped
  collided := draws.collided
  missed := draws.missed
  registers := draws.registers
  index := draws.index
  memory := draws.memory

theorem Runs.drawsSprite {m : Machine} {opcode : Opcode} {result : Machine × Except Fault Request}
    (runs : m.Runs opcode result) (family : opcode.family = 0xD)
    : ∃ next, result = (next, .ok .redraw) ∧ m.DrawsSprite opcode next := by
  obtain ⟨noted, rfl⟩ := runs.eq_perform
  have draws := drawsSprite_drawn { m with opcode := noted } opcode
  exact ⟨_, perform_of_ok (execute_of_draw _ family), draws.ofExecuted .next⟩

/-- A draw instruction flips exactly the pixels that its sprite has a bit on and tells by VF
whether one of them was lit, in every machine and with every choice of its registers, VF among
them. It can not be refused, asks for a redraw, and keeps the other registers, the index and
memory. A step that fetches it does all of this.
Witness: no two bits of a sprite of at most fifteen rows land on one pixel.
-/
theorem draw_flips_its_sprite (m : Machine) {opcode : Opcode} (family : opcode.family = 0xD)
    : (∃ next,
        m.perform (.decode opcode) = (next, .ok .redraw) ∧ m.DrawsSprite opcode next)
      ∧ (m.memory.fetch m.pc = .ok opcode
        → ∃ next, m.step = (next, .ok .redraw) ∧ m.DrawsSprite opcode next) := by
  constructor
  · exact ⟨_, perform_of_ok (execute_of_draw m family),
      (drawsSprite_drawn m opcode).ofExecuted .next⟩
  · intro fetched
    have performed := perform_of_ok (execute_of_draw { m with opcode } family)
    exact ⟨_, (step_of_ok fetched).trans performed,
      (drawsSprite_drawn { m with opcode } opcode).ofExecuted .next⟩

/-- A machine about to draw two bytes across the end of memory, at a position that is partly held
in VF, over the right and the lower edge. One pixel of the first row is lit.
-/
def cornerDrawer : Machine :=
  { powerOn { stream := fun _ => 0 } with
    memory := Memory.writeBlock (Memory.writeBlock {} 0x200 [0xDF, 0xE2]) 0xFFF [0x81, 0x80]
    registers := (Registers.set {} 0xF 62).set 0xE 31
    index := 0xFFF
    display := (Display.toggle {} 5 31).1 }

/-- The lit pixel goes out and VF loses its coordinate to the collision; the second row appears
at the top.
-/
theorem draw_flips_its_sprite_corner
    : cornerDrawer.memory.fetch cornerDrawer.pc = .ok 0xDFE2
      ∧ Opcode.family 0xDFE2 = 0xD
      ∧ ∃ next,
          cornerDrawer.step = (next, .ok .redraw)
          ∧ next.registers.get Registers.flag = 1
          ∧ next.display.pixel 5 31 ≠ cornerDrawer.display.pixel 5 31
          ∧ next.display.pixel 62 0 ≠ cornerDrawer.display.pixel 62 0
          ∧ next.display.pixel 62 1 = cornerDrawer.display.pixel 62 1 := by
  have fetched : cornerDrawer.memory.fetch cornerDrawer.pc = .ok 0xDFE2 := by
    simp [cornerDrawer, powerOn, Memory.fetch_of_lt, Memory.writeBlock, Memory.read_write]
    decide
  have family : Opcode.family 0xDFE2 = 0xD := by decide
  obtain ⟨next, stepped, draws⟩ := (draw_flips_its_sprite cornerDrawer family).2 fetched
  have digits : Opcode.x 0xDFE2 = 0xF ∧ Opcode.y 0xDFE2 = 0xE ∧ (Opcode.n 0xDFE2).val = 2 := by
    decide
  have left : cornerDrawer.registers.get 0xF = 62 := by
    simp [cornerDrawer]
  have top : cornerDrawer.registers.get 0xE = 31 := by
    simp [cornerDrawer]
  have first : cornerDrawer.memory.read 0xFFF = 0x81 := by
    simp [cornerDrawer, Memory.writeBlock, Memory.read_write]
  have second : cornerDrawer.memory.read 0x000 = 0x80 := by
    simp [cornerDrawer, Memory.writeBlock, Memory.read_write]
  have lit : cornerDrawer.display.pixel 5 31 = true := by
    rw [cornerDrawer, Display.pixel_toggle, decide_eq_true (by decide)]
    simp [Display.pixel]
  have upper : cornerDrawer.DrawsOn 0xDFE2 5 31 := by
    refine ⟨0, by decide, 7, by decide, ?_⟩
    have last : (cornerDrawer.index.toNat + 0) % 4096 = 0xFFF := rfl
    rw [digits.1, digits.2.1, left, top, last, first]
    decide
  have lower : cornerDrawer.DrawsOn 0xDFE2 62 0 := by
    refine ⟨1, by decide, 0, by decide, ?_⟩
    have behind : (cornerDrawer.index.toNat + 1) % 4096 = 0x000 := rfl
    rw [digits.1, digits.2.1, left, top, behind, second]
    decide
  have outside : ¬cornerDrawer.DrawsOn 0xDFE2 62 1 := by
    rintro ⟨i, few, _, _, _, down, _⟩
    rw [digits.2.2] at few
    rw [digits.2.1, top] at down
    have apart : ∀ i < 2, ¬1 = (31 + i) % 32 := by decide
    exact apart i few down
  exact ⟨fetched, family, next, stepped, draws.collided.mpr ⟨5, 31, upper, lit⟩,
    (draws.flipped 5 31).mpr upper, (draws.flipped 62 0).mpr lower,
    not_not.mp (mt (draws.flipped 62 1).mp outside)⟩

end ChipEight.Machine
