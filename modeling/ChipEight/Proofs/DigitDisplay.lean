import ChipEight.Proofs.RegisterTransfer
import ChipEight.Proofs.SpriteDrawing

/-! How a program shows a number. The decimal digits of a register go to memory and from there
into V0 to V2; each of them points the index at its glyph, and the glyph is drawn.
-/

namespace ChipEight

-----------------------------------------------------------------------------------------
-- Glyphs in memory
-----------------------------------------------------------------------------------------

/-- The rows of the glyph of a digit. -/
def glyph (digit : Nat) : List UInt8 :=
  (glyphs.drop (glyphSize * digit)).take glyphSize

/-- The glyphs of all digits are at their place. -/
def Memory.HoldsGlyphs (memory : Memory) : Prop :=
  memory.readBlock glyphStart glyphs.length = glyphs

namespace Memory

/-- Glyphs stay as long as their cells do. -/
theorem HoldsGlyphs.of_read {memory other : Memory} (holds : memory.HoldsGlyphs)
    (same : ∀ address < glyphs.length, other.read address = memory.read address)
    : other.HoldsGlyphs := by
  refine Eq.trans ?_ holds
  apply List.map_congr_left
  intro offset inside
  rw [Nat.zero_add]
  exact same offset (List.mem_range.mp inside)

/-- The glyph of a digit is a block of its own. -/
theorem HoldsGlyphs.readBlock_glyph {memory : Memory} (holds : memory.HoldsGlyphs)
    {digit : Nat} (inside : digit < 16)
    : memory.readBlock (glyphSize * digit) glyphSize = glyph digit := by
  have room : glyphSize * digit + glyphSize ≤ glyphs.length := by
    change glyphSize * digit + glyphSize ≤ 80
    simp only [glyphSize]
    omega
  have block := @take_drop_readBlock memory glyphStart _ _ _ room
  rw [holds, glyphStart, Nat.zero_add] at block
  exact block.symm

theorem holdsGlyphs_withGlyphs (memory : Memory) : memory.withGlyphs.HoldsGlyphs := by
  apply List.ext_getElem
  · rw [length_readBlock]
  · intro i _ inside
    apply Option.some.inj
    rw [← List.getElem?_eq_getElem, getElem?_readBlock inside, withGlyphs,
      read_writeBlock inside (by decide)]

/-- A program that fits behind the glyphs leaves them alone. -/
theorem holdsGlyphs_image {program : Array UInt8} (fits : program.size ≤ programCapacity)
    : (image program).HoldsGlyphs := by
  refine (holdsGlyphs_withGlyphs {}).of_read ?_
  intro address low
  refine read_writeBlock_of_ne ?_
  intro offset inside
  change address < 80 at low
  rw [Array.length_toList] at inside
  simp only [programCapacity, programStart, memorySize] at fits ⊢
  omega

end Memory

namespace Machine

-----------------------------------------------------------------------------------------
-- Numbers as digits
-----------------------------------------------------------------------------------------

theorem decimalDigits_sum (value : UInt8)
    : 100 * (value / 100).toNat + 10 * (value / 10 % 10).toNat + (value % 10).toNat
      = value.toNat := by
  rw [UInt8.toNat_mod, UInt8.toNat_mod, UInt8.toNat_div, UInt8.toNat_div]
  change 100 * (value.toNat / 100) + 10 * (value.toNat / 10 % 10) + value.toNat % 10 = _
  omega

theorem decimalDigits_le (value : UInt8) : ∀ digit ∈ decimalDigits value, digit.toNat ≤ 9 := by
  have := value.toNat_lt
  have hundreds : (value / 100).toNat ≤ 9 := by
    rw [UInt8.toNat_div]
    change value.toNat / 100 ≤ 9
    omega
  have below (other : UInt8) : (other % 10).toNat ≤ 9 := by
    rw [UInt8.toNat_mod]
    change other.toNat % 10 ≤ 9
    omega
  intro digit member
  simp only [decimalDigits, List.mem_cons, List.not_mem_nil, or_false] at member
  rcases member with rfl | rfl | rfl
  · exact hundreds
  · exact below (value / 10)
  · exact below value

/-- V0 to V2 hold the decimal digits of a number. -/
structure HoldsDigits (m : Machine) (value : Nat) : Prop where
  small : ∀ d : Register, d.val < 3 → (m.registers.get d).toNat ≤ 9
  sum
    : 100 * (m.registers.get 0).toNat
        + 10 * (m.registers.get 1).toNat
        + (m.registers.get 2).toNat
      = value

variable {m : Machine} {opcode : Opcode} {result : Machine × Except Fault Request}

/-- Splitting a number into digits is never refused. -/
theorem Runs.storesDigits (runs : m.Runs opcode result) (splits : opcode.IsMisc 0x33)
    : ∃ next,
        result = (next, .ok .nothing)
        ∧ m.StoresBlock (decimalDigits (m.registers.get opcode.x)) next := by
  obtain ⟨noted, rfl⟩ := runs.misc .storeDigits splits
  have short : (decimalDigits (m.registers.get opcode.x)).length ≤ memorySize := by
    change 3 ≤ 4096
    decide
  have stores := storesBlock_storeAtIndex { m with opcode := noted } short
  exact ⟨_, rfl, stores.ofExecuted .next⟩

/-- Digits that were stored and then loaded are held in V0 to V2. -/
theorem StoresBlock.holdsDigits {stored loaded : Machine} {value : UInt8}
    (stores : m.StoresBlock (decimalDigits value) stored)
    (loads : stored.LoadsRegisters 2 loaded)
    : loaded.HoldsDigits value.toNat := by
  have digit (d : Register) (few : d.val < 3)
      : (decimalDigits value)[d.val]? = some (loaded.registers.get d) := by
    rw [loads.loaded d (Nat.le_of_lt_succ few), blockCell_congr stores.index]
    exact stores.stored d.val few
  refine ⟨?_, ?_⟩
  · intro d few
    exact decimalDigits_le value _ (List.mem_of_getElem? (digit d few))
  · have first := Option.some.inj (digit 0 (by decide))
    have second := Option.some.inj (digit 1 (by decide))
    have third := Option.some.inj (digit 2 (by decide))
    rw [← first, ← second, ← third]
    exact decimalDigits_sum value

-----------------------------------------------------------------------------------------
-- Digits as glyphs
-----------------------------------------------------------------------------------------

/-- The index points at the glyph of a digit. -/
structure PointsAtGlyph (m : Machine) (digit : Nat) : Prop where
  index : m.index.toNat = 5 * digit
  rows : m.indexBlock 5 = glyph digit

/-- The machine after the glyph of a digit was drawn at the position in VX and VY, from where
it wraps around.
-/
def DrawsGlyph (m : Machine) (digit : Nat) (opcode : Opcode) (next : Machine) : Prop :=
  ∀ column row,
    next.display.pixel column row ≠ m.display.pixel column row
    ↔ ∃ i j byte,
        (glyph digit)[i]? = some byte
        ∧ j < 8
        ∧ column.val = ((m.registers.get opcode.x).toNat + j) % 64
        ∧ row.val = ((m.registers.get opcode.y).toNat + i) % 32
        ∧ byte.toNat.testBit (7 - j) = true

/-- Pointing at a glyph is never refused. -/
theorem Runs.pointsAtGlyph (runs : m.Runs opcode result) (points : opcode.IsMisc 0x29)
    (holds : m.memory.HoldsGlyphs) {digit : Nat}
    (value : (m.registers.get opcode.x).toNat = digit) (inside : digit < 16)
    : ∃ next, result = (next, .ok .nothing) ∧ next.PointsAtGlyph digit := by
  obtain ⟨noted, rfl⟩ := runs.misc .pointToGlyph points
  have place
      : (UInt16.ofNat (glyphStart + (m.registers.get opcode.x).toNat * glyphSize)).toNat
        = 5 * digit := by
    rw [value, UInt16.toNat_ofNat']
    simp only [glyphStart, glyphSize]
    omega
  refine ⟨_, rfl, place, ?_⟩
  rw [← holds.readBlock_glyph inside, ← place]
  rfl

/-- Five rows from where the index points at are the glyph. -/
theorem PointsAtGlyph.drawsGlyph {digit : Nat} {next : Machine}
    (points : m.PointsAtGlyph digit) (height : opcode.n.val = 5)
    (draws : m.DrawsSprite opcode next)
    : m.DrawsGlyph digit opcode next := by
  intro column row
  rw [draws.flipped, DrawsOn, height, ← points.rows]
  constructor
  · rintro ⟨i, few, j, inside, across, down, set⟩
    rw [Memory.read_mod] at set
    exact ⟨i, j, _, Memory.getElem?_readBlock few, inside, across, down, set⟩
  · rintro ⟨i, j, byte, here, inside, across, down, set⟩
    have few : i < 5 := by
      rw [← Memory.length_readBlock m.memory m.index.toNat 5]
      exact (List.getElem?_eq_some_iff.mp here).1
    cases (Memory.getElem?_readBlock few).symm.trans here
    refine ⟨i, few, j, inside, across, down, ?_⟩
    rwa [Memory.read_mod]

/-- An opcode that points at the glyph of VD points at this digit, and a sprite of five rows
behind it draws the digit.
-/
def ShowsDigit (m : Machine) (d : Register) (digit : Nat) : Prop :=
  ∀ point pointed answer,
    point.IsMisc 0x29
    → point.x = d
    → m.Runs point (pointed, answer)
    → answer = .ok .nothing
      ∧ pointed.PointsAtGlyph digit
      ∧ ∀ draw drawn answer,
          draw.family = 0xD
          → draw.n.val = 5
          → pointed.Runs draw (drawn, answer)
          → answer = .ok .redraw ∧ pointed.DrawsGlyph digit draw drawn

/-- While the glyphs are in memory, every register with a digit shows it. -/
theorem showsDigit_of_holdsGlyphs (holds : m.memory.HoldsGlyphs) {d : Register} {digit : Nat}
    (value : (m.registers.get d).toNat = digit) (inside : digit < 16)
    : m.ShowsDigit d digit := by
  intro point pointed answer points ofDigit runs
  rw [← ofDigit] at value
  obtain ⟨_, ⟨⟩, pointing⟩ := runs.pointsAtGlyph points holds value inside
  refine ⟨rfl, pointing, ?_⟩
  intro draw drawn answer family height runs
  obtain ⟨_, ⟨⟩, draws⟩ := runs.drawsSprite family
  exact ⟨rfl, pointing.drawsGlyph height draws⟩

/-- Splitting a register into its decimal digits and loading them leaves the digits in V0 to
V2, wherever the index points and whichever register it is, keeps the index and changes no cell
but the three digits. If the glyphs are in memory and the digits were stored outside of them,
each of V0 to V2 shows its digit, also later, as long as the register and the cells of the
glyphs stay. None of this is ever refused.
Witness: the number is read before the digits are stored, and they are stored before any of V0
to V2 is loaded.
-/
theorem number_is_shown_by_digits {split : Opcode} (splits : split.IsMisc 0x33)
    {stored loaded : Machine} {request request' : Except Fault Request}
    (first : m.Runs split (stored, request)) (second : stored.Runs 0xF265 (loaded, request'))
    : request = .ok .nothing
      ∧ request' = .ok .nothing
      ∧ loaded.HoldsDigits (m.registers.get split.x).toNat
      ∧ loaded.index = m.index
      ∧ (∀ address < memorySize,
          (∀ offset < 3, m.blockCell offset ≠ address)
          → loaded.memory.read address = m.memory.read address)
      ∧ (m.memory.HoldsGlyphs
        → (∀ offset < 3, glyphs.length ≤ m.blockCell offset)
        → ∀ (d : Register) (between : List Action),
            let later := (loaded.run between).1
            d.val < 3
            → later.registers.get d = loaded.registers.get d
            → (∀ address < glyphs.length,
                later.memory.read address = loaded.memory.read address)
            → later.ShowsDigit d (loaded.registers.get d).toNat) := by
  obtain ⟨_, ⟨⟩, stores⟩ := first.storesDigits splits
  obtain ⟨_, ⟨⟩, loads⟩ := second.loadsRegisters (by decide)
  have digits := stores.holdsDigits loads
  have cells
      : ∀ address < memorySize,
          (∀ offset < 3, m.blockCell offset ≠ address)
          → loaded.memory.read address = m.memory.read address := by
    intro address inside apart
    rw [loads.memory]
    exact stores.others address inside apart
  refine ⟨rfl, rfl, digits, loads.index.trans stores.index, cells, ?_⟩
  intro holds outside d between later few same kept
  have stays : later.memory.HoldsGlyphs := by
    refine holds.of_read ?_
    intro address low
    rw [kept address low]
    apply cells address (Nat.lt_trans low (by decide))
    intro offset less here
    exact absurd (outside offset less) (by rw [here]; exact Nat.not_le.mpr low)
  have inside : (loaded.registers.get d).toNat < 16 :=
    Nat.lt_of_le_of_lt (digits.small d few) (by decide)
  exact showsDigit_of_holdsGlyphs stays (congrArg UInt8.toNat same) inside

/-- A machine with 157 in V2 and the index far behind the end of memory. -/
def scoreKeeper : Machine :=
  { powerOn { stream := fun _ => 0 } with
    registers := Registers.set {} 2 157
    index := 0xF300 }

/-- The number in V2, which is one of the registers that take the digits, is shown digit by
digit; the second digit is drawn.
-/
theorem number_is_shown_by_digits_scoreKeeper
    : Opcode.IsMisc 0xF233 0x33
      ∧ ∃ stored loaded pointed drawn,
          scoreKeeper.perform (.decode 0xF233) = (stored, .ok .nothing)
          ∧ stored.perform (.decode 0xF265) = (loaded, .ok .nothing)
          ∧ loaded.registers.get 0 = 1
          ∧ loaded.registers.get 1 = 5
          ∧ loaded.registers.get 2 = 7
          ∧ loaded.perform (.decode 0xF129) = (pointed, .ok .nothing)
          ∧ pointed.index.toNat = 25
          ∧ pointed.perform (.decode 0xD345) = (drawn, .ok .redraw)
          ∧ pointed.DrawsGlyph 5 0xD345 drawn := by
  have splits : Opcode.IsMisc 0xF233 0x33 := by decide
  have digit : Opcode.x 0xF233 = 2 := by decide
  have score : scoreKeeper.registers.get 2 = 157 := by simp [scoreKeeper]
  have holds : scoreKeeper.memory.HoldsGlyphs := @Memory.holdsGlyphs_image #[] (by decide)
  have outside : ∀ offset < 3, glyphs.length ≤ scoreKeeper.blockCell offset := by decide
  rcases split : scoreKeeper.perform (.decode 0xF233) with ⟨stored, request⟩
  rcases load : stored.perform (.decode 0xF265) with ⟨loaded, request'⟩
  obtain ⟨rfl, rfl, digits, _, _, shown⟩ :=
    number_is_shown_by_digits splits (.of_perform split) (.of_perform load)
  rw [digit, score] at digits
  have sum
      : 100 * (loaded.registers.get 0).toNat
          + 10 * (loaded.registers.get 1).toNat
          + (loaded.registers.get 2).toNat
        = 157 := digits.sum
  have := digits.small 0 (by decide)
  have := digits.small 1 (by decide)
  have := digits.small 2 (by decide)
  have second : (loaded.registers.get 1).toNat = 5 := by omega
  have shows := shown holds outside 1 [] (by decide) rfl (fun _ _ => rfl)
  rcases point : loaded.perform (.decode 0xF129) with ⟨pointed, answer⟩
  obtain ⟨rfl, points, draws⟩ :=
    shows 0xF129 pointed answer (by decide) (by decide) (.of_perform point)
  rcases draw : pointed.perform (.decode 0xD345) with ⟨drawn, answer⟩
  obtain ⟨rfl, drawsGlyph⟩ :=
    draws 0xD345 drawn answer (by decide) (by decide) (.of_perform draw)
  rw [second] at points drawsGlyph
  refine ⟨splits, stored, loaded, pointed, drawn, rfl, load, ?_, ?_, ?_, ?_⟩
  · exact UInt8.toNat_inj.mp (by change _ = 1; omega)
  · exact UInt8.toNat_inj.mp second
  · exact UInt8.toNat_inj.mp (by change _ = 7; omega)
  · exact ⟨point, points.index, draw, drawsGlyph⟩

end Machine

end ChipEight
