import ChipEight.Proofs.Raw.Drawing

/-! On plain arrays and words every instruction goes as on the machine itself: if the program
counter lies inside of memory, no check fails, and what comes out is the layout of what the
machine makes.
-/

namespace ChipEight.Machine

/-- The glyph of a byte has an address of 16 bits. -/
theorem pointToGlyph?_layout (m : Machine) (x : Register)
    : m.layout.pointToGlyph? x
      = some
          (layout
            { m with
              index := UInt16.ofNat (glyphStart + (m.registers.get x).toNat * glyphSize) }) := by
  have bound := (m.registers.get x).toNat_lt
  have small : (m.registers.get x).toNat * glyphSize < 0x10000 := by
    simp only [glyphSize]
    omega
  have kept : (UInt16.ofNat ((m.registers.get x).toNat * glyphSize)).toNat
      = (m.registers.get x).toNat * glyphSize :=
    UInt16.toNat_ofNat_of_lt' small
  have glyph : Raw.half? ((m.registers.get x).toNat * glyphSize) = some _ := if_pos small
  have address : Raw.half? (glyphStart + (m.registers.get x).toNat * glyphSize) = some _ :=
    if_pos (by simpa using small)
  simp only [Raw.Machine.pointToGlyph?, register?_layout, Option.bind_eq_bind,
    Option.bind_some, glyph, kept, address]
  rfl

/-- Loading V0 to VX is loading registers from the first one on. -/
theorem loadRegisters?_zero (m : Machine) (x : Register)
    : m.layout.loadRegisters? 0 (x.val + 1) = some (m.loadFromIndex x).layout := by
  obtain ⟨registers, loaded, values⟩ :=
    @loadRegisters?_layout m 0 (x.val + 1) (by have := x.isLt; omega)
  have same : registers = (m.loadFromIndex x).registers := by
    apply Registers.ext_get
    intro j
    rw [values, get_loadFromIndex]
    congr 1
    rw [eq_iff_iff, Fin.le_def]
    omega
  rw [loaded, same]
  rfl

theorem storeRegisters?_zero (m : Machine) (x : Register)
    : m.layout.storeRegisters? 0 (x.val + 1)
      = some (m.storeAtIndex (m.registers.values.toList.take (x.val + 1))).layout := by
  have inside := x.isLt
  have few : x.val + 1 ≤ 16 := x.isLt
  have length : (m.registers.values.toList.take (x.val + 1)).length ≤ x.val + 1 :=
    List.length_take_le _ _
  rw [storeRegisters?_layout m (by omega), List.drop_zero, storeBytes?_layout m (by omega)]
  rfl

theorem misc?_layout (m : Machine) (op : Misc) (x : Register)
    : m.layout.misc? op x = some (m.executeMisc op x).machine.layout := by
  cases op with
  | getDelay => exact m.setRegister?_layout x m.delay.value
  | awaitKey => rfl
  | pointToGlyph => exact m.pointToGlyph?_layout x
  | storeRegisters => exact m.storeRegisters?_zero x
  | loadRegisters => exact m.loadRegisters?_zero x
  | storeDigits =>
    simp only [Raw.Machine.misc?, register?_layout, Option.bind_eq_bind, Option.bind_some]
    exact m.storeBytes?_layout (by simp [decimalDigits])
  | setDelay | setSound | addToIndex =>
    simp only [Raw.Machine.misc?, register?_layout, Option.bind_eq_bind, Option.bind_some]
    rfl

theorem arithmetic?_layout (m : Machine) (op : Arithmetic) (x y : Register)
    : m.layout.arithmetic? op x y
      = some (layout { m with registers := m.registers.arithmetic op x y }) := by
  simp only [Raw.Machine.arithmetic?, register?_layout, Option.bind_eq_bind,
    Option.bind_some]
  split
  · next outcome => simp [Registers.arithmetic, outcome]
  · next outcome => simp [Registers.arithmetic, outcome]

theorem draw?_layout (m : Machine) (x y : Register) (n : Fin 16)
    : m.layout.draw? x y n.val = some (m.executeDraw x y n).machine.layout := by
  have few := n.isLt
  have rows : m.layout.readBytes? 0 n.val = some (m.indexBlock n.val) :=
    m.readBytes?_layout (by omega)
  have length : (m.indexBlock n.val).length ≤ 16 := by
    simp only [indexBlock, Memory.readBlock, List.length_map, List.length_range]
    omega
  have hx := (m.registers.get x).toNat_lt
  have hy := (m.registers.get y).toNat_lt
  have drawn := m.display.drawSprite?_layout
    (@Sprite.fits_of_corners (m.registers.get x).toNat (m.registers.get y).toNat
      (m.indexBlock n.val) (by omega) (by omega) (by omega) (by omega) (by omega))
  have flagged := setRegister?_layout
    (m.withDisplay
      (m.display.drawSprite (m.registers.get x).toNat (m.registers.get y).toNat
        (m.indexBlock n.val)).1)
    Registers.flag
  simp only [Raw.Machine.draw?, rows, register?_layout, layout_display, drawn,
    Option.bind_eq_bind, Option.bind_some]
  exact flagged _

/-- Whether a key is held can be asked for every number. -/
theorem keyHeld?_layout (m : Machine) (x : Register)
    : m.layout.keyHeld? x = some (m.keypad.isHeld (m.registers.get x).toNat) := by
  rw [Raw.Machine.keyHeld?, register?_layout]
  simp [layout, Keypad.layout, Keypad.isHeld]

/-- Every instruction goes as on the machine, if the program counter lies inside of memory; by
cases on the instruction.
-/
theorem execute?_layout {m : Machine} (inside : m.pc < memorySize) (instruction : Instruction)
    : m.layout.execute? instruction = some ((m.execute instruction).map Executed.layout) := by
  cases instruction with
  | ret => exact congrArg some m.ret_layout
  | call nnn => exact call?_layout inside nnn
  | clear =>
    rw [Raw.Machine.execute?, layout_display, Display.clear_layout]
    rfl
  | routine | jump | setIndex | unassigned => rfl
  | skipEqual | skipNotEqual | skipSame | skipDifferent =>
    simp only [Raw.Machine.execute?, register?_layout, Option.bind_eq_bind, Option.bind_some]
    rfl
  | set | add =>
    simp only [Raw.Machine.execute?, register?_layout, setRegister?_layout,
      Option.bind_eq_bind, Option.bind_some]
    rfl
  | arithmetic op x y =>
    simp only [Raw.Machine.execute?, arithmetic?_layout, Option.bind_eq_bind,
      Option.bind_some]
    rfl
  | jumpOffset nnn =>
    have bound := (m.registers.get Registers.offset).toNat_lt
    have low := nnn.isLt
    have word : Raw.word? (nnn.val + (m.registers.get Registers.offset).toNat) = some _ :=
      Raw.word?_of_le (by simp only [memorySize] at low; omega)
    simp only [Raw.Machine.execute?, register?_layout, Option.bind_eq_bind, Option.bind_some,
      word]
    rfl
  | random x kk =>
    have drawn : m.layout.random? x kk = some (m.executeRandom x kk).machine.layout :=
      setRegister?_layout { m with random := m.random.next.2 } x _
    simp only [Raw.Machine.execute?, drawn, Option.bind_eq_bind, Option.bind_some]
    rfl
  | draw x y n =>
    simp only [Raw.Machine.execute?, draw?_layout, Option.bind_eq_bind, Option.bind_some]
    rfl
  | skipHeld | skipNotHeld =>
    simp only [Raw.Machine.execute?, keyHeld?_layout, Option.bind_eq_bind, Option.bind_some]
    rfl
  | misc op x =>
    simp only [Raw.Machine.execute?, misc?_layout, Option.bind_eq_bind, Option.bind_some]
    cases op <;> rfl

end ChipEight.Machine
