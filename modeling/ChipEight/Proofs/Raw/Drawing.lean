import ChipEight.Proofs.Raw.Layout
import Mathlib.Data.Nat.Bitwise

/-! Drawing on bytes is drawing on pixels: a sprite whose coordinates fit into 32 bits is drawn
without a failing check, and a row number that was cast to 32 bits still names the same row of
the grid.
-/

namespace ChipEight

-----------------------------------------------------------------------------------------
-- The bits of a sprite
-----------------------------------------------------------------------------------------

namespace Sprite

/-- The bit of a column is tested by the highest bit, shifted to it. -/
theorem and_mask_eq_zero_iff (byte : UInt8) {column : Nat} (inside : column < 8)
    : byte &&& (0x80 >>> UInt8.ofNat column) = 0
      ↔ byte.toNat.testBit (7 - column) = false := by
  have mask : ∀ column : Fin 8,
      ((0x80 : UInt8) >>> UInt8.ofNat column.val).toNat = 2 ^ (7 - column.val) := by
    decide
  rw [← UInt8.toNat_inj, UInt8.toNat_and, mask ⟨column, inside⟩, Nat.and_two_pow]
  cases byte.toNat.testBit (7 - column) <;> simp

/-- The places of the set bits of `count` columns, from a column on. -/
def columnCells (x y : Int) (byte : UInt8) (column count : Nat) : List (Int × Int) :=
  ((List.range' column count).filter fun place => byte.toNat.testBit (7 - place)).map
    fun (place : Nat) => (x + place, y)

theorem columnCells_zero (x y : Int) (byte : UInt8)
    : columnCells x y byte 0 spriteWidth = rowCells x y byte := by
  rw [columnCells, rowCells, List.range_eq_range']

/-- The places from a column on begin with that column, if its bit is set. -/
theorem columnCells_succ (x y : Int) (byte : UInt8) (column count : Nat)
    : columnCells x y byte column (count + 1)
      = if byte.toNat.testBit (7 - column) then
          (x + column, y) :: columnCells x y byte (column + 1) count
        else
          columnCells x y byte (column + 1) count := by
  rw [columnCells, List.range'_succ, List.filter_cons]
  split <;> rfl

/-- The set bits of numbered sprite rows have coordinates that fit into 32 bits. The numbers
of the rows are cast to 32 bits before they are added.
-/
def Fits (x y : Int) (rows : List (UInt8 × Nat)) : Prop :=
  ∀ row ∈ rows, ∀ column < spriteWidth,
    row.1.toNat.testBit (7 - column) = true
    → Raw.FitsInt32 (x + column) ∧ Raw.FitsInt32 (y + Raw.toInt32 row.2)

/-- A sprite whose outermost corners have coordinates of 32 bits fits. -/
theorem fits_of_corners {x y : Int} {rows : List UInt8} (few : rows.length ≤ 0x80000000)
    (left : -0x80000000 ≤ x) (right : x + 8 ≤ 0x80000000)
    (top : -0x80000000 ≤ y) (bottom : y + rows.length ≤ 0x80000000)
    : Fits x y rows.zipIdx := by
  intro row member column inside _
  have number : row.2 < rows.length := (List.mem_zipIdx' member).1
  simp only [spriteWidth] at inside
  rw [Raw.toInt32_of_lt (by omega)]
  simp only [Raw.FitsInt32]
  omega

end Sprite

/-- The coordinates of the pixels that an operation toggles fit into 32 bits with a sign. Only
sprites that are drawn from outside can fail to.
-/
def Action.Fits : Action → Prop
  | .drawSprite x y rows => Sprite.Fits x y rows.zipIdx
  | _ => True

-----------------------------------------------------------------------------------------
-- Pixels
-----------------------------------------------------------------------------------------

namespace Display

/-- Rows that agree modulo the height of the grid are the same row. -/
theorem toggle_congr (display : Display) (x : Int) {y y' : Int} (same : y % 32 = y' % 32)
    : display.toggle x y = display.toggle x y' := by
  have place : location x y = location x y' := by
    simp only [location, screenHeight, Fin.mk.injEq]
    rw [show y % ((32 : Nat) : Int) = y' % ((32 : Nat) : Int) from same]
  simp only [toggle, place]

/-- Toggling a byte toggles its pixel, and every place on the grid exists. -/
theorem toggle?_layout (display : Display) (x y : Int)
    : display.layout.toggle? x y = some (Prod.map layout id (display.toggle x y)) := by
  let place := location x y
  let lit := display.pixels[place]
  let bytes := display.pixels.map Bool.toUInt8
  have small : place.val ≤ 0x20000 := Nat.le_trans (Nat.le_of_lt place.isLt) (by decide)
  have word : Raw.word? (Raw.Display.wrap x screenWidth
        + Raw.Display.wrap y screenHeight * screenWidth)
      = some place.val :=
    Raw.word?_of_le small
  have read : display.layout.pixels[place.val]? = some lit.toUInt8 := by
    have known := Raw.getElem?_toArray bytes place.isLt
    rwa [Vector.getElem_map] at known
  have flipped : lit.toUInt8 ^^^ 1 = (!lit).toUInt8 := by cases lit <;> rfl
  have stored : Raw.store? display.layout.pixels place.val (!lit).toUInt8
      = some ((display.pixels.set place (!lit) place.isLt).map Bool.toUInt8).toArray := by
    rw [Vector.map_set]
    exact Raw.store?_toArray bytes place.isLt _
  have out : ((!lit).toUInt8 == 0) = lit := by cases lit <;> rfl
  rw [Raw.Display.toggle?, word]
  simp only [Option.bind_eq_bind, Option.bind_some, read, flipped, stored, out]
  rfl

/-- Toggling two lists of pixels in turn toggles them together, by induction on the first. -/
theorem toggleAll_append (display : Display) (first second : List (Int × Int))
    : display.toggleAll (first ++ second)
      = (((display.toggleAll first).1.toggleAll second).1,
          (display.toggleAll first).2 || ((display.toggleAll first).1.toggleAll second).2) := by
  induction first generalizing display with
  | nil => simp [toggleAll]
  | cons place rest ih => simp [toggleAll, ih, Bool.or_assoc]

/-- Drawing the columns of a row toggles the places of its set bits, by induction on the
columns that are left.
-/
theorem drawColumns?_layout (display : Display) {x y : Int} {row column count : Nat}
    {byte : UInt8} (inside : column + count ≤ 8)
    (fits : ∀ place < 8,
      byte.toNat.testBit (7 - place) = true
      → Raw.FitsInt32 (x + place) ∧ Raw.FitsInt32 (y + Raw.toInt32 row))
    : display.layout.drawColumns? x y row byte column count
      = some (Prod.map layout id
          (display.toggleAll (Sprite.columnCells x (y + row) byte column count))) := by
  induction count generalizing display column with
  | zero => rfl
  | succ count ih =>
    have mask : Raw.shiftRight? 0x80 column = some (0x80 >>> UInt8.ofNat column) :=
      if_pos (by omega)
    rw [Raw.Display.drawColumns?, mask, Sprite.columnCells_succ]
    simp only [Option.bind_eq_bind, Option.bind_some]
    cases set : byte.toNat.testBit (7 - column) with
    | false =>
      have skipped := (Sprite.and_mask_eq_zero_iff byte (by omega : column < 8)).mpr set
      rw [if_pos skipped, if_neg Bool.false_ne_true]
      exact ih display (by omega)
    | true =>
      have taken : ¬byte &&& (0x80 >>> UInt8.ofNat column) = 0 := by
        rw [Sprite.and_mask_eq_zero_iff byte (by omega), set]
        exact Bool.noConfusion
      obtain ⟨left, top⟩ := fits column (by omega) set
      -- The row number may lose its highest bits here, but not the row of the grid it names.
      have keeps : Raw.toInt32 column = column := Raw.toInt32_of_lt (by omega)
      have sameRow : (y + Raw.toInt32 row) % 32 = (y + row) % 32 := by
        rw [Int.add_emod, Raw.toInt32_emod, ← Int.add_emod]
      rw [if_neg taken, if_pos rfl, keeps, Raw.int32?, if_pos left, Raw.int32?, if_pos top]
      simp only [Option.bind_some, toggle?_layout, toggle_congr display _ sameRow]
      have later := @ih (display.toggle (x + column) (y + row)).1 (column + 1) (by omega)
      simp only [Prod.map_fst, later, Option.bind_some]
      rfl

/-- Drawing sprite rows toggles the places of their set bits, by induction on the rows. -/
theorem drawRows?_layout (display : Display) {x y : Int} {row : Nat} {rows : List UInt8}
    (fits : Sprite.Fits x y (rows.zipIdx row))
    : display.layout.drawRows? x y row rows
      = some (Prod.map layout id
          (display.toggleAll
            ((rows.zipIdx row).flatMap fun entry =>
              Sprite.rowCells x (y + entry.2) entry.1))) := by
  induction rows generalizing display row with
  | nil => rfl
  | cons byte rest ih =>
    rw [List.zipIdx_cons] at fits
    have first := @drawColumns?_layout display x y row 0 8 byte (by decide)
      (fits (byte, row) List.mem_cons_self)
    have later := @ih
      (display.toggleAll (Sprite.rowCells x (y + row) byte)).1 (row + 1)
      (fun entry member => fits entry (List.mem_cons_of_mem _ member))
    rw [Sprite.columnCells_zero] at first
    rw [Raw.Display.drawRows?, List.zipIdx_cons, List.flatMap_cons, toggleAll_append]
    simp only [spriteWidth, Option.bind_eq_bind, first, Option.bind_some, Prod.map_fst, later]
    rfl

theorem drawSprite?_layout (display : Display) {x y : Int} {rows : List UInt8}
    (fits : Sprite.Fits x y rows.zipIdx)
    : display.layout.drawRows? x y 0 rows
      = some (Prod.map layout id (display.drawSprite x y rows)) :=
  display.drawRows?_layout fits

theorem clear_layout (display : Display) : display.layout.clear = display.clear.layout := by
  have blank : display.layout.pixels.map (fun _ => (0 : UInt8))
      = display.clear.layout.pixels := by
    apply Array.ext
    · simp [layout, clear]
    · simp [layout, clear, Bool.toUInt8]
  rw [Raw.Display.clear, blank]
  rfl

end Display

end ChipEight
