import ChipEight.Display
import Mathlib.Algebra.GroupWithZero.Nat
import Mathlib.Data.Finset.Card
import Mathlib.Data.Finset.Prod
import Mathlib.Data.List.Nodup
import Mathlib.Data.Nat.Bits

/-! Drawing toggles pixels by parity: a pixel changes exactly if an odd number of set bits lands
on it. So neither the order of sprites nor whole turns around the screen matter, and sprites
that are drawn twice leave no trace.
-/

namespace ChipEight

-----------------------------------------------------------------------------------------
-- The bits of a sprite and the pixels they land on
-----------------------------------------------------------------------------------------

/-- A place is on a pixel of the screen, which wraps around at the edges. -/
def Display.OnPixel (place : Int × Int) (column : Fin screenWidth) (row : Fin screenHeight)
    : Prop :=
  place.1 % 64 = column.val ∧ place.2 % 32 = row.val

instance (place : Int × Int) (column : Fin screenWidth) (row : Fin screenHeight)
    : Decidable (Display.OnPixel place column row) :=
  inferInstanceAs (Decidable (_ ∧ _))

/-- A sprite with the position of its upper left corner. -/
structure PlacedSprite where
  x : Int
  y : Int
  rows : List UInt8

namespace PlacedSprite

/-- The bit in a row and a column is set; the highest bit of a row is in column zero. -/
def IsSet (sprite : PlacedSprite) (i j : Nat) : Prop :=
  j < 8 ∧ sprite.rows[i]?.any (fun byte => byte.toNat.testBit (7 - j)) = true

instance (sprite : PlacedSprite) (i j : Nat) : Decidable (sprite.IsSet i j) :=
  inferInstanceAs (Decidable (_ ∧ _))

/-- The bit in a row and a column lands on a pixel. -/
def Lands (sprite : PlacedSprite) (i j : Nat) (column : Fin screenWidth)
    (row : Fin screenHeight)
    : Prop :=
  Display.OnPixel (sprite.x + j, sprite.y + i) column row

instance (sprite : PlacedSprite) (i j : Nat) (column : Fin screenWidth)
    (row : Fin screenHeight)
    : Decidable (sprite.Lands i j column row) :=
  inferInstanceAs (Decidable (Display.OnPixel _ column row))

/-- The number of set bits that land on a pixel. -/
def hits (sprite : PlacedSprite) (column : Fin screenWidth) (row : Fin screenHeight) : Nat :=
  ((Finset.range sprite.rows.length ×ˢ Finset.range 8).filter fun bit =>
    sprite.IsSet bit.1 bit.2 ∧ sprite.Lands bit.1 bit.2 column row).card

/-- The same sprite some whole turns around the screen away. -/
structure Shifted (sprite other : PlacedSprite) : Prop where
  rows : other.rows = sprite.rows
  across : ∃ turns : Int, other.x = sprite.x + 64 * turns
  down : ∃ turns : Int, other.y = sprite.y + 32 * turns

theorem lt_length_of_isSet {sprite : PlacedSprite} {i j : Nat} (set : sprite.IsSet i j)
    : i < sprite.rows.length := by
  apply Decidable.byContradiction
  intro outside
  have none : sprite.rows[i]? = none := List.getElem?_eq_none (Nat.not_lt.mp outside)
  simp [IsSet, none] at set

theorem hits_pos_iff {sprite : PlacedSprite} {column : Fin screenWidth}
    {row : Fin screenHeight}
    : 0 < sprite.hits column row ↔ ∃ i j, sprite.IsSet i j ∧ sprite.Lands i j column row := by
  rw [hits, Finset.card_pos]
  constructor
  · rintro ⟨⟨i, j⟩, member⟩
    exact ⟨i, j, (Finset.mem_filter.mp member).2⟩
  · rintro ⟨i, j, set, lands⟩
    refine ⟨(i, j), Finset.mem_filter.mpr ⟨?_, set, lands⟩⟩
    rw [Finset.mem_product, Finset.mem_range, Finset.mem_range]
    exact ⟨lt_length_of_isSet set, set.1⟩

/-- The rows of a low sprite do not overlay each other, so no two of its bits land on one pixel.
-/
theorem hits_le_one {sprite : PlacedSprite} (low : sprite.rows.length ≤ 32)
    (column : Fin screenWidth) (row : Fin screenHeight)
    : sprite.hits column row ≤ 1 := by
  apply Finset.card_le_one.mpr
  rintro ⟨i, j⟩ first ⟨k, l⟩ second
  obtain ⟨_, ⟨left, _⟩, across, down⟩ := Finset.mem_filter.mp first
  obtain ⟨_, ⟨right, _⟩, otherAcross, otherDown⟩ := Finset.mem_filter.mp second
  have top : i < sprite.rows.length := lt_length_of_isSet (Finset.mem_filter.mp first).2.1
  have bottom : k < sprite.rows.length := lt_length_of_isSet (Finset.mem_filter.mp second).2.1
  -- Equal up to whole turns, and less than 32 rows and 8 columns apart.
  have sameRow : i = k := by omega
  have sameColumn : j = l := by omega
  rw [sameRow, sameColumn]

end PlacedSprite

-----------------------------------------------------------------------------------------
-- Toggling pixels in turn
-----------------------------------------------------------------------------------------

namespace Display

theorem location_eq_iff {x y : Int} {column : Fin screenWidth} {row : Fin screenHeight}
    : location x y = location column.val row.val ↔ OnPixel (x, y) column row := by
  have := column.isLt
  have := row.isLt
  simp only [location, OnPixel, Fin.mk.injEq, screenWidth, screenHeight] at *
  omega

/-- Pixels are equal if they are equal in every column and row. -/
theorem pixels_ext {left right : Display}
    (same : ∀ column row, left.pixel column row = right.pixel column row)
    : left.pixels = right.pixels := by
  apply Vector.ext
  intro place inside
  simp only [screenArea, screenWidth, screenHeight] at inside
  have column : place % 64 < screenWidth := Nat.mod_lt _ (by decide)
  have row : place / 64 < screenHeight := Nat.div_lt_of_lt_mul inside
  have found : (location (place % 64 : Nat) (place / 64 : Nat)).val = place := by
    simp only [location, screenWidth, screenHeight]
    omega
  have known := same ⟨place % 64, column⟩ ⟨place / 64, row⟩
  simpa only [pixel, Fin.getElem_fin, found] using known

theorem pixel_toggle (display : Display) (x y : Int) (column : Fin screenWidth)
    (row : Fin screenHeight)
    : (display.toggle x y).1.pixel column row
      = (display.pixel column row ^^ decide (OnPixel (x, y) column row)) := by
  simp only [pixel, toggle, Fin.getElem_fin, Vector.getElem_set, ← Fin.ext_iff, location_eq_iff]
  by_cases same : OnPixel (x, y) column row
  · rw [← location_eq_iff] at same
    simp [same, location_eq_iff.mp same]
  · simp [same]

theorem toggle_snd {display : Display} {x y : Int} {column : Fin screenWidth}
    {row : Fin screenHeight} (same : OnPixel (x, y) column row)
    : (display.toggle x y).2 = display.pixel column row := by
  simp only [toggle, pixel, location_eq_iff.mpr same]

/-- The number of places on a pixel. -/
def hitCount (places : List (Int × Int)) (column : Fin screenWidth) (row : Fin screenHeight)
    : Nat :=
  places.countP fun place => OnPixel place column row

theorem hitCount_cons (place : Int × Int) (rest : List (Int × Int)) (column : Fin screenWidth)
    (row : Fin screenHeight)
    : hitCount (place :: rest) column row
      = (decide (OnPixel place column row)).toNat + hitCount rest column row := by
  rw [hitCount, List.countP_cons, Nat.add_comm]
  by_cases same : OnPixel place column row <;> simp [same, hitCount]

theorem toNat_xor_le (a b : Bool) : (a ^^ b).toNat ≤ a.toNat + b.toNat := by
  cases a <;> cases b <;> decide

theorem bodd_toNat (b : Bool) : b.toNat.bodd = b := by
  cases b <;> rfl

/-- Toggling in turn changes the pixels that are hit an odd number of times, by induction on the
places.
-/
theorem pixel_toggleAll (display : Display) (places : List (Int × Int))
    (column : Fin screenWidth) (row : Fin screenHeight)
    : (display.toggleAll places).1.pixel column row
      = (display.pixel column row ^^ (hitCount places column row).bodd) := by
  induction places generalizing display with
  | nil => simp [toggleAll, hitCount]
  | cons place rest ih =>
    simp only [toggleAll, ih, pixel_toggle, hitCount_cons, Nat.bodd_add, bodd_toNat,
      Bool.xor_assoc]

/-- Every place is on a pixel. -/
theorem exists_onPixel (place : Int × Int) : ∃ column row, OnPixel place column row := by
  refine ⟨⟨(place.1 % 64).toNat, ?_⟩, ⟨(place.2 % 32).toNat, ?_⟩, ?_, ?_⟩
  all_goals
    simp only [screenWidth, screenHeight]
    omega

/-- A pixel goes out exactly if it is hit while it is lit, or hit twice. By induction on the
places: the first one turns a lit pixel into a dark one with a hit less to come.
-/
theorem toggleAll_collides_iff {display : Display} {places : List (Int × Int)}
    : (display.toggleAll places).2 = true
      ↔ ∃ column row, 2 ≤ (display.pixel column row).toNat + hitCount places column row := by
  induction places generalizing display with
  | nil =>
    constructor
    · nofun
    · rintro ⟨column, row, hit⟩
      have once := (display.pixel column row).toNat_lt
      rw [hitCount, List.countP_nil] at hit
      omega
  | cons place rest ih =>
    simp only [toggleAll, Bool.or_eq_true, ih, pixel_toggle, hitCount_cons]
    constructor
    · rintro (out | ⟨column, row, later⟩)
      · -- The pixel that goes out first was lit and is hit at least once.
        obtain ⟨column, row, on⟩ := exists_onPixel place
        rw [toggle_snd on] at out
        refine ⟨column, row, ?_⟩
        rw [out, decide_eq_true on]
        simp only [Bool.toNat_true]
        omega
      · have toggled :=
          toNat_xor_le (display.pixel column row) (decide (OnPixel place column row))
        refine ⟨column, row, later.trans ?_⟩
        rw [← Nat.add_assoc]
        exact Nat.add_le_add_right toggled _
    · rintro ⟨column, row, hit⟩
      by_cases on : OnPixel place column row
      · cases lit : display.pixel column row with
        | true => exact .inl ((toggle_snd on).trans lit)
        | false =>
          refine .inr ⟨column, row, ?_⟩
          simpa [lit, on] using hit
      · refine .inr ⟨column, row, ?_⟩
        simpa [on] using hit

end Display

-----------------------------------------------------------------------------------------
-- Drawing sprites in turn
-----------------------------------------------------------------------------------------

namespace Sprite

/-- The rows and columns of the set bits of a sprite, row by row. -/
def bits (rows : List UInt8) : List (Nat × Nat) :=
  rows.zipIdx.flatMap fun row =>
    ((List.range spriteWidth).filter fun j => row.1.toNat.testBit (7 - j)).map fun j => (row.2, j)

theorem cells_eq (x y : Int) (rows : List UInt8)
    : cells x y rows = (bits rows).map fun bit => (x + bit.2, y + bit.1) := by
  simp only [cells, rowCells, bits, List.map_flatMap, List.map_map]
  rfl

theorem mem_bits {rows : List UInt8} {i j : Nat}
    : (i, j) ∈ bits rows
      ↔ j < 8 ∧ rows[i]?.any (fun byte => byte.toNat.testBit (7 - j)) = true := by
  simp only [bits, List.mem_flatMap, List.mem_map, List.mem_filter, List.mem_range,
    Option.any_eq_true]
  constructor
  · rintro ⟨⟨byte, _⟩, member, _, ⟨inside, set⟩, same⟩
    cases same
    exact ⟨inside, byte, List.mem_zipIdx_iff_getElem?.mp member, set⟩
  · rintro ⟨inside, byte, found, set⟩
    exact ⟨(byte, i), List.mem_zipIdx_iff_getElem?.mpr found, j, ⟨inside, set⟩, rfl⟩

theorem nodup_bits (rows : List UInt8) : (bits rows).Nodup := by
  refine List.nodup_flatMap.mpr ⟨?_, ?_⟩
  · intro row _
    refine List.Nodup.map ?_ (List.nodup_range.filter _)
    intro j k same
    exact congrArg Prod.snd same
  · have numbers : rows.zipIdx.Pairwise fun first second => first.2 ≠ second.2 := by
      rw [← List.pairwise_map, List.zipIdx_map_snd]
      exact List.nodup_range'
    refine numbers.imp ?_
    intro first second apart bit here there
    obtain ⟨_, _, rfl⟩ := List.mem_map.mp here
    obtain ⟨_, _, same⟩ := List.mem_map.mp there
    exact apart (congrArg Prod.fst same).symm

end Sprite

namespace PlacedSprite

/-- The places that a sprite toggles are on a pixel as often as its set bits land on it. -/
theorem hitCount_cells (sprite : PlacedSprite) (column : Fin screenWidth)
    (row : Fin screenHeight)
    : Display.hitCount (Sprite.cells sprite.x sprite.y sprite.rows) column row
      = sprite.hits column row := by
  let lands (bit : Nat × Nat) : Bool := sprite.Lands bit.1 bit.2 column row
  have landing : ((Sprite.bits sprite.rows).filter lands).Nodup :=
    (Sprite.nodup_bits sprite.rows).filter _
  calc
    Display.hitCount (Sprite.cells sprite.x sprite.y sprite.rows) column row
      = ((Sprite.bits sprite.rows).filter lands).length := by
        rw [Display.hitCount, Sprite.cells_eq, List.countP_map, List.countP_eq_length_filter]
        rfl
    _ = ((Sprite.bits sprite.rows).filter lands).toFinset.card :=
        (List.toFinset_card_of_nodup landing).symm
    _ = sprite.hits column row := by
        rw [hits]
        congr 1
        ext ⟨i, j⟩
        simp only [lands, List.mem_toFinset, List.mem_filter, decide_eq_true_eq, Sprite.mem_bits,
          Finset.mem_filter, Finset.mem_product, Finset.mem_range]
        constructor
        · rintro ⟨set, landing⟩
          exact ⟨⟨lt_length_of_isSet set, set.1⟩, set, landing⟩
        · rintro ⟨_, set, landing⟩
          exact ⟨set, landing⟩

end PlacedSprite

namespace Display

/-- The number of set bits of several sprites that land on a pixel. -/
def hitsOfAll (sprites : List PlacedSprite) (column : Fin screenWidth)
    (row : Fin screenHeight)
    : Nat :=
  (sprites.map fun sprite => sprite.hits column row).sum

theorem hitsOfAll_cons (sprite : PlacedSprite) (rest : List PlacedSprite)
    (column : Fin screenWidth) (row : Fin screenHeight)
    : hitsOfAll (sprite :: rest) column row
      = sprite.hits column row + hitsOfAll rest column row :=
  List.sum_cons

theorem hitsOfAll_append (first second : List PlacedSprite) (column : Fin screenWidth)
    (row : Fin screenHeight)
    : hitsOfAll (first ++ second) column row
      = hitsOfAll first column row + hitsOfAll second column row := by
  rw [hitsOfAll, List.map_append, List.sum_append]
  rfl

/-- Draw a sprite at its place and tell whether any pixel went out. -/
def draw (display : Display) (sprite : PlacedSprite) : Display × Bool :=
  display.drawSprite sprite.x sprite.y sprite.rows

/-- Draw sprites in turn and tell for each one whether any pixel went out. -/
def drawAll (display : Display) : List PlacedSprite → Display × List Bool
  | [] => (display, [])
  | sprite :: rest =>
    let drawn := display.draw sprite
    let later := drawn.1.drawAll rest
    (later.1, drawn.2 :: later.2)

theorem pixel_draw (display : Display) (sprite : PlacedSprite) (column : Fin screenWidth)
    (row : Fin screenHeight)
    : (display.draw sprite).1.pixel column row
      = (display.pixel column row ^^ (sprite.hits column row).bodd) := by
  rw [draw, drawSprite, pixel_toggleAll, PlacedSprite.hitCount_cells]

theorem draw_collides_iff {display : Display} {sprite : PlacedSprite}
    : (display.draw sprite).2 = true
      ↔ ∃ column row, 2 ≤ (display.pixel column row).toNat + sprite.hits column row := by
  simp only [draw, drawSprite, toggleAll_collides_iff, PlacedSprite.hitCount_cells]

/-- Drawing in turn changes the pixels on which an odd number of set bits lands, by induction on
the sprites.
-/
theorem pixel_drawAll (display : Display) (sprites : List PlacedSprite)
    (column : Fin screenWidth) (row : Fin screenHeight)
    : (display.drawAll sprites).1.pixel column row
      = (display.pixel column row ^^ (hitsOfAll sprites column row).bodd) := by
  induction sprites generalizing display with
  | nil => simp [drawAll, hitsOfAll]
  | cons sprite rest ih =>
    rw [drawAll, ih, pixel_draw, hitsOfAll_cons, Nat.bodd_add, Bool.xor_assoc]

/-- A sprite whose rows do not overlay each other switches a pixel off exactly if one of its set
bits lands on a lit one.
-/
theorem draw_collides_iff_of_low {display : Display} {sprite : PlacedSprite}
    (low : sprite.rows.length ≤ 32)
    : (display.draw sprite).2 = true
      ↔ ∃ i j column row,
          sprite.IsSet i j
          ∧ sprite.Lands i j column row
          ∧ display.pixel column row = true := by
  rw [draw_collides_iff]
  constructor
  · rintro ⟨column, row, hit⟩
    have once := sprite.hits_le_one low column row
    cases lit : display.pixel column row with
    | false =>
      rw [lit, Bool.toNat_false] at hit
      omega
    | true =>
      rw [lit, Bool.toNat_true] at hit
      obtain ⟨i, j, set, lands⟩ :=
        PlacedSprite.hits_pos_iff.mp (show 0 < sprite.hits column row by omega)
      exact ⟨i, j, column, row, set, lands, lit⟩
  · rintro ⟨i, j, column, row, set, lands, lit⟩
    have hit := PlacedSprite.hits_pos_iff.mpr ⟨i, j, set, lands⟩
    refine ⟨column, row, ?_⟩
    rw [lit, Bool.toNat_true]
    omega

/-- Of two drawings of a sprite in a row at least one switches a pixel off, if there is a bit to
draw: what the first one finds dark, the second one finds lit.
-/
theorem draw_twice_collides_iff {display : Display} {sprite : PlacedSprite}
    : (display.draw sprite).2 = true ∨ ((display.draw sprite).1.draw sprite).2 = true
      ↔ ∃ i j, sprite.IsSet i j := by
  simp only [draw_collides_iff, pixel_draw]
  constructor
  · have hitting : ∀ {lit : Bool} {column row},
        2 ≤ lit.toNat + sprite.hits column row → ∃ i j, sprite.IsSet i j := by
      intro lit column row hit
      have dark := lit.toNat_lt
      obtain ⟨i, j, set, _⟩ :=
        PlacedSprite.hits_pos_iff.mp (show 0 < sprite.hits column row by omega)
      exact ⟨i, j, set⟩
    rintro (⟨column, row, hit⟩ | ⟨column, row, hit⟩)
    · exact hitting hit
    · exact hitting hit
  · rintro ⟨i, j, set⟩
    obtain ⟨column, row, lands⟩ := exists_onPixel (sprite.x + j, sprite.y + i)
    have hit := PlacedSprite.hits_pos_iff.mpr ⟨i, j, set, lands⟩
    by_cases first : 2 ≤ (display.pixel column row).toNat + sprite.hits column row
    · exact .inl ⟨column, row, first⟩
    · refine .inr ⟨column, row, ?_⟩
      cases lit : display.pixel column row with
      | true =>
        rw [lit, Bool.toNat_true] at first
        omega
      | false =>
        have once : sprite.hits column row = 1 := by
          rw [lit, Bool.toNat_false] at first
          omega
        simp [once]

/-- Whole turns around the screen lead to the same place. -/
theorem toggle_turn (display : Display) (x y across down : Int)
    : display.toggle (x + 64 * across) (y + 32 * down) = display.toggle x y := by
  have place : location (x + 64 * across) (y + 32 * down) = location x y := by
    simp only [location, screenWidth, screenHeight, Fin.mk.injEq]
    omega
  simp only [toggle, place]

theorem toggleAll_turn (display : Display) (across down : Int) (places : List (Int × Int))
    : display.toggleAll
        (places.map fun place => (place.1 + 64 * across, place.2 + 32 * down))
      = display.toggleAll places := by
  induction places generalizing display with
  | nil => rfl
  | cons place rest ih => simp only [List.map_cons, toggleAll, toggle_turn, ih]

theorem draw_shifted {sprite other : PlacedSprite} (shifted : sprite.Shifted other)
    (display : Display)
    : display.draw other = display.draw sprite := by
  obtain ⟨rows, ⟨across, right⟩, ⟨down, below⟩⟩ := shifted
  have turned : Sprite.cells other.x other.y other.rows
      = (Sprite.cells sprite.x sprite.y sprite.rows).map fun place =>
          (place.1 + 64 * across, place.2 + 32 * down) := by
    simp only [Sprite.cells_eq, List.map_map, rows, right, below, Function.comp_def,
      Int.add_right_comm]
  rw [draw, drawSprite, turned, toggleAll_turn]
  rfl

theorem drawAll_shifted {sprites others : List PlacedSprite}
    (shifted : List.Forall₂ PlacedSprite.Shifted sprites others) (display : Display)
    : display.drawAll others = display.drawAll sprites := by
  induction shifted generalizing display with
  | nil => rfl
  | cons first _ ih => simp only [drawAll, draw_shifted first, ih]

/-- Drawing sprites in turn toggles every pixel by the parity of the set bits that land on it,
around the edges of the screen. So the order of the sprites does not matter for the pixels,
drawing all of them again restores the screen, and a sprite some whole turns away is drawn
alike, pixel by pixel and collision by collision.
A sprite of at most 32 rows switches a pixel off exactly if one of its set bits lands on a lit
one; and of any sprite that is drawn twice in a row, one drawing does so exactly if the sprite
has a set bit.
Witness: induction on the toggled places, with the parity of the hits of every pixel.
-/
theorem drawing_toggles_by_parity (display : Display) (sprites : List PlacedSprite)
    : (∀ column row,
        (display.drawAll sprites).1.pixel column row
          = (display.pixel column row ^^ (hitsOfAll sprites column row).bodd))
      ∧ (∀ others,
          sprites.Perm others
          → (display.drawAll others).1.pixels = (display.drawAll sprites).1.pixels)
      ∧ (display.drawAll (sprites ++ sprites)).1.pixels = display.pixels
      ∧ (∀ others,
          List.Forall₂ PlacedSprite.Shifted sprites others
          → display.drawAll others = display.drawAll sprites)
      ∧ (∀ sprite,
          sprite.rows.length ≤ 32
          → ((display.draw sprite).2 = true
              ↔ ∃ i j column row,
                  sprite.IsSet i j
                  ∧ sprite.Lands i j column row
                  ∧ display.pixel column row = true))
      ∧ ∀ sprite,
          (display.draw sprite).2 = true ∨ ((display.draw sprite).1.draw sprite).2 = true
            ↔ ∃ i j, sprite.IsSet i j := by
  refine ⟨display.pixel_drawAll sprites, ?_, ?_, ?_, ?_, ?_⟩
  · intro others reordered
    apply pixels_ext
    intro column row
    have same : hitsOfAll others column row = hitsOfAll sprites column row :=
      (reordered.symm.map _).sum_eq
    rw [pixel_drawAll, pixel_drawAll, same]
  · apply pixels_ext
    intro column row
    rw [pixel_drawAll, hitsOfAll_append, Nat.bodd_add, Bool.xor_self, Bool.xor_false]
  · intro others shifted
    exact drawAll_shifted shifted display
  · intro sprite low
    exact draw_collides_iff_of_low low
  · intro sprite
    exact draw_twice_collides_iff

/-- A sprite of one row that reaches over the left edge. -/
def bar : PlacedSprite :=
  { x := -3, y := 33, rows := [0xFF] }

/-- A sprite that is a row higher than the screen, so its last row overlays its first one. -/
def tower : PlacedSprite :=
  { x := 68, y := -31, rows := List.replicate 33 0x80 }

/-- Three set bits land on the pixel that both sprites share, in either order and also some
turns away. The bar collides with itself only.
-/
theorem drawing_toggles_by_parity_overlaid
    : let blank : Display := {}
      let turned : List PlacedSprite := [{ bar with x := 61, y := 1 }, { tower with y := 65 }]
      (blank.drawAll [bar, tower]).1.pixel 4 1 = true
      ∧ [bar, tower].Perm [tower, bar]
      ∧ (blank.drawAll [tower, bar]).1.pixels = (blank.drawAll [bar, tower]).1.pixels
      ∧ List.Forall₂ PlacedSprite.Shifted [bar, tower] turned
      ∧ blank.drawAll turned = blank.drawAll [bar, tower]
      ∧ bar.rows.length ≤ 32
      ∧ (blank.draw bar).2 = false
      ∧ ((blank.draw bar).1.draw bar).2 = true := by
  intro blank turned
  obtain ⟨parity, reorder, _, shift, collide, twice⟩ :=
    drawing_toggles_by_parity blank [bar, tower]
  have three : hitsOfAll [bar, tower] 4 1 = 3 := by decide +kernel
  have reordered : [bar, tower].Perm [tower, bar] := .swap _ _ _
  have shifted : List.Forall₂ PlacedSprite.Shifted [bar, tower] turned :=
    .cons ⟨rfl, ⟨1, rfl⟩, ⟨-1, rfl⟩⟩ (.cons ⟨rfl, ⟨0, rfl⟩, ⟨3, rfl⟩⟩ .nil)
  have low : bar.rows.length ≤ 32 := by decide
  have dark : ∀ column row, blank.pixel column row = false := by
    intro column row
    simp [blank, pixel]
  have first : (blank.draw bar).2 = false := by
    rw [← Bool.not_eq_true, collide bar low]
    simp [dark]
  have second : ((blank.draw bar).1.draw bar).2 = true := by
    have either := (twice bar).mpr ⟨0, 0, by decide⟩
    rwa [first, or_iff_right Bool.false_ne_true] at either
  refine ⟨?_, reordered, reorder _ reordered, shifted, shift _ shifted, low, first, second⟩
  rw [parity, three, dark]
  rfl

end Display

end ChipEight
