import ChipEight.Proofs.Raw.Screen
import ChipEight.Proofs.SpriteParity
import Mathlib.Data.List.FinRange

/-! All views of the screen agree, and the block characters lose nothing: the pixels in their
columns and rows, the list of all pixels, the rows and the lines of block characters each tell
all the others.
-/

namespace ChipEight.Display

-----------------------------------------------------------------------------------------
-- The places of the grid in their order
-----------------------------------------------------------------------------------------

/-- The columns and rows of the grid, row by row. -/
def positions : List (Fin screenWidth × Fin screenHeight) :=
  (List.finRange screenHeight).flatMap fun y => (List.finRange screenWidth).map fun x => (x, y)

/-- The number of a place in the grid. -/
def number (place : Fin screenWidth × Fin screenHeight) : Nat :=
  place.1.val + place.2.val * screenWidth

/-- Rows of one width lie in the order of their numbers, by induction on the number of rows. -/
theorem flatMap_range (height width : Nat)
    : ((List.range height).flatMap fun y => (List.range width).map fun x => x + y * width)
      = List.range (height * width) := by
  induction height with
  | zero => simp
  | succ height ih =>
    rw [List.range_succ, List.flatMap_append, ih, Nat.succ_mul, List.range_add,
      List.flatMap_singleton]
    simp only [Nat.add_comm]

/-- The places are numbered in their order. -/
theorem map_number_positions : positions.map number = List.range screenArea := by
  have area : screenArea = screenHeight * screenWidth := rfl
  rw [area, ← flatMap_range, positions, List.map_flatMap]
  simp only [← List.map_coe_finRange_eq_range, List.flatMap_map, List.map_map]
  rfl

theorem nodup_positions : positions.Nodup := by
  refine List.Nodup.of_map number ?_
  rw [map_number_positions]
  exact List.nodup_range

theorem mem_positions (x : Fin screenWidth) (y : Fin screenHeight) : (x, y) ∈ positions :=
  List.mem_flatMap.mpr
    ⟨y, List.mem_finRange y, List.mem_map.mpr ⟨x, List.mem_finRange x, rfl⟩⟩

-----------------------------------------------------------------------------------------
-- The views by columns and rows
-----------------------------------------------------------------------------------------

/-- The pixel with a number. -/
theorem getElem?_number (display : Display) (x : Fin screenWidth) (y : Fin screenHeight)
    : display.pixels.toList[number (x, y)]? = some (display.pixel x y) := by
  have inside := (location x.val y.val).isLt
  rw [location_val] at inside
  rw [number, List.getElem?_eq_getElem (by rwa [Vector.length_toList]), Vector.getElem_toList]
  simp only [pixel, Fin.getElem_fin, location_val]

/-- The list of all pixels goes through the places in their order. -/
theorem entries_eq (display : Display)
    : display.entries
      = positions.map fun place => (place.1.val, place.2.val, display.pixel place.1 place.2) := by
  have numbered : display.entries
      = (List.range screenArea).map fun i =>
          (i % screenWidth, i / screenWidth, display.pixels.toList.getD i false) := by
    refine List.ext_getElem ?_ fun i listed _ => ?_
    · simp [entries]
    · have inside : i < display.pixels.toList.length := by simpa [entries] using listed
      simp only [entries, List.getElem_map, List.getElem_zipIdx, List.getElem_range, Nat.zero_add,
        List.getD_eq_getElem _ _ inside]
  rw [numbered, ← map_number_positions, List.map_map]
  refine List.map_congr_left ?_
  rintro ⟨x, y⟩ _
  have := x.isLt
  have column : number (x, y) % screenWidth = x.val := by
    simp only [number, screenWidth] at *
    omega
  have row : number (x, y) / screenWidth = y.val := by
    simp only [number, screenWidth] at *
    omega
  rw [Function.comp_apply, column, row, List.getD_eq_getElem?_getD, getElem?_number]
  rfl

/-- A row has the pixels of its columns. -/
theorem rows_eq (display : Display)
    : display.rows
      = (List.finRange screenHeight).map fun y =>
          (List.finRange screenWidth).map fun x => display.pixel x y := by
  rw [rows, ← List.map_coe_finRange_eq_range, List.map_map]
  refine List.map_congr_left fun y _ => ?_
  have := y.isLt
  refine List.ext_getElem? fun i => ?_
  rw [Function.comp_apply, List.getElem?_take, List.getElem?_drop]
  by_cases inside : i < screenWidth
  · have found := display.getElem?_number ⟨i, inside⟩ y
    rw [number, Nat.add_comm] at found
    rw [if_pos inside, found]
    simp [inside]
  · rw [if_neg inside]
    simp [inside]

-----------------------------------------------------------------------------------------
-- The lines of block characters
-----------------------------------------------------------------------------------------

/-- The first one of the two rows in a line. -/
def upperRow (k : Fin (screenHeight / 2)) : Fin screenHeight :=
  ⟨2 * k.val, Nat.lt_of_succ_lt (lowerRow_lt k)⟩

/-- The second one of the two rows in a line. -/
def lowerRow (k : Fin (screenHeight / 2)) : Fin screenHeight :=
  ⟨2 * k.val + 1, lowerRow_lt k⟩

/-- Every row is in a line. -/
theorem exists_line (y : Fin screenHeight) : ∃ k, y = upperRow k ∨ y = lowerRow k := by
  have := y.isLt
  have line : y.val / 2 < screenHeight / 2 := by
    simp only [screenHeight] at *
    omega
  refine ⟨⟨y.val / 2, line⟩, ?_⟩
  simp only [upperRow, lowerRow, Fin.ext_iff]
  omega

/-- The character of a line in a column, if there is one. -/
def block? (display : Display) (k : Fin (screenHeight / 2)) (x : Fin screenWidth) : Option Char :=
  display.blockLines[k.val]?.bind fun blocks => blocks[x.val]?

theorem length_blockLines (display : Display) : display.blockLines.length = screenHeight / 2 := by
  rw [blockLines, List.length_map, List.length_finRange]

theorem length_of_mem_blockLines {display : Display} {line : List Char}
    (member : line ∈ display.blockLines)
    : line.length = screenWidth := by
  obtain ⟨k, _, rfl⟩ := List.mem_map.mp member
  rw [blockLine, List.length_map, List.length_finRange]

/-- A character shows the pixels of its column in the two rows of its line. -/
theorem block?_eq (display : Display) (k : Fin (screenHeight / 2)) (x : Fin screenWidth)
    : display.block? k x
      = some (halfBlock (display.pixel x (upperRow k)) (display.pixel x (lowerRow k))) := by
  simp [block?, blockLines, blockLine, upperRow, lowerRow]

theorem block?_eq_iff {left right : Display} {k : Fin (screenHeight / 2)} {x : Fin screenWidth}
    : left.block? k x = right.block? k x
      ↔ left.pixel x (upperRow k) = right.pixel x (upperRow k)
        ∧ left.pixel x (lowerRow k) = right.pixel x (lowerRow k) := by
  rw [block?_eq, block?_eq, Option.some.injEq, halfBlock_inj]

/-- Equal lines have equal characters, which tell their pixels, and every pixel is in a line. -/
theorem blockLines_eq_iff {left right : Display}
    : left.blockLines = right.blockLines ↔ left.pixels = right.pixels := by
  constructor
  · intro same
    apply pixels_ext
    intro x y
    have blocks (k : Fin (screenHeight / 2)) : left.block? k x = right.block? k x := by
      rw [block?, block?, same]
    obtain ⟨k, upper | lower⟩ := exists_line y
    · rw [upper]
      exact (block?_eq_iff.mp (blocks k)).1
    · rw [lower]
      exact (block?_eq_iff.mp (blocks k)).2
  · intro same
    simp only [blockLines, blockLine, pixel, same]

-----------------------------------------------------------------------------------------
-- The views together
-----------------------------------------------------------------------------------------

/-- Every view of a screen has the pixels in their places. -/
structure ViewsAgree (display : Display) : Prop where
  entries : display.entries
    = positions.map fun place => (place.1.val, place.2.val, display.pixel place.1 place.2)
  rows : display.rows
    = (List.finRange screenHeight).map fun y =>
        (List.finRange screenWidth).map fun x => display.pixel x y
  height : display.blockLines.length = 16
  width : ∀ line ∈ display.blockLines, line.length = 64
  blocks : ∀ k x,
    display.block? k x
      = some (halfBlock (display.pixel x (upperRow k)) (display.pixel x (lowerRow k)))

theorem viewsAgree (display : Display) : display.ViewsAgree where
  entries := display.entries_eq
  rows := display.rows_eq
  height := display.length_blockLines
  width _ := length_of_mem_blockLines
  blocks := display.block?_eq

/-- Screens with the same bytes have the same pixels. -/
theorem layout_pixels_eq_iff {left right : Display}
    : left.layout.pixels = right.layout.pixels ↔ left.pixels = right.pixels := by
  constructor
  · intro same
    apply pixels_ext
    intro x y
    have byte : left.layout.pixel? x.val y.val = right.layout.pixel? x.val y.val := by
      rw [Raw.Display.pixel?, Raw.Display.pixel?, same]
    rw [pixel?_layout, pixel?_layout] at byte
    exact Option.some.inj byte
  · intro same
    simp only [layout, same]

/-- All views of the screen agree, and none of them loses anything. The list of all pixels goes
once through every place, row by row; the rows and the sixteen lines of 64 block characters have
the same pixels in the same places; and a character tells its two pixels. Where pixels are bytes,
the bytes of every screen that is reached by drawing are zero or one, and show it in every view.
So two such screens have the same lines exactly if all their pixels are equal.
Witness: the number of a place, and the pixels of a character.
-/
theorem views_agree_and_lose_nothing
    : (positions.map number = List.range screenArea
        ∧ positions.Nodup
        ∧ ∀ x y, (x, y) ∈ positions)
      ∧ (∀ display : Display, display.ViewsAgree)
      ∧ (∀ (left right : Display) (k : Fin (screenHeight / 2)) (x : Fin screenWidth),
          left.block? k x = right.block? k x
            ↔ left.pixel x (upperRow k) = right.pixel x (upperRow k)
              ∧ left.pixel x (lowerRow k) = right.pixel x (lowerRow k))
      ∧ (∀ left right : Display,
          left.blockLines = right.blockLines ↔ ∀ x y, left.pixel x y = right.pixel x y)
      ∧ (∀ buffer : Raw.Display,
          buffer.Reached → ∃ display, buffer = display.layout ∧ buffer.Shows display)
      ∧ ∀ left right : Raw.Display,
          left.Reached
          → right.Reached
          → (left.blockLines? = right.blockLines? ↔ left.pixels = right.pixels) := by
  refine ⟨⟨map_number_positions, nodup_positions, mem_positions⟩, viewsAgree,
    fun _ _ _ _ => block?_eq_iff, ?_, ?_, ?_⟩
  · intro left right
    rw [blockLines_eq_iff]
    exact ⟨fun same x y => by rw [pixel, pixel, same], pixels_ext⟩
  · intro buffer reached
    obtain ⟨display, rfl⟩ := reached.isLayout
    exact ⟨display, rfl, display.layout_shows⟩
  · intro left right leftReached rightReached
    obtain ⟨display, rfl⟩ := leftReached.isLayout
    obtain ⟨other, rfl⟩ := rightReached.isLayout
    rw [blockLines?_layout, blockLines?_layout, Option.some.injEq, blockLines_eq_iff,
      layout_pixels_eq_iff]

/-- A pixel that was toggled across two edges is seen in the last corner, and in the lines. -/
theorem views_agree_and_lose_nothing_corner
    : ∃ buffer : Raw.Display,
        buffer.Reached
        ∧ ({} : Raw.Display).Reached
        ∧ buffer.pixel? 63 31 = some true
        ∧ (∃ display, buffer = display.layout ∧ buffer.Shows display)
        ∧ buffer.blockLines? ≠ ({} : Raw.Display).blockLines? := by
  obtain ⟨_, _, _, _, shown, told⟩ := views_agree_and_lose_nothing
  have start : Raw.Display.Reached {} := .blank
  let toggled := ({} : Display).toggle (-1) (-1)
  have step : ({} : Raw.Display).toggle? (-1) (-1) = some (Prod.map layout id toggled) := by
    rw [← Machine.layout_blank_display, toggle?_layout]
  have reached : toggled.1.layout.Reached := .toggle start step
  have lit : toggled.1.layout.pixel? 63 31 = some true := by
    rw [show (63 : Nat) = (63 : Fin screenWidth).val from rfl,
      show (31 : Nat) = (31 : Fin screenHeight).val from rfl, pixel?_layout, pixel_toggle]
    simp [pixel, OnPixel]
  have dark : ({} : Raw.Display).pixel? 63 31 = some false := by
    rw [← Machine.layout_blank_display, show (63 : Nat) = (63 : Fin screenWidth).val from rfl,
      show (31 : Nat) = (31 : Fin screenHeight).val from rfl, pixel?_layout]
    simp [pixel]
  refine ⟨_, reached, start, lit, shown _ reached, ?_⟩
  intro same
  have bytes := (told _ _ reached start).mp same
  rw [Raw.Display.pixel?, bytes] at lit
  rw [Raw.Display.pixel?, lit] at dark
  cases dark

end ChipEight.Display
