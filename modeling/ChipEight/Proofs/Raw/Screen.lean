import ChipEight.Display.Blocks
import ChipEight.Proofs.Raw.Agreement
import Mathlib.Data.List.FinRange

/-! The views of a screen that has a byte for each pixel. A byte that is one is a lit pixel, so the
views rely on every byte being zero or one; that is so for every screen that is reached by
toggling, drawing and clearing.
-/

namespace ChipEight.Raw.Display

-----------------------------------------------------------------------------------------
-- The views
-----------------------------------------------------------------------------------------

/-- The pixel in a column and a row is lit. -/
def pixel? (buffer : Display) (x y : Nat) : Option Bool := do
  let location ← word? (x + y * screenWidth)
  let byte ← buffer.pixels[location]?
  some (byte == 1)

/-- All pixels with their column and row. -/
def entries (buffer : Display) : List (Nat × Nat × Bool) :=
  buffer.pixels.toList.zipIdx.map fun entry =>
    (entry.2 % screenWidth, entry.2 / screenWidth, entry.1 == 1)

/-- The bytes in pieces as long as a row; the last one may be shorter. -/
def rows (buffer : Display) : List (List UInt8) :=
  (List.range ((buffer.pixels.size + screenWidth - 1) / screenWidth)).map fun y =>
    (buffer.pixels.toList.drop (y * screenWidth)).take screenWidth

/-- The character for a column of a row and the row below, which is dark behind the last one. -/
def block? (buffer : Display) (y x : Nat) : Option Char := do
  let lower ← if y + 1 < screenHeight then buffer.pixel? x (y + 1) else some false
  let upper ← buffer.pixel? x y
  some (halfBlock upper lower)

/-- The screen in lines of block characters, one for every second row. -/
def blockLines? (buffer : Display) : Option (List (List Char)) :=
  (List.range' 0 ((screenHeight + 1) / 2) 2).mapM fun y =>
    (List.range screenWidth).mapM (buffer.block? y)

/-- What is seen of the bytes is what is seen of the pixels. -/
structure Shows (buffer : Display) (display : ChipEight.Display) : Prop where
  bits : ∀ byte ∈ buffer.pixels, byte = 0 ∨ byte = 1
  pixel : ∀ (x : Fin screenWidth) (y : Fin screenHeight),
    buffer.pixel? x.val y.val = some (display.pixel x y)
  entries : buffer.entries = display.entries
  rows : buffer.rows = display.rows.map fun row => row.map Bool.toUInt8
  lines : buffer.blockLines? = some display.blockLines

-----------------------------------------------------------------------------------------
-- Screens that are reached by drawing
-----------------------------------------------------------------------------------------

/-- A blank screen becomes this one by toggling pixels, drawing sprites and clearing. -/
inductive Reached : Display → Prop
  | blank : Reached {}
  | toggle {buffer : Display} {x y : Int} {drawn : Display × Bool} (before : Reached buffer)
    (toggled : buffer.toggle? x y = some drawn)
    : Reached drawn.1
  | sprite {buffer : Display} {x y : Int} {bytes : List UInt8} {drawn : Display × Bool}
    (before : Reached buffer) (sprite : buffer.drawRows? x y 0 bytes = some drawn)
    : Reached drawn.1
  | clear {buffer : Display} (before : Reached buffer) : Reached buffer.clear

/-- The bytes are those of a screen with pixels. -/
def IsLayout (buffer : Display) : Prop :=
  ∃ display : ChipEight.Display, buffer = display.layout

theorem IsLayout.toggle {buffer : Display} (laidOut : buffer.IsLayout) {x y : Int}
    {drawn : Display × Bool} (toggled : buffer.toggle? x y = some drawn)
    : drawn.1.IsLayout := by
  obtain ⟨display, rfl⟩ := laidOut
  rw [ChipEight.Display.toggle?_layout] at toggled
  cases toggled
  exact ⟨_, rfl⟩

/-- Drawing columns toggles some of them, by induction on the columns that are left. -/
theorem IsLayout.drawColumns {buffer : Display} (laidOut : buffer.IsLayout) {x y : Int}
    {row column count : Nat} {byte : UInt8} {drawn : Display × Bool}
    (columns : buffer.drawColumns? x y row byte column count = some drawn)
    : drawn.1.IsLayout := by
  induction count generalizing buffer column drawn with
  | zero =>
    cases columns
    exact laidOut
  | succ count ih =>
    simp only [drawColumns?, Option.bind_eq_bind, Option.bind_eq_some_iff] at columns
    obtain ⟨mask, _, columns⟩ := columns
    split at columns
    · exact ih laidOut columns
    · simp only [Option.bind_eq_some_iff] at columns
      obtain ⟨left, _, top, _, toggled, first, rest, later, whole⟩ := columns
      have kept : rest.1.IsLayout := ih (laidOut.toggle first) later
      cases whole
      exact kept

/-- By induction on the rows of the sprite. -/
theorem IsLayout.drawRows {buffer : Display} (laidOut : buffer.IsLayout) {x y : Int} {row : Nat}
    {bytes : List UInt8} {drawn : Display × Bool}
    (rows : buffer.drawRows? x y row bytes = some drawn)
    : drawn.1.IsLayout := by
  induction bytes generalizing buffer row drawn with
  | nil =>
    cases rows
    exact laidOut
  | cons byte rest ih =>
    simp only [drawRows?, Option.bind_eq_bind, Option.bind_eq_some_iff] at rows
    obtain ⟨first, columns, later, below, whole⟩ := rows
    have kept : later.1.IsLayout := ih (laidOut.drawColumns columns) below
    cases whole
    exact kept

/-- Every byte of a screen that is reached is a pixel. -/
theorem Reached.isLayout {buffer : Display} (reached : buffer.Reached) : buffer.IsLayout := by
  induction reached with
  | blank => exact ⟨{}, Machine.layout_blank_display.symm⟩
  | toggle _ toggled ih => exact ih.toggle toggled
  | sprite _ sprite ih => exact ih.drawRows sprite
  | clear _ ih =>
    obtain ⟨display, rfl⟩ := ih
    exact ⟨_, ChipEight.Display.clear_layout display⟩

end ChipEight.Raw.Display

-----------------------------------------------------------------------------------------
-- The bytes show the pixels
-----------------------------------------------------------------------------------------

namespace ChipEight.Display

theorem location_val (x : Fin screenWidth) (y : Fin screenHeight)
    : (location x.val y.val).val = x.val + y.val * screenWidth := by
  have := x.isLt
  have := y.isLt
  simp only [location, screenWidth, screenHeight] at *
  omega

theorem toList_layout_pixels (display : Display)
    : display.layout.pixels.toList = display.pixels.toList.map Bool.toUInt8 := by
  rw [layout, Vector.toList_toArray, Vector.toList_map]

theorem toUInt8_beq_one (lit : Bool) : (lit.toUInt8 == 1) = lit := by
  cases lit <;> rfl

theorem pixel?_layout (display : Display) (x : Fin screenWidth) (y : Fin screenHeight)
    : display.layout.pixel? x.val y.val = some (display.pixel x y) := by
  have inside := (location x.val y.val).isLt
  rw [location_val] at inside
  have word : Raw.word? (x.val + y.val * screenWidth) = some (x.val + y.val * screenWidth) :=
    Raw.word?_of_le (by simp only [screenArea, screenWidth, screenHeight] at inside ⊢; omega)
  have byte : display.layout.pixels[x.val + y.val * screenWidth]?
      = some (display.pixel x y).toUInt8 := by
    rw [layout, Raw.getElem?_toArray _ inside, Vector.getElem_map]
    simp only [pixel, Fin.getElem_fin, location_val]
  simp only [Raw.Display.pixel?, word, byte, Option.bind_eq_bind, Option.bind_some,
    toUInt8_beq_one]

theorem entries_layout (display : Display) : display.layout.entries = display.entries := by
  rw [Raw.Display.entries, entries, toList_layout_pixels, List.zipIdx_map, List.map_map]
  refine List.map_congr_left ?_
  rintro ⟨lit, i⟩ _
  simp only [Function.comp_apply, Prod.map_apply, toUInt8_beq_one, id_eq]

theorem rows_layout (display : Display)
    : display.layout.rows = display.rows.map fun row => row.map Bool.toUInt8 := by
  have size : display.layout.pixels.size = screenArea := by
    rw [layout, Vector.size_toArray]
  rw [Raw.Display.rows, rows, size, toList_layout_pixels, List.map_map]
  refine List.map_congr_left fun y _ => ?_
  rw [Function.comp_apply, List.map_take, List.map_drop]

/-- A list of computations that all have a result has the list of the results. -/
theorem mapM_eq_some {α β : Type} {compute : α → Option β} {result : α → β} {list : List α}
    (has : ∀ a ∈ list, compute a = some (result a))
    : list.mapM compute = some (list.map result) := by
  induction list with
  | nil => rfl
  | cons head tail ih =>
    rw [List.mapM_cons, has head List.mem_cons_self,
      ih fun a member => has a (List.mem_cons_of_mem _ member)]
    rfl

theorem block?_layout (display : Display) (x : Fin screenWidth) {y : Nat}
    (inside : y + 1 < screenHeight)
    : display.layout.block? y x.val
      = some (halfBlock (display.pixel x ⟨y, Nat.lt_of_succ_lt inside⟩)
          (display.pixel x ⟨y + 1, inside⟩)) := by
  have upper := display.pixel?_layout x ⟨y, Nat.lt_of_succ_lt inside⟩
  have lower := display.pixel?_layout x ⟨y + 1, inside⟩
  simp only at upper lower
  simp only [Raw.Display.block?, if_pos inside, upper, lower, Option.bind_eq_bind,
    Option.bind_some]

/-- Both rows of a line are on the screen. -/
theorem lowerRow_lt (k : Fin (screenHeight / 2)) : 2 * k.val + 1 < screenHeight := by
  have := k.isLt
  simp only [screenHeight] at *
  omega

/-- Every second row begins a line of two rows, so no row is left for a line of its own. -/
theorem blockLines?_layout (display : Display)
    : display.layout.blockLines? = some display.blockLines := by
  have evens : List.range' 0 ((screenHeight + 1) / 2) 2
      = (List.finRange (screenHeight / 2)).map fun k => 2 * k.val := by
    decide
  rw [Raw.Display.blockLines?, evens, List.mapM_map, blockLines]
  refine mapM_eq_some fun k _ => ?_
  rw [← List.map_coe_finRange_eq_range, Function.comp_apply, List.mapM_map, blockLine]
  exact mapM_eq_some fun x _ => display.block?_layout x (lowerRow_lt k)

/-- The bytes of a screen show its pixels in every view. -/
theorem layout_shows (display : Display) : display.layout.Shows display where
  bits byte member := by
    simp only [layout, Vector.mem_toArray_iff, Vector.mem_map] at member
    obtain ⟨lit, _, rfl⟩ := member
    cases lit
    · exact .inl rfl
    · exact .inr rfl
  pixel := display.pixel?_layout
  entries := display.entries_layout
  rows := display.rows_layout
  lines := display.blockLines?_layout

end ChipEight.Display
