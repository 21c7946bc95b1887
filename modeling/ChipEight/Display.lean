import ChipEight.Constants

/-! The monochrome screen. Drawing toggles pixels, and the grid wraps around at all four
edges.
-/

namespace ChipEight

/-- The pixels row by row, and whether they changed since they were last presented. -/
structure Display where
  pixels : Vector Bool screenArea := Vector.replicate screenArea false
  dirty : Bool := true
  deriving DecidableEq

/-- The number of the pixel at a position, which wraps around at the edges. -/
def Display.location (x y : Int) : Fin screenArea :=
  ⟨(x % screenWidth).toNat + (y % screenHeight).toNat * screenWidth, by
    simp only [screenArea, screenWidth, screenHeight]
    omega⟩

/-- The places of the set bits of a sprite row: the highest bit is the leftmost pixel. -/
def Sprite.rowCells (x y : Int) (row : UInt8) : List (Int × Int) :=
  ((List.range spriteWidth).filter fun column => row.toNat.testBit (7 - column)).map
    fun (column : Nat) => (x + column, y)

/-- The places of all set bits of a sprite with its upper left corner at `(x, y)`, row by
row.
-/
def Sprite.cells (x y : Int) (rows : List UInt8) : List (Int × Int) :=
  rows.zipIdx.flatMap fun row => rowCells x (y + row.2) row.1

namespace Display

/-- Toggle a pixel and tell whether it went out. -/
def toggle (display : Display) (x y : Int) : Display × Bool :=
  let place := location x y
  let lit := display.pixels[place]
  ({ pixels := display.pixels.set place.val (!lit) place.isLt, dirty := true }, lit)

/-- Toggle several pixels in turn and tell whether any of them went out. -/
def toggleAll (display : Display) : List (Int × Int) → Display × Bool
  | [] => (display, false)
  | (x, y) :: rest =>
    let toggled := display.toggle x y
    let drawn := toggled.1.toggleAll rest
    (drawn.1, toggled.2 || drawn.2)

/-- Draw a sprite and tell whether any pixel went out. -/
def drawSprite (display : Display) (x y : Int) (rows : List UInt8) : Display × Bool :=
  display.toggleAll (Sprite.cells x y rows)

/-- Switch every pixel off. -/
def clear (_display : Display) : Display :=
  { pixels := Vector.replicate screenArea false, dirty := true }

/-- The screen once its picture was presented. -/
def presented (display : Display) : Display :=
  { display with dirty := false }

/-- The pixel in a column and a row. -/
def pixel (display : Display) (x : Fin screenWidth) (y : Fin screenHeight) : Bool :=
  display.pixels[location x.val y.val]

/-- All pixels with their column and row, row by row. -/
def entries (display : Display) : List (Nat × Nat × Bool) :=
  display.pixels.toList.zipIdx.map fun entry =>
    (entry.2 % screenWidth, entry.2 / screenWidth, entry.1)

/-- The rows from top to bottom. -/
def rows (display : Display) : List (List Bool) :=
  let pixels := display.pixels.toList
  (List.range screenHeight).map fun y => (pixels.drop (y * screenWidth)).take screenWidth

end Display

end ChipEight
