import ChipEight.Terminal.Screen

/-! What an observer sees on a terminal that knows nothing of clusters: it gives a column to
every character that it gets. Pictures are drawn by their changes only, so a row may keep what
an earlier picture left behind.
-/

namespace ChipEight.Terminal

/-- The cells of a row that differ from those before, each with its column. The next `covered`
columns lie under a wide cell, and the next `stale` ones lay under one and are drawn anew.
-/
def changedCells (column covered stale : Nat) : List Cell → List Cell → List (Nat × Cell)
  | old :: olds, new :: news =>
    let rest :=
      changedCells (column + 1) (new.width - 1) (max (max old.width new.width) stale - 1) olds
        news
    if covered = 0 ∧ (old ≠ new ∨ 0 < stale) then (column, new) :: rest else rest
  | _, _ => []

/-- A row of characters with the column in which the next one is written. -/
structure Pen where
  row : List Char
  column : Nat := 0
  deriving DecidableEq, Repr

namespace Pen

/-- Write a character. What does not fit into the row is lost; of the control characters only
the one that goes back to the first column matters.
-/
def write (pen : Pen) (c : Char) : Pen :=
  if c = '\r' then { pen with column := 0 }
  else if c < ' ' then pen
  else { row := pen.row.set pen.column c, column := pen.column + 1 }

/-- Write cells. The pen is put to the column of a cell unless it is next to the last one. -/
def writeCells (pen : Pen) (next : Nat) : List (Nat × Cell) → Pen
  | [] => pen
  | (column, cell) :: rest =>
    let placed := if column = next then pen else { pen with column }
    (cell.text.foldl write placed).writeCells (column + 1) rest

/-- A row keeps its length when a character is written. -/
theorem length_row_write (pen : Pen) (c : Char)
    : (pen.write c).row.length = pen.row.length := by
  unfold write
  split
  · rfl
  · split <;> simp

/-- A row keeps its length when cells are written, by induction on the cells. -/
theorem length_row_writeCells (pen : Pen) (next : Nat) (cells : List (Nat × Cell))
    : (pen.writeCells next cells).row.length = pen.row.length := by
  have text (pen : Pen) (cs : List Char) : (cs.foldl write pen).row.length = pen.row.length := by
    induction cs generalizing pen with
    | nil => rfl
    | cons c cs ih => rw [List.foldl_cons, ih, length_row_write]
  induction cells generalizing pen next with
  | nil => rfl
  | cons cell cells ih =>
    rw [writeCells, ih, text]
    split <;> rfl

end Pen

/-- The cells that were drawn last, and the characters that they left. -/
structure View where
  cells : List (List Cell)
  rows : List (List Char)
  /-- The number of bells among the characters. -/
  bells : Nat := 0
  deriving DecidableEq, Repr

namespace View

/-- An empty terminal. -/
def blank (size : Size) : View :=
  { cells := List.replicate size.boxHeight (List.replicate size.boxWidth .blank)
    rows := List.replicate size.rows (List.replicate size.columns ' ') }

/-- Draw the changes of rows; rows further down stay as they are. -/
def drawRows : List (List (Nat × Cell)) → List (List Char) → List (List Char)
  | changes :: rest, row :: rows =>
    (Pen.writeCells { row } 0 changes).row :: drawRows rest rows
  | _, rows => rows

/-- Draw a picture over the one before. -/
def draw (view : View) (picture : List (List Cell)) : View :=
  if picture.isEmpty then
    view
  else
    let changes := List.zipWith (changedCells 0 0 0) view.cells picture
    let written := changes.flatten.flatMap fun change => change.2.text
    { cells := picture
      rows := drawRows changes view.rows
      bells := view.bells + written.count '\x07' }

/-- Without the last elements that satisfy a test. -/
def dropEnd {α : Type} (test : α → Bool) (list : List α) : List α :=
  (list.reverse.dropWhile test).reverse

/-- The lines that can be seen, without blanks at their ends and without empty ones at the
end.
-/
def lines (view : View) : List String :=
  (dropEnd List.isEmpty (view.rows.map (dropEnd (· == ' ')))).map String.ofList

end View

end ChipEight.Terminal
