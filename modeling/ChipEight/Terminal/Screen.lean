import ChipEight.Display.Blocks
import ChipEight.Terminal.Status
import ChipEight.Text.ColumnWidth

/-! The picture on a terminal: a box in the upper left corner with the screen of the machine
inside and the status line over its upper border. It is made of cells, one for each column of
each row.
-/

namespace ChipEight.Terminal

/-- The size of a terminal. -/
structure Size where
  columns : Nat
  rows : Nat
  deriving DecidableEq, Repr

namespace Size

/-- The width of the box: the screen with its borders, if the terminal has room for it. -/
def boxWidth (size : Size) : Nat :=
  min (screenWidth + 2) size.columns

/-- The height of the box. -/
def boxHeight (size : Size) : Nat :=
  min (screenHeight / 2 + 2) size.rows

end Size

/-- What stands in a column of a row. -/
inductive Cell where
  /-- Nothing; a wide cluster may reach over the column. -/
  | blank
  /-- A character of the border or of the screen inside. -/
  | plain (c : Char)
  /-- A cluster of the status line, which has a colour of its own. -/
  | title (cluster : Cluster)
  deriving DecidableEq, Repr

namespace Cell

/-- The characters that a terminal gets to show the cell. -/
def text : Cell → List Char
  | .blank => [' ']
  | .plain c => [c]
  | .title cluster => cluster

/-- The columns that the cell takes, with those that it reaches over. -/
def width : Cell → Nat
  | .blank | .plain _ => 1
  | .title cluster => ColumnWidth.ofCluster cluster

end Cell

/-- The cells of clusters, each with those that it reaches over. -/
def titleCells (clusters : List Cluster) : List Cell :=
  clusters.flatMap fun cluster =>
    .title cluster :: List.replicate (ColumnWidth.ofCluster cluster - 1) .blank

/-- The upper border with the status line over it. -/
def topRow (width : Nat) (status : List Char) : List Cell :=
  let inner := width - 2
  let clusters := ColumnWidth.fit inner (Cluster.split status)
  let padding := inner - ColumnWidth.ofClusters clusters
  [.plain '┌'] ++ titleCells clusters ++ List.replicate padding (.plain '─') ++ [.plain '┐']

/-- The beginning of a line that fits between the side borders. -/
def sideRow (width : Nat) (line : List Char) : List Cell :=
  [.plain '│'] ++ (line.take (width - 2)).map .plain ++ [.plain '│']

/-- The lower border. -/
def bottomRow (width : Nat) : List Cell :=
  [.plain '└'] ++ List.replicate (width - 2) (.plain '─') ++ [.plain '┘']

/-- The rows of the box. Without room for both borders nothing is drawn. -/
def boxRows (size : Size) (status : Status) (display : Display) : List (List Cell) :=
  let width := size.boxWidth
  let height := size.boxHeight
  if width < 2 ∨ height < 2 then
    []
  else
    [topRow width status.line.toList]
      ++ (display.blockLines.take (height - 2)).map (sideRow width)
      ++ [bottomRow width]

/-- The text of a row for a terminal that knows how wide clusters are. -/
def rowText (row : List Cell) : String :=
  String.ofList ((row.filter (· != .blank)).flatMap Cell.text)

end ChipEight.Terminal
