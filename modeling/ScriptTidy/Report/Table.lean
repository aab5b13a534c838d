import ScriptTidy.Text.Width

/-!
# Tables

A table between lines. Every column is as wide as its widest cell.
-/

namespace ScriptTidy

/-- A heading for each column, and rows with a cell for each column. -/
structure Table where
  headings : List String
  rows : List (List String)
  deriving Repr

namespace Table

/-- The lines of a cell. -/
def cellLines (cell : String) : List String := cell.splitOn "\n"

/-- The number of columns on the screen that a cell takes. -/
def cellWidth (cell : String) : Nat := ((cellLines cell).map Width.ofText).foldl max 0

/-- The width of each column of the table. -/
def widths (t : Table) : List Nat :=
  t.rows.foldl (fun ws row => ws.zipWith max (row.map cellWidth)) (t.headings.map cellWidth)

/-- A character a number of times. -/
def repeated (c : Char) (count : Nat) : String := String.ofList (List.replicate count c)

/-- A line between rows. A cell has a blank on either side. -/
def ruler (left line cross right : Char) (ws : List Nat) : String :=
  left.toString ++ cross.toString.intercalate (ws.map fun w => repeated line (w + 2)) ++ right.toString

/-- A piece of a cell with its blanks. -/
def padded (width : Nat) (text : String) : String := " " ++ text ++ repeated ' ' (width - Width.ofText text) ++ " "

/-- One line of a row. -/
def rowLine (ws : List Nat) (pieces : List String) : String :=
  "│" ++ "┆".intercalate (ws.zipWith padded pieces) ++ "│"

/-- The lines of a row, as many as its highest cell has. -/
def rowLines (ws : List Nat) (row : List String) : List String :=
  let cells := row.map cellLines
  let height := (cells.map List.length).foldl max 0
  (List.range height).map fun i => rowLine ws (cells.map (·.getD i ""))

/-- The rows with lines between them. -/
def bodyLines (ws : List Nat) : List (List String) → List String
  | [] => []
  | [row] => rowLines ws row
  | row :: rows => rowLines ws row ++ ruler '├' '╌' '┼' '┤' ws :: bodyLines ws rows

/-- The table as a text without an end of its last line. -/
def text (t : Table) : String :=
  let ws := t.widths
  "\n".intercalate
    (ruler '┌' '─' '┬' '┐' ws :: rowLines ws t.headings ++ ruler '╞' '═' '╪' '╡' ws :: bodyLines ws t.rows ++
      [ruler '└' '─' '┴' '┘' ws])

end Table

end ScriptTidy
