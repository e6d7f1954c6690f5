import Provisioning.Text.Columns

/-! # Tables

A table is drawn with box characters: a heading under a double line, and rows with dashed lines
between them. Every cell has a space on both sides and is filled up to the width of its column; a
line feed in a cell starts another line of its row.
-/

namespace Provisioning

structure Table where
  heading : List String
  rows : List (List String)
  deriving Repr

namespace Table

/-- The lines of a cell. -/
def cellLines (cell : String) : List String := cell.splitOn "\n"

/-- The columns that the widest line of a cell takes. -/
def cellColumns (cell : String) : Nat := ((cellLines cell).map Text.columns).foldl max 0

/-- The width of each column, enough for its heading and all its cells. -/
def widths (table : Table) : List Nat :=
  table.rows.foldl (fun widths row => List.zipWith max widths (row.map cellColumns))
    (table.heading.map cellColumns)

/-- A rule across the table, from its left end to its right end. -/
def rule (left line cross right : Char) (widths : List Nat) : String :=
  let pieces := widths.map fun width => String.ofList (List.replicate (width + 2) line)
  String.singleton left ++ (String.singleton cross).intercalate pieces ++ String.singleton right

/-- A line of a cell between its spaces. -/
def filled (width : Nat) (line : String) : String :=
  " " ++ line ++ String.ofList (List.replicate (width - Text.columns line + 1) ' ')

/-- The lines of a row. -/
def rowLines (widths : List Nat) (cells : List String) : List String :=
  let lines := cells.map cellLines
  let height := (lines.map List.length).foldl max 1
  (List.range height).map fun i =>
    let cells := List.zipWith (fun width cell => filled width (cell.getD i "")) widths lines
    "│" ++ "┆".intercalate cells ++ "│"

/-- The lines of a table. -/
def lines (table : Table) : List String :=
  let widths := table.widths
  let dashes := rule '├' '╌' '┼' '┤' widths
  let rows := (table.rows.map (rowLines widths)).intersperse [dashes]
  [rule '┌' '─' '┬' '┐' widths] ++ rowLines widths table.heading ++
    [rule '╞' '═' '╪' '╡' widths] ++ rows.flatten ++ [rule '└' '─' '┴' '┘' widths]

/-- The text of a table, each line ended by a line feed. -/
def text (table : Table) : String := String.join (table.lines.map (· ++ "\n"))

end Table

end Provisioning
