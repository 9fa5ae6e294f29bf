import Mrtd.Text.Width

/-!
Tables drawn with lines and rounded corners. A cell may hold several lines.
-/

namespace Mrtd.Format.Boxed

/-- The lines of a cell. -/
def linesOf (cell : String) : List String :=
  (Text.splitOn (· == '\n') cell.toList).map String.ofList

/-- The columns that a cell takes up. -/
def width (cell : String) : Nat :=
  ((linesOf cell).map Text.columns).foldl max 0

/-- The widths of the columns of some rows, each of as many cells as the first row. -/
def widths (head : List String) (rows : List (List String)) : List Nat :=
  rows.foldl (fun ws row => List.zipWith max ws (row.map width)) (head.map width)

/-- A horizontal line. -/
def rule (left joint right : String) (ws : List Nat) : String :=
  left ++ joint.intercalate (ws.map fun w => String.ofList (List.replicate (w + 2) '─')) ++ right

/-- One line of a row. -/
def rowLine (ws : List Nat) (cells : List String) : String :=
  let padded := List.zipWith (fun w cell => " " ++ Text.padTo w cell ++ " ") ws cells
  "│" ++ "│".intercalate padded ++ "│"

/-- The lines of a row, as many as its tallest cell has. -/
def rowLines (ws : List Nat) (cells : List String) : List String :=
  let cellLines := cells.map linesOf
  let height := (cellLines.map List.length).foldl max 0
  (List.range height).map fun i => rowLine ws (cellLines.map fun ls => ls.getD i "")

/-- The lines of a table. Without rows nothing follows the line under the head. -/
def lines (head : List String) (rows : List (List String)) : List String :=
  let ws := widths head rows
  [rule "╭" "┬" "╮" ws] ++ rowLines ws head ++ [rule "├" "┼" "┤" ws] ++
    if rows.isEmpty then [] else rows.flatMap (rowLines ws) ++ [rule "╰" "┴" "╯" ws]

end Mrtd.Format.Boxed
