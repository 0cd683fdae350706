import Phrasebook.Text.Cut
import Phrasebook.Text.Width

/-!
# Tables

A table has a header and rows inside a frame. A column is as wide as its widest cell; one blank
stands on each side of a cell and one more between columns. A cell with several lines makes its
row as high.
-/
namespace Phrasebook.CommandLine.Table

open Text

def pad (width : Nat) (line : String) : String :=
  line ++ String.ofList (List.replicate (width - Text.width line) ' ')

/-- The width of each column, for rows whose cells are given by their lines. -/
def columnWidths (rows : List (List (List String))) : List Nat :=
  rows.foldl (fun widths row =>
    let own := row.map fun lines => (lines.map Text.width).foldl max 0
    (List.range (max widths.length own.length)).map fun i =>
      max (widths.getD i 0) (own.getD i 0)) []

/-- A row between the sides of the frame, one text line for each line of its highest cell. -/
def frameRow (widths : List Nat) (row : List (List String)) : List String :=
  let height := (row.map List.length).foldl max 1
  (List.range height).map fun i =>
    let cells := (widths.zip row).map fun (width, lines) =>
      " " ++ pad width (lines.getD i "") ++ " "
    "│" ++ " ".intercalate cells ++ "│"

def frameLine (left fill right : Char) (widths : List Nat) : String :=
  let inner := widths.foldl (fun columns width => columns + width + 2) (widths.length - 1)
  String.ofList (left :: List.replicate inner fill ++ [right])

/-- The text of a table, without a line end behind its last line. -/
def render (header : List String) (rows : List (List String)) : String :=
  let header := header.map (pieces '\n')
  let rows := rows.map fun row => row.map (pieces '\n')
  let widths := columnWidths (header :: rows)
  let lines :=
    frameLine '┌' '─' '┐' widths :: frameRow widths header ++
      frameLine '╞' '═' '╡' widths :: rows.flatMap (frameRow widths) ++
      [frameLine '└' '─' '┘' widths]
  "\n".intercalate lines

end Phrasebook.CommandLine.Table
