import Daybook.Report.Export

namespace Daybook
namespace ReportRow

/-!
# Reports as grids

A grid has a heading for every field and a line for every row.  A column is as
wide as its widest cell, measured in cells of the terminal; amounts end at the
right edge of their column, and the title stands in the middle above it all.
-/

open Unicode

/-- The spaces that fill a text up to a number of cells. -/
def filling (width : Nat) (text : Text) : Text :=
  List.replicate (width - cells text) ' '

/-- A text filled up with spaces behind it.  A joiner at its end takes in the first
of them, so what is missing then is filled up again. -/
def filledBehind (width : Nat) (text : Text) : Text :=
  let once := text ++ filling width text
  once ++ filling width once

def amountNames : List Text :=
  ["amount".toList, "total".toList, "delta".toList, "balance".toList]

def heading : Text → Text
  | [] => []
  | c :: rest => c.toUpper :: rest

/-- A column of a grid with its heading and its width in cells. -/
structure Column where
  heading : Text
  alignsRight : Bool
  width : Nat
  deriving Repr

/-- The columns for the names of fields and for the rows of cells below. -/
def columnsOf : List Text → List (List Text) → List Column
  | [], _ => []
  | name :: names, rows =>
    let heading := ReportRow.heading name
    let widths := rows.map fun row => cells (row.headD [])
    ⟨heading, amountNames.contains name, widths.foldl max (cells heading)⟩ ::
      columnsOf names (rows.map List.tail)

/-- A cell, filled up to the width of its column, with a space on both sides. -/
def paddedCell (column : Column) (text : Text) : Text :=
  let filled :=
    if column.alignsRight then filling column.width text ++ text
    else filledBehind column.width text
  ' ' :: filled ++ [' ']

/-- A line of cells between the given edges. -/
def cellLine (edge : Char) (columns : List Column) (texts : List Text) : Text :=
  edge :: Text.join [edge] (List.zipWith paddedCell columns texts) ++ [edge, '\n']

def ruleLine (left stroke crossing right : Char) (columns : List Column) : Text :=
  left ::
    Text.join [crossing] (columns.map fun column => List.replicate (column.width + 2) stroke) ++
      [right, '\n']

/-- The title in the middle of a width; an odd space is on the right. -/
def titleLine (width : Nat) (title : Text) : Text :=
  let space := width - cells title
  List.replicate (space / 2) ' ' ++ title ++ List.replicate (space - space / 2) ' ' ++ ['\n']

def gridWidth (columns : List Column) : Nat :=
  (columns.map fun column => column.width + 3).foldl (· + ·) 1

def toGrid (title : Option Text) (rows : List ReportRow) : Text :=
  if rows.isEmpty then Terminal.emptyLine
  else
    let texts := rows.map fun row => row.fields.map fun field => Terminal.printedEscaped field.2
    let columns := columnsOf (fieldNames rows) texts
    let above :=
      match title with
      | some text => titleLine (gridWidth columns) (Terminal.printedMarkup text)
      | none => []
    above ++
      ruleLine '┏' '━' '┳' '┓' columns ++
      cellLine '┃' columns (columns.map (·.heading)) ++
      ruleLine '┡' '━' '╇' '┩' columns ++
      texts.flatMap (cellLine '│' columns) ++
      ruleLine '└' '─' '┴' '┘' columns

/-- The formats of reports: a grid, a JSON list, or records with commas. -/
inductive Format where
  | grid
  | json
  | records
  deriving DecidableEq, Repr

/-- A report in a format, as it is shown on a terminal. -/
def render (format : Format) (title : Option Text) (rows : List ReportRow) : Text :=
  match format with
  | .grid => toGrid title rows
  | .json => Terminal.printed (toJson rows) ++ ['\n']
  | .records => Terminal.printedPlain (toRecords rows)

end ReportRow
end Daybook
