import FontSubset.Report
import FontSubset.Text.Width
/-! Tables in plain characters: a border around every row, cells aligned left with one
blank on each side, and further lines in a cell where its text has line ends. A report has a row
for each font, in scan order. -/
namespace FontSubset

namespace Table

def widest (lines : List (List Char)) : Nat := (lines.map Text.width).foldr max 0

abbrev Row := List (List Char)

def contentWidths (header : Row) (rows : List Row) : List Nat :=
  rows.foldl
    (fun widths row => widths.zipWith (fun width cell => max width (widest (cell.splitOn '\n'))) row)
    (header.map fun cell => widest (cell.splitOn '\n'))

def border (widths : List Nat) : List Char :=
  '+' :: widths.flatMap fun width => List.replicate (width + 2) '-' ++ ['+']

def padded (width : Nat) (line : List Char) : List Char :=
  ' ' :: line ++ List.replicate (width - Text.width line + 1) ' '

def height (row : Row) : Nat := (row.map fun cell => (cell.splitOn '\n').length).foldr max 0

/-- The `k`-th line of a row; a cell without that many lines is blank there. -/
def rowLine (widths : List Nat) (row : Row) (k : Nat) : List Char :=
  '|' :: (widths.zip row).flatMap fun (width, cell) =>
    padded width ((cell.splitOn '\n')[k]?.getD []) ++ ['|']

def rowLines (widths : List Nat) (row : Row) : List (List Char) :=
  (List.range (height row)).map (rowLine widths row)

def lines (header : Row) (rows : List Row) : List (List Char) :=
  let widths := contentWidths header rows
  border widths :: (header :: rows).flatMap fun row => rowLines widths row ++ [border widths]

def render (header : Row) (rows : List Row) : String :=
  String.ofList (['\n'].intercalate (lines header rows))

end Table

namespace Report

def tableHeader : Table.Row := ["Font".toList, "Result".toList, "Time (ms)".toList]

def tableRow (file : FileReport) : Table.Row :=
  [file.font.display.toList, file.outcome.display.toList, (toString file.duration.toInt).toList]

def table (report : Report) : String := Table.render tableHeader (report.files.map tableRow)

end Report
end FontSubset
