import FilingName.Console.Wrap

/-!
Tables in box characters: a title in the middle, a heavy frame around the headings, a light one
around the rows. A column is as wide as the widest line in it, for the console is taken to be wide
enough for every table.
-/
namespace FilingName.Console

structure Column where
  heading : Text
  /-- Whether a cell that is too wide goes on in a further line. -/
  wraps : Bool := true

structure Table where
  title : Option Text
  columns : List Column
  rows : List (List Text)

namespace Table

/-- Where a line ends when a cell is measured. -/
def endsLine (c : Char) : Bool :=
  let n := c.toNat
  n == 10 || (28 ≤ n && n ≤ 30) || n == 0x85 || n == 0x2028 || n == 0x2029

/-- The width of the widest line, `current` cells of the first one being taken. -/
def widest (current : Nat) : Text → Nat
  | [] => current
  | c :: rest =>
    if endsLine c then max current (widest 0 rest) else widest (current + Text.charWidth c) rest

def cellSize (cell : Text) : Nat := widest 0 (dropControls cell)

def columnWidth (index : Nat) (table : Table) (column : Column) : Nat :=
  (table.rows.map fun row => cellSize (row.getD index [])).foldl max (cellSize column.heading)

def widths (table : Table) : List Nat :=
  table.columns.mapIdx fun index column => table.columnWidth index column

/-- The lines of a cell, each of the column's width. -/
def cellLines (column : Column) (width : Nat) (cell : Text) : List Text :=
  (lines cell).flatMap fun line =>
    (if column.wraps then wrap width .ellipsis line else [dropEndBlanks width line]).map
      (alignLeft width .ellipsis)

/-- The corners and crossings of a rule, and what it is drawn with. -/
structure Rule where
  left : Char
  line : Char
  crossing : Char
  right : Char

def top : Rule := ⟨'┏', '━', '┳', '┓'⟩

def underHeadings : Rule := ⟨'┡', '━', '╇', '┩'⟩

def bottom : Rule := ⟨'└', '─', '┴', '┘'⟩

/-- A cell has a space on either side. -/
def writeRule (rule : Rule) (widths : List Nat) : Text :=
  rule.left :: Text.join [rule.crossing] (widths.map fun w => List.replicate (w + 2) rule.line)
    ++ [rule.right]

def writeLine (bar : Char) (cells : List Text) : Text :=
  bar :: cells.flatMap fun cell => ' ' :: cell ++ [' ', bar]

/-- A row is as high as its highest cell. -/
def rowLines (bar : Char) (columns : List (Column × Nat)) (row : List Text) : List Text :=
  let cells := columns.mapIdx fun index (column, width) =>
    (width, cellLines column width (row.getD index []))
  let height := (cells.map (·.2.length)).foldl max 0
  (List.range height).map fun i =>
    writeLine bar (cells.map fun (width, lines) => lines.getD i (spaces width))

/-- The width of the frame. -/
def totalWidth (widths : List Nat) : Nat := widths.foldr (fun width total => width + 3 + total) 1

def titleLines (width : Nat) (title : Text) : List Text :=
  ((lines title).flatMap (wrap width .fold)).map (alignCenter width .fold)

def toLines (table : Table) : List Text :=
  let widths := table.widths
  let columns := table.columns.zip widths
  (table.title.map (titleLines (totalWidth widths))).getD []
    ++ writeRule top widths :: rowLines '┃' columns (table.columns.map (·.heading))
    ++ writeRule underHeadings widths :: table.rows.flatMap (rowLines '│' columns)
    ++ [writeRule bottom widths]

def print (table : Table) : Text := unlines table.toLines

end Table
end FilingName.Console
