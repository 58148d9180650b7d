import Lineage.Number.Binary64
import Lineage.Report.Wrap
import Lineage.Text.Breaks
import Lineage.Text.Marked

/-!
# Tables

`Sheet.draw` draws a table with lines around its cells. A column is as wide as its widest cell,
unless the table would be wider than the page: then the widest columns are made narrower, and
cells run over several lines. The title stands in the middle above the table.
-/

namespace Lineage.Report

/-- The head of a column. -/
structure Heading where
  text : String
  /-- Whether the cells of the column stand on the right. -/
  onRight : Bool := false
  deriving DecidableEq, Repr

/-- A table, whose title and cells may hold marks. -/
structure Table where
  title : String
  headings : List Heading
  rows : List (List String)
  deriving DecidableEq, Repr

/-- A table without marks. -/
structure Sheet where
  title : String
  headings : List Heading
  rows : List (List Text.Shown)
  deriving DecidableEq, Repr

/-- The number of cells across a page. -/
def pageWidth : Nat := 1000

/-! ### Cells -/

/-- The layout of the cells of a column. -/
def Heading.layout (h : Heading) : Layout :=
  { placing := if h.onRight then .right else .left, folds := false }

/-- The width of a cell: that of its widest line. -/
def cellWidth (cell : String) : Nat :=
  ((Text.lines cell.toList).map Text.width).foldl max 0

/-- The segments of a line between some places. -/
def segments (cuts : List Nat) (line : List Char) : List (List Char) :=
  let inner := (cuts.filter (· < line.length)).mergeSort
  (List.zip (0 :: inner) (inner ++ [line.length])).map fun s =>
    (line.take s.2).drop s.1

/-- The beginnings of some segments that fit a number of cells. -/
def fittingSegments (cells : Nat) : List (List Char) → List Char
  | [] => []
  | s :: ss =>
    if Text.width s < cells then s ++ fittingSegments (cells - Text.width s) ss
    else Text.resize cells s

/-- Segments of a line cut to a number of cells, or with blanks up to it. -/
def resizeSegments (cells : Nat) (ss : List (List Char)) : List Char :=
  let used := ss.foldl (fun used s => used + Text.width s) 0
  if used < cells then ss.flatten ++ blanks (cells - used)
  else if used = cells then ss.flatten
  else fittingSegments cells ss

/-- The parts of a line up to its tabs and with them, each with its place. -/
def tabbedParts (place : Nat) (part : Nat) : List Char → List (Nat × Nat)
  | [] => [(place, place + part)]
  | c :: cs =>
    if c = '\t' then (place, place + part + 1) :: tabbedParts (place + part + 1) 0 cs
    else tabbedParts place (part + 1) cs

/-- The stretches of a line once its tabs are written as blanks. The blanks of a tab belong to the
stretch that ends with it. -/
def expandStretches (line : List Char) (stretches : List (Nat × Nat)) : List (Nat × Nat) :=
  let reached (place : Nat) := (expandTabs (line.take place)).length
  (tabbedParts 0 0 line).flatMap fun part =>
    stretches.filterMap fun stretch =>
      let first := max stretch.1 part.1
      let last := min stretch.2 part.2
      if first < last then
        some (reached part.1 + (first - part.1),
          if last = part.2 then reached last else reached part.1 + (last - part.1))
      else none

/-- The stretches that have a style in a line of a cell that starts at some place. -/
def lineStretches (cell : Text.Shown) (start : Nat) (line : List Char) : List (Nat × Nat) :=
  let stretches := cell.stretches start line.length
  if line.contains '\t' then expandStretches line stretches else stretches

/-- Texts with the places where they start, given that of the first one and the number of characters
between two of them. -/
def placed (gap : Nat) (start : Nat) : List (List Char) → List (Nat × List Char)
  | [] => []
  | cs :: more => (start, cs) :: placed gap (start + cs.length + gap) more

/-- The stretches of a line in a piece of it. -/
def pieceStretches (stretches : List (Nat × Nat)) (piece : Nat × List Char) : List (Nat × Nat) :=
  (stretches.map fun stretch =>
    (max stretch.1 piece.1 - piece.1,
      min stretch.2 (piece.1 + piece.2.length) - piece.1)).filter fun stretch =>
        stretch.1 < stretch.2

/-- The places where stretches of a piece begin or end of which some characters are kept. -/
def cuts (piece : List Char) (kept : Nat) (stretches : List (Nat × Nat)) : List Nat :=
  stretches.flatMap fun stretch =>
    if stretch.1 < kept || kept = piece.length then [stretch.1, min stretch.2 kept] else []

/-- A piece of a line with blanks up to the width. It is measured in the segments that its styles
make. -/
def cellLine (h : Heading) (width : Nat) (piece : List Char) (stretches : List (Nat × Nat)) :
    List Char :=
  let kept := (h.layout.cut width (trimExcess width piece)).length
  resizeSegments width (segments (cuts piece kept stretches) (h.layout.finish width piece))

/-- The lines of a cell, each with blanks up to the width. -/
def cellLines (h : Heading) (width : Nat) (cell : Text.Shown) : List (List Char) :=
  (placed 1 0 (splitLines cell.text.toList)).flatMap fun line =>
    let stretches := lineStretches cell line.1 line.2
    match h.layout.pieces width line.2 with
    | [piece] => [cellLine h width piece stretches]
    | pieces => (placed 0 0 pieces).map fun piece =>
      cellLine h width piece.2 (pieceStretches stretches piece)

/-! ### Widths -/

/-- Widths that are taken from in turn, each of those that are marked by its share of what is
left to take and by no more than `most`. The number of the marked widths is given. -/
def takeShares (most : Nat) : Nat → Nat → List (Bool × Nat) → List Nat
  | _, _, [] => []
  | left, shares, (marked, width) :: widths =>
    if marked then
      let share := min most (Binary64.roundQuotient left shares)
      (width - share) :: takeShares most (left - share) (shares - 1) widths
    else width :: takeShares most left shares widths

/-- The sum of some widths. -/
def total (widths : List Nat) : Nat :=
  widths.foldl (· + ·) 0

/-- Widths that come to no more than a limit. The widest of them are made narrower, down to the
next narrower one at a time. A step takes something off, so the sum of the widths is fuel enough. -/
def narrow (limit : Nat) : Nat → List Nat → List Nat
  | 0, widths => widths
  | fuel + 1, widths =>
    let excess := total widths - limit
    if excess = 0 then widths
    else
      let widest := widths.foldl max 0
      let next := (widths.filter (· ≠ widest)).foldl max 0
      let marked := widths.map fun w => (decide (w = widest), w)
      let shares := (widths.filter (· = widest)).length
      narrow limit fuel (takeShares (min excess (widest - next)) excess shares marked)

/-! ### Drawing -/

/-- The strokes of a line of a table: its beginning, what stands between two columns, and its
end. -/
structure Strokes where
  first : Char
  between : Char
  last : Char

/-- Pieces with strokes around them. -/
def Strokes.join (s : Strokes) (pieces : List (List Char)) : List Char :=
  s.first :: (List.intercalate [s.between] pieces ++ [s.last])

/-- A rule across a table. -/
def rule (stroke : Char) (s : Strokes) (widths : List Nat) : List Char :=
  s.join (widths.map fun w => List.replicate w stroke)

/-- The lines of a row. There is a blank on both sides of a cell. -/
def rowLines (s : Strokes) (columns : List (Heading × Nat)) (row : List Text.Shown) :
    List (List Char) :=
  let cells := (columns.zip row).map fun c => (c.1.2, cellLines c.1.1 (c.1.2 - 2) c.2)
  let height := (cells.map fun c => c.2.length).foldl max 1
  (List.range height).map fun n =>
    s.join <| cells.map fun c => ' ' :: ((c.2[n]?).getD (blanks (c.1 - 2)) ++ [' '])

namespace Sheet

/-- The widths that the columns would have on an endless page. -/
def widestCells (t : Sheet) : List Nat :=
  t.headings.mapIdx fun n h =>
    let cells := t.rows.map fun row => (row[n]?).elim "" Text.Shown.text
    ((h.text :: cells).map cellWidth).foldl max 0 + 2

/-- The number of strokes in a row. -/
def strokeCount (t : Sheet) : Nat :=
  t.headings.length + 1

/-- The widths of the columns, with the blanks around their cells. -/
def widths (t : Sheet) : List Nat :=
  let wanted := t.widestCells.map (min · (pageWidth - t.strokeCount))
  let narrowed := narrow (pageWidth - t.strokeCount) (total wanted) wanted
  (wanted.zip narrowed).map fun w => min w.1 w.2

/-- The lines of a table. -/
def lines (t : Sheet) : List (List Char) :=
  let widths := t.widths
  let columns := t.headings.zip widths
  let title : Layout := { placing := .middle }
  title.lines (total widths + t.strokeCount) t.title.toList ++
    [rule '━' ⟨'┏', '┳', '┓'⟩ widths] ++
    rowLines ⟨'┃', '┃', '┃'⟩ columns (t.headings.map fun h => { text := h.text }) ++
    [rule '━' ⟨'┡', '╇', '┩'⟩ widths] ++
    t.rows.flatMap (rowLines ⟨'│', '│', '│'⟩ columns) ++
    [rule '─' ⟨'└', '┴', '┘'⟩ widths]

/-- A table as a text. -/
def draw (t : Sheet) : String :=
  String.ofList (t.lines.flatMap (· ++ ['\n']))

end Sheet

end Lineage.Report
