import Lineage.Text.Blank
import Lineage.Text.Width

/-!
# Wrapping

`Layout.lines` breaks a text into lines that fit a number of cells. Lines break between words. A
word that fits no line is cut into pieces, or it stands on a line of its own and the line is cut
off. Tabs reach to the next multiple of eight cells.
-/

namespace Lineage.Report

/-! ### Lines and tabs -/

/-- A text cut at every line feed. -/
def splitLines : List Char → List (List Char)
  | [] => [[]]
  | c :: cs =>
    if c = '\n' then [] :: splitLines cs
    else match splitLines cs with
      | [] => [[c]]
      | l :: ls => (c :: l) :: ls

/-- Some blanks. -/
def blanks (n : Nat) : List Char :=
  List.replicate n ' '

/-- A line with its tabs written as blanks. The number of cells before the part under way is
given, and the characters of that part, the last of them first. -/
def expandAfter (cells : Nat) (part : List Char) : List Char → List Char
  | [] => part.reverse
  | c :: cs =>
    if c = '\t' then
      let part := (' ' :: part).reverse
      let reached := cells + Text.width part
      let gap := (8 - reached % 8) % 8
      part ++ blanks gap ++ expandAfter (reached + gap) [] cs
    else expandAfter cells (c :: part) cs

/-- A line with its tabs written as blanks. -/
def expandTabs (line : List Char) : List Char :=
  if line.contains '\t' then expandAfter 0 [] line else line

/-- A text without the white space at its end. -/
def trimEnd (cs : List Char) : List Char :=
  (cs.reverse.dropWhile Text.isSeparating).reverse

/-- A line that is longer than some characters, without the white space at its end beyond
them. -/
def trimExcess (limit : Nat) (line : List Char) : List Char :=
  let white := (line.reverse.takeWhile Text.isSeparating).length
  line.take (line.length - min white (line.length - limit))

/-! ### Words -/

/-- A text cut wherever white space ends. -/
def groups : List Char → List (List Char)
  | [] => []
  | c :: cs =>
    match groups cs with
    | [] => [[c]]
    | w :: ws =>
      if Text.isSeparating c && !(w.head?.elim false Text.isSeparating) then [c] :: w :: ws
      else (c :: w) :: ws

/-- The words of a text, each with the white space after it. The white space at the beginning
belongs to the first word. -/
def words (cs : List Char) : List (List Char) :=
  let (blank, rest) := cs.span Text.isSeparating
  match groups rest with
  | [] => if blank.isEmpty then [] else [blank]
  | w :: ws => (blank ++ w) :: ws

/-- The lines that are full, the last of them first, and the line under way with the number of
its cells. -/
structure Filling where
  full : List (List Char) := []
  line : List Char := []
  used : Nat := 0

/-- All lines. -/
def Filling.lines (f : Filling) : List (List Char) :=
  (f.line :: f.full).reverse

/-- A new line that begins with some text. A line with nothing on it is not kept. -/
def Filling.begin (f : Filling) (line : List Char) : Filling :=
  { full := if f.line.isEmpty then f.full else f.line :: f.full
    line := line
    used := Text.width line }

/-- The lines with one more word. If words are folded, one that fits no line is cut into pieces,
and otherwise it takes a line as it is. -/
def Filling.add (folds : Bool) (width : Nat) (f : Filling) (word : List Char) : Filling :=
  let size := Text.width (trimEnd word)
  if f.used + size ≤ width then
    { f with line := f.line ++ word, used := f.used + Text.width word }
  else if folds && size > width then (Text.chop width word).foldl Filling.begin f
  else f.begin word

/-- The lines of a text without line feeds. -/
def fill (folds : Bool) (width : Nat) (cs : List Char) : List (List Char) :=
  ((words cs).foldl (Filling.add folds width) {}).lines

/-! ### Layouts -/

/-- Where the lines of a text stand within their width. -/
inductive Placing where
  /-- At the beginning, with nothing after them. -/
  | plain
  | left
  | middle
  | right
  deriving DecidableEq, Repr

/-- How a text is laid out. -/
structure Layout where
  placing : Placing := .plain
  /-- Whether a word that fits no line is cut into pieces. Otherwise the line is cut off, and dots
  show it. -/
  folds : Bool := true
  deriving DecidableEq, Repr

namespace Layout

/-- A line cut to a width. -/
def cut (l : Layout) (width : Nat) (line : List Char) : List Char :=
  if Text.width line ≤ width then line
  else if l.folds then Text.crop width line
  else Text.crop (width - 1) line ++ ['…']

/-- A line in its place within a width. In the middle, the blanks that do not come out even stand
on the right. -/
def place (l : Layout) (width : Nat) (line : List Char) : List Char :=
  match l.placing with
  | .plain => line
  | .left =>
    let line := l.cut width line
    line ++ blanks (width - Text.width line)
  | .middle =>
    let line := l.cut width (trimEnd line)
    let line := blanks ((width - Text.width line) / 2) ++ line
    line ++ blanks (width - Text.width line)
  | .right =>
    let line := l.cut width (trimEnd line)
    blanks (width - Text.width line) ++ line

/-- The pieces into which a line is broken, with nothing left out. -/
def pieces (l : Layout) (width : Nat) (line : List Char) : List (List Char) :=
  fill l.folds width (expandTabs line)

/-- A piece of a line as it stands within a width. -/
def finish (l : Layout) (width : Nat) (piece : List Char) : List Char :=
  l.cut width (l.place width (trimExcess width piece))

/-- The lines of a text. -/
def lines (l : Layout) (width : Nat) (cs : List Char) : List (List Char) :=
  (splitLines cs).flatMap fun line => (l.pieces width line).map (l.finish width)

end Layout

end Lineage.Report
