import Lineage.Text.CaseTable
import Lineage.Text.Code
import Lineage.Text.WidthTable

/-!
# The width of a text

A terminal draws a text in cells: East Asian wide characters take two, marks and control
characters take none, and all others take one. Two characters reach out to others. A joiner makes
one sign of the characters on both sides of it, so that the one after it takes no cell. The
selector for the look of an emoji gives the character before it a second cell if that look is
wider.

`graphemes` cuts a text into its signs, and a text is cut to a number of cells between two of
them.
-/

namespace Lineage.Text

/-- The number of cells that a character takes. Of two characters that keep one, the first takes
its cells. -/
def charWidth (c : Char) : Nat :=
  let n := c.toNat
  if n < 0x20 || isTrail c then 0
  else if n < 0x7F then 1
  else if n < 0xA0 then 0
  else if inRanges wideRanges n then 2
  else if inRanges zeroWidthRanges n then 0
  else 1

/-- The character that joins the characters on both sides of it. -/
def joiner : Char := '\u200D'

/-- The character that selects the look of an emoji for the one before it. -/
def emojiSelector : Char := '\uFE0F'

/-- Whether a character is wider in the look of an emoji. -/
def isWidened (c : Char) : Bool :=
  inRanges widenedRanges c.toNat

/-- The number of cells that a list of characters takes after `last`, the last character that
took a cell and may still be given a second one. -/
def widthAfter (last : Option Char) : List Char → Nat
  | [] => 0
  | [c] =>
    if c = joiner then 0
    else if c = emojiSelector then if last.any isWidened then 1 else 0
    else charWidth c
  | c :: d :: cs =>
    if c = joiner then widthAfter last cs
    else if c = emojiSelector then
      (if last.any isWidened then 1 else 0) + widthAfter none (d :: cs)
    else if charWidth c = 0 then widthAfter last (d :: cs)
    else charWidth c + widthAfter (some c) (d :: cs)

/-- The number of cells that a list of characters takes. -/
def width (cs : List Char) : Nat :=
  widthAfter none cs

/-! ### Signs -/

/-- A sign: characters that stay together, and the number of cells they take. -/
structure Grapheme where
  chars : List Char
  cells : Nat
  deriving DecidableEq, Repr, Inhabited

/-- A sign with more characters and possibly more cells. -/
def Grapheme.extend (g : Grapheme) (chars : List Char) (cells : Nat) : Grapheme :=
  ⟨g.chars ++ chars, g.cells + cells⟩

/-- The signs of a list of characters after those that are done, the last of which comes first. -/
def graphemesAfter (last : Option Char) (done : List Grapheme) : List Char → List Grapheme
  | [] => done.reverse
  | [c] =>
    match done with
    | [] => [⟨[c], if c = joiner || c = emojiSelector then 0 else charWidth c⟩]
    | g :: before =>
      if c = joiner then (g.extend [c] 0 :: before).reverse
      else if c = emojiSelector then
        (g.extend [c] (if last.any isWidened then 1 else 0) :: before).reverse
      else if charWidth c = 0 then (g.extend [c] 0 :: before).reverse
      else (⟨[c], charWidth c⟩ :: done).reverse
  | c :: d :: cs =>
    match done with
    | [] =>
      if c = joiner || c = emojiSelector || charWidth c = 0 then
        graphemesAfter last [⟨[c], 0⟩] (d :: cs)
      else graphemesAfter (some c) [⟨[c], charWidth c⟩] (d :: cs)
    | g :: before =>
      if c = joiner then graphemesAfter last (g.extend [c, d] 0 :: before) cs
      else if c = emojiSelector then
        if last.any isWidened then graphemesAfter none (g.extend [c] 1 :: before) (d :: cs)
        else graphemesAfter last (g.extend [c] 0 :: before) (d :: cs)
      else if charWidth c = 0 then graphemesAfter last (g.extend [c] 0 :: before) (d :: cs)
      else graphemesAfter (some c) (⟨[c], charWidth c⟩ :: done) (d :: cs)

/-- The signs of a list of characters. -/
def graphemes (cs : List Char) : List Grapheme :=
  graphemesAfter none [] cs

/-! ### Cutting -/

/-- The signs that fit a number of cells. A blank stands for the half of a wide sign. -/
def fitting (cells : Nat) : List Grapheme → List Char
  | [] => []
  | g :: gs =>
    if cells = 0 then []
    else if g.cells ≤ cells then g.chars ++ fitting (cells - g.cells) gs
    else [' ']

/-- A text cut to a number of cells. -/
def crop (cells : Nat) (cs : List Char) : List Char :=
  if width cs ≤ cells then cs else fitting cells (graphemes cs)

/-- A text cut to a number of cells, or with blanks up to it. -/
def resize (cells : Nat) (cs : List Char) : List Char :=
  if width cs ≤ cells then cs ++ List.replicate (cells - width cs) ' '
  else fitting cells (graphemes cs)

/-- The pieces into which signs are cut so that each of them fits a number of cells. The signs of
the piece under way are given, the last of them first, with the cells they take. -/
def chopAfter (cells : Nat) (piece : List Grapheme) (used : Nat) :
    List Grapheme → List (List Char)
  | [] => if used = 0 then [] else [piece.reverse.flatMap Grapheme.chars]
  | g :: gs =>
    if used + g.cells > cells then
      piece.reverse.flatMap Grapheme.chars :: chopAfter cells [g] g.cells gs
    else chopAfter cells (g :: piece) (used + g.cells) gs

/-- The pieces into which a text is cut so that each of them fits a number of cells. -/
def chop (cells : Nat) (cs : List Char) : List (List Char) :=
  chopAfter cells [] 0 (graphemes cs)

end Lineage.Text
