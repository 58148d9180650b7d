/-!
# Line breaks

Besides the line feed there are nine more characters that end a line. A carriage return and a
line feed after it end one line together.
-/

namespace Lineage.Text

/-- Whether a character ends a line. -/
def isBreak (c : Char) : Bool :=
  let n := c.toNat
  (0x0A ≤ n && n ≤ 0x0D) || (0x1C ≤ n && n ≤ 0x1E) || n == 0x85 || n == 0x2028 || n == 0x2029

/-- The lines of a text after the characters of the line under way, the last of them first. There
is no line after the last break. -/
def linesAfter (line : List Char) : List Char → List (List Char)
  | [] => if line.isEmpty then [] else [line.reverse]
  | '\r' :: '\n' :: cs => line.reverse :: linesAfter [] cs
  | c :: cs => if isBreak c then line.reverse :: linesAfter [] cs else linesAfter (c :: line) cs

/-- The lines of a text. -/
def lines (cs : List Char) : List (List Char) :=
  linesAfter [] cs

end Lineage.Text
