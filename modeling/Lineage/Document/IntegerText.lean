import Lineage.Json.Reader
import Lineage.Text.Blank

/-!
# Integers in texts

A document may give an integer as a text. `IntegerText.read` takes a plain integer as it stands:
a minus sign, if there is one, and digits that do not start with a needless zero. Any other text
is cleaned up first: the blanks around it, a plus sign, the leading zeros after the sign, a point
with nothing but zeros after it and single underscores are dropped, and a plain integer has to be
left.
-/

namespace Lineage.IntegerText

/-- Why a text is no integer. -/
inductive Fault where
  /-- It writes no integer. -/
  | malformed
  /-- It has more digits than are accepted. -/
  | tooLong
  deriving DecidableEq, Repr

/-- Whether a character is a digit other than zero. -/
def isLeading (c : Char) : Bool :=
  c.isDigit && c != '0'

/-- A text after its minus sign, and whether there is one. -/
def unsign : List Char → Bool × List Char
  | '-' :: cs => (true, cs)
  | cs => (false, cs)

/-- Whether a text has no needless zero in front and nothing but digits. -/
def isPlain : List Char → Bool
  | [] => false
  | [c] => c.isDigit
  | c :: cs => isLeading c && cs.all Char.isDigit

/-- A plain integer. -/
def plain (cs : List Char) : Except Fault Int :=
  let (negative, ds) := unsign cs
  if ds.head?.any isLeading && (ds.takeWhile Char.isDigit).length > digitLimit then
    .error .tooLong
  else if isPlain ds then
    .ok (if negative then -(Json.ofDigits ds : Int) else (Json.ofDigits ds : Int))
  else .error .malformed

/-! ### Cleaning up -/

/-- A text without a plus sign, after which no minus sign may stand. -/
def dropPlus : List Char → Option (List Char)
  | '+' :: '-' :: _ => none
  | '+' :: cs => some cs
  | cs => some cs

/-- A text after a leading zero and the zeros and underscores that follow it. `last` is the
character before. A zero is kept if nothing or a point comes after it. -/
def afterZeros (last : Char) : List Char → Option (List Char)
  | [] => some [last]
  | c :: cs =>
    if c = '0' || c = '_' then afterZeros c cs
    else if isLeading c || c = '-' then some (c :: cs)
    else if c = '.' then some (last :: c :: cs)
    else none

/-- A text without leading zeros. -/
def dropZeros : List Char → Option (List Char)
  | [] => none
  | c :: cs =>
    if c = '0' then afterZeros c cs
    else if isLeading c || c = '-' then some (c :: cs)
    else none

/-- A text without a point that has nothing but zeros after it. -/
def dropPoint (cs : List Char) : List Char :=
  let part := (cs.dropWhile (· ≠ '.')).tail
  if !part.isEmpty && part.all (· = '0') then cs.takeWhile (· ≠ '.') else cs

/-- A text without underscores, of which none may stand at an end or next to another. -/
def dropUnderscores : List Char → Option (List Char)
  | [] => some []
  | ['_'] => none
  | '_' :: '_' :: _ => none
  | c :: cs => (dropUnderscores cs).map fun rest => if c = '_' then rest else c :: rest

/-- A text as a plain integer may be found in it. -/
def clean? (cs : List Char) : Option (List Char) := do
  let (negative, cs) := unsign (← dropPlus (Text.strip Text.isWhiteSpace cs))
  let cs := dropPoint (← dropZeros cs)
  if cs.head? = some '_' then none
  else (dropUnderscores cs).map fun cs => if negative then '-' :: cs else cs

/-- The integer that a text writes. -/
def read (s : String) : Except Fault Int :=
  match plain s.toList with
  | .error .malformed =>
    match (clean? s.toList).map plain with
    | some (.ok n) => .ok n
    | _ => .error .malformed
  | outcome => outcome

end Lineage.IntegerText
