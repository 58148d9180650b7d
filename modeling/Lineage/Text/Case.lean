import Lineage.Text.CaseTable

/-!
# Small and capital letters

`lower` and `upper` are the full case mappings of Unicode: a capital letter may become two
characters and a small one up to three, and a capital sigma becomes the final form `ς` at
the end of a word.
-/

namespace Lineage.Text

/-- What a list of runs makes of a character, if one of them holds it. -/
def shifted? (runs : List Run) (c : Char) : Option Char :=
  (runs.find? (·.holds c.toNat)).map fun r => Char.ofNat ((c.toNat : Int) + r.shift).toNat

/-- Whether the rule for a small sigma sees a letter in this character. -/
def isCased (c : Char) : Bool :=
  if c.toNat < 128 then c.isAlpha else inRanges casedRanges c.toNat

/-- Whether the rule for a small sigma looks past this character. -/
def isIgnorable (c : Char) : Bool :=
  if c.toNat < 128 then [0x27, 0x2E, 0x3A, 0x5E, 0x60].contains c.toNat
  else inRanges ignorableRanges c.toNat

/-- Whether the first character that is not ignorable is cased. -/
def startsCased (cs : List Char) : Bool :=
  match cs.dropWhile isIgnorable with
  | [] => false
  | c :: _ => isCased c

/-- The small form of a character, regardless of its neighbours. -/
def lowerChar (c : Char) : List Char :=
  if c.toNat < 128 then [c.toLower]
  else if c == 'İ' then ['i', '\u0307']
  else [(shifted? lowering c).getD c]

/-- The small form of a text that follows the characters `before`, the nearest first. -/
def lowerAfter (before : List Char) : List Char → List Char
  | [] => []
  | c :: cs =>
    (if c == 'Σ' then [if startsCased before && !startsCased cs then 'ς' else 'σ']
      else lowerChar c) ++ lowerAfter (c :: before) cs

/-- The text in small letters. -/
def lower (s : String) : String :=
  String.ofList (lowerAfter [] s.toList)

/-- The capital form of a character. -/
def upperChar (c : Char) : List Char :=
  if c.toNat < 128 then [c.toUpper]
  else match expanding.lookup c.toNat with
    | some codes => codes.map Char.ofNat
    | none => [(shifted? raising c).getD c]

/-- The text in capital letters. -/
def upper (s : String) : String :=
  String.ofList (s.toList.flatMap upperChar)

@[simp] theorem lower_empty : lower "" = "" := rfl

@[simp] theorem upper_empty : upper "" = "" := rfl

end Lineage.Text
