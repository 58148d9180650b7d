import Lineage.Data
import Lineage.Text.Code

/-!
# Writing JSON

`Json.write` is the text of a value. A `Style` says how it looks: broken into indented
lines or on one line, with all characters as they are or with everything beyond printable
ASCII escaped. Half a character is escaped in any case. The library writes no real numbers; they
and what has no JSON form become `null`.
-/

namespace Lineage.Json

/-- How values are written. -/
structure Style where
  /-- Whether every item stands on a line of its own. -/
  broken : Bool
  /-- Whether characters beyond printable ASCII are escaped. -/
  asciiOnly : Bool

/-- Indented lines, characters as they are. -/
def Style.indented : Style := ⟨true, false⟩

/-- Indented lines in ASCII. -/
def Style.indentedAscii : Style := ⟨true, true⟩

/-- One line, characters as they are. -/
def Style.line : Style := ⟨false, false⟩

/-- A hexadecimal digit. -/
def hexDigit (n : Nat) : Char :=
  if n < 10 then Char.ofNat ('0'.toNat + n) else Char.ofNat ('a'.toNat + (n - 10))

/-- The escape for a code below 65536. -/
def codeEscape (n : Nat) : List Char :=
  ['\\', 'u', hexDigit (n / 4096 % 16), hexDigit (n / 256 % 16), hexDigit (n / 16 % 16),
   hexDigit (n % 16)]

/-- The escape for any code, in two halves if it does not fit one. -/
def fullEscape (n : Nat) : List Char :=
  if n < 0x10000 then codeEscape n
  else codeEscape (0xD800 + (n - 0x10000) / 0x400) ++ codeEscape (0xDC00 + (n - 0x10000) % 0x400)

/-- How a character stands in a text. -/
def escapeChar (c : Char) : List Char :=
  if c = '"' then ['\\', '"']
  else if c = '\\' then ['\\', '\\']
  else if c = '\n' then ['\\', 'n']
  else if c = '\r' then ['\\', 'r']
  else if c = '\t' then ['\\', 't']
  else if c = '\x08' then ['\\', 'b']
  else if c = '\x0c' then ['\\', 'f']
  else if c.toNat < 0x20 then codeEscape c.toNat
  else if Text.keepsHalf c then fullEscape (Text.codeOf c)
  else [c]

/-- How a code stands in a text in ASCII. -/
def escapeCode (n : Nat) : List Char :=
  if n > 0x7E then fullEscape n else escapeChar (Char.ofNat n)

/-- A text in quotes. -/
def quoted (style : Style) (s : String) : List Char :=
  let inside :=
    if style.asciiOnly then (Text.codes s.toList).flatMap escapeCode
    else s.toList.flatMap escapeChar
  '"' :: (inside ++ ['"'])

/-- The decimal digits of an integer. -/
def integer (n : Int) : List Char :=
  if n < 0 then '-' :: Nat.toDigits 10 n.natAbs else Nat.toDigits 10 n.natAbs

/-- The break before an item at some depth. -/
def lineBreak (style : Style) (depth : Nat) : List Char :=
  if style.broken then '\n' :: List.replicate (2 * depth) ' ' else []

mutual

/-- The text of a value that stands at some depth. -/
def writeAt (style : Style) (depth : Nat) : Data → List Char
  | .null => "null".toList
  | .bool true => "true".toList
  | .bool false => "false".toList
  | .int n => integer n
  | .text s => quoted style s
  | .real _ => "null".toList
  | .moment _ => "null".toList
  | .list [] => "[]".toList
  | .list (d :: ds) =>
    '[' :: (lineBreak style (depth + 1) ++ writeAt style (depth + 1) d ++
      writeItems style depth ds)
  | .record [] => "\x7b\x7d".toList
  | .record ((name, d) :: ms) =>
    '\x7b' :: (lineBreak style (depth + 1) ++ quoted style name ++ [':', ' '] ++
      writeAt style (depth + 1) d ++ writeMembers style depth ms)

/-- The items of a list after its first one, and the closing bracket. -/
def writeItems (style : Style) (depth : Nat) : List Data → List Char
  | [] => lineBreak style depth ++ [']']
  | d :: ds =>
    ',' :: (lineBreak style (depth + 1) ++ writeAt style (depth + 1) d ++
      writeItems style depth ds)

/-- The members of a record after its first one, and the closing brace. -/
def writeMembers (style : Style) (depth : Nat) : List (String × Data) → List Char
  | [] => lineBreak style depth ++ ['\x7d']
  | (name, d) :: ms =>
    ',' :: (lineBreak style (depth + 1) ++ quoted style name ++ [':', ' '] ++
      writeAt style (depth + 1) d ++ writeMembers style depth ms)

end

/-- The text of a value. -/
def write (style : Style) (d : Data) : String :=
  String.ofList (writeAt style 0 d)

end Lineage.Json
