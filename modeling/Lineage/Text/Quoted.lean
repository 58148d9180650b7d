import Lineage.Text.Code
import Lineage.Text.Printable

/-!
# Quoted texts

A message quotes a text in single quotes, or in double quotes if there are single quotes in the
text and no double ones. The quotes around the text, backslashes and characters that are not
printable stand escaped.
-/

namespace Lineage.Text

/-- Some hexadecimal digits of a number, the most significant first. -/
def hexDigits : Nat → Nat → List Char
  | 0, _ => []
  | count + 1, n => hexDigits count (n / 16) ++ [Nat.digitChar (n % 16)]

/-- A code, written with as few digits as there are escapes for. -/
def codeEscape (n : Nat) : List Char :=
  if n < 0x100 then '\\' :: 'x' :: hexDigits 2 n
  else if n < 0x10000 then '\\' :: 'u' :: hexDigits 4 n
  else '\\' :: 'U' :: hexDigits 8 n

/-- How a code stands within quotes. -/
def escapeWithin (quote : Char) (n : Nat) : List Char :=
  let c := Char.ofNat n
  if isHalf n ∨ isReserved n then codeEscape n
  else if c = quote ∨ c = '\\' then ['\\', c]
  else if c = '\n' then ['\\', 'n']
  else if c = '\r' then ['\\', 'r']
  else if c = '\t' then ['\\', 't']
  else if isPrintable c then [c]
  else codeEscape n

/-- The quotes that a text is put in. -/
def quoteFor (cs : List Char) : Char :=
  if cs.contains '\x27' && !cs.contains '"' then '"' else '\x27'

/-- A text in quotes. -/
def quoted (s : String) : String :=
  let quote := quoteFor s.toList
  String.ofList (quote :: ((codes s.toList).flatMap (escapeWithin quote) ++ [quote]))

end Lineage.Text
