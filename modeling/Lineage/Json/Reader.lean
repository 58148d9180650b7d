import Lineage.Data
import Lineage.Number.DigitLimit
import Lineage.Text.Code

/-!
# Reading JSON

`Json.read` turns a text into `Data`. Besides the standard's values it takes `NaN`,
`Infinity` and `-Infinity`. What cannot be read is a `Fault`: a cause and the text from the
place of the fault on, so the place is the length of what comes before.
-/

namespace Lineage.Json

/-- Why a text cannot be read. -/
inductive Cause where
  | value
  | propertyName
  | colon
  | comma
  | unterminated
  | control
  | escape
  | codeEscape
  | extra
  | byteOrderMark
  /-- An integer of more digits than are accepted. -/
  | longInteger (digits : Nat)
  deriving DecidableEq, Repr

/-- A cause together with the text from the fault on. -/
structure Fault where
  cause : Cause
  rest : List Char
  deriving DecidableEq, Repr

/-- White space between the tokens. -/
def isBlank (c : Char) : Bool :=
  c == ' ' || c == '\t' || c == '\n' || c == '\r'

/-- The text after its leading white space. -/
def skip (cs : List Char) : List Char :=
  cs.dropWhile isBlank

/-! ### Texts -/

/-- The value of a hexadecimal digit. -/
def hexValue? (c : Char) : Option Nat :=
  if '0' ≤ c ∧ c ≤ '9' then some (c.toNat - '0'.toNat)
  else if 'a' ≤ c ∧ c ≤ 'f' then some (c.toNat - 'a'.toNat + 10)
  else if 'A' ≤ c ∧ c ≤ 'F' then some (c.toNat - 'A'.toNat + 10)
  else none

/-- The number that four hexadecimal digits write. -/
def code? (a b c d : Char) : Option Nat := do
  let a ← hexValue? a
  let b ← hexValue? b
  let c ← hexValue? c
  let d ← hexValue? d
  pure (((a * 16 + b) * 16 + c) * 16 + d)

/-- Whether a code is the first half of a character. -/
def isHighHalf (n : Nat) : Bool :=
  0xD800 ≤ n && n < 0xDC00

/-- Whether a code is the second half of a character. -/
def isLowHalf (n : Nat) : Bool :=
  0xDC00 ≤ n && n < 0xE000

/-- A letter of a text in quotes. -/
inductive Letter where
  /-- A character that stands for itself, or the one that a letter after a backslash stands for. -/
  | plain (c : Char)
  /-- A code that is written with hexadecimal digits. -/
  | code (n : Nat)
  deriving DecidableEq, Repr

/-- The characters that keep a list of letters. Two codes in a row that are halves of a character
make one. -/
def assemble : List Letter → List Char
  | [] => []
  | .plain c :: letters => c :: assemble letters
  | [.code n] => Text.keep n
  | .code n :: .plain c :: letters => Text.keep n ++ c :: assemble letters
  | .code n :: .code m :: letters =>
    if isHighHalf n && isLowHalf m then
      Text.keep (0x10000 + (n - 0xD800) * 0x400 + (m - 0xDC00)) ++ assemble letters
    else Text.keep n ++ assemble (.code m :: letters)

/-- The character that an escape of one letter stands for. -/
def letterEscape? : Char → Option Char
  | '"' => some '"'
  | '\\' => some '\\'
  | '/' => some '/'
  | 'b' => some '\x08'
  | 'f' => some '\x0c'
  | 'n' => some '\n'
  | 'r' => some '\r'
  | 't' => some '\t'
  | _ => none

/-- What was read of a list, with one more item in front. -/
def put {α : Type} (a : α) :
    Except Fault (List α × List Char) → Except Fault (List α × List Char)
  | .ok (as, rest) => .ok (a :: as, rest)
  | .error fault => .error fault

/-- The letters up to the closing quote, and what follows it. `start` is the text from the opening
quote on. -/
def textBody (start : List Char) : List Char → Except Fault (List Letter × List Char)
  | [] => .error ⟨.unterminated, start⟩
  | '"' :: rest => .ok ([], rest)
  | '\\' :: [] => .error ⟨.unterminated, start⟩
  | '\\' :: 'u' :: a :: b :: c :: d :: rest =>
    match code? a b c d with
    | some n =>
      if rest.isEmpty then .error ⟨.codeEscape, 'u' :: a :: b :: c :: d :: rest⟩
      else put (.code n) (textBody start rest)
    | none => .error ⟨.codeEscape, 'u' :: a :: b :: c :: d :: rest⟩
  | '\\' :: c :: rest =>
    if c = 'u' then .error ⟨.codeEscape, c :: rest⟩
    else match letterEscape? c with
      | some d => put (.plain d) (textBody start rest)
      | none => .error ⟨.escape, '\\' :: c :: rest⟩
  | c :: rest =>
    if c.toNat < 0x20 then .error ⟨.control, c :: rest⟩
    else put (.plain c) (textBody start rest)

/-- The text that a list of letters makes. -/
def textOf (letters : List Letter) : String :=
  String.ofList (assemble letters)

/-! ### Numbers -/

/-- The number that a list of decimal digits writes. -/
def ofDigits (ds : List Char) : Nat :=
  ds.foldl (fun n d => n * 10 + (d.toNat - '0'.toNat)) 0

/-- The whole part of a number: a zero alone, or digits that start with another one. -/
def wholePart (cs : List Char) : List Char × List Char :=
  match cs with
  | '0' :: rest => (['0'], rest)
  | _ => cs.span Char.isDigit

/-- The digits after a decimal point, if there are any. -/
def fraction (cs : List Char) : List Char × List Char :=
  match cs with
  | '.' :: rest =>
    match rest.span Char.isDigit with
    | ([], _) => ([], cs)
    | (ds, more) => (ds, more)
  | _ => ([], cs)

/-- The sign and the digits of an exponent, if there is one. -/
def exponent (cs : List Char) : Option Int × List Char :=
  match cs with
  | e :: rest =>
    if e = 'e' ∨ e = 'E' then
      let (negative, signed) :=
        match rest with
        | '-' :: more => (true, more)
        | '+' :: more => (false, more)
        | _ => (false, rest)
      match signed.span Char.isDigit with
      | ([], _) => (none, cs)
      | (ds, more) =>
        (some (if negative then -(ofDigits ds : Int) else (ofDigits ds : Int)), more)
    else (none, cs)
  | [] => (none, cs)

/-- The number that a text starts with. A fraction or an exponent makes it a real one. -/
def number (cs : List Char) : Except Fault (Data × List Char) :=
  let (negative, unsigned) :=
    match cs with
    | '-' :: rest => (true, rest)
    | _ => (false, cs)
  match wholePart unsigned with
  | ([], _) => .error ⟨.value, cs⟩
  | (whole, rest) =>
    let (part, rest) := fraction rest
    let (power, rest) := exponent rest
    if part.isEmpty ∧ power.isNone then
      if whole.length > digitLimit then .error ⟨.longInteger whole.length, cs⟩
      else
        let n : Int := ofDigits whole
        .ok (.int (if negative then -n else n), rest)
    else
      let digits := ofDigits (whole ++ part)
      .ok (.real (.ofDecimal negative digits (power.getD 0 - part.length)), rest)

/-! ### Values -/

/-- The words that stand for a value. -/
def words : List (List Char × Data) :=
  [("null".toList, .null), ("true".toList, .bool true), ("false".toList, .bool false),
   ("NaN".toList, .real .nan), ("Infinity".toList, .real (.infinite false)),
   ("-Infinity".toList, .real (.infinite true))]

/-- The word that a text starts with, and what follows it. -/
def word? (cs : List Char) : Option (Data × List Char) :=
  words.findSome? fun w => if w.1.isPrefixOf cs then some (w.2, cs.drop w.1.length) else none

mutual

/-- The value that a text starts with. Two steps of the reading use up a character at least, so
fuel of twice the length of the text and one more is enough. -/
def value : Nat → List Char → Except Fault (Data × List Char)
  | 0, cs => .error ⟨.value, cs⟩
  | fuel + 1, cs =>
    match cs with
    | '"' :: rest =>
      match textBody cs rest with
      | .ok (codes, rest) => .ok (.text (textOf codes), rest)
      | .error fault => .error fault
    | '[' :: rest =>
      match skip rest with
      | ']' :: rest => .ok (.list [], rest)
      | rest =>
        match items fuel rest with
        | .ok (ds, rest) => .ok (.list ds, rest)
        | .error fault => .error fault
    | '\x7b' :: rest =>
      match skip rest with
      | '\x7d' :: rest => .ok (.record [], rest)
      | rest =>
        match members fuel rest with
        | .ok (ms, rest) => .ok (.record ms, rest)
        | .error fault => .error fault
    | _ =>
      match word? cs with
      | some (d, rest) => .ok (d, rest)
      | none => number cs

/-- The values of a list, from one of them on to the closing bracket. -/
def items : Nat → List Char → Except Fault (List Data × List Char)
  | 0, cs => .error ⟨.value, cs⟩
  | fuel + 1, cs =>
    match value fuel cs with
    | .error fault => .error fault
    | .ok (d, rest) =>
      match skip rest with
      | ']' :: rest => .ok ([d], rest)
      | ',' :: rest => put d (items fuel (skip rest))
      | rest => .error ⟨.comma, rest⟩

/-- The members of a record, from one of them on to the closing brace. -/
def members : Nat → List Char → Except Fault (List (String × Data) × List Char)
  | 0, cs => .error ⟨.propertyName, cs⟩
  | fuel + 1, cs =>
    match cs with
    | '"' :: rest =>
      match textBody cs rest with
      | .error fault => .error fault
      | .ok (name, rest) =>
        match skip rest with
        | ':' :: rest =>
          match value fuel (skip rest) with
          | .error fault => .error fault
          | .ok (d, rest) =>
            match skip rest with
            | '\x7d' :: rest => .ok ([(textOf name, d)], rest)
            | ',' :: rest => put (textOf name, d) (members fuel (skip rest))
            | rest => .error ⟨.comma, rest⟩
        | rest => .error ⟨.colon, rest⟩
    | _ => .error ⟨.propertyName, cs⟩

end

/-- Reads a text that holds one value. -/
def readChars (cs : List Char) : Except Fault Data :=
  if cs.head? = some '\uFEFF' then .error ⟨.byteOrderMark, cs⟩
  else
    match value (2 * cs.length + 1) (skip cs) with
    | .error fault => .error fault
    | .ok (d, rest) =>
      match skip rest with
      | [] => .ok d
      | rest => .error ⟨.extra, rest⟩

/-- Reads a text that holds one value. -/
def read (s : String) : Except Fault Data :=
  readChars s.toList

/-! ### Messages -/

/-- What a cause says. -/
def Cause.message : Cause → String
  | value => "Expecting value"
  | propertyName => "Expecting property name enclosed in double quotes"
  | colon => "Expecting ':' delimiter"
  | comma => "Expecting ',' delimiter"
  | unterminated => "Unterminated string starting at"
  | control => "Invalid control character at"
  | escape => "Invalid \\escape"
  | codeEscape => "Invalid \\uXXXX escape"
  | extra => "Extra data"
  | byteOrderMark => "Unexpected UTF-8 BOM (decode using utf-8-sig)"
  | longInteger digits => digitLimitReport digits

/-- The characters before a fault in a text. -/
def Fault.before (fault : Fault) (s : String) : List Char :=
  s.toList.take (s.toList.length - fault.rest.length)

/-- The message for a fault in a text, with its line, column and position. Lines and columns
count from one, positions from zero. -/
def Fault.message (fault : Fault) (s : String) : String :=
  let before := fault.before s
  let position := Text.size before
  let line := before.count '\n' + 1
  let column := Text.size (before.reverse.takeWhile (· != '\n')) + 1
  s!"{fault.cause.message}: line {line} column {column} (char {position})"

end Lineage.Json
