import Lineage.Number.DigitLimit
import Lineage.Text.Code
import Lineage.Text.Digit
import Lineage.Text.Printable
import Lineage.Text.WordTable

/-!
# Tokens of handlers

The arguments of a handler are cut into names, numbers, texts in quotes and signs. White space and
remarks between them are passed over. `tokens` gives the tokens up to the first place where there
is none, and what is wrong there.
-/

namespace Lineage.Text

/-- Whether a character is a letter or a number of any script, or an underscore. -/
def isWordChar (c : Char) : Bool :=
  c.isAlphanum || c = '_' || (c.toNat ≥ 128 && inRanges wordRanges c.toNat)

namespace Handler

/-! ### Names -/

/-- Whether a character may stand in a name after its first. -/
def isNamePart (c : Char) : Bool :=
  if c.toNat < 128 then c.isAlphanum || c = '_'
  else
    (inRanges wordRanges c.toNat && !inRanges namelessRanges c.toNat) ||
      inRanges joiningRanges c.toNat

/-- The characters that stand at the beginning of a name or only after it against their class. -/
def irregularStarts : List (Nat × Nat) :=
  [(0x1885, 0x1886), (0x2118, 0x2118), (0x212E, 0x212E)]

/-- The characters of names that may not stand at the beginning of one against their class. -/
def irregularParts : List (Nat × Nat) :=
  [(0xE33, 0xE33), (0xEB3, 0xEB3), (0x1369, 0x1371), (0x19DA, 0x19DA), (0xFF9E, 0xFF9F)]

/-- Whether a character may stand at the beginning of a name. -/
def isNameStart (c : Char) : Bool :=
  if c.toNat < 128 then c.isAlpha || c = '_'
  else
    inRanges irregularStarts c.toNat ||
      (isNamePart c && inRanges wordRanges c.toNat && (decimal? c).isNone &&
        !inRanges irregularParts c.toNat)

/-- Whether a character is taken for part of a name before it is looked at more closely. -/
def isNameLike (c : Char) : Bool :=
  c.isAlphanum || c = '_' || c.toNat ≥ 128

/-- A code with four hexadecimal digits at least. -/
def codeDigits (code : Nat) : String :=
  let digits := (Nat.toDigits 16 code).map Char.toUpper
  String.ofList (List.replicate (4 - digits.length) '0' ++ digits)

/-- What is wrong with a character that has no place. -/
def strayMessage (c : Char) : String :=
  if isPrintable c then s!"invalid character '{c}' (U+{codeDigits c.toNat})"
  else s!"invalid non-printable character U+{codeDigits c.toNat}"

/-- What is wrong with a name. -/
def nameFault? : List Char → Option String
  | [] => none
  | c :: cs =>
    if !isNameStart c then some (strayMessage c)
    else (cs.find? fun c => !isNamePart c).map strayMessage

/-! ### Numbers -/

/-- The rest of some digits in groups, with an underscore between two groups. There is nothing if
an underscore has no digit after it. -/
def digitTail? (isDigit : Char → Bool) : List Char → Option (List Char)
  | [] => some []
  | '_' :: c :: cs => if isDigit c then digitTail? isDigit cs else none
  | ['_'] => none
  | c :: cs => if isDigit c then digitTail? isDigit cs else some (c :: cs)

/-- Whether a character begins a word right after a number. -/
def isAttached (c : Char) : Bool :=
  c.isAlphanum || c = '_'

/-- Whether a word that may stand right after a number does so. -/
def isFollowed (cs : List Char) : Bool :=
  ["if", "in", "is"].any (fun word => word.toList.isPrefixOf cs) ||
    ["and", "else", "for", "not", "or"].any fun word =>
      word.toList.isPrefixOf cs && !((cs.drop word.length).head?.elim false isNameLike)

/-- What is wrong with what stands right after a number of some kind. -/
def endFault? (kind : String) (cs : List Char) : Option String :=
  if cs.head?.elim false isAttached && !isFollowed cs then some s!"invalid {kind} literal" else none

/-- A number, and what follows it. -/
structure Numeral where
  rest : List Char
  isImaginary : Bool := false
  /-- The number of digits of an integer in decimal notation. -/
  digits : Nat := 0
  deriving DecidableEq, Repr

/-- The number that ends before some text, if it may. -/
def numeral (kind : String) (n : Numeral) : Except String Numeral :=
  (endFault? kind n.rest).elim (.ok n) .error

/-- The digits with some base after the two characters that name it. -/
def based (kind : String) (isDigit : Char → Bool) (cs : List Char) : Except String Numeral :=
  let digits := match cs with
    | '_' :: more => more
    | _ => cs
  match digits with
  | c :: more =>
    if isDigit c then
      match digitTail? isDigit more with
      | some rest =>
        match rest with
        | d :: _ =>
          if d.isDigit && kind ≠ "hexadecimal" then
            .error s!"invalid digit '{d}' in {kind} literal"
          else numeral kind { rest := rest }
        | [] => .ok { rest := rest }
      | none =>
        match (more.dropWhile isDigit).tail with
        | d :: _ =>
          if d.isDigit && kind ≠ "hexadecimal" then
            .error s!"invalid digit '{d}' in {kind} literal"
          else .error s!"invalid {kind} literal"
        | [] => .error s!"invalid {kind} literal"
    else if c.isDigit && kind ≠ "hexadecimal" then .error s!"invalid digit '{c}' in {kind} literal"
    else .error s!"invalid {kind} literal"
  | [] => .error s!"invalid {kind} literal"

/-- What is wrong with a decimal number. -/
def decimalFault : String :=
  "invalid decimal literal"

/-- The end of a number that may be an imaginary one. -/
def imaginaryEnd (n : Numeral) : Except String Numeral :=
  match n.rest with
  | 'j' :: rest | 'J' :: rest => numeral "imaginary" { n with rest := rest, isImaginary := true }
  | _ => numeral "decimal" n

/-- The exponent of a number, if it has one, and its end. -/
def exponentEnd (n : Numeral) : Except String Numeral :=
  let after (cs : List Char) : Except String Numeral :=
    match digitTail? Char.isDigit cs with
    | some rest => imaginaryEnd { rest := rest }
    | none => .error decimalFault
  match n.rest with
  | e :: rest =>
    if e = 'e' || e = 'E' then
      match rest with
      | s :: more =>
        if s = '+' || s = '-' then
          if more.head?.elim false Char.isDigit then after more else .error decimalFault
        else if s.isDigit then after rest
        else numeral "decimal" n
      | [] => numeral "decimal" n
    else imaginaryEnd n
  | [] => imaginaryEnd n

/-- The digits after the point of a number, and its end. -/
def fractionEnd (cs : List Char) : Except String Numeral :=
  if cs.head?.elim false Char.isDigit then
    match digitTail? Char.isDigit cs with
    | some rest => exponentEnd { rest := rest }
    | none => .error decimalFault
  else exponentEnd { rest := cs }

/-- The number that a text begins with, given that it begins with a digit or with a point and a
digit. -/
def number (cs : List Char) : Except String Numeral :=
  match cs with
  | '.' :: rest => fractionEnd rest
  | '0' :: 'x' :: rest | '0' :: 'X' :: rest =>
    based "hexadecimal" (fun c => c.isDigit || ('a' ≤ c && c ≤ 'f') || ('A' ≤ c && c ≤ 'F')) rest
  | '0' :: 'o' :: rest | '0' :: 'O' :: rest => based "octal" (fun c => '0' ≤ c && c < '8') rest
  | '0' :: 'b' :: rest | '0' :: 'B' :: rest => based "binary" (fun c => c = '0' || c = '1') rest
  | _ =>
    match digitTail? Char.isDigit cs with
    | none => .error decimalFault
    | some rest =>
      let written := cs.take (cs.length - rest.length)
      match rest with
      | '.' :: rest => fractionEnd rest
      | _ =>
        let isReal := rest.head?.elim false fun c => ['e', 'E', 'j', 'J'].contains c
        if isReal then exponentEnd { rest := rest }
        else if cs.head? = some '0' && written.any fun c => c ≠ '0' && c ≠ '_' then
          .error <| "leading zeros in decimal integer literals are not permitted; " ++
            "use an 0o prefix for octal integers"
        else numeral "decimal" { rest := rest, digits := (written.filter (· ≠ '_')).length }

/-! ### Texts -/

/-- How the quotes of a text are to be read. -/
structure Quoting where
  bytes : Bool := false
  raw : Bool := false
  /-- Whether there are values to be put in. -/
  formatted : Bool := false
  deriving DecidableEq, Repr

/-- The reading that some letters before a quote ask for. -/
def quoting? (letters : List Char) : Option Quoting :=
  match letters.map Char.toLower with
  | [] => some {}
  | ['u'] => some {}
  | ['r'] => some { raw := true }
  | ['b'] => some { bytes := true }
  | ['f'] => some { formatted := true }
  | ['r', 'b'] | ['b', 'r'] => some { bytes := true, raw := true }
  | ['r', 'f'] | ['f', 'r'] => some { formatted := true, raw := true }
  | _ => none

/-- The text up to one quote, and what follows the quote. -/
def singleQuoted? (quote : Char) : List Char → Option (List Char × List Char)
  | [] => none
  | '\\' :: c :: cs => (singleQuoted? quote cs).map fun s => ('\\' :: c :: s.1, s.2)
  | c :: cs =>
    if c = quote then some ([], cs)
    else if c = '\n' then none
    else (singleQuoted? quote cs).map fun s => (c :: s.1, s.2)

/-- The text up to three quotes in a row, and what follows them. -/
def tripleQuoted? (quote : Char) : List Char → Option (List Char × List Char)
  | [] => none
  | '\\' :: c :: cs => (tripleQuoted? quote cs).map fun s => ('\\' :: c :: s.1, s.2)
  | c :: cs =>
    if c = quote && [quote, quote].isPrefixOf cs then some ([], cs.drop 2)
    else (tripleQuoted? quote cs).map fun s => (c :: s.1, s.2)

/-- Whether a character is a hexadecimal digit. -/
def isHexDigit (c : Char) : Bool :=
  c.isDigit || ('a' ≤ c && c ≤ 'f') || ('A' ≤ c && c ≤ 'F')

/-- The number of characters of an escape that is written with hexadecimal digits, by the letter
after its backslash. -/
def escapeDigits (c : Char) : Nat :=
  if c = 'x' then 2 else if c = 'u' then 4 else if c = 'U' then 8 else 0

/-- The number of places that a character takes before the escapes are read. -/
def places (c : Char) : Nat :=
  if c.toNat < 128 then 1 else if isTrail c then 0 else 10

/-- What is wrong with the escapes of a text from a place on. -/
def escapeFault? (bytes : Bool) (place : Nat) : List Char → Option String
  | [] => none
  | [_] => none
  | '\\' :: c :: cs =>
    let due := escapeDigits c
    let digits := (cs.takeWhile isHexDigit).take due
    let report (size : Nat) (what : String) : Option String :=
      some <| s!"(unicode error) 'unicodeescape' codec can't decode bytes in position " ++
        s!"{place}-{place + size - 1}: {what}"
    if bytes then
      if c = 'x' && digits.length < 2 then
        some s!"(value error) invalid \\x escape at position {place}"
      else escapeFault? bytes (place + 2) cs
    else if digits.length < due then
      let form := String.ofList (List.replicate due 'X')
      report (2 + digits.length) s!"truncated \\{c}{form} escape"
    else if c = 'U' &&
        digits.foldl (fun n d => n * 16 + hexValue d) 0 > 0x10FFFF then
      report 10 "illegal Unicode character"
    else if c = 'N' then
      match cs with
      | '\x7b' :: name =>
        let inner := name.takeWhile (· ≠ '\x7d')
        if inner.length < name.length && !inner.isEmpty then
          report (inner.foldl (fun n c => n + places c) 4) "unknown Unicode character name"
        else report (2 + min 1 inner.length) "malformed \\N character escape"
      | _ => report 2 "malformed \\N character escape"
    else escapeFault? bytes (place + 1 + places c) cs
  | c :: d :: cs => escapeFault? bytes (place + places c) (d :: cs)
where
  /-- The value of a hexadecimal digit. -/
  hexValue (c : Char) : Nat :=
    if c.isDigit then c.toNat - '0'.toNat else c.toLower.toNat - 'a'.toNat + 10

/-- What is wrong with the inside of a text. -/
def textFault? (q : Quoting) (inside : List Char) : Option String :=
  if q.bytes && inside.any fun c => c.toNat ≥ 128 then
    some "bytes can only contain ASCII literal characters"
  else if q.raw then none
  else escapeFault? q.bytes 0 inside

/-! ### Tokens -/

/-- A token of the arguments of a handler. -/
inductive Token where
  | name (text : String)
  /-- A number, with an imaginary one told apart, and the number of digits of a long integer. -/
  | number (isImaginary : Bool) (digits : Nat)
  | text (q : Quoting) (fault : Option String)
  | sign (text : String)
  deriving DecidableEq, Repr

/-- The bracket that closes one. -/
def closingOf (c : Char) : Char :=
  if c = '(' then ')' else if c = '[' then ']' else '\x7d'

/-- The signs of several characters. No sign comes before one that begins with it. -/
def longSigns : List String :=
  ["...", "**=", "//=", ">>=", "<<=", "!=", "%=", "&=", "**", "*=", "+=", "-=", "->", "//", "/=",
   ":=", "<<", "<=", "<>", "==", ">=", ">>", "@=", "^=", "|="]

/-- The sign that a text begins with, given its first character. -/
def signOf (c : Char) (cs : List Char) : String :=
  ((longSigns.find? fun s => s.toList.isPrefixOf (c :: cs))).getD (String.singleton c)

/-- What is wrong with a text that is not closed. -/
def unclosedMessage (triple : Bool) (line : Nat) : String :=
  if triple then s!"unterminated triple-quoted string literal (detected at line {line})"
  else s!"unterminated string literal (detected at line {line})"

/-- Tokens, and what is wrong after them. -/
structure Scan where
  tokens : List Token := []
  fault : Option String := none
  /-- What is wrong with the end if nothing before it is: a bracket that is not closed, or a line
  that does not go on. -/
  ending : Option String := none
  deriving DecidableEq, Repr

/-- A scan with one more token in front. -/
def Scan.put (t : Token) (s : Scan) : Scan :=
  { s with tokens := t :: s.tokens }

/-- A scan that ends in a fault. -/
def Scan.failed (fault : String) : Scan :=
  { fault := some fault }

/-- A scan that ends in a fault that counts only if nothing before it is wrong. -/
def Scan.broken (fault : String) : Scan :=
  { ending := some fault }

/-- The most brackets that may be open at a time. -/
def bracketLimit : Nat := 200

/-- The tokens of a text on some line, given the brackets that are open with their lines, the
innermost first. A token takes a character at least, so the length of the text is fuel enough. -/
def tokensFrom : Nat → Nat → List (Char × Nat) → List Char → Scan
  | 0, _, _, _ => {}
  | _ + 1, _, opened, [] => { ending := opened.head?.map fun o => s!"'{o.1}' was never closed" }
  | fuel + 1, line, opened, c :: rest =>
    let cs := c :: rest
    let go := tokensFrom fuel
    if c = ' ' || c = '\t' || c = '\x0c' then go line opened rest
    else if c = '\n' then
      if opened.isEmpty then (go (line + 1) opened rest).put (.sign "\n")
      else go (line + 1) opened rest
    else if c = '#' then go line opened (rest.dropWhile (· ≠ '\n'))
    else
      let letters := cs.takeWhile fun c => ['b', 'r', 'u', 'f'].contains c.toLower
      let quote := (cs.drop letters.length).head?.getD ' '
      match (if quote = '"' || quote = '\x27' then quoting? letters else none) with
      | some q =>
        let inner := cs.drop (letters.length + 1)
        let triple := [quote, quote].isPrefixOf inner
        let found := if triple then tripleQuoted? quote (inner.drop 2)
          else singleQuoted? quote inner
        match found with
        | some (inside, rest) =>
          (go (line + inside.count '\n') opened rest).put (.text q (textFault? q inside))
        | none =>
          .failed (unclosedMessage triple (if triple then line + inner.count '\n' else line))
      | none =>
        if c.isDigit || (c = '.' && rest.head?.elim false Char.isDigit) then
          match number cs with
          | .ok n => (go line opened n.rest).put (.number n.isImaginary n.digits)
          | .error fault => .failed fault
        else if isNameLike c then
          let name := cs.takeWhile isNameLike
          match nameFault? name with
          | some fault => .failed fault
          | none => (go line opened (cs.drop name.length)).put (.name (String.ofList name))
        else if c = '(' || c = '[' || c = '\x7b' then
          if opened.length ≥ bracketLimit then .failed "too many nested parentheses"
          else (go line ((c, line) :: opened) rest).put (.sign (String.singleton c))
        else if c = ')' || c = ']' || c = '\x7d' then
          match opened with
          | [] => .failed s!"unmatched '{c}'"
          | (o, first) :: opened =>
            if closingOf o = c then (go line opened rest).put (.sign (String.singleton c))
            else
              let place := if first = line then "" else s!" on line {first}"
              .failed <| s!"closing parenthesis '{c}' does not match " ++
                s!"opening parenthesis '{o}'{place}"
        else if c = '\\' then
          match rest with
          | '\n' :: more =>
            if more.isEmpty then .broken "unexpected EOF while parsing"
            else go (line + 1) opened more
          | _ => .broken "unexpected character after line continuation character"
        else if !isPrintable c then .failed (strayMessage c)
        else
          let sign := signOf c rest
          (go line opened (rest.drop (sign.length - 1))).put (.sign sign)

/-- The tokens of a text. -/
def tokens (cs : List Char) : Scan :=
  tokensFrom (cs.length + 1) 1 [] cs

end Handler

end Lineage.Text
