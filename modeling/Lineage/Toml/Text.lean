import Lineage.Json.Reader

/-!
# Texts and keys in TOML

A text stands in double quotes, where a backslash starts an escape, or in single quotes, where
every character stands for itself. Three quotes in place of one make a text that may run over
several lines. A key is a list of parts with dots between them, each a bare word or a text on
one line.
-/

namespace Lineage.Toml

/-- What reads a value off the beginning of a text, and leaves the rest. -/
abbrev Scan (α : Type) := List Char → Option (α × List Char)

/-- Whether a character is a space or a tab. -/
def isBlank (c : Char) : Bool :=
  c == ' ' || c == '\t'

/-- The text after its leading spaces and tabs. -/
def skipBlanks (cs : List Char) : List Char :=
  cs.dropWhile isBlank

/-- Whether a character may not stand for itself: the control characters except the tab. -/
def isControl (c : Char) : Bool :=
  (c.toNat < 32 && c != '\t') || c.toNat == 127

/-- A scan whose result has one more character in front. -/
def put (c : Char) (scanned : Option (List Char × List Char)) :
    Option (List Char × List Char) :=
  scanned.map fun s => (c :: s.1, s.2)

/-! ### Double quotes -/

/-- The character that a letter after a backslash stands for. -/
def letterEscape? : Char → Option Char
  | 'b' => some '\x08'
  | 't' => some '\t'
  | 'n' => some '\n'
  | 'f' => some '\x0c'
  | 'r' => some '\r'
  | '"' => some '"'
  | '\\' => some '\\'
  | _ => none

/-- The characters that keep a code, if it is that of a character. -/
def charsOf? (code : Nat) : Option (List Char) :=
  if code.isValidChar then some (Text.keep code) else none

/-- Where a scan of a text in double quotes stands. -/
inductive Mode where
  | plain
  /-- After a backslash. -/
  | escape
  /-- In an escape of which some more hexadecimal digits are due. -/
  | code (due : Nat) (value : Nat)
  /-- Between a backslash and the end of its line. -/
  | lineEnd
  /-- In the white space after a backslash at the end of a line. -/
  | gap
  deriving DecidableEq

/-- The quotes that end a text of several lines, of which up to two more belong to the text. -/
def closing (quote : Char) (cs : List Char) : List Char × List Char :=
  match cs with
  | a :: b :: rest =>
    if a = quote then if b = quote then ([quote, quote], rest) else ([quote], b :: rest)
    else ([], cs)
  | [a] => if a = quote then ([quote], []) else ([], cs)
  | [] => ([], cs)

/-- A text in double quotes after its opening quotes. -/
def quoted (lines : Bool) (mode : Mode) : Scan (List Char)
  | [] => none
  | c :: cs =>
    match mode with
    | .escape =>
      if lines && c == '\n' then quoted lines .gap cs
      else if lines && isBlank c then quoted lines .lineEnd cs
      else if c = 'u' then quoted lines (.code 4 0) cs
      else if c = 'U' then quoted lines (.code 8 0) cs
      else (letterEscape? c).bind fun e => put e (quoted lines .plain cs)
    | .code due value =>
      (Json.hexValue? c).bind fun digit =>
        if due ≤ 1 then
          (charsOf? (value * 16 + digit)).bind fun e =>
            (quoted lines .plain cs).map fun s => (e ++ s.1, s.2)
        else quoted lines (.code (due - 1) (value * 16 + digit)) cs
    | .lineEnd =>
      if c = '\n' then quoted lines .gap cs
      else if isBlank c then quoted lines .lineEnd cs
      else none
    | mode =>
      if mode = .gap && (isBlank c || c == '\n') then quoted lines .gap cs
      else if c = '\\' then quoted lines .escape cs
      else if c = '"' then
        if !lines then some ([], cs)
        else match cs with
          | '"' :: '"' :: rest => some (closing '"' rest)
          | _ => put '"' (quoted lines .plain cs)
      else if isControl c && !(lines && c == '\n') then none
      else put c (quoted lines .plain cs)

/-! ### Single quotes -/

/-- A text in single quotes after its opening quotes. -/
def literal (lines : Bool) : Scan (List Char)
  | [] => none
  | c :: cs =>
    if c = '\x27' then
      if lines then
        match cs with
        | '\x27' :: '\x27' :: rest => some (closing '\x27' rest)
        | _ => put c (literal lines cs)
      else some ([], cs)
    else if isControl c && !(lines && c == '\n') then none
    else put c (literal lines cs)

/-- The text without the line end that it starts with. -/
def dropLineEnd : List Char → List Char
  | '\n' :: cs => cs
  | cs => cs

/-- A text of any of the four kinds. -/
def text : Scan String := fun cs =>
  let body :=
    match cs with
    | '"' :: '"' :: '"' :: rest => quoted true .plain (dropLineEnd rest)
    | '"' :: rest => quoted false .plain rest
    | '\x27' :: '\x27' :: '\x27' :: rest => literal true (dropLineEnd rest)
    | '\x27' :: rest => literal false rest
    | _ => none
  body.map fun s => (String.ofList s.1, s.2)

/-! ### Keys -/

/-- Whether a character may stand in a bare word. -/
def isBare (c : Char) : Bool :=
  c.isAlphanum || c == '-' || c == '_'

/-- A part of a key. -/
def keyPart : Scan String
  | '"' :: rest => (quoted false .plain rest).map fun s => (String.ofList s.1, s.2)
  | '\x27' :: rest => (literal false rest).map fun s => (String.ofList s.1, s.2)
  | cs =>
    match cs.span isBare with
    | ([], _) => none
    | (word, rest) => some (String.ofList word, rest)

/-- The parts of a key, of which there are no more than the given number. -/
def keyParts : Nat → Scan (List String)
  | 0, _ => none
  | fuel + 1, cs => do
    let (part, rest) ← keyPart cs
    match skipBlanks rest with
    | '.' :: more =>
      let (parts, rest) ← keyParts fuel (skipBlanks more)
      return (part :: parts, rest)
    | rest => return ([part], rest)

/-- A key, with the white space after it. -/
def key : Scan (List String) := fun cs =>
  keyParts (cs.length + 1) cs

end Lineage.Toml
