import Lineage.QualifiedName.Keyword

/-!
# Tokens of names

A name is read as SQL is: it is cut into words, phrases, texts in quotes, numbers and marks.
White space and comments between them are passed over. `tokens?` gives nothing if a quote or a
comment is not closed.
-/

namespace Lineage.QualifiedName

/-- A token of a name. -/
inductive Token where
  | word (text : List Char)
  /-- A word that names a parameter, after its at sign. It has no meaning of its own. -/
  | parameter (text : List Char)
  /-- Several words that belong together, in capital letters. -/
  | phrase (text : List Char)
  /-- A text in double quotes. -/
  | quoted (text : List Char)
  /-- A text in single quotes. -/
  | string (text : List Char)
  /-- A text in single quotes with an `N` before them. -/
  | national (text : List Char)
  | number (text : List Char)
  /-- A character or an operator that is no part of a word. -/
  | mark (text : List Char)
  /-- Something that is no part of a name: the rest of a statement, a hint, or a remark that
  belongs to a semicolon. -/
  | foreign
  deriving DecidableEq, Repr

namespace Token

/-- The dot between two parts. -/
abbrev dot : Token := .mark ['.']

/-- The semicolon between two names. -/
abbrev semicolon : Token := .mark [';']

/-- The at sign before a parameter. -/
abbrev atSign : Token := .mark ['@']

/-- The text of a token. -/
def text : Token → List Char
  | word text | parameter text | phrase text | quoted text | string text | national text
  | number text | mark text => text
  | foreign => []

/-- The word or operator that a token means, if it means one. -/
def keyword? : Token → Option String
  | word text => some (canonical (capitals text))
  | phrase text => some (canonical (String.ofList text))
  | mark text => some (canonical (String.ofList text))
  | _ => none

/-- Whether a token means one of some words or operators. -/
def isOf (words : List String) (t : Token) : Bool :=
  t.keyword?.elim false words.contains

/-- Whether a token is written as one of some texts, letter case aside. -/
def reads (texts : List String) : Token → Bool
  | string _ => false
  | t => isOneOf texts t.text

/-- Whether a token is one of some words. -/
def isWordOf (words : List String) : Token → Bool
  | word text => isOneOf words text
  | _ => false

/-- Whether a token is a part of a path by itself. -/
def isPart : Token → Bool
  | word text => !isOneOf reservedWords text
  | phrase text => plainPhrases.contains (String.ofList text)
  | parameter _ | quoted _ => true
  | mark text => text = ['\x60']
  | _ => false

/-- Whether a token may name a function. -/
def isFunction : Token → Bool
  | word text =>
    isOneOf reservedFunctions text || !isOneOf (reservedWords ++ uncallableWords) text
  | phrase text => callablePhrases.contains (String.ofList text)
  | parameter _ | quoted _ => true
  | mark text => text = ['\x60']
  | _ => false

/-- Whether a token is a word without a meaning of its own. -/
def isPlain : Token → Bool
  | word text => !isKeyword (capitals text)
  | parameter _ => true
  | _ => false

/-- Whether a token names a type. -/
def isType : Token → Bool
  | word text => isOneOf typeWords text
  | phrase text => typePhrases.contains (String.ofList text)
  | mark text => text = ['\x60']
  | _ => false

/-- Whether a token cannot be a name even where any token may be one. -/
def isFixed : Token → Bool
  | word text => isOneOf ["NOT", "SELECT", "UNKNOWN"] text
  | mark text => text.length = 1 || text = ['=', '=']
  | foreign => true
  | _ => false

end Token

/-! ### Characters -/

/-- The characters that end a word. -/
def marks : List Char :=
  "()[]\x7b\x7d&^:,-.=><%!|+;/\\*~?@#\x27\x60\"".toList

/-- Whether a character is part of a word. -/
def isWordChar (c : Char) : Bool :=
  !Text.isSeparating c && !marks.contains c

/-- Whether a character ends a line. -/
def endsLine (c : Char) : Bool :=
  c = '\n' || c = '\r'

/-! ### Texts in quotes -/

/-- The text up to the quote that closes it, and the number of characters up to that quote and with
it. A quote that is written twice is part of the text. -/
def closing? (quote : Char) : List Char → Option (List Char × Nat)
  | [] => none
  | [c] => if c = quote then some ([], 1) else none
  | c :: d :: cs =>
    if c = quote then
      if d = quote then (closing? quote cs).map fun t => (quote :: t.1, t.2 + 2)
      else some ([], 1)
    else (closing? quote (d :: cs)).map fun t => (c :: t.1, t.2 + 1)

/-! ### Comments -/

/-- The marks around a comment. -/
structure Fence where
  first : Char × Char
  last : Char × Char
  /-- Whether there are comments within the comment. -/
  nests : Bool := true

/-- The number of characters up to the end of a comment and with it, where some comments have
begun within it. A comment that begins right after the beginning of another one does not count. -/
def Fence.size? (f : Fence) : Nat → List Char → Option Nat
  | _, [] => none
  | _, [_] => none
  | within, c :: d :: cs =>
    let closes := (c, d) = f.last
    if closes ∧ within = 0 then some 2
    else
      let within := if closes then within - 1 else within
      match cs with
      | [] => none
      | e :: cs =>
        if f.nests ∧ (d, e) = f.first then (f.size? (within + 1) cs).map (3 + ·)
        else (f.size? within (d :: e :: cs)).map (1 + ·)

/-- A comment between a slash with an asterisk and the two in turn. -/
def slashed : Fence := ⟨('/', '*'), ('*', '/'), true⟩

/-- A comment in braces. -/
def braced : Fence := ⟨('\x7b', '#'), ('#', '\x7d'), true⟩

/-! ### Numbers -/

/-- The number of characters by which a number goes on, given whether there may still be a point
and whether an exponent has begun (`1`) or is under way (`2`). -/
def numberSize (point : Bool) (exponent : Nat) : List Char → Nat
  | [] => 0
  | c :: cs =>
    if c.isDigit then numberSize point exponent cs + 1
    else if c = '.' ∧ point then numberSize false exponent cs + 1
    else if (c = '-' ∨ c = '+') ∧ exponent = 1 ∧ (cs.head?.elim false Char.isDigit) then
      numberSize point 2 cs + 1
    else if (c = 'e' ∨ c = 'E') ∧ exponent = 0 then numberSize point 1 cs + 1
    else 0

/-- The number of characters after the first digit of a number. -/
def numberRest (point : Bool) (digit : Char) (cs : List Char) : Nat :=
  match cs with
  | c :: _ =>
    if digit = '0' ∧ (c = 'b' ∨ c = 'B' ∨ c = 'x' ∨ c = 'X') then 0 else numberSize point 0 cs
  | [] => 0

/-! ### Lexemes -/

/-- What has been read of a name. -/
structure Context where
  /-- The last token. -/
  last : Option Token := none
  /-- Whether the line of the last token goes on. -/
  sameLine : Bool := false
  deriving DecidableEq, Repr

namespace Context

/-- What has been read after some more tokens. -/
def after (context : Context) (tokens : List Token) : Context :=
  match tokens.getLast? with
  | some token => ⟨some token, true⟩
  | none => context

/-- Whether the name of a parameter comes next. -/
def namesParameter (context : Context) : Bool :=
  context.last = some .atSign

/-- Whether the next word may be a command. -/
def startsStatement (context : Context) : Bool :=
  context.last.elim true fun token => token = .semicolon || token.isWordOf ["BEGIN"]

end Context

/-- What a name begins with: the tokens that it makes, if there are any, and the number of its
characters after the first. -/
structure Lexeme where
  tokens : List Token := []
  rest : Nat := 0
  /-- Whether it is a comment. -/
  isComment : Bool := false
  deriving DecidableEq, Repr

/-- The phrase that a name begins with, and the number of its characters. A phrase ends before
white space, before a mark, or with the name. -/
def phrase? (cs : List Char) : Option (List Char × Nat) :=
  (plainPhrases ++ reservedPhrases).findSome? fun phrase =>
    match phraseSize? phrase.toList cs with
    | some size =>
      if phrase.toList.contains '-' || (cs[size]?.elim true fun c => !isWordChar c) then
        some (phrase.toList, size)
      else none
    | none => none

/-- The operator that a name begins with. -/
def operator? (cs : List Char) : Option (List Char) :=
  (operators.map String.toList).find? (·.isPrefixOf cs)

/-- The tokens of a word. After an at sign it names a parameter. A command swallows what follows
it. -/
def wordTokens (context : Context) (word : List Char) (cs : List Char) : List Token :=
  let rest := cs.dropWhile Text.isSeparating
  if context.namesParameter then [.parameter word]
  else if context.startsStatement && isOneOf commandWords word && !rest.isEmpty &&
      rest.head? ≠ some ';' then
    [.word word, .foreign]
  else [.word word]

/-- The lexeme of a comment that begins with some characters. A hint is a token of its own. -/
def comment? (context : Context) (f : Fence) (first : Nat) (cs : List Char) : Option Lexeme :=
  (f.size? 0 (cs.drop first)).map fun size =>
    let hints := first = 3 && context.last.elim false (Token.isWordOf hintedWords)
    { tokens := if hints then [.foreign] else [], rest := first + size - 1, isComment := !hints }

/-- What begins with a character that is neither white space nor a digit nor a quote. -/
def lexemeOf (context : Context) (c : Char) (cs : List Char) : Lexeme :=
  match phrase? (c :: cs) with
  | some (phrase, size) => { tokens := [.phrase phrase], rest := size - 1 }
  | none =>
    match operator? (c :: cs) with
    | some operator => { tokens := [.mark operator], rest := operator.length - 1 }
    | none =>
      if marks.contains c then { tokens := [.mark [c]] }
      else
        let word := c :: cs.takeWhile isWordChar
        { tokens := wordTokens context word (cs.drop (word.length - 1)), rest := word.length - 1 }

/-- What a name begins with, given its first character. There is nothing if a quote or a comment is
not closed. -/
def lexeme? (context : Context) (c : Char) (cs : List Char) : Option Lexeme :=
  if Text.isSeparating c then some {}
  else if c.isDigit then
    let rest := numberRest (!context.namesParameter) c cs
    some { tokens := [.number (c :: cs.take rest)], rest := rest }
  else if c = '"' then
    (closing? '"' cs).map fun t => { tokens := [.quoted t.1], rest := t.2 }
  else if c = '\x27' then
    (closing? '\x27' cs).map fun t => { tokens := [.string t.1], rest := t.2 }
  else
    match c :: cs with
    | '-' :: '-' :: line =>
      some { rest := 1 + (line.takeWhile fun c => !endsLine c).length, isComment := true }
    | '/' :: '*' :: '+' :: _ => comment? context { slashed with nests := false } 3 (c :: cs)
    | '/' :: '*' :: _ => comment? context slashed 2 (c :: cs)
    | '\x7b' :: '#' :: _ => comment? context braced 2 (c :: cs)
    | 'n' :: '\x27' :: text | 'N' :: '\x27' :: text =>
      (closing? '\x27' text).map fun t => { tokens := [.national t.1], rest := t.2 + 1 }
    | _ => some (lexemeOf context c cs)

/-! ### Scans -/

/-- The remark after a semicolon, where it belongs to the semicolon: on the same line, or at the
end. -/
def remark (context : Context) (l : Lexeme) (following : List Token) : List Token :=
  if l.isComment && context.last = some .semicolon && (context.sameLine || following.isEmpty) then
    [.foreign]
  else []

/-- The tokens of a name after what has been read of it, some of whose characters are passed
over. -/
def scan (context : Context) : Nat → List Char → Option (List Token)
  | _, [] => some []
  | passed + 1, _ :: cs => scan context passed cs
  | 0, c :: cs => do
    let l ← lexeme? context c cs
    let next := context.after l.tokens
    let following ← scan { next with sameLine := next.sameLine && !endsLine c } l.rest cs
    return l.tokens ++ remark context l following ++ following

/-- The tokens of a name, unless a quote or a comment is not closed. -/
def tokens? (cs : List Char) : Option (List Token) :=
  scan {} 0 cs

end Lineage.QualifiedName
