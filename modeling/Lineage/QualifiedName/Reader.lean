import Lineage.QualifiedName.Token

/-!
# Readers

A reader takes tokens from the beginning of a list and gives what it has read, or it stops because
the tokens are not what it reads. What is read of an expression is a `Value`: as much of it as can
become a part of a path. A reader of an optional thing gives nothing if the thing is not there.

A `Grammar` is a reader for each kind of expression. Readers of simple things take a grammar for
what stands within them, and so the grammar is built from itself, one level at a time.
-/

namespace Lineage.QualifiedName

/-- Why tokens cannot be read. -/
inductive Stop where
  /-- They do not make a path. -/
  | refused
  /-- An argument is to have a name and has none. -/
  | unnamed
  deriving DecidableEq, Repr

/-- A reader of tokens. -/
abbrev Reader (α : Type) : Type :=
  StateT (List Token) (Except Stop) α

/-! ### Values -/

/-- What an expression is, as far as others ask. -/
inductive Kind where
  | identifier
  /-- A number or a text. -/
  | literal (isText : Bool)
  /-- A column, with the number of its parts. -/
  | column (size : Nat)
  /-- A query without parentheses around it. -/
  | query
  /-- A query in parentheses. -/
  | wrapped
  /-- The call of a function that writes hexadecimal digits, with the text that it is given. -/
  | digits (text : List Char)
  /-- A value without the key that it should have. -/
  | keyless
  | other
  deriving DecidableEq, Repr

/-- What is read of an expression. -/
structure Value where
  /-- The text that stands for the expression. -/
  name : List Char := []
  /-- The text that the expression gives to one that is made from it. -/
  own : List Char := []
  kind : Kind := .other
  deriving DecidableEq, Repr

namespace Value

/-- An identifier. -/
def identifier (text : List Char) : Value := ⟨text, text, .identifier⟩

/-- A number or a text. -/
def literal (isText : Bool) (text : List Char) : Value := ⟨text, text, .literal isText⟩

/-- A sign or a word that stands for itself. -/
def symbol (text : String) : Value := ⟨text.toList, text.toList, .other⟩

/-- An expression that only stands for itself. -/
def named (text : List Char) : Value := { name := text }

/-- An expression that is made from another one. -/
def derived (v : Value) : Value := { name := v.own }

/-- An expression that takes the text of another one that it wraps. -/
def through (v : Value) : Value := { name := v.name }

end Value

/-- What is read of a type: whether it has arguments, and whether values stand with it. -/
structure DataType where
  hasArguments : Bool := false
  hasValues : Bool := false
  deriving DecidableEq, Repr

/-! ### Grammars -/

/-- Which queries may be read. -/
structure QueryForm where
  /-- Whether the query may stand in parentheses. -/
  nested : Bool := false
  /-- Whether a table may stand in its place. -/
  table : Bool := false
  /-- Whether other queries may be joined to it. -/
  operations : Bool := true
  deriving DecidableEq, Repr

/-- A reader for each kind of expression. -/
structure Grammar where
  parameter : Reader (Option Value)
  unary : Reader (Option Value)
  factor : Reader (Option Value)
  term : Reader (Option Value)
  bitwise : Reader (Option Value)
  equality : Reader (Option Value)
  disjunction : Reader (Option Value)
  assignment : Reader (Option Value)
  expression : Reader (Option Value)
  column : Reader (Option Value)
  operations : Value → Reader (Option Value)
  typed : Reader (Option Value)
  dataType : Bool → Bool → Reader (Option DataType)
  function : Reader (Option Value)
  window : Bool → Value → Reader Value
  interval : Bool → Reader (Option Value)
  argument : Bool → Reader (Option Value)
  query : QueryForm → Reader (Option Value)
  /-- What follows a query that is complete by itself. -/
  continued : Reader Unit
  table : Reader (Option Value)

/-! ### Tokens -/

/-- Stops because the tokens do not make a path. -/
def refuse {α : Type} : Reader α :=
  throw .refused

/-- The next token, which is left where it is. -/
def next? : Reader (Option Token) := do
  return (← get).head?

/-- The next token, if it is of a kind. -/
def take? (isWanted : Token → Bool) : Reader (Option Token) := do
  match ← get with
  | t :: ts => if isWanted t then set ts; return some t else return none
  | [] => return none

/-- Passes over the next token if it is of a kind, and tells whether it is. -/
def passes (isWanted : Token → Bool) : Reader Bool := do
  return (← take? isWanted).isSome

/-- Passes over a word or an operator. -/
def accept (word : String) : Reader Bool :=
  passes (·.isOf [word])

/-- Passes over one of some words or operators, and gives it. -/
def accept? (words : List String) : Reader (Option String) := do
  return (← take? (·.isOf words)).bind (·.keyword?)

/-- Passes over a word or an operator, or stops. -/
def expect (word : String) : Reader Unit := do
  unless ← accept word do refuse

/-- Whether tokens begin with some words, each of which is as a test says. -/
def beginWith (test : String → Token → Bool) : List String → List Token → Bool
  | [], _ => true
  | _ :: _, [] => false
  | word :: words, t :: ts => test word t && beginWith test words ts

/-- Whether the next tokens are some words or operators. -/
def sees (words : List String) : Reader Bool := do
  return beginWith (fun word t => t.isOf [word]) words (← get)

/-- Passes over some words or operators if all of them come next. -/
def acceptAll (words : List String) : Reader Bool := do
  if ← sees words then modify (·.drop words.length); return true else return false

/-- Passes over tokens that are written as some texts, if all of them come next. -/
def acceptTexts (texts : List String) : Reader Bool := do
  let ts ← get
  if beginWith (fun text t => t.reads [text]) texts ts then
    set (ts.drop texts.length)
    return true
  else return false

/-- Passes over a token that is written as one of some texts. -/
def acceptText (texts : List String) : Reader Bool :=
  passes (·.reads texts)

/-! ### Combinations -/

/-- Whether something holds and a reader then finds what it looks for. -/
def both (holds : Bool) (r : Reader Bool) : Reader Bool :=
  if holds then r else return false

/-- Whether one of two readers finds what it looks for. The second one is asked only if the first
one does not. -/
def either (first second : Reader Bool) : Reader Bool := do
  if ← first then return true else second

/-- What is read, if it is there and can be read. Otherwise the tokens stay. -/
def attempt {α : Type} (r : Reader (Option α)) : Reader (Option α) := fun ts =>
  match r ts with
  | .ok (some a, rest) => .ok (some a, rest)
  | .ok (none, _) => .ok (none, ts)
  | .error .refused => .ok (none, ts)
  | .error stop => .error stop

/-- What the first of two readers reads, or else the second. -/
def orElse {α : Type} (first second : Reader (Option α)) : Reader (Option α) := do
  match ← first with
  | some a => return some a
  | none => second

/-- What is read, or stops if it is not there. -/
def required {α : Type} (r : Reader (Option α)) : Reader α := do
  match ← r with
  | some a => return a
  | none => refuse

/-- Goes on from a value as long as there is a step to take, once for each of some tokens at
most. -/
def onwardFor {α : Type} (step : α → Reader (Option α)) : List Token → α → Reader α
  | [], a => return a
  | _ :: more, a => do
    match ← step a with
    | some b => onwardFor step more b
    | none => return a

/-- Goes on from a value as long as there is a step to take. A step takes a token at least, so as
many steps as there are tokens are enough. -/
def onward {α : Type} (step : α → Reader (Option α)) (a : α) : Reader α := do
  onwardFor step (← get) a

/-- Things with commas between them. Things that are not there are left out. The flag tells whether
nothing comes after the last comma. -/
def listed {α : Type} (r : Reader (Option α)) : Reader (List α × Bool) := do
  let first ← r
  let (found, trailing) ← onward (fun (found : List α × Bool) => do
    if ← accept "," then
      let more ← r
      return some (more.toList ++ found.1, more.isNone)
    else return none) (first.toList, false)
  return (found.reverse, trailing)

/-- Things with commas between them. -/
def list {α : Type} (r : Reader (Option α)) : Reader (List α) := do
  return (← listed r).1

/-- Something in parentheses. -/
def parenthesized {α : Type} (r : Reader α) : Reader α := do
  expect "("
  let a ← r
  expect ")"
  return a

/-- Something that may be in parentheses. -/
def perhapsParenthesized {α : Type} (r : Reader α) : Reader α := do
  let wrapped ← accept "("
  let a ← r
  if wrapped then expect ")"
  return a

end Lineage.QualifiedName
