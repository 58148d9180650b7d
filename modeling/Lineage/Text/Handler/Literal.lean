import Lineage.Text.Handler.Token

/-!
# Literals of handlers

The arguments of a handler are literals: texts in quotes, numbers, `True`, `False`, `None` and
`...`, tuples, dictionaries and sets of such values, and the sum of a real number and an imaginary
one. `Expression` is what tokens are read as, and `Expression.kind` is the value of one as far as
its use goes: whether it may be a member of a set.
-/

namespace Lineage.Text.Handler

/-- What is wrong with the arguments of a handler. -/
inductive Fault where
  /-- They are not written as values are. -/
  | unreadable (message : String)
  /-- They end too soon. -/
  | ended
  /-- They are values that cannot be. -/
  | unfit (message : String)
  deriving DecidableEq, Repr

/-- A value as it is written, with the parentheses around it left out. -/
inductive Expression where
  | number (isImaginary : Bool)
  | constant
  | signed (e : Expression)
  /-- A sum or a difference. -/
  | sum (left right : Expression)
  | tuple (items : List Expression)
  | set (items : List Expression)
  /-- A dictionary, as its keys and values by turns. -/
  | dictionary (entries : List Expression)
  | emptySet
  /-- What has no value here. -/
  | other
  deriving Repr

namespace Expression

/-! ### Values -/

/-- What a value is: one that may be a member of a set, or one of a kind that may not. -/
inductive Kind where
  | member
  | collection (name : String)
  deriving DecidableEq, Repr

/-- What is wrong with a value that is no literal. -/
def malformed : Fault :=
  .unfit "malformed node or string"

/-- A value that is to be a member of a set. -/
def Kind.asMember : Kind → Except Fault Unit
  | member => .ok ()
  | collection name => .error (.unfit s!"unhashable type: '{name}'")

/-- The numbers with a sign at most, told apart by whether they are imaginary. -/
def signedNumber? : Expression → Option Bool
  | number isImaginary => some isImaginary
  | signed (number isImaginary) => some isImaginary
  | _ => none

mutual

/-- What a value is, if it is a literal. -/
def kind : Expression → Except Fault Kind
  | number _ => .ok .member
  | constant => .ok .member
  | signed e => if (signedNumber? (signed e)).isSome then .ok .member else .error malformed
  | sum left right =>
    match signedNumber? left, right with
    | some false, number true => .ok .member
    | _, _ => .error malformed
  | tuple items => tupleKind items
  | set items => do
    members items
    return .collection "set"
  | dictionary es => do
    entries es
    return .collection "dict"
  | emptySet => .ok (.collection "set")
  | other => .error malformed

/-- What a tuple of values is: a collection if one of them is. -/
def tupleKind : List Expression → Except Fault Kind
  | [] => .ok .member
  | e :: es => do
    let first ← kind e
    let rest ← tupleKind es
    return if first = .member then rest else first

/-- The values of a set, each of which is a member. -/
def members : List Expression → Except Fault Unit
  | [] => .ok ()
  | e :: es => do
    (← kind e).asMember
    members es

/-- The keys and values of a dictionary. Its keys are members of a set. -/
def entries : List Expression → Except Fault Unit
  | [] => .ok ()
  | [_] => .ok ()
  | key :: value :: es => do
    let key ← kind key
    let _ ← kind value
    key.asMember
    entries es

end

end Expression

/-! ### Reading -/

/-- What is written wrong, if nothing else is known. -/
def invalid : Fault :=
  .unreadable "invalid syntax"

/-- The names that are words of the language of expressions. -/
def reserved : List String :=
  ["and", "as", "assert", "async", "await", "break", "class", "continue", "def", "del", "elif",
   "else", "except", "finally", "for", "from", "global", "if", "import", "in", "is", "lambda",
   "nonlocal", "not", "or", "pass", "raise", "return", "try", "while", "with", "yield"]

/-- The signs between two operands. -/
def operators : List String :=
  ["+", "-", "*", "/", "//", "%", "@", "**", "<<", ">>", "&", "|", "^", "<", ">", "==", ">=", "<=",
   "!="]

/-- The words between two operands. -/
def wordOperators : List String :=
  ["and", "in", "is", "or"]

/-- Whether a token stands between two operands. -/
def isOperator : Token → Bool
  | .sign s => operators.contains s
  | .name s => wordOperators.contains s
  | _ => false

/-- Whether a token may begin an expression right after another one. -/
def beginsAnother : Token → Bool
  | .name s => !reserved.contains s || s = "not"
  | .number _ _ => true
  | .text _ _ => true
  | .sign s => s = "\x7b" || s = "~" || s = "..."

/-- Whether tokens begin in a way that a comma is not missed after them. -/
def beginsStatement : List Token → Bool
  | .name _ :: .text _ _ :: _ => true
  | .name s :: _ => ["_", "case", "match"].contains s
  | _ => false

/-- Expressions that stand one after the other without a comma. -/
def missingComma : Fault :=
  .unreadable "invalid syntax. Perhaps you forgot a comma?"

/-- The tokens after further texts in quotes, and whether values are put into one of them. All of
them are of characters or all of bytes. -/
def afterTexts (bytes : Bool) : List Token → Except Fault (Bool × List Token)
  | .text q fault :: ts =>
    if q.bytes ≠ bytes then .error (.unreadable "cannot mix bytes and nonbytes literals")
    else match fault with
      | some fault => .error (.unreadable fault)
      | none => do
        let (formatted, rest) ← afterTexts bytes ts
        return (formatted || q.formatted, rest)
  | ts => .ok (false, ts)

/-- How expressions are read, as far as one reader needs another. -/
inductive Goal where
  /-- One expression, in brackets or not. -/
  | single (inside : Bool)
  /-- An expression without operators between its parts. -/
  | operand (inside : Bool)
  /-- Expressions with commas between them up to a sign. -/
  | list (closing : String)
  /-- Entries of a dictionary up to its brace. -/
  | entries
  deriving DecidableEq, Repr

/-- What has been read: expressions, whether a comma ends them, and the tokens that are left. -/
structure Found where
  items : List Expression
  ended : Bool := false
  rest : List Token

/-- One expression and the tokens that are left. -/
def Found.one (e : Expression) (rest : List Token) : Found :=
  { items := [e], rest := rest }

/-- The expression that was read. -/
def Found.first (f : Found) : Expression :=
  f.items.headD .other

/-- What follows a value that is written in full: attributes and calls. -/
def trailing (read : Goal → List Token → Except Fault Found) (e : Expression) (ts : List Token) :
    Except Fault Found :=
  match e, ts with
  | _, .sign "." :: .name s :: rest =>
    if reserved.contains s then .error invalid else trailing' .other rest
  | _, .sign "(" :: rest => do
    let found ← read (.list ")") rest
    trailing' .other found.rest
  | e, ts => .ok (.one e ts)
where
  /-- A second attribute or call is read like another operand. -/
  trailing' (e : Expression) (ts : List Token) : Except Fault Found :=
    match ts with
    | .sign "." :: .name s :: rest =>
      if reserved.contains s then .error invalid else .ok (.one .other rest)
    | .sign "(" :: rest => do
      let found ← read (.list ")") rest
      return .one .other found.rest
    | ts => .ok (.one e ts)

/-- The operand that some tokens begin with. -/
def operand (read : Goal → List Token → Except Fault Found) (inside : Bool) :
    List Token → Except Fault Found
  | .sign "+" :: .name "not" :: _ | .sign "-" :: .name "not" :: _ => .error invalid
  | .sign "+" :: rest | .sign "-" :: rest => do
    let found ← read (.operand inside) rest
    return .one (.signed found.first) found.rest
  | .sign "~" :: rest | .name "not" :: rest => do
    let found ← read (.operand inside) rest
    return .one .other found.rest
  | .number isImaginary digits :: rest =>
    if digits > digitLimit then
      .error <| .unreadable <| digitLimitReport digits ++ " - Consider hexadecimal for " ++
        "huge integer literals to avoid decimal conversion limits."
    else trailing read (.number isImaginary) rest
  | .text q fault :: rest => do
    let (formatted, rest) ← afterTexts q.bytes (.text q fault :: rest)
    trailing read (if formatted then .other else .constant) rest
  | .name "set" :: .sign "(" :: .sign ")" :: rest => trailing read .emptySet rest
  | .name s :: rest =>
    if ["True", "False", "None"].contains s then trailing read .constant rest
    else if reserved.contains s then .error invalid
    else trailing read .other rest
  | .sign "..." :: rest => trailing read .constant rest
  | .sign "(" :: rest => do
    let found ← read (.list ")") rest
    match found.items, found.ended with
    | [e], false => trailing read e found.rest
    | items, _ => trailing read (.tuple items) found.rest
  | .sign "\x7b" :: .sign "\x7d" :: rest => trailing read (.dictionary []) rest
  | .sign "\x7b" :: rest => do
    let first ← read (.single true) rest
    match first.rest with
    | .sign ":" :: _ =>
      let found ← read .entries rest
      trailing read (.dictionary found.items) found.rest
    | _ =>
      let found ← read (.list "\x7d") rest
      trailing read (.set found.items) found.rest
  | [] => .error .ended
  | _ => .error invalid

/-- The expression that some tokens begin with. -/
def single (read : Goal → List Token → Except Fault Found) (inside : Bool) (ts : List Token) :
    Except Fault Found := do
  let left ← read (.operand inside) ts
  match left.rest with
  | t :: rest =>
    if isOperator t then
      let right ← read (.single inside) rest
      match t, right.first with
      | .sign "+", e | .sign "-", e => return .one (.sum left.first e) right.rest
      | _, _ => return .one .other right.rest
    else if t = .name "if" then
      let condition ← read (.single inside) rest
      match condition.rest with
      | .name "else" :: rest =>
        let otherwise ← read (.single inside) rest
        return .one .other otherwise.rest
      | _ => .error (.unreadable "expected 'else' after 'if' expression")
    else if beginsAnother t then
      match read (.single inside) left.rest with
      | .ok _ => .error (if inside && !beginsStatement ts then missingComma else invalid)
      | .error .ended => .error invalid
      | .error fault => .error fault
    else return left
  | [] => return left

/-- Expressions with commas between them up to a sign, or up to the end if there is none. -/
def list (read : Goal → List Token → Except Fault Found) (closing : String) :
    List Token → Except Fault Found
  | [] => if closing = "" then .ok { items := [], rest := [] } else .error .ended
  | t :: ts =>
    if t = .sign closing then .ok { items := [], rest := ts }
    else do
      let first ← read (.single (closing ≠ "")) (t :: ts)
      match first.rest with
      | .sign "," :: rest =>
        let more ← read (.list closing) rest
        return { items := first.first :: more.items, ended := true, rest := more.rest }
      | [] => if closing = "" then .ok { items := first.items, rest := [] } else .error .ended
      | t :: rest =>
        if t = .sign closing then .ok { items := first.items, rest := rest } else .error invalid

/-- The entries of a dictionary. -/
def entries (read : Goal → List Token → Except Fault Found) (ts : List Token) :
    Except Fault Found := do
  let key ← read (.single true) ts
  match key.rest with
  | .sign ":" :: .sign "\x7d" :: _ | .sign ":" :: .sign "," :: _ =>
    .error (.unreadable "expression expected after dictionary key and ':'")
  | .sign ":" :: rest =>
    let value ← read (.single true) rest
    let found := [key.first, value.first]
    match value.rest with
    | .sign "\x7d" :: rest | .sign "," :: .sign "\x7d" :: rest =>
      return { items := found, rest := rest }
    | .sign "," :: rest =>
      let more ← read .entries rest
      return { items := found ++ more.items, rest := more.rest }
    | [] => .error .ended
    | _ => .error invalid
  | [] => .error .ended
  | _ => .error (.unreadable "':' expected after dictionary key")

/-- What some tokens begin with. A goal that is set by another one is set for fewer tokens or
stands lower among the goals for the same tokens, so four times the number of tokens is fuel
enough. -/
def read : Nat → Goal → List Token → Except Fault Found
  | 0, _, _ => .error invalid
  | fuel + 1, .single inside, ts => single (read fuel) inside ts
  | fuel + 1, .operand inside, ts => operand (read fuel) inside ts
  | fuel + 1, .list closing, ts => list (read fuel) closing ts
  | fuel + 1, .entries, ts => entries (read fuel) ts

/-- The expression that some tokens are: one, or a tuple of those with commas between them. -/
def expression (ts : List Token) : Except Fault Expression := do
  let ts := (ts.reverse.dropWhile (· = .sign "\n")).reverse
  let found ← read (4 * ts.length + 4) (.list "") ts
  match found.items, found.ended with
  | [], _ => .error .ended
  | [e], false => return e
  | items, _ => return .tuple items

end Lineage.Text.Handler
