import Lineage.QualifiedName.Reader

/-!
# Operands

The expressions that others are made of: identifiers, placeholders, parameters, constants, and
expressions in brackets. An expression may have an alias, and a query may be limited.
-/

namespace Lineage.QualifiedName

/-! ### Names -/

/-- A placeholder or a parameter. -/
def placeholder (g : Grammar) : Reader (Option Value) := do
  match ← get with
  | .mark ['?'] :: rest =>
    set rest
    return some (.named ['?'])
  | .mark ['@'] :: rest =>
    set rest
    return some (← required g.parameter).derived
  | .mark [':'] :: t :: rest =>
    if t.isPart then
      set rest
      return some (.named (if t.text = [] then ['?'] else t.text))
    else return none
  | _ => return none

/-- An identifier in quotes, or a placeholder. -/
def identifier (g : Grammar) : Reader (Option Value) := do
  match ← get with
  | .quoted text :: rest =>
    set rest
    return some (.identifier text)
  | _ => placeholder g

/-- A token that is a name, where perhaps any token is one. -/
def nameToken (any : Bool) (isWanted : Token → Bool) : Reader (Option Value) := do
  return (← take? fun t => (any && !t.isFixed) || isWanted t).map fun t => .identifier t.text

/-- A name, where perhaps any token is one. -/
def identifierOf (g : Grammar) (any : Bool) (isWanted : Token → Bool) : Reader (Option Value) :=
  orElse (identifier g) (nameToken any isWanted)

/-- A name. -/
def anyName (g : Grammar) (any : Bool) : Reader (Option Value) :=
  identifierOf g any Token.isPart

/-- A word, where perhaps any token is one, or a placeholder. -/
def wordOf (g : Grammar) (any : Bool) : Reader (Option Value) :=
  orElse (nameToken any Token.isPlain) (placeholder g)

/-- A text in single quotes, or a placeholder. -/
def stringOf (g : Grammar) : Reader (Option Value) := do
  match ← get with
  | .string text :: rest =>
    set rest
    return some (.literal true text)
  | .national text :: rest =>
    set rest
    return some (.named text)
  | _ => placeholder g

/-! ### Limits and aliases -/

/-- What may follow the number of a limit. -/
def limitOptions : Reader Unit := do
  let _ ← accept? ["PERCENT", "%"]
  let _ ← accept? ["ROW", "ROWS"]
  let _ ← acceptTexts ["ONLY"]
  let _ ← acceptTexts ["WITH", "TIES"]

/-- The expressions by which a limit counts. -/
def limitBy (g : Grammar) : Reader Unit := do
  if ← acceptTexts ["BY"] then
    let _ ← list g.bitwise

/-- The rest of a limit after its first word. -/
def limitRest (g : Grammar) : Reader Unit := do
  let _ ← required (orElse (attempt g.term) g.factor)
  limitOptions
  if ← accept "," then
    let _ ← required g.term
  limitBy g

/-- A limit on the number of rows, by either of its words. -/
def limit (g : Grammar) : Reader Bool := do
  if ← accept "LIMIT" then
    limitRest g
    return true
  else if ← accept "FETCH" then
    let _ ← accept? ["FIRST", "NEXT"]
    let _ ← g.unary
    limitOptions
    return true
  else return false

/-- The number of rows to leave out. -/
def offset (g : Grammar) : Reader Bool := do
  if ← accept "OFFSET" then
    let _ ← required g.term
    let _ ← accept? ["ROW", "ROWS"]
    limitBy g
    return true
  else return false

/-- Whether a limit or a number of rows to leave out comes next. -/
def seesLimit (g : Grammar) : Reader Bool := do
  let ts ← get
  let seen (r : Reader Bool) : Reader Bool := do
    return (← attempt (do return if ← r then some () else none)).isSome
  if (ts.head?.elim false (·.isOf ["LIMIT", "OFFSET"])) then
    let found ← either (seen (limit g)) (seen (offset g))
    set ts
    return found
  else return false

/-- An expression with its alias, if it has one. An alias may have to come after `AS`. -/
def aliased (g : Grammar) (explicit : Bool) (v : Option Value) : Reader (Option Value) := do
  if ← seesLimit g then return v
  let any ← accept "AS"
  if explicit && !any then return v
  if ← accept "(" then
    let names ← list (anyName g any)
    expect ")"
    if v.isNone || names.isEmpty then refuse else return some {}
  match ← anyName g any, v with
  | some _, some v => return some v.derived
  | some _, none => refuse
  | none, v => return v

/-! ### Constants -/

/-- What an asterisk leaves out, replaces or renames. -/
def starChange (g : Grammar) (texts : List String) : Reader Unit := do
  if ← acceptText texts then
    if ← sees ["("] then
      let _ ← parenthesized (list g.expression)
    else
      let _ ← aliased g true (← g.assignment)

/-- The rest of an asterisk. -/
def star (g : Grammar) : Reader (Option Value) := do
  let isCall := (← get).head?.elim false (·.reads ["COLUMNS"]) &&
    ((← get)[1]?.elim false (·.reads ["("]))
  if isCall then g.function
  else
    starChange g ["EXCEPT", "EXCLUDE"]
    starChange g ["REPLACE"]
    starChange g ["RENAME"]
    return some (.symbol "*")

/-- The number of texts in single quotes that come next. -/
def stringCount (ts : List Token) : Nat :=
  (ts.takeWhile fun
    | .string _ => true
    | _ => false).length

/-- A query in parentheses after its first parenthesis, or expressions there. -/
def inParentheses (g : Grammar) : Reader Value := do
  let (items, trailing) ← (do
    match ← g.query {} with
    | some query => return ([query], false)
    | none => listed g.expression : Reader (List Value × Bool))
  let v ← (match items with
    | [] => do
      if trailing then return {}
      else if ← sees [")"] then return {}
      else refuse
    | [v] =>
      match v.kind with
      | .query => return { kind := .wrapped }
      | .wrapped => do
        g.continued
        return { kind := .wrapped }
      | _ => return if trailing then {} else v.derived
    | _ => return {} : Reader Value)
  expect ")"
  return v

/-- A constant, or an expression in parentheses. -/
def primary (g : Grammar) : Reader (Option Value) := do
  let ts ← get
  match ts with
  | .string text :: rest =>
    set (ts.drop (stringCount ts))
    return some (if stringCount rest = 0 then .literal true text else {})
  | .national text :: rest =>
    set rest
    return some (.named text)
  | .number text :: rest =>
    set rest
    return some (.literal false text)
  | .mark ['.'] :: .number text :: rest =>
    set rest
    return some (.literal false ('0' :: '.' :: text))
  | .mark ['*'] :: rest =>
    set rest
    star g
  | .mark ['('] :: rest =>
    set rest
    return some (← inParentheses g)
  | t :: rest =>
    if t.isWordOf ["NULL"] then
      set rest
      return some (.symbol "NULL")
    else if t.isWordOf ["TRUE", "FALSE"] then
      set rest
      return some {}
    else return none
  | [] => return none

/-- What follows the at sign of a parameter. -/
def parameter (g : Grammar) : Reader (Option Value) :=
  orElse (identifier g) (orElse (primary g) (wordOf g true))

/-! ### Brackets -/

/-- A value in brackets, with the range or the key that it belongs to. -/
def entry (g : Grammar) : Reader (Option Value) := do
  let v ← aliased g true (← g.disjunction)
  if ← accept ":" then
    if ← sees ["-", ":"] then
      let _ ← accept "-"
    else
      let _ ← g.assignment
    if ← accept ":" then
      let _ ← g.unary
    return some { kind := if v.isNone then .keyless else .other }
  else return v

/-- A date or a time in braces, after the first brace. -/
def bracedTime (g : Grammar) : Reader Value := do
  let _ ← take? fun _ => true
  let _ ← stringOf g
  expect "\x7d"
  return {}

/-- An expression with the brackets after it, or a list in brackets. The flag tells whether more
brackets may follow. -/
def bracketStep (g : Grammar) (found : Option Value × Bool) :
    Reader (Option (Option Value × Bool)) := do
  if !found.2 then return none
  else if ← accept "[" then
    let items ← list (entry g)
    expect "]"
    match found.1 with
    | none => return some (some {}, true)
    | some v =>
      if isOneOf ["ARRAY", "LIST"] v.name then return some (some {}, false)
      else if items.isEmpty then refuse
      else return some (some v.derived, true)
  else if ← accept "\x7b" then
    if (← get).head?.elim false fun t => t.isPlain && isOneOf ["D", "T", "TS"] t.text then
      return some (some (← bracedTime g), false)
    else
      let items ← list (entry g)
      expect "\x7d"
      if items.any fun v => v.kind = .keyless then throw .unnamed
      else return some (some {}, true)
  else return none

/-- An expression with the brackets after it, or a list in brackets. -/
def bracketed (g : Grammar) (v : Option Value) : Reader (Option Value) := do
  return (← onward (bracketStep g) (v, true)).1

end Lineage.QualifiedName
