import Lineage.QualifiedName.Call

/-!
# Operators

Expressions are made from operands and operators. Each kind of operator binds more closely than the
next one, from what follows a column up to assignments. An operator needs all of its operands. What
stands for an expression with an operator is what its first operand gives.
-/

namespace Lineage.QualifiedName

/-! ### Columns -/

/-- A constant, a call or a name. -/
def operand (g : Grammar) : Reader (Option Value) :=
  orElse (primary g) (orElse (function g {}) (anyName g false))

/-- What stands after a dot: a call, a constant or any name. -/
def member (g : Grammar) : Reader (Option Value) :=
  orElse (function g { anonymous := true, any := true }) (orElse (primary g) (anyName g true))

/-- An operand, where a name is a column. -/
def reference (g : Grammar) : Reader (Option Value) := do
  return (← operand g).map fun v =>
    if v.kind = .identifier then { name := v.name, kind := .column 1 } else v

/-- A member of an expression. A column has four parts at most. -/
def withMember (v field : Value) : Value :=
  match v.kind with
  | .column size => if size < 4 then ⟨field.name, [], .column (size + 1)⟩ else .named field.name
  | _ => .named field.name

/-- The operators that take something out of a document. -/
def pathOperators : List String :=
  ["->", "->>", "#>", "#>>", "?"]

/-- One of the operators that follow a column. -/
def operationStep (g : Grammar) (v : Value) : Reader (Option Value) := do
  if ← accept "." then
    let field ← required (member g)
    bracketed g (some (withMember v field))
  else if ← accept "::" then
    let _ ← required (g.dataType false true)
    bracketed g (some v.through)
  else if (← accept? pathOperators).isSome then
    let field ← required (orElse (reference g) g.bitwise)
    let isColumn := match field.kind with
      | .column _ => true
      | _ => false
    if ← both isColumn (sees ["."]) then
      let _ ← g.operations field
    bracketed g (some v.derived)
  else return none

/-- An expression with the operators that follow a column. -/
def operations (g : Grammar) (v : Value) : Reader (Option Value) := do
  match ← bracketed g (some v) with
  | some v => return some (← onward (operationStep g) v)
  | none => return none

/-- A column with what follows it. -/
def column (g : Grammar) : Reader (Option Value) := do
  match ← reference g with
  | some v => operations g v
  | none => bracketed g none

/-! ### Intervals and typed constants -/

/-- The unit of an interval. -/
def unit (g : Grammar) : Reader (Option Value) :=
  orElse (function g {}) do
    if ← sees ["AS"] then return none else wordOf g true

/-- A length of time. Its first word may be left out after another one. -/
def interval (g : Grammar) (isFirst : Bool) : Reader (Option Value) := do
  let start ← get
  if isFirst then
    unless ← accept "INTERVAL" do return none
  let isString := (← get).head?.elim false fun
    | .string _ => true
    | _ => false
  let amount ← if isString then primary g else g.term
  match amount with
  | none =>
    set start
    return none
  | some v =>
    if v.kind = .column 1 && isOneOf ["IS", "ROWS"] v.name then
      set start
      return none
    else
      let _ ← unit g
      if ← acceptTexts ["TO"] then
        let _ ← orElse (function g {}) (wordOf g true)
      let ending ← get
      let _ ← accept "+"
      match ← get with
      | .string _ :: _ | .number _ :: _ =>
        let _ ← required (g.interval false)
        return some {}
      | _ =>
        set ending
        return some v.derived

/-- A constant with its type before it, a type with sizes, or a column. -/
def typedConstant (g : Grammar) : Reader (Option Value) := do
  let start ← get
  match ← dataType g true false with
  | some t =>
    if t.hasValues then operations g {}
    else
      let rest ← get
      match ← primary g with
      | some v =>
        match v.kind with
        | .literal _ => return (← operations g v).map Value.through
        | _ => typeOrColumn start rest t
      | none => typeOrColumn start rest t
  | none => column g
where
  /-- A type with sizes, or the column that the word for the type is. -/
  typeOrColumn (start rest : List Token) (t : DataType) : Reader (Option Value) := do
    if t.hasArguments then
      set rest
      operations g {}
    else
      set start
      column g

/-- An interval, a typed constant or a column. -/
def typed (g : Grammar) : Reader (Option Value) := do
  match ← interval g true with
  | some v => operations g v
  | none => typedConstant g

/-! ### Operators with one operand -/

/-- An operator before its operand, or what has none. -/
def unary (g : Grammar) : Reader (Option Value) := do
  match ← accept? ["+", "NOT", "~", "-"] with
  | some "+" => g.unary
  | some "NOT" => return some (← required g.equality).derived
  | some _ => return some (← required g.unary).derived
  | none => typed g

/-- A time with its zones. -/
def inZones (g : Grammar) (v : Option Value) : Reader (Option Value) :=
  onward (fun v => do
    if ← acceptTexts ["AT", "TIME", "ZONE"] then
      match v, ← unary g with
      | some v, some _ => return some (some v.derived)
      | _, _ => refuse
    else return none) v

/-! ### Operators with two operands -/

/-- An operator with its second operand, if one of some operators comes next. -/
def binaryStep (operators : List String) (operand : Reader (Option Value)) (left : Option Value) :
    Reader (Option (Option Value)) := do
  if (← accept? operators).isSome then
    match left, ← operand with
    | some left, some _ => return some (some left.derived)
    | _, _ => refuse
  else return none

/-- Operands with some operators between them. -/
def binary (operators : List String) (operand : Reader (Option Value)) : Reader (Option Value) := do
  onward (binaryStep operators operand) (← operand)

/-- A product. The word for a division need not be one. -/
def factor (g : Grammar) : Reader (Option Value) := do
  let step (left : Option Value) : Reader (Option (Option Value)) := do
    let start ← get
    match ← accept? ["DIV", "<->", "<<->>", "/", "*"] with
    | none => return none
    | some word =>
      match left, ← unary g with
      | some left, some _ => return some (some left.derived)
      | _, none =>
        if word = "DIV" then
          set start
          return none
        else refuse
      | none, _ => refuse
  onward step (← inZones g (← unary g))

/-- A sum. -/
def term (g : Grammar) : Reader (Option Value) :=
  binary ["-", "+", "%", "COLLATE"] (factor g)

/-- An expression of bits, or one that joins texts. -/
def bitwise (g : Grammar) : Reader (Option Value) := do
  let step (left : Option Value) : Reader (Option (Option Value)) := do
    let single := passes (·.isOf ["&", "^", "|", "||"])
    if ← either single (either (acceptAll ["<", "<"]) (acceptAll [">", ">"])) then
      match left, ← term g with
      | some left, some _ => return some (some left.derived)
      | _, _ => refuse
    else if ← accept "??" then
      let _ ← term g
      match left with
      | some left => return some (some left.derived)
      | none => refuse
    else return none
  onward step (← term g)

/-! ### Conditions -/

/-- The text after an escape character, if there is one. -/
def escaped (g : Grammar) : Reader Unit := do
  if ← accept "ESCAPE" then
    match ← stringOf g with
    | some _ => return
    | none =>
      let isNull ← passes (·.isWordOf ["NULL"])
      if isNull then return else refuse

/-- A comparison with several values, after its word. -/
def within (g : Grammar) : Reader Unit := do
  if ← sees ["UNNEST", "("] then
    let _ ← accept "UNNEST"
    let _ ← parenthesized (list g.equality)
  else
    match ← accept? ["(", "["] with
    | some bracket =>
      let items ← list (orElse (g.query {}) g.assignment)
      if items.map Value.kind = [.query] then g.continued
      expect (if bracket = "(" then ")" else "]")
    | none =>
      let _ ← column g

/-- What a value is said to be, after the word for it. Nothing is given if there is nothing. -/
def isOfKind (g : Grammar) (v : Option Value) : Reader (Option Value) := do
  let _ ← accept "NOT"
  if ← acceptTexts ["DISTINCT", "FROM"] then
    match v, ← bitwise g with
    | some v, some _ => return some v.derived
    | _, _ => refuse
  else if ← passes (·.isWordOf ["JSON"]) then
    let _ ← acceptText ["VALUE", "SCALAR", "ARRAY", "OBJECT"]
    unless ← acceptTexts ["WITH"] do
      let _ ← acceptTexts ["WITHOUT"]
    if ← acceptTexts ["UNIQUE"] then
      let _ ← acceptTexts ["KEYS"]
    match v with
    | some v => operations g v.derived
    | none => refuse
  else
    let isNull ← passes (·.isWordOf ["NULL"])
    let found ← if isNull then pure (some (.symbol "NULL")) else bitwise g
    match v, found with
    | some v, some _ => operations g v.derived
    | none, some _ => refuse
    | _, none => return none

/-- The operators of comparisons with patterns. -/
def patternOperators : List String :=
  ["GLOB", "ILIKE", "~*", "LIKE", "OVERLAPS", "RLIKE", "SIMILAR TO", "-|-", "&<", "&>"]

/-- A list that is built from another one, after its word. Nothing is given if it is none. -/
def comprehension (g : Grammar) (v : Option Value) : Reader (Option Value) := do
  let expression ← column g
  if ← accept "," then
    let _ ← column g
  unless ← accept "IN" do return none
  let iterator ← column g
  if ← acceptTexts ["IF"] then
    let _ ← g.disjunction
  match v, expression, iterator with
  | some v, some _, some _ => return some v.derived
  | _, _, _ => refuse

/-- The operators that are written with a word and the operator in parentheses. -/
def wordedStep (g : Grammar) (state : Option Value × Bool) :
    Reader (Option (Option Value × Bool)) := do
  if !state.2 then return none
  else if ← accept "(" then
    let ts ← get
    set ((ts.dropWhile fun t => !t.isOf [")"]).drop 1)
    match state.1, ← bitwise g with
    | some v, some _ => return some (some v.derived, ← accept "OPERATOR")
    | _, _ => refuse
  else return none

/-- The words and operators of comparisons with a range of values. -/
def rangeOperators : List String :=
  patternOperators ++ ["BETWEEN", "IN", "IS", "FOR", "OPERATOR"]

/-- What follows the first operand of a comparison with a range of values. Nothing is given if
nothing of the kind follows, and the tokens stay. -/
def rangeRest (g : Grammar) (v : Option Value) : Reader (Option Value) := do
  let start ← get
  match ← accept? rangeOperators with
  | none => return none
  | some "BETWEEN" =>
    let _ ← acceptText ["SYMMETRIC", "ASYMMETRIC"]
    let low ← bitwise g
    let _ ← accept "AND"
    match v, low, ← bitwise g with
    | some v, some _, some _ => return some v.derived
    | _, _, _ => refuse
  | some "IN" =>
    within g
    match v with
    | some v => return some v.derived
    | none => refuse
  | some "IS" =>
    match ← isOfKind g v with
    | some v => return some v
    | none =>
      set start
      return none
  | some "FOR" =>
    match ← comprehension g v with
    | some v => return some v
    | none =>
      set start
      return none
  | some "OPERATOR" => return (← onward (wordedStep g) (v, true)).1
  | some _ =>
    match v, ← bitwise g with
    | some v, some _ =>
      escaped g
      return some v.derived
    | _, _ => refuse

/-- A comparison with a range of values. The word that negates one is left where it is if no
comparison follows it. -/
def range (g : Grammar) : Reader (Option Value) := do
  let first ← bitwise g
  let negation ← get
  let negated ← accept "NOT"
  let isRange := (← get).head?.elim false (·.isOf rangeOperators)
  let mut found := first
  if isRange then
    match ← rangeRest g first with
    | some v => found := some v
    | none => return first
  else if ← either (accept "ISNULL") (both negated (passes (·.isWordOf ["NULL"]))) then
    match first with
    | some v => found := some v.derived
    | none => refuse
  else if negated then
    unless ← sees ["NOTNULL"] do
      set negation
      return first
  if ← accept "NOTNULL" then
    match found with
    | some _ => found := some {}
    | none => refuse
  if negated then found := found.map fun v => if isRange then {} else v.derived
  let start ← get
  if ← accept "IS" then
    match ← isOfKind g found with
    | some v => return some v
    | none =>
      set start
      return none
  else return found

/-- A comparison by size. -/
def comparison (g : Grammar) : Reader (Option Value) :=
  binary [">", ">=", "<", "<="] (range g)

/-- A test for equality. -/
def equality (g : Grammar) : Reader (Option Value) :=
  binary ["=", "<>", "<=>"] (comparison g)

/-- Conditions that hold together. -/
def conjunction (g : Grammar) : Reader (Option Value) :=
  binary ["AND"] (equality g)

/-- Conditions of which one holds. -/
def disjunction (g : Grammar) : Reader (Option Value) :=
  binary ["OR"] (conjunction g)

/-! ### Assignments -/

/-- A value that a name is given, or an expression. -/
def assignment (g : Grammar) : Reader (Option Value) := do
  let found ← disjunction g
  let left ← (match found with
    | some v => pure (some v)
    | none => do
      match ← get with
      | t :: u :: rest =>
        if u.isOf [":="] then
          set (u :: rest)
          return some (.named t.text)
        else return none
      | _ => return none : Reader (Option Value))
  if ← accept ":=" then
    match left, ← g.assignment with
    | some left, some _ =>
      return some (match left.kind with
        | .column 1 => .named left.name
        | _ => left.derived)
    | _, _ => refuse
  else return left

/-- An expression, possibly with an alias. -/
def expression (g : Grammar) : Reader (Option Value) := do
  aliased g false (← assignment g)

end Lineage.QualifiedName
