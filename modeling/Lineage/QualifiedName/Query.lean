import Lineage.QualifiedName.Operator

/-!
# Queries

An argument of a call may be a query. Nothing of a query can become a part of a path, so a query is
only checked.
-/

namespace Lineage.QualifiedName

/-! ### Tables -/

/-- The alias of a table, with the names of its columns. -/
def tableAlias (g : Grammar) : Reader Bool := do
  if ← seesLimit g then return false
  let any ← accept "AS"
  let name ← orElse
    (identifierOf g any fun t => t.isPart && !t.isWordOf joiningWords)
    (nameToken false fun
      | .string _ => true
      | _ => false)
  let ts ← get
  if ← accept "(" then
    let columns ← list (do
      match ← anyName g true with
      | some v =>
        let _ ← g.dataType false true
        return some v
      | none => return none)
    if columns.isEmpty then
      set ts
      return name.isSome
    else
      expect ")"
      return true
  else return name.isSome

/-- A part of the name of a table. -/
def tablePart (g : Grammar) : Reader (Option Value) :=
  orElse (function g { bare := false }) (orElse (anyName g false)
    (orElse (nameToken false fun
      | .string _ => true
      | _ => false) (placeholder g)))

/-- The parts of the name of a table, each with what stands between its dot and the next one. The
last of them comes first. -/
def partsBackward (g : Grammar) : Reader (List (Option Value)) := do
  let first ← tablePart g
  onward (fun parts => do
    if ← accept "." then
      let part ← tablePart g
      return some (part :: parts)
    else return none) [first]

/-- Whether nothing stands only where it may: before the first part that is something, and in the
two places after it. The last part is something. -/
def gapsFit {α : Type} (parts : List (Option α)) : Bool :=
  ((parts.dropWhile Option.isNone).drop 3).all Option.isSome &&
    (parts.getLast?.elim false Option.isSome)

/-- The state of a table at some time. -/
def historical (g : Grammar) : Reader Bool := do
  let ts ← get
  if ← acceptText ["AT", "BEFORE", "END"] then
    if ← accept "(" then
      let _ ← acceptText ["OFFSET", "STATEMENT", "STREAM", "TIMESTAMP", "VERSION"]
    if ← accept "=>" then
      match ← g.bitwise with
      | some _ =>
        expect ")"
        return true
      | none =>
        set ts
        return false
    else
      set ts
      return false
  else return false

/-- The changes of a table. -/
def changes (g : Grammar) : Reader Unit := do
  if ← acceptTexts ["CHANGES", "(", "INFORMATION", "=>"] then
    let _ ← required (wordOf g true)
    expect ")"
    let _ ← historical g
    let _ ← historical g

/-- The field of a pivot with its values. -/
def pivotField (g : Grammar) : Reader (Option Unit) := do
  let _ ← required g.column
  expect "IN"
  let _ ← parenthesized (list do
    if ← accept "ANY" then return some {} else aliased g true (← g.bitwise))
  return some ()

/-- Rows that are turned into columns, or columns that are turned into rows. -/
def pivot (g : Grammar) : Reader (Option Unit) := do
  let ts ← get
  match ← accept? ["PIVOT", "UNPIVOT"] with
  | none => return none
  | some word =>
    if word = "UNPIVOT" then
      unless ← acceptTexts ["INCLUDE", "NULLS"] do
        let _ ← acceptTexts ["EXCLUDE", "NULLS"]
    unless ← accept "(" do
      set ts
      return none
    let items ← list (if word = "UNPIVOT" then g.column else do aliased g false (← g.function))
    if items.isEmpty then refuse
    expect "FOR"
    let fields ← onward (fun (count : Nat) => do
      return (← attempt (pivotField g)).map fun _ => count + 1) 0
    if fields = 0 then refuse
    expect ")"
    unless ← (do return (← next?).elim false (·.isOf ["PIVOT", "UNPIVOT"])) do
      let _ ← tableAlias g
    return some ()

/-- What follows the name of a table and belongs to it. -/
def tableRest (g : Grammar) : Reader Unit := do
  changes g
  let _ ← historical g
  let _ ← onward (fun (_ : Unit) => pivot g) ()

/-- The parts of the name of a table, with what belongs to it. -/
def tableParts (g : Grammar) : Reader (List (Option Value)) := do
  let parts := (← partsBackward g).reverse
  if gapsFit parts then
    tableRest g
    return parts
  else refuse

/-- The rows that a query is made of. -/
def valueRow (g : Grammar) : Reader (Option Value) := do
  if ← accept "(" then
    let _ ← list g.expression
    expect ")"
    return some {}
  else g.expression

/-- A table of values that are written out. -/
def valueTable (g : Grammar) : Reader (Option Value) := do
  let derived ← acceptAll ["(", "VALUES"]
  if ← either (pure derived) (accept "VALUES") then
    if (← list (valueRow g)).isEmpty then refuse
    let _ ← tableAlias g
    if derived then
      expect ")"
      let _ ← tableAlias g
    return some { kind := .wrapped }
  else return none

/-! ### Joins -/

/-- The words before that for a join. -/
def joinWords : Reader (Option String) := do
  let _ ← accept? ["NATURAL", "ASOF"]
  let _ ← accept? ["LEFT", "RIGHT", "FULL"]
  accept? ["INNER", "OUTER", "CROSS", "SEMI", "ANTI", "STRAIGHT_JOIN"]

/-- A join with another table. -/
def join (g : Grammar) : Reader (Option Unit) := do
  let ts ← get
  if ← accept "," then
    match ← attempt g.table with
    | some _ => return some ()
    | none =>
      set ts
      return none
  else
    let kind ← joinWords
    let joined ← accept "JOIN"
    if joined || kind = some "STRAIGHT_JOIN" then
      let _ ← required g.table
      if ← accept "ON" then
        let _ ← g.disjunction
      else if ← accept "USING" then
        let _ ← perhapsParenthesized (list g.column)
      return some ()
    else
      set ts
      return none

/-- The joins of a query. -/
def joins (g : Grammar) : Reader Unit :=
  onward (fun _ => join g) ()

/-! ### Clauses -/

/-- An expression to group by, or several of them together. -/
def groupKey (g : Grammar) : Reader (Option Value) := do
  if (← accept? ["ROLLUP", "CUBE", "GROUPING SETS"]).isSome then
    if ← accept "(" then
      let _ ← list g.expression
      expect ")"
    return some {}
  else g.disjunction

/-- A clause of a query, and whether there is one. -/
def clause (g : Grammar) : Reader (Option Unit) := do
  match ← accept? ["WHERE", "HAVING", "QUALIFY", "GROUP BY", "WINDOW", "CLUSTER BY",
    "DISTRIBUTE BY", "SORT BY"] with
  | some "GROUP BY" =>
    let _ ← accept? ["ALL", "DISTINCT"]
    let _ ← list (groupKey g)
    return some ()
  | some "WINDOW" =>
    let _ ← list (do
      match ← anyName g true with
      | some v => return some (← windowed g true v)
      | none => return none)
    return some ()
  | some word =>
    if word.endsWith "BY" then
      let _ ← list (sortKey g)
    else
      let _ ← required g.assignment
    return some ()
  | none =>
    if ← order g then return some ()
    else if ← limit g then return some ()
    else if ← offset g then return some ()
    else return none

/-- The joins and clauses of a query. -/
def clauses (g : Grammar) : Reader Unit := do
  joins g
  onward (fun _ => clause g) ()

/-! ### Queries -/

/-- Another query that is joined to one by a set operation. -/
def setOperation (g : Grammar) : Reader (Option Unit) := do
  let ts ← get
  let _ ← joinWords
  match ← accept? ["UNION", "EXCEPT", "INTERSECT"] with
  | none =>
    set ts
    return none
  | some _ =>
    let _ ← accept? ["DISTINCT", "ALL"]
    if ← acceptTexts ["BY", "NAME"] then pure ()
    else
      let _ ← acceptTexts ["CORRESPONDING"]
    let _ ← required (g.query { nested := true, operations := false })
    let _ ← order g
    let _ ← limit g
    let _ ← offset g
    return some ()

/-- The queries that are joined to one by set operations, and how many they are. -/
def setOperations (g : Grammar) : Reader Nat :=
  onward (fun count => do return (← setOperation g).map fun _ => count + 1) 0

/-- What follows a query that is complete by itself. -/
def continued (g : Grammar) : Reader Unit := do
  let _ ← setOperations g
  clauses g

/-- The tables that a query is taken from. -/
def source (g : Grammar) : Reader Bool := do
  if ← accept "FROM" then
    let _ ← required g.table
    return true
  else return false

/-- A query after its first word. -/
def selection (g : Grammar) (hasSource : Bool) : Reader Unit := do
  let _ ← passes fun
    | .foreign => true
    | _ => false
  let isQualified := (← get)[1]?.elim true (·.isOf ["."])
  unless isQualified do
    let all ← accept "ALL"
    let distinct ← accept "DISTINCT"
    if all && distinct then refuse
    if ← both distinct (accept "ON") then
      let _ ← valueRow g
  if ← accept "AS" then
    let _ ← acceptText ["STRUCT", "VALUE"]
  let _ ← list g.expression
  if ← accept "INTO" then
    let _ ← acceptTexts ["TABLE"]
    let _ ← required g.table
  unless hasSource do
    let _ ← source g
  clauses g

/-- The tables that are defined before a query, after the first word. -/
def definitions (g : Grammar) : Reader Unit := do
  let _ ← accept "RECURSIVE"
  let table : Reader (Option Unit) := do
    let _ ← anyName g false
    if ← accept "(" then
      let _ ← list (anyName g true)
      expect ")"
    expect "AS"
    unless ← acceptTexts ["NOT", "MATERIALIZED"] do
      let _ ← acceptTexts ["MATERIALIZED"]
    let _ ← parenthesized (required (g.query { nested := true }))
    return some ()
  let _ ← list table

/-- A query. -/
def query (g : Grammar) (form : QueryForm) : Reader (Option Value) := do
  if ← accept "WITH" then
    definitions g
    let _ ← required (g.query { nested := true })
    return some { kind := .query }
  else
    let hasSource ← source g
    let found ← (do
      if ← accept "SELECT" then
        selection g hasSource
        return some ({ kind := .query }, false)
      else if ← both ((form.table || form.nested) && !hasSource) (accept "(") then
        let inner : QueryForm := { nested := true, operations := false }
        let _ ← required (if form.table then g.table else g.query inner)
        g.continued
        expect ")"
        let _ ← onward (fun (_ : Unit) => pivot g) ()
        let _ ← tableAlias g
        return some ({ kind := .wrapped }, true)
      else if ← sees ["VALUES"] then
        return (← valueTable g).map fun v => (v, false)
      else if hasSource then
        clauses g
        return some ({ kind := .query }, false)
      else return none : Reader (Option (Value × Bool)))
    match found with
    | none => return none
    | some (v, true) => return some v
    | some (v, false) =>
      if form.operations then
        if (← setOperations g) > 0 then return some { kind := .query }
      return some v

/-- A table that a query is taken from, with its joins. -/
def table (g : Grammar) : Reader (Option Value) := do
  if ← sees ["UNNEST", "("] then
    let _ ← accept "UNNEST"
    let _ ← parenthesized (list g.equality)
    let _ ← tableAlias g
    return some {}
  else
    match ← valueTable g with
    | some v => return some v
    | none =>
      match ← query g { table := true } with
      | some v =>
        joins g
        return some v
      | none =>
        let _ ← tableParts g
        let _ ← acceptTexts ["*"]
        let _ ← tableAlias g
        let _ ← onward (fun (_ : Unit) => pivot g) ()
        joins g
        return some {}

/-! ### Arguments -/

/-- What may follow an argument: the value by which one row is taken, the order of the rows, and how
many of them there are. -/
def argumentRest (g : Grammar) (v : Option Value) : Reader (Option Value) := do
  let mut found := v
  if ← accept "HAVING" then
    let _ ← acceptText ["MAX", "MIN"]
    match found, ← g.column with
    | some _, some _ => found := some {}
    | _, _ => refuse
  if ← order g then found := some ((found.map Value.derived).getD {})
  match found with
  | some v => found := some (← nullHandling v)
  | none => found := none
  if ← limit g then found := some {}
  return found

/-- The names of a function without a name of its own, if there are any. The flag tells whether they
stand in parentheses. -/
def parameters (g : Grammar) : Reader (List (Option Value) × Bool) := do
  let ts ← get
  if ← accept "(" then
    let names ← list (anyName g true)
    unless ← accept ")" do set ts
    return (names.map some, true)
  else return ([← anyName g true], false)

/-- An argument of a call: a function without a name, an argument with a name, or an expression. The
flag tells whether the argument may have an alias. -/
def argument (g : Grammar) (hasAlias : Bool) : Reader (Option Value) := do
  let ts ← get
  let (names, _) ← parameters g
  if ← accept "->" then
    let body ← required (disjunction g)
    if names.any Option.isNone then throw .unnamed
    else if names.isEmpty then refuse
    else return some body.derived
  else if ← accept "=>" then
    match names with
    | some v :: _ =>
      let _ ← required (disjunction g)
      return some (.named v.name)
    | none :: _ => throw .unnamed
    | [] => refuse
  else
    set ts
    if ← accept "DISTINCT" then
      let _ ← list (disjunction g)
      argumentRest g (some {})
    else
      match ← query g {} with
      | some v => argumentRest g (some v)
      | none =>
        let v ← (do
          if hasAlias then aliased g true (← assignment g) else assignment g :
            Reader (Option Value))
        match v with
        | some w =>
          if (← setOperations g) > 0 then argumentRest g (some {}) else argumentRest g (some w)
        | none => argumentRest g none

/-! ### The grammar -/

/-- The grammar that reads nothing. -/
def Grammar.nothing : Grammar where
  parameter := refuse
  unary := refuse
  factor := refuse
  term := refuse
  bitwise := refuse
  equality := refuse
  disjunction := refuse
  assignment := refuse
  expression := refuse
  column := refuse
  operations := fun _ => refuse
  typed := refuse
  dataType := fun _ _ => refuse
  function := refuse
  window := fun _ _ => refuse
  interval := fun _ => refuse
  argument := fun _ => refuse
  query := fun _ => refuse
  continued := refuse
  table := refuse

/-- The grammar whose readers take another grammar for what stands within. -/
def Grammar.around (g : Grammar) : Grammar where
  parameter := QualifiedName.parameter g
  unary := QualifiedName.unary g
  factor := QualifiedName.factor g
  term := QualifiedName.term g
  bitwise := QualifiedName.bitwise g
  equality := QualifiedName.equality g
  disjunction := QualifiedName.disjunction g
  assignment := QualifiedName.assignment g
  expression := QualifiedName.expression g
  column := QualifiedName.column g
  operations := QualifiedName.operations g
  typed := QualifiedName.typed g
  dataType := QualifiedName.dataType g
  function := QualifiedName.function g {}
  window := QualifiedName.windowed g
  interval := QualifiedName.interval g
  argument := QualifiedName.argument g
  query := QualifiedName.query g
  continued := QualifiedName.continued g
  table := QualifiedName.table g

/-- The grammar of expressions in which others stand, down to a depth. What stands within an
expression begins after its first token, so the number of tokens is depth enough. -/
def Grammar.ofDepth : Nat → Grammar
  | 0 => .nothing
  | depth + 1 => .around (ofDepth depth)

end Lineage.QualifiedName
