import Lineage.QualifiedName.Function
import Lineage.QualifiedName.Type

/-!
# Calls

The call of a function is its name with arguments in parentheses after it. A function that SQL knows
has to have a fitting number of arguments, and what it works on stands for the call. For some
functions the arguments are written in a way of their own. What follows a call may say over which
rows the function works.
-/

namespace Lineage.QualifiedName

/-! ### Windows -/

/-- Whether missing values are left out. -/
def nullHandling (v : Value) : Reader Value := do
  if ← acceptTexts ["IGNORE", "NULLS"] then return {}
  else if ← acceptTexts ["RESPECT", "NULLS"] then return {}
  else return v

/-- An expression to sort by. -/
def sortKey (g : Grammar) : Reader (Option Value) := do
  match ← g.assignment with
  | none => return none
  | some v =>
    let _ ← accept "ASC"
    let _ ← accept "DESC"
    let _ ← acceptTexts ["NULLS", "FIRST"]
    let _ ← acceptTexts ["NULLS", "LAST"]
    if ← acceptTexts ["WITH", "FILL"] then
      if ← accept "FROM" then
        let _ ← g.bitwise
      if ← acceptTexts ["TO"] then
        let _ ← g.bitwise
      if ← acceptTexts ["STEP"] then
        let _ ← g.bitwise
    return some v

/-- The order of the rows, and whether there is one. -/
def order (g : Grammar) : Reader Bool := do
  if ← accept "ORDER BY" then
    if (← list (sortKey g)).isEmpty then refuse else return true
  else return false

/-- One end of a frame. -/
def frameEnd (g : Grammar) : Reader Unit := do
  let _ ← accept "BETWEEN"
  unless ← acceptTexts ["UNBOUNDED"] do
    unless ← acceptTexts ["CURRENT", "ROW"] do
      let _ ← g.bitwise
  let _ ← acceptText ["FOLLOWING", "PRECEDING"]

/-- The frame of a window. -/
def frame (g : Grammar) : Reader Unit := do
  if (← accept? ["ROWS", "RANGE"]).isSome then
    let _ ← accept "BETWEEN"
    frameEnd g
    if ← accept "AND" then frameEnd g
    if ← acceptTexts ["EXCLUDE"] then
      unless ← acceptTexts ["NO", "OTHERS"] do
        unless ← acceptTexts ["CURRENT", "ROW"] do
          unless ← acceptText ["GROUP", "TIES"] do refuse

/-- The inside of a window. -/
def windowInside (g : Grammar) : Reader Unit := do
  let _ ← identifierOf g false fun t =>
    t.isPart && !t.isOf ["RANGE", "ROWS"] && !t.isWordOf ["RANGE", "ROWS"]
  let _ ← acceptTexts ["FIRST"]
  let _ ← acceptTexts ["LAST"]
  if ← accept "PARTITION BY" then
    let _ ← list g.disjunction
  let _ ← order g
  frame g

/-- What may follow the call of a function, up to its window. A window may also be defined under a
name. -/
def windowed (g : Grammar) (defined : Bool) (v : Value) : Reader Value := do
  let mut found := v
  if ← acceptTexts ["WITHIN", "GROUP"] then
    unless ← parenthesized (order g) do refuse
    found := {}
  if ← acceptAll ["FILTER", "("] then
    let _ ← accept "WHERE"
    let _ ← required g.assignment
    expect ")"
    found := {}
  found ← nullHandling found
  if defined then
    let _ ← accept "AS"
  else
    unless ← accept "OVER" do return found
  if ← accept "(" then
    windowInside g
    expect ")"
    if ← sees ["OVER"] then g.window false {} else return {}
  else
    let _ ← anyName g false
    return {}

/-! ### Arguments -/

/-- What is made of an argument at a place. -/
def argumentText (place : Option Nat) (arguments : List Value) : List Char :=
  ((place.bind (arguments[·]?)).map Value.own).getD []

/-- The call of a function with some arguments. -/
def applied (name : List Char) (arguments : List Value) : Reader Value := do
  let capital := capitals name
  let first := arguments.head?
  if capital = "LIKE" then
    if arguments.length < 2 then refuse
    else return .named (if arguments.length > 2 then [] else argumentText (some 1) arguments)
  else if ["LOG2", "LOG10"].contains capital then
    if arguments.length > 2 then refuse
    else return .named (if capital = "LOG2" then ['2'] else ['1', '0'])
  else if ["DATE_TO_DATE_STR", "TIME_TO_TIME_STR"].contains capital then
    match first with
    | some v => if arguments.length > 6 then refuse else return v.through
    | none => refuse
  else if capital = "TS_OR_DS_TO_DATE_STR" then
    if arguments.length > 3 then refuse else return {}
  else
    match Function.ofName? capital with
    | none => return .named name
    | some f =>
      if !f.takes arguments.length then refuse
      else
        let text := argumentText f.place arguments
        match capital, first.map Value.kind with
        | "LOWER", some (.digits inner) => return .named inner
        | "UPPER", some (.digits inner) => return ⟨inner, [], .digits inner⟩
        | "HEX", _ | "TO_HEX", _ => return ⟨text, [], .digits text⟩
        | _, _ => return .named text

/-- The call of a function with some arguments of which the first has to be there, and possibly
others. -/
def worksOn (arguments : List Value) (least most : Nat) : Reader Value :=
  if arguments.length < least || most < arguments.length then refuse
  else return .named (argumentText (some 0) arguments)

/-! ### Functions with a way of their own -/

/-- The arguments of a cast. -/
def castArguments (g : Grammar) : Reader Value := do
  let v ← g.disjunction
  unless ← accept "AS" do
    if ← accept "," then
      let _ ← required (stringOf g)
      match v with
      | some v => return v.derived
      | none => refuse
    else refuse
  let target ← g.dataType false true
  if ← accept "DEFAULT" then
    let _ ← g.bitwise
    let _ ← acceptTexts ["ON", "CONVERSION", "ERROR"]
  if (← accept? ["FORMAT", ","]).isSome then
    let _ ← perhapsParenthesized (stringOf g)
  else if target.isNone then refuse
  else if ← accept "CHARACTER SET" then
    let _ ← orElse (stringOf g) (wordOf g true)
  match v with
  | some v => return v.through
  | none => refuse

/-- The arguments of a conversion. -/
def convertArguments (g : Grammar) : Reader Value := do
  let v ← required g.bitwise
  if ← accept "USING" then
    let _ ← required (orElse (take? (·.isWordOf ["BINARY"]) *> wordOf g false) (wordOf g false))
  else if ← accept "," then
    let _ ← required (g.dataType false true)
  else refuse
  return v.through

/-- The arguments of an extraction: a field, and what it is taken from. -/
def extractArguments (g : Grammar) : Reader Value := do
  let field ← orElse g.function (orElse (stringOf g) (do
    return (← wordOf g true).map fun v =>
      if v.kind = .identifier then .identifier (capitals v.name).toList else v))
  unless ← accept "FROM" do expect ","
  let _ ← required g.bitwise
  match field with
  | some v => return v.derived
  | none => refuse

/-- The keys and values of an object. -/
def objectArguments (g : Grammar) : Reader Value := do
  let entry : Reader (Option Unit) := do
    let _ ← acceptTexts ["KEY"]
    let key ← g.column
    let _ ← accept? [":", ",", "IS"]
    let _ ← acceptTexts ["VALUE"]
    let value ← g.bitwise
    if key.isNone && value.isNone then return none
    else if key.isNone || value.isNone then refuse
    else
      let _ ← acceptTexts ["FORMAT", "JSON"]
      return some ()
  if ← sees ["*"] then
    let _ ← accept "*"
  else
    let _ ← list entry
  let handled ← acceptTexts ["NULL", "ON", "NULL"]
  unless handled do
    let _ ← acceptTexts ["ABSENT", "ON", "NULL"]
  unless ← acceptTexts ["WITH", "UNIQUE"] do
    let _ ← acceptTexts ["WITHOUT", "UNIQUE"]
  let _ ← acceptTexts ["KEYS"]
  if ← acceptTexts ["RETURNING"] then
    let _ ← g.typed
  return {}

/-- The arguments of a search for one text in another. -/
def positionArguments (g : Grammar) : Reader Value := do
  let arguments ← list g.bitwise
  if ← accept "IN" then
    let v ← required g.bitwise
    if arguments.isEmpty then refuse else return v.derived
  else if arguments.length < 2 then refuse
  else return .named (argumentText (some 1) arguments)

/-- The arguments of an aggregation of texts. -/
def textsArguments (g : Grammar) : Reader Value := do
  let isDistinct ← accept "DISTINCT"
  let value ← g.disjunction
  let first : Option Value := if isDistinct then some {} else value
  let more ← (do
    if ← accept "," then list g.disjunction else return [] : Reader (List Value))
  let arguments := first.toList ++ more
  if ← acceptTexts ["ON", "OVERFLOW"] then
    unless ← acceptTexts ["ERROR"] do
      let _ ← acceptTexts ["TRUNCATE"]
      let _ ← stringOf g
      unless ← acceptTexts ["WITH", "COUNT"] do
        let _ ← acceptTexts ["WITHOUT", "COUNT"]
  let ts ← get
  if ← accept ")" then
    if ← acceptTexts ["WITHIN", "GROUP"] then
      expect "("
      let ordered ← order g
      if arguments.isEmpty && !ordered then refuse
      else return if ordered then {} else .named (argumentText (some 0) arguments)
    else
      set ts
      worksOn arguments 1 3
  else if arguments.isEmpty then refuse
  else
    let ordered ← order g
    let limited ← limit g
    return if ordered || limited then {} else .named (argumentText (some 0) arguments)

/-- The arguments of a part of a text. -/
def substringArguments (g : Grammar) : Reader Value := do
  let arguments ← list g.bitwise
  let bounds ← onward (fun (found : Nat) => do
    if ← accept "FROM" then
      let _ ← g.bitwise
      return some (max found 1)
    else if ← accept "FOR" then
      let _ ← g.bitwise
      return some 2
    else return none) 0
  if arguments.isEmpty then
    if bounds = 0 then refuse else return {}
  else worksOn (arguments ++ List.replicate bounds (.named [])) 1 3

/-- The arguments of a function that cuts characters off both ends of a text. -/
def trimArguments (g : Grammar) : Reader Value := do
  let _ ← acceptText ["LEADING", "TRAILING", "BOTH"]
  let first ← g.bitwise
  let found ← (do
    match ← accept? ["FROM", ","] with
    | some "FROM" => g.bitwise
    | some _ =>
      let _ ← g.bitwise
      return first
    | none => return first : Reader (Option Value))
  if ← accept "COLLATE" then
    let _ ← g.bitwise
  match found with
  | some v => return v.derived
  | none => refuse

/-- The arguments of a replacement of part of a text. -/
def overlayArguments (g : Grammar) : Reader Value := do
  let v ← required g.bitwise
  let argument (text : String) : Reader (Option Value) := do
    if ← accept "," then g.bitwise
    else if ← acceptTexts [text] then g.bitwise
    else return none
  let _ ← required (argument "PLACING")
  let _ ← required (argument "FROM")
  let _ ← argument "FOR"
  return v.derived

/-- The arguments of a search for words. -/
def againstArguments (g : Grammar) : Reader Value := do
  let columns ← list g.column
  let _ ← acceptTexts [")", "AGAINST", "("]
  let v ← required (stringOf g)
  unless ← acceptTexts ["IN", "NATURAL", "LANGUAGE", "MODE"] do
    unless ← acceptTexts ["IN", "BOOLEAN", "MODE"] do
      let _ ← acceptTexts ["WITH", "QUERY", "EXPANSION"]
  if columns.isEmpty then refuse else return v.derived

/-- The arguments of a function that picks a value by another one. -/
def pickArguments (g : Grammar) : Reader Value := do
  let distinct ← (do
    if ← accept "DISTINCT" then
      let _ ← g.argument false
      let _ ← accept ","
      return [{}]
    else return [] : Reader (List Value))
  let arguments := distinct ++ (← list (g.argument false))
  if arguments.length < 2 then refuse else return .named (argumentText (some 0) arguments)

/-- The arguments of a function whose arguments are written in a way of their own. -/
def special? (g : Grammar) (name : String) : Option (Reader Value) :=
  match name with
  | "CAST" | "TRY_CAST" | "SAFE_CAST" => some (castArguments g)
  | "CONVERT" | "TRY_CONVERT" => some (convertArguments g)
  | "CEIL" | "FLOOR" => some do
    let arguments ← list (g.argument false)
    if ← acceptTexts ["TO"] then
      let _ ← wordOf g false
    return .named (argumentText (some 0) arguments)
  | "CHAR" | "CHR" => some do
    let arguments ← list g.assignment
    if ← accept "USING" then
      let _ ← wordOf g false
    if arguments.isEmpty then refuse else return {}
  | "DECODE" => some do
    let arguments ← list g.disjunction
    if arguments.length < 2 then refuse
    else return .named (if arguments.length = 2 then argumentText (some 0) arguments else [])
  | "EXTRACT" => some (extractArguments g)
  | "JSON_OBJECT" | "JSON_OBJECTAGG" => some (objectArguments g)
  | "MATCH" => some (againstArguments g)
  | "NORMALIZE" => some do
    let v ← required g.bitwise
    if ← accept "," then
      let _ ← wordOf g false
    return v.derived
  | "OPENJSON" => some do
    let v ← required g.bitwise
    if ← accept "," then
      let _ ← stringOf g
    return v.derived
  | "OVERLAY" => some (overlayArguments g)
  | "POSITION" => some (positionArguments g)
  | "STRING_AGG" => some (textsArguments g)
  | "SUBSTRING" => some (substringArguments g)
  | "TRIM" => some (trimArguments g)
  | "XMLELEMENT" => some do
    let v ← (do if ← acceptTexts ["NAME"] then anyName g true else return none :
      Reader (Option Value))
    if ← accept "," then
      let _ ← list g.expression
    match v with
    | some v => return v.derived
    | none => refuse
  | "ARG_MAX" | "ARGMAX" | "MAX_BY" | "ARG_MIN" | "ARGMIN" | "MIN_BY" => some (pickArguments g)
  | _ => none

/-! ### Conditions -/

/-- A choice by cases, after its first word. -/
def caseOf (g : Grammar) : Reader Value := do
  let subject ← g.disjunction
  let count ← onward (fun (found : Nat) => do
    if ← accept "WHEN" then
      let condition ← g.disjunction
      let _ ← accept "THEN"
      let result ← g.disjunction
      if condition.isNone || result.isNone then refuse else return some (found + 1)
    else return none) 0
  if ← accept "ELSE" then
    let _ ← g.disjunction
  expect "END"
  if count = 0 then refuse else return (subject.map Value.derived).getD {}

/-- A choice between two values, after its first word. The tokens from that word on are given. -/
def ifOf (g : Grammar) (start : List Token) : Reader (Option Value) := do
  if ← accept "(" then
    let arguments ← list (do aliased g true (← g.assignment))
    let v ← worksOn arguments 2 3
    expect ")"
    return some v
  else
    match ← g.disjunction with
    | none =>
      set start
      return none
    | some condition =>
      let _ ← accept "THEN"
      let _ ← required g.disjunction
      if ← accept "ELSE" then
        let _ ← g.disjunction
      let _ ← accept "END"
      return some condition.derived

/-! ### Calls -/

/-- How a function may be called. -/
structure CallForm where
  /-- Whether there is no function that SQL knows. -/
  anonymous : Bool := false
  /-- Whether some functions are called without parentheses. -/
  bare : Bool := true
  /-- Whether any token may name a function. -/
  any : Bool := false
  deriving DecidableEq, Repr

/-- What follows the first parenthesis of a call, up to its last one, and whether that one has been
passed over. -/
def callRest (g : Grammar) (form : CallForm) (t : Token) : Reader (Value × Bool) := do
  let name := capitals t.text
  match if form.anonymous then none else special? g name with
  | some arguments => return (← arguments, false)
  | none =>
    let isPredicate := t.isWordOf ["ALL", "ANY", "EXISTS", "SOME"]
    if isPredicate && ((← get).head?.elim false (·.isOf ["SELECT", "WITH"])) then
      let _ ← required (g.query {})
      expect ")"
      return ({}, true)
    else
      let isKnown := !form.anonymous && ((Function.ofName? name).isSome ||
        ["LIKE", "LOG2", "LOG10", "DATE_TO_DATE_STR", "TIME_TO_TIME_STR",
          "TS_OR_DS_TO_DATE_STR"].contains name)
      let arguments ← list (g.argument (!isKnown || name = "STRUCT"))
      if isKnown then return (← applied t.text arguments, false)
      else return (.named t.text, false)

/-- The call of a function, or one without parentheses. -/
def call (g : Grammar) (form : CallForm) : Reader (Option Value) := do
  let start ← get
  match start with
  | t :: rest =>
    let isWord := match t with
      | .quoted _ => false
      | .string _ => false
      | _ => true
    if form.bare && isWord && t.reads ["ANY", "CASE", "CONNECT_BY_ROOT", "IF"] then
      set rest
      let found ← (do
        if t.reads ["ANY"] then return some (← required g.bitwise).derived
        else if t.reads ["CONNECT_BY_ROOT"] then return some (← required g.column).derived
        else if t.reads ["IF"] then ifOf g start
        else if ← sees ["."] then
          set start
          return none
        else return some (← caseOf g) : Reader (Option Value))
      match found with
      | some v => return some (← windowed g false v)
      | none => return none
    else
      match rest with
      | .mark ['('] :: inside =>
        if if form.any then !t.isFixed else t.isFunction then
          set inside
          let (v, isComplete) ← callRest g form t
          if isComplete then return some v
          else
            expect ")"
            return some (← windowed g false v)
        else return none
      | _ =>
        if form.bare && t.isWordOf bareFunctions then
          set rest
          return some {}
        else return none
  | [] => return none

/-- The call of a function, possibly in braces after `fn`. -/
def function (g : Grammar) (form : CallForm) : Reader (Option Value) := do
  match ← get with
  | .mark ['\x7b'] :: t :: rest =>
    if isOneOf ["FN"] t.text then
      set rest
      let v ← call g form
      let _ ← accept "\x7d"
      return v
    else call g form
  | _ => call g form

end Lineage.QualifiedName
