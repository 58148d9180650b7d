import Lineage.QualifiedName.Operand

/-!
# Types

A type is a word or a phrase, with arguments in parentheses or in angle brackets. Square brackets
after it make a list type. A type with values in brackets after it is itself a value.
-/

namespace Lineage.QualifiedName

/-- A size in the arguments of a type. -/
def size (g : Grammar) : Reader (Option Value) := do
  match ← g.typed with
  | some v =>
    let _ ← wordOf g true
    return some v
  | none => return none

/-- A field of a type of several fields: a name and its type. -/
def fieldType (g : Grammar) : Reader (Option DataType) := do
  let ts ← get
  let named ← anyName g true
  let _ ← accept ":"
  match named, ← g.dataType false true with
  | some _, some t => return some t
  | _, _ => do
    set ts
    g.dataType false true

/-- The number of arguments of a type in parentheses, after the first parenthesis. Nothing is given
if there are none or if they do not end there. -/
def typeArguments (g : Grammar) (checked named : Bool) (word : String) :
    Reader (Option Nat) := do
  let count ← (do
    if structTypes.contains word then return (← list (fieldType g)).length
    else if nestedTypes.contains word then return (← list (g.dataType checked named)).length
    else if word = "ENUM" then return (← list g.equality).length
    else return (← list (size g)).length : Reader Nat)
  if ← both (count > 0) (accept ")") then return some count else return none

/-- The arguments of a type in angle brackets, and whether values follow it. -/
def angled (g : Grammar) (checked named : Bool) (word : String) : Reader DataType := do
  if structTypes.contains word then
    let _ ← list (fieldType g)
  else
    let _ ← list (g.dataType checked named)
  expect ">"
  let ts ← get
  match ← accept? ["[", "("] with
  | some _ =>
    let values ← list g.disjunction
    if values.isEmpty && structTypes.contains word then
      set ts
      return { hasArguments := true }
    else
      let _ ← accept? ["]", ")"]
      return { hasArguments := true, hasValues := true }
  | none => return { hasArguments := true }

/-- What may follow a type that has to do with time, and whether it does. -/
def timeZone : Reader Bool :=
  either (acceptTexts ["WITH", "TIME", "ZONE"]) <|
    either (acceptTexts ["WITH", "LOCAL", "TIME", "ZONE"]) (acceptTexts ["WITHOUT", "TIME", "ZONE"])

/-- The square brackets after a type. The first flag tells whether the last token is the word for a
list, and the second whether that word has just been passed over. -/
def listBrackets (g : Grammar) (start : List Token) (state : Bool × Bool) :
    Reader (Option (Bool × Bool)) := do
  if (← get).isEmpty then return none
  let opens ← accept "["
  if !opens && !state.2 then return none
  else if ← both state.1 (accept "]") then return none
  else
    let values ← list g.disjunction
    if values.isEmpty then
      let _ ← accept "]"
      return some (false, false)
    else
      set start
      return none

/-- The rest of a type after its arguments. -/
def typeEnd (g : Grammar) (word : String) (t : DataType) : Reader DataType := do
  if ← acceptTexts ["UNSIGNED"] then
    unless signedTypes.contains word do refuse
  let _ ← onward (fun (_ : Unit) => do
    return if ← accept "LIST" then some () else none) ()
  let start ← get
  let isList ← accept "ARRAY"
  let _ ← onward (listBrackets g start) (isList || (word = "ARRAY" && !t.hasArguments), isList)
  return t

/-- A type that begins with a word for one. If it is `checked`, what looks like the call of a
function is no type, unless a text follows it. -/
def namedType (g : Grammar) (checked named : Bool) (word : String) :
    Reader (Option DataType) := do
  let mut found : DataType := {}
  let mut looksCalled := false
  if ← accept "(" then
    match ← typeArguments g checked named word with
    | none => return none
    | some count =>
      if word = "NULLABLE" && count = 1 then return some {}
      found := { hasArguments := true }
      looksCalled := true
  if ← both (nestedTypes.contains word) (accept "<") then
    found ← angled g checked named word
  if timeTypes.contains word then
    if ← timeZone then looksCalled := false
  else if word = "INTERVAL" then
    if (← wordOf g false).isSome then
      if ← acceptTexts ["TO"] then
        let _ ← wordOf g false
  if looksCalled && checked then
    let ts ← get
    if (← stringOf g).isNone then return none
    set ts
  if word = "NULLABLE" && !found.hasArguments then return none
  return some (← typeEnd g word found)

/-- A type, possibly one with a name that SQL does not know. -/
def dataType (g : Grammar) (checked named : Bool) : Reader (Option DataType) := do
  let ts ← get
  match ← take? Token.isType with
  | some t =>
    match ← namedType g checked named (t.keyword?.getD "") with
    | some found => return some found
    | none =>
      set ts
      return none
  | none =>
    if named then
      match ← identifierOf g false Token.isPlain with
      | some v =>
        if v.kind = .identifier then
          let _ ← onward (fun (_ : Unit) => do
            if ← accept "." then
              let _ ← nameToken true Token.isPart
              return some ()
            else return none) ()
          return some (← typeEnd g "" {})
        else return none
      | none => return none
    else return none

end Lineage.QualifiedName
