import Lineage.QualifiedName.Path

/-!
# Qualified names

The name of a relation may say which schema and which database it is in. `split` takes such
a name apart.

* A name is a path if its tokens make one. A semicolon may follow a path, but no other path may
  come after it.
* A name that is no path is split at its dots as it stands.
* Parts that are nothing do not count.
* Of a part, the quotes, backticks and brackets at both ends do not count. The last three
  parts are the database, the schema and the relation.
-/

namespace Lineage

/-- The database, the schema and the name of a relation. -/
structure QualifiedName where
  database : Option String := none
  schema : Option String := none
  name : String
  deriving DecidableEq, Repr

namespace QualifiedName

/-- Why a name cannot be taken apart. -/
inductive Fault where
  /-- It is no path and has more than three pieces. -/
  | tooManyPieces
  /-- There are several paths with semicolons between them. -/
  | severalNames
  /-- An argument of a call is to have a name and has none. -/
  | unnamedArgument
  deriving DecidableEq, Repr

/-- The report of a fault. -/
def Fault.message : Fault → String
  | tooManyPieces => "too many values to unpack (expected 3)"
  | severalNames => "'Block' object has no attribute 'parts'"
  | unnamedArgument => "'NoneType' object has no attribute 'name'"

/-! ### Pieces -/

/-- Whether a character does not count at the end of a part. -/
def isWrapping (c : Char) : Bool :=
  c == '"' || c == '\x60' || c == '[' || c == ']'

/-- The text of a part without what wraps it. -/
def unwrap (part : List Char) : String :=
  String.ofList (Text.strip isWrapping part)

/-- The text of a part, if anything is left of it. -/
def unwrap? (part : List Char) : Option String :=
  if unwrap part = "" then none else some (unwrap part)

/-- The name that the last three of some parts make, or the whole text as a bare name if
the last part is empty. -/
def ofParts (whole : String) (parts : List (List Char)) : QualifiedName :=
  match parts.reverse with
  | [] => { name := whole }
  | last :: others =>
    if unwrap last = "" then { name := whole }
    else
      { database := others[1]?.bind unwrap?
        schema := others[0]?.bind unwrap?
        name := unwrap last }

/-- The name that the pieces of a text between its dots make. If the last piece is empty, it is the
whole text. -/
def ofPieces (whole : String) : Except Fault QualifiedName :=
  let ps := whole.toList.splitOn '.'
  if ps.length > 3 then .error .tooManyPieces
  else if ps.getLast? = some [] then .ok { name := whole }
  else .ok (ofParts whole (ps.filter (· ≠ [])))

/-- Takes a name apart. -/
def split (whole : String) : Except Fault QualifiedName :=
  match tokens? whole.toList with
  | none => .ok { name := whole }
  | some tokens =>
    match paths tokens with
    | .ok [parts] => .ok (ofParts whole parts)
    | .ok (_ :: _ :: _) => .error .severalNames
    | .ok [] => ofPieces whole
    | .error .refused => ofPieces whole
    | .error .unnamed => .error .unnamedArgument

end QualifiedName

end Lineage
