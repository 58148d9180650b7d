import Lineage.QualifiedName.Query

/-!
# Paths

A path is a list of parts with dots between them. A part is a word, a phrase, a text in quotes, a
placeholder, a parameter, the call of a function, or nothing. The last part is not nothing.
-/

namespace Lineage.QualifiedName

/-- The parts of a name that is a path, without those that are nothing. -/
def path (tokens : List Token) : Except Stop (List (List Char)) :=
  match tableParts (.ofDepth tokens.length) tokens with
  | .ok (parts, []) => .ok (parts.filterMap fun part => part.map Value.name)
  | .ok _ => .error .refused
  | .error stop => .error stop

/-- The tokens between the semicolons. A semicolon at the very end has nothing after it. -/
def chunks : List Token → List (List Token)
  | [] => [[]]
  | t :: ts =>
    if t = .semicolon then if ts.isEmpty then [[]] else [] :: chunks ts
    else match chunks ts with
      | [] => [[t]]
      | c :: cs => (t :: c) :: cs

/-- The paths between the semicolons, given whether there is one before them. A chunk that begins
with `ELSE` ends them, and one that is only `END` after a path counts as a path without parts. -/
def pathsFrom (isLater : Bool) : List (List Token) → Except Stop (List (List (List Char)))
  | [] => .ok []
  | c :: cs =>
    if c.head?.elim false (·.isOf ["ELSE"]) then .ok []
    else if isLater && c.length = 1 && c.all (·.isOf ["END"]) then do
      return [] :: (← pathsFrom true cs)
    else do
      let first ← path c
      return first :: (← pathsFrom true cs)

/-- The paths between the semicolons of a name. -/
def paths (tokens : List Token) : Except Stop (List (List (List Char))) :=
  pathsFrom false (chunks tokens)

end Lineage.QualifiedName
