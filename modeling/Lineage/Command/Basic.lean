import Lineage.Command.Arguments
import Lineage.Document.Scalar

/-!
# Commands

There are four commands: `render` shows a view, `impact` traces an element, `search` looks for
a term, and `namespaces` lists schemas and databases. `Command.parse?` reads a command off the
words of a command line; views, directions and formats are taken as they are written and looked
at later.
-/

namespace Lineage

/-- What `render` is asked for. -/
structure RenderRequest where
  view : Option String
  statements : List Int
  searchTerm : Option String
  selected : Option String
  collapsed : Option Bool
  focus : Option Bool
  schemas : List String
  databases : List String
  tables : List String
  direction : String
  expanded : List String
  format : Option String
  output : Option String
  deriving DecidableEq, Repr

/-- What `impact` is asked for. -/
structure ImpactRequest where
  element : String
  view : Option String
  direction : String
  statements : List Int
  format : Option String
  deriving DecidableEq, Repr

/-- What `search` is asked for. -/
structure SearchRequest where
  term : String
  view : Option String
  format : Option String
  deriving DecidableEq, Repr

/-- A command with the file of the analysis that it works on. -/
inductive Command where
  | render (file : String) (request : RenderRequest)
  | impact (file : String) (request : ImpactRequest)
  | search (file : String) (request : SearchRequest)
  | namespaces (file : String) (view : Option String)
  deriving DecidableEq, Repr

namespace Command

/-- The file of the analysis. -/
def file : Command → String
  | render file _ => file
  | impact file _ => file
  | search file _ => file
  | namespaces file _ => file

/-! ### Options -/

/-- The option for the view. -/
def viewOption : Known := { names := ["--view", "-m"] }

/-- The option for the statements. -/
def statementOption : Known := { names := ["--statement", "-s"] }

/-- The option for the direction. -/
def directionOption : Known := { names := ["--direction", "-d"] }

/-- The option for the format. -/
def formatOption : Known := { names := ["--output-format", "-f"] }

/-- The options of `render`. -/
def renderOptions : List Known :=
  [viewOption, statementOption,
   { names := ["--search"] },
   { names := ["--select"] },
   { names := ["--collapsed"], takesValue := false },
   { names := ["--expanded"], takesValue := false },
   { names := ["--focus"], takesValue := false },
   { names := ["--no-focus"], takesValue := false },
   { names := ["--schema"] },
   { names := ["--database"] },
   { names := ["--table", "-t"] },
   directionOption,
   { names := ["--expand"] },
   formatOption,
   { names := ["--output", "-o"] }]

/-- The options of `impact`. -/
def impactOptions : List Known :=
  [viewOption, directionOption, statementOption, formatOption]

/-- The options of `search`. -/
def searchOptions : List Known :=
  [viewOption, formatOption]

/-- The options of `namespaces`. -/
def namespaceOptions : List Known :=
  [viewOption]

/-- The positions of statements that are given, if they are integers. -/
def positions? (g : Given) : Option (List Int) :=
  (g.values statementOption.name).mapM fun word => (IntegerText.read word).toOption

/-- The direction that is given, or both. -/
def directionOf (g : Given) : String :=
  (g.value? directionOption.name).getD "both"

/-- The path of the file to write, if one is given. No path has a null character or half a
character in it. -/
def output? (g : Given) : Option (Option String) :=
  match g.value? "--output" with
  | some path =>
    if path.toList.contains '\x00' || !Text.isWhole path then none else some (some path)
  | none => some none

/-! ### Command lines -/

/-- The command `render`. -/
def parseRender? (words : List String) : Option Command := do
  let g ← scan? renderOptions words
  let statements ← positions? g
  let output ← output? g
  match g.arguments with
  | [file] =>
    return render file
      { view := g.value? viewOption.name
        statements := statements
        searchTerm := g.value? "--search"
        selected := g.value? "--select"
        collapsed := g.choice? "--collapsed" "--expanded"
        focus := g.choice? "--focus" "--no-focus"
        schemas := g.values "--schema"
        databases := g.values "--database"
        tables := g.values "--table"
        direction := directionOf g
        expanded := g.values "--expand"
        format := g.value? formatOption.name
        output := output }
  | _ => none

/-- The command `impact`. -/
def parseImpact? (words : List String) : Option Command := do
  let g ← scan? impactOptions words
  let statements ← positions? g
  match g.arguments with
  | [file, element] =>
    return impact file
      { element := element
        view := g.value? viewOption.name
        direction := directionOf g
        statements := statements
        format := g.value? formatOption.name }
  | _ => none

/-- The command `search`. -/
def parseSearch? (words : List String) : Option Command := do
  let g ← scan? searchOptions words
  match g.arguments with
  | [file, term] =>
    return search file
      { term := term, view := g.value? viewOption.name, format := g.value? formatOption.name }
  | _ => none

/-- The command `namespaces`. -/
def parseNamespaces? (words : List String) : Option Command := do
  let g ← scan? namespaceOptions words
  match g.arguments with
  | [file] => return namespaces file (g.value? viewOption.name)
  | _ => none

/-- The command that the words of a command line make. -/
def parse? (words : List String) : Option Command :=
  match (if words.head? = some "--" then words.drop 1 else words) with
  | "render" :: words => parseRender? words
  | "impact" :: words => parseImpact? words
  | "search" :: words => parseSearch? words
  | "namespaces" :: words => parseNamespaces? words
  | _ => none

end Command

end Lineage
