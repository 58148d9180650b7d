import Lineage.Document.Checked
import Lineage.Document.Literal

/-!
# Reports of problems

The report of the problems of a document says how many there are and of what, and then takes
three lines for a problem: the path to it, what is wrong with what was found, and where more can
be read about it.
-/

namespace Lineage

/-- The name of a flaw. -/
def Flaw.name : Flaw → String
  | missing => "missing"
  | notText => "string_type"
  | brokenText => "string_unicode"
  | notInteger => "int_type"
  | integerText => "int_parsing"
  | fraction => "int_from_float"
  | integerRange => "int_parsing_size"
  | notFinite => "finite_number"
  | notTruth => "bool_type"
  | truthText => "bool_parsing"
  | notList => "list_type"
  | notSet => "frozen_set_type"
  | notChoice _ => "enum"
  | notWord _ => "literal_error"
  | notRecord _ => "model_type"

/-- The names that there are to choose from, in quotes. -/
def alternatives : List String → String
  | [] => ""
  | [a] => Text.quoted a
  | [a, b] => Text.quoted a ++ " or " ++ Text.quoted b
  | a :: as => Text.quoted a ++ ", " ++ alternatives as

/-- What a flaw says. -/
def Flaw.message : Flaw → String
  | missing => "Field required"
  | notText => "Input should be a valid string"
  | brokenText => "Input should be a valid string, unable to parse raw data as a unicode string"
  | notInteger => "Input should be a valid integer"
  | integerText => "Input should be a valid integer, unable to parse string as an integer"
  | fraction => "Input should be a valid integer, got a number with a fractional part"
  | integerRange => "Unable to parse input string as an integer, exceeded maximum size"
  | notFinite => "Input should be a finite number"
  | notTruth => "Input should be a valid boolean"
  | truthText => "Input should be a valid boolean, unable to interpret input"
  | notList => "Input should be a valid list"
  | notSet => "Input should be a valid frozenset"
  | notChoice names => "Input should be " ++ alternatives names
  | notWord words => "Input should be " ++ alternatives words
  | notRecord title => "Input should be a valid dictionary or instance of " ++ title

/-- A step of a path. -/
def Step.text : Step → String
  | field name => name
  | position index => toString index

/-- The longest beginning of a text that takes no more than some bytes. -/
def fitting (bytes : Nat) : List Char → List Char
  | [] => []
  | c :: cs => if c.utf8Size ≤ bytes then c :: fitting (bytes - c.utf8Size) cs else []

/-- A text of which only the beginning and the end are left if it takes more than fifty bytes. -/
def shortened (s : String) : String :=
  if s.utf8ByteSize ≤ 50 then s
  else
    String.ofList (fitting 25 s.toList) ++ "..." ++
      String.ofList (fitting 24 s.toList.reverse).reverse

namespace Problem

/-- The line with the path. There is none if the document itself is at fault. -/
def pathLine (p : Problem) : String :=
  if p.path.isEmpty then "" else String.intercalate "." (p.path.map Step.text) ++ "\n"

/-- The lines of a problem. -/
def lines (p : Problem) : String :=
  let kind := p.found.kindName
  let found := shortened p.found.literal
  let name := p.flaw.name
  s!"{p.pathLine}  {p.flaw.message} [type={name}, input_value={found}, input_type={kind}]\n" ++
    s!"    For further information visit the page on flaws in documents for {name}"

/-- The report of the problems of a document of a title. -/
def report (title : String) (problems : List Problem) : String :=
  let count := problems.length
  let noun := if count = 1 then "error" else "errors"
  String.intercalate "\n" (s!"{count} validation {noun} for {title}" :: problems.map lines)

end Problem

end Lineage
