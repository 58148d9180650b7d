import Lineage.Data
import Lineage.Keyed
import Lineage.Number.Shortest
import Lineage.Text.Quoted

/-!
# Literals

A message shows a value of a document as a literal: texts in quotes, lists in brackets, records
in braces, and dates and times by their parts.
-/

namespace Lineage

/-- The parts of a date or a time, with commas between them. -/
def commaed (parts : List Nat) : String :=
  String.intercalate ", " (parts.map toString)

/-- The parts of a day. -/
def Date.parts (d : Date) : List Nat :=
  [d.year, d.month, d.day]

/-- The parts of a time of day. Seconds that are zero are left out. -/
def TimeOfDay.parts (t : TimeOfDay) : List Nat :=
  [t.hour, t.minute] ++
    if t.micro ≠ 0 then [t.second, t.micro] else if t.second ≠ 0 then [t.second] else []

/-- A number of seconds as days and seconds of which the latter are positive. -/
def durationLiteral (seconds : Int) : String :=
  let days := Int.fdiv seconds 86400
  let rest := Int.fmod seconds 86400
  let parts :=
    (if days ≠ 0 then [s!"days={days}"] else []) ++
      if rest ≠ 0 then [s!"seconds={rest}"] else []
  let inner := if parts.isEmpty then "0" else String.intercalate ", " parts
  s!"datetime.timedelta({inner})"

/-- The minutes by which a time is ahead of world time. -/
def zoneLiteral (ahead : Int) : String :=
  if ahead = 0 then "datetime.timezone.utc"
  else s!"datetime.timezone({durationLiteral (ahead * 60)})"

/-- A date, a time of day, or both. -/
def Moment.literal : Moment → String
  | .date d => s!"datetime.date({commaed d.parts})"
  | .time t => s!"datetime.time({commaed t.parts})"
  | .instant d t ahead =>
    let zone := ahead.elim "" fun minutes => ", tzinfo=" ++ zoneLiteral minutes
    s!"datetime.datetime({commaed (d.parts ++ t.parts)}{zone})"

/-- The name of the kind of a value. -/
def Data.kindName : Data → String
  | .null => "NoneType"
  | .bool _ => "bool"
  | .int _ => "int"
  | .real _ => "float"
  | .text _ => "str"
  | .moment (.date _) => "date"
  | .moment (.time _) => "time"
  | .moment (.instant ..) => "datetime"
  | .list _ => "list"
  | .record _ => "dict"

mutual

/-- A value as a literal. -/
def Data.literal : Data → String
  | .null => "None"
  | .bool true => "True"
  | .bool false => "False"
  | .int n => toString n
  | .real x => String.ofList x.text
  | .text s => Text.quoted s
  | .moment m => m.literal
  | .list ds => "[" ++ String.intercalate ", " (literals ds) ++ "]"
  | .record ms =>
    let members := (Keyed.lasts Prod.fst (memberLiterals ms)).map fun m =>
      Text.quoted m.1 ++ ": " ++ m.2
    "\x7b" ++ String.intercalate ", " members ++ "\x7d"

/-- Values as literals. -/
def literals : List Data → List String
  | [] => []
  | d :: ds => d.literal :: literals ds

/-- The members of a record as literals under their names. -/
def memberLiterals : List (String × Data) → List (String × String)
  | [] => []
  | (name, d) :: ms => (name, d.literal) :: memberLiterals ms

end

end Lineage
