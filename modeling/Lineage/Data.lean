import Lineage.Number.Binary64

/-!
# Data

A document, whatever its format, is read into `Data`: the plain values, lists and records
that the readers of this library look into. Records keep their members in the order
written, and the last of several members of one name is the one that counts.
-/

namespace Lineage

/-- A day. -/
structure Date where
  year : Nat
  month : Nat
  day : Nat
  deriving DecidableEq, Repr, Inhabited

/-- A time of day, in millionths of a second. -/
structure TimeOfDay where
  hour : Nat
  minute : Nat
  second : Nat
  micro : Nat := 0
  deriving DecidableEq, Repr, Inhabited

/-- A date, a time of day, or both, possibly with the minutes by which it is ahead of world
time. -/
inductive Moment where
  | date (date : Date)
  | time (time : TimeOfDay)
  | instant (date : Date) (time : TimeOfDay) (ahead : Option Int)
  deriving DecidableEq, Repr, Inhabited

/-- A value of a document. -/
inductive Data where
  | null
  | bool (value : Bool)
  | int (value : Int)
  | real (value : Binary64)
  | text (value : String)
  | moment (value : Moment)
  | list (items : List Data)
  | record (members : List (String × Data))
  deriving Inhabited

namespace Data

/-- The value of the last member of a name. -/
def member? (members : List (String × Data)) (name : String) : Option Data :=
  members.foldl (fun found m => if m.1 = name then some m.2 else found) none

/-- The value of a member of a record. -/
def get? (name : String) : Data → Option Data
  | record members => member? members name
  | _ => none

/-- A text that may be missing. -/
def ofText? (t : Option String) : Data :=
  t.elim null text

end Data

end Lineage
