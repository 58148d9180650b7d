import Lineage.Document.Scalar

/-!
# Fields

A field of a record may go by several names, which a `Spelling` lists in order of preference. A
problem is reported under the name that was used, and a field that is missing under the preferred
one.
-/

namespace Lineage

/-- The names of a field, the preferred one first. -/
structure Spelling where
  first : String
  others : List String := []
  deriving DecidableEq, Repr

namespace Spelling

/-- A field of one name. -/
def plain (name : String) : Spelling := ⟨name, []⟩

/-- The names of a field in order of preference. -/
def names (s : Spelling) : List String := s.first :: s.others

end Spelling

/-- The members of a record. -/
abbrev Members := List (String × Data)

namespace Members

variable {α : Type}

/-- The value of a field under the most preferred name that is present, and that name. -/
def find? (members : Members) (spelling : Spelling) : Option (String × Data) :=
  spelling.names.findSome? fun name => (Data.member? members name).map fun d => (name, d)

/-- A field that has to be present. -/
def required (members : Members) (spelling : Spelling) (reader : Reader α) : Checked α :=
  match members.find? spelling with
  | some (name, d) => (reader d).under (.field name)
  | none => (Checked.flawed .missing (.record members)).under (.field spelling.first)

/-- A field that has a value of its own when it is absent. -/
def optional (members : Members) (spelling : Spelling) (absent : α) (reader : Reader α) :
    Checked α :=
  match members.find? spelling with
  | some (name, d) => (reader d).under (.field name)
  | none => .valid absent

/-- A field that may be absent or null. -/
def maybe (members : Members) (spelling : Spelling) (reader : Reader α) : Checked (Option α) :=
  members.optional spelling none (Reader.nullable reader)

end Members

/-- A record of a title, whose members are read together. -/
def Reader.record {α : Type} (title : String) (reader : Members → Checked α) : Reader α
  | .record members => reader members
  | d => .flawed (.notRecord title) d

end Lineage
