import Lineage.Data
import Lineage.Number.DigitLimit
import Lineage.Text.Quoted

/-!
# Faults of TOML documents

A text that is no TOML either breaks the rules of the notation, or it is about a key in a way
that an earlier line rules out. A fault of the latter kind names the key.
-/

namespace Lineage.Toml

/-- Why a text is no TOML. -/
inductive Fault where
  /-- It breaks the rules of the notation. -/
  | malformed
  /-- A header opens a table that is there already. -/
  | declaredTwice (key : List String)
  /-- A dotted key runs through a table that a header opened. -/
  | redefined (key : List String)
  /-- A list or a table on one line is added to. -/
  | immutable (key : List String)
  /-- A table on one line has a name twice. -/
  | duplicate (name : String)
  /-- There is a value under the key already. -/
  | overwritten
  /-- An integer has more digits than are accepted. -/
  | longInteger (digits : Nat)
  deriving DecidableEq, Repr

/-- A key as it is shown: its parts in quotes, with commas between them. -/
def keyText (key : List String) : String :=
  match key with
  | [part] => s!"({Text.quoted part},)"
  | parts => "(" ++ String.intercalate ", " (parts.map Text.quoted) ++ ")"

/-- The report of a fault. -/
def Fault.message : Fault → String
  | malformed => "Invalid statement"
  | declaredTwice key => s!"Cannot declare {keyText key} twice"
  | redefined key => s!"Cannot redefine namespace {keyText key}"
  | immutable key => s!"Cannot mutate immutable namespace {keyText key}"
  | duplicate name => s!"Duplicate inline table key {Text.quoted name}"
  | overwritten => "Cannot overwrite a value"
  | longInteger digits => digitLimitReport digits

end Lineage.Toml
