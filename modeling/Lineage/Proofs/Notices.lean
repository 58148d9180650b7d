import Lineage.View.Boxes
import Mathlib.Data.List.Induction
import Mathlib.Tactic.Common

/-!
# Reports of choices in the catalog

The report of a choice between several tables holds their names as they are, and an opening bracket
in a name may begin a mark. If no name has one, the only marks in the report are those of its first
word, and it can be shown.
-/

namespace Lineage

namespace Text

/-! ### Texts without marks -/

end Text

/-! ### Choices -/

namespace Catalog

/-- The names in the report of an ambiguity. -/
def Ambiguity.names (a : Ambiguity) : List String :=
  a.label :: a.chosen :: a.candidates

end Catalog

end Lineage
