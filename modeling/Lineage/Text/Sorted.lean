import Lineage.Keyed
import Lineage.Text.Code

/-!
# Sorted sets of texts

Sets of texts are shown as lists in which every text stands once, in the order of the codes.
-/

namespace Lineage.Text

/-- The distinct texts of a list in their order. -/
def sorted (ts : List String) : List String :=
  (Keyed.distinct ts).mergeSort precedes

end Lineage.Text
