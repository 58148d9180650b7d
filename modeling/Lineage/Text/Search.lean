import Lineage.Text.Case

/-!
# Search

A search looks for a term within a text, without regard to letter case. An empty term finds
nothing.
-/

namespace Lineage.Text

/-- Whether a list of characters occurs within another. -/
def occursIn (needle : List Char) : List Char → Bool
  | [] => needle.isEmpty
  | c :: cs => needle.isPrefixOf (c :: cs) || occursIn needle cs

/-- Whether a text holds a term, letter case aside. -/
def holds (text term : String) : Bool :=
  occursIn (lower term).toList (lower text).toList

/-- Whether a search for a term finds a text. -/
def finds (term text : String) : Bool :=
  !term.isEmpty && holds text term

@[simp] theorem finds_empty (text : String) : finds "" text = false := rfl

end Lineage.Text
