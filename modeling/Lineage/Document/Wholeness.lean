import Lineage.Data
import Lineage.Text.Code
import Lineage.Text.Quoted

/-!
# Wholeness

A document can be stored only if its texts have no half characters in them, and a text can be
printed only if it has none. `Data.torn?` is the first place of a document where there are some.
-/

namespace Lineage

/-- Half characters in a row in a text. -/
structure Tear where
  /-- The first of them. -/
  first : Char
  /-- The number of codes before them. -/
  position : Nat
  /-- Their number. -/
  size : Nat
  deriving DecidableEq, Repr

/-- The first half characters of a text. -/
def Text.torn? (cs : List Char) : Option Tear :=
  match cs.dropWhile fun c => !keepsHalf c with
  | [] => none
  | c :: rest =>
    some ⟨c, size (cs.takeWhile fun c => !keepsHalf c), (rest.takeWhile keepsHalf).length + 1⟩

/-- The texts before the first one that has half characters, and these. -/
def Text.tornText? : List String → Option (List String × Tear)
  | [] => none
  | s :: ss =>
    match torn? s.toList with
    | some tear => some ([], tear)
    | none => (tornText? ss).map fun t => (s :: t.1, t.2)

mutual

/-- The first half characters in the texts of a value. -/
def Data.torn? : Data → Option Tear
  | .text s => Text.torn? s.toList
  | .list ds => Data.tornItem? ds
  | .record ms => Data.tornMember? ms
  | _ => none

/-- The first half characters in some values. -/
def Data.tornItem? : List Data → Option Tear
  | [] => none
  | d :: ds => d.torn?.or (Data.tornItem? ds)

/-- The first half characters in the values of some members. -/
def Data.tornMember? : List (String × Data) → Option Tear
  | [] => none
  | (_, d) :: ms => d.torn?.or (Data.tornMember? ms)

end

/-- The report of half characters. -/
def Tear.message (t : Tear) : String :=
  let last := t.position + t.size - 1
  let place :=
    if t.size = 1 then
      s!"character {Text.quoted (String.singleton t.first)} in position {t.position}"
    else s!"characters in position {t.position}-{last}"
  s!"'utf-8' codec can't encode {place}: surrogates not allowed"

/-- The report of half characters in a document that is to be stored. -/
def Tear.storingMessage (t : Tear) : String :=
  "Error serializing to JSON: UnicodeEncodeError: " ++ t.message

end Lineage
