import Lineage.Number.Binary64

/-!
# Short decimals

A floating-point value is written with as few digits as lead back to it. For one digit, two
digits and so on, the two decimals next to the value are tried: the first one that the format
rounds to the value is taken, and of two such decimals the nearer one.
-/

namespace Lineage.Binary64

/-- A positive decimal `digits * 10 ^ exponent`. -/
structure Decimal where
  digits : Nat
  exponent : Int
  deriving DecidableEq, Repr, Inhabited

/-- The fraction that a positive value is. -/
def fraction (significand : Nat) (exponent : Int) : Nat × Nat :=
  (significand * Nat.pow 2 exponent.toNat, Nat.pow 2 (-exponent).toNat)

/-- The numerator and the denominator of `num / den * 10 ^ e`. -/
def shiftDecimal (num den : Nat) (e : Int) : Nat × Nat :=
  (num * Nat.pow 10 e.toNat, den * Nat.pow 10 (-e).toNat)

/-- The number of decimal digits before the point of a positive fraction. If there are none, it
is minus the number of zeros after the point. -/
def magnitude (num den : Nat) : Int :=
  let guess : Int := (Nat.toDigits 10 num).length - (Nat.toDigits 10 den).length
  let (n, d) := shiftDecimal num den (-guess)
  if n < d then guess else guess + 1

/-- The decimal of some digits that leads back to a value and is nearest to it. -/
def nearest? (significand : Nat) (exponent : Int) (count : Nat) : Option Decimal :=
  let (num, den) := fraction significand exponent
  let e := magnitude num den - count
  let (n, d) := shiftDecimal num den (-e)
  let below := n / d
  let leadsBack (digits : Nat) : Bool :=
    ofDecimal false digits e = finite false significand exponent
  let nearer := if 2 * (n % d) < d ∨ (2 * (n % d) = d ∧ below % 2 = 0) then below else below + 1
  let farther := if nearer = below then below + 1 else below
  if leadsBack nearer then some ⟨nearer, e⟩
  else if leadsBack farther then some ⟨farther, e⟩
  else none

/-- The shortest decimal that leads back to a positive value. Seventeen digits always do. -/
def shortest (significand : Nat) (exponent : Int) : Decimal :=
  ((List.range 17).findSome? fun n => nearest? significand exponent (n + 1)).getD ⟨significand, 0⟩

/-- Some digits without the zeros at their end. -/
def trimZeros (ds : List Char) : List Char :=
  (ds.reverse.dropWhile (· = '0')).reverse

/-- An exponent with its sign and two digits at least. -/
def exponentText (e : Int) : List Char :=
  let ds := Nat.toDigits 10 e.natAbs
  (if e < 0 then '-' else '+') :: (if ds.length < 2 then '0' :: ds else ds)

/-- A decimal as it is written. A value between a ten-thousandth and ten thousand billions stands
with a point, and any other with an exponent. -/
def Decimal.text (x : Decimal) : List Char :=
  let all := Nat.toDigits 10 x.digits
  let point : Int := all.length + x.exponent
  let ds := trimZeros all
  if -4 < point ∧ point ≤ 16 then
    if point ≤ 0 then '0' :: '.' :: (List.replicate (-point).toNat '0' ++ ds)
    else
      let whole := ds.take point.toNat
      let part := ds.drop point.toNat
      whole ++ List.replicate (point.toNat - whole.length) '0' ++
        '.' :: (if part.isEmpty then ['0'] else part)
  else
    let part := ds.drop 1
    ds.take 1 ++ (if part.isEmpty then [] else '.' :: part) ++ 'e' :: exponentText (point - 1)

/-- A value as it is written. -/
def text : Binary64 → List Char
  | nan => "nan".toList
  | infinite negative => if negative then "-inf".toList else "inf".toList
  | finite negative m e =>
    let digits := if m = 0 then "0.0".toList else (shortest m e).text
    if negative then '-' :: digits else digits

end Lineage.Binary64
