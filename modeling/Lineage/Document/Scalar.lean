import Lineage.Document.Checked
import Lineage.Document.IntegerText
import Lineage.Text.Code

/-!
# Scalars and collections

The readers of single values are lenient where the meaning is clear: an integer may be
written as a whole real number or as a text, and a truth value as `0` and `1` or as one of
the usual words. Texts and names of a kind are taken as they stand.
-/

namespace Lineage.Reader

variable {α : Type}

/-- A text. -/
def text : Reader String
  | .text s => .valid s
  | d => .flawed .notText d

/-- What a text of whole characters is read as. -/
def ofText (reader : String → Except Flaw α) (s : String) : Checked α :=
  if Text.isWhole s then
    match reader s with
    | .ok a => .valid a
    | .error flaw => .flawed flaw (.text s)
  else .flawed .brokenText (.text s)

/-! ### Integers -/

/-- What is wrong with a text that writes no integer. -/
def integerFlaw : IntegerText.Fault → Flaw
  | .malformed => .integerText
  | .tooLong => .integerRange

/-- Whether an integer is one of 64 bits. -/
def fitsWord (n : Int) : Bool :=
  -(Nat.pow 2 63 : Int) ≤ n && n < (Nat.pow 2 63 : Int)

/-- An integer: a whole number of any form, or a text that writes one. -/
def int : Reader Int
  | .int n => .valid n
  | .bool b => .valid (if b then 1 else 0)
  | .real x =>
    if !x.isFinite then .flawed .notFinite (.real x)
    else match x.toInt? with
      | none => .flawed .fraction (.real x)
      | some n =>
        if n.natAbs < Nat.pow 2 63 then .valid n else .flawed .integerRange (.real x)
  | .text s => ofText (fun s => (IntegerText.read s).mapError integerFlaw) s
  | d => .flawed .notInteger d

/-! ### Truth values -/

/-- The words for a truth value, in small letters. -/
def truthWords : List (String × Bool) :=
  [("0", false), ("off", false), ("f", false), ("false", false), ("n", false), ("no", false),
   ("1", true), ("on", true), ("t", true), ("true", true), ("y", true), ("yes", true)]

/-- The truth value that a word means. -/
def truth (s : String) : Except Flaw Bool :=
  (truthWords.lookup (String.ofList (s.toList.map Char.toLower))).elim (.error .truthText) .ok

/-- A truth value: true or false, zero or one, or one of the words for them. -/
def bool : Reader Bool
  | .bool b => .valid b
  | .int n =>
    if n = 0 then .valid false
    else if n = 1 then .valid true
    else .flawed (if fitsWord n then .truthText else .notTruth) (.int n)
  | .real x =>
    if x.toInt? = some 0 then .valid false
    else if x.toInt? = some 1 then .valid true
    else .flawed .notTruth (.real x)
  | .text s => ofText truth s
  | d => .flawed .notTruth d

/-! ### Names -/

/-- What is found under a text, or else a flaw. -/
def named (names : List (String × α)) (flaw : Flaw) : Reader α
  | .text s => ofText (fun s => (names.lookup s).elim (.error flaw) .ok) s
  | d => .flawed flaw d

/-- One of the names of a kind. -/
def choice (names : List (String × α)) : Reader α :=
  named names (.notChoice (names.map Prod.fst))

/-- One of the fixed words of a field. -/
def word (names : List (String × α)) : Reader α :=
  named names (.notWord (names.map Prod.fst))

/-! ### Collections -/

/-- A value that may be null. -/
def nullable (reader : Reader α) : Reader (Option α)
  | .null => .valid none
  | d => (reader d).map some

/-- The values of a list, the first of which stands at position `n`. -/
def itemsFrom (reader : Reader α) (n : Nat) : List Data → Checked (List α)
  | [] => .valid []
  | d :: ds =>
    .seq (((reader d).under (.position n)).map List.cons) (itemsFrom reader (n + 1) ds)

/-- A list of values. -/
def list (reader : Reader α) : Reader (List α)
  | .list ds => itemsFrom reader 0 ds
  | d => .flawed .notList d

/-- A set of values, given as a list. -/
def set (reader : Reader α) : Reader (List α)
  | .list ds => itemsFrom reader 0 ds
  | d => .flawed .notSet d

end Lineage.Reader
