import Lineage.Toml.Fault
import Lineage.Toml.Text

/-!
# Numbers, dates and times in TOML

Underscores may stand between the digits of a number. Seconds have up to six digits after the
point, and further digits are passed over.
-/

namespace Lineage.Toml

/-! ### Numbers -/

/-- The digits that follow a digit, each possibly after an underscore. -/
def moreDigits (p : Char → Bool) : List Char → List Char × List Char
  | '_' :: c :: cs =>
    if p c then
      let (ds, rest) := moreDigits p cs
      (c :: ds, rest)
    else ([], '_' :: c :: cs)
  | c :: cs =>
    if p c then
      let (ds, rest) := moreDigits p cs
      (c :: ds, rest)
    else ([], c :: cs)
  | [] => ([], [])

/-- One or more digits. -/
def digits (p : Char → Bool) : Scan (List Char)
  | c :: cs =>
    if p c then
      let (ds, rest) := moreDigits p cs
      some (c :: ds, rest)
    else none
  | [] => none

/-- The number that digits of some base write. -/
def ofBase (base : Nat) (ds : List Char) : Nat :=
  ds.foldl (fun n d => n * base + (Json.hexValue? d).getD 0) 0

/-- Whether a character is a digit of a base up to sixteen. -/
def isDigitOf (base : Nat) (c : Char) : Bool :=
  (Json.hexValue? c).elim false (· < base)

/-- A number that starts with a zero and the letter of a base. -/
def based : Scan Data
  | '0' :: letter :: cs => do
    let base ← [('x', 16), ('o', 8), ('b', 2)].lookup letter
    let (ds, rest) ← digits (isDigitOf base) cs
    return (.int (ofBase base ds), rest)
  | _ => none

/-- A sign, if there is one: whether it is a minus. -/
def sign : List Char → Bool × List Char
  | '-' :: cs => (true, cs)
  | '+' :: cs => (false, cs)
  | cs => (false, cs)

/-- The whole part of a decimal number: a zero alone, or digits that start with another one. -/
def whole : Scan (List Char)
  | '0' :: cs => some (['0'], cs)
  | cs => digits Char.isDigit cs

/-- The digits after a decimal point, if there are any. -/
def fraction : List Char → List Char × List Char
  | '.' :: cs => (digits Char.isDigit cs).getD ([], '.' :: cs)
  | cs => ([], cs)

/-- An exponent, if there is one. -/
def exponent (cs : List Char) : Option Int × List Char :=
  match cs with
  | [] => (none, [])
  | e :: rest =>
    if e = 'e' ∨ e = 'E' then
      let (negative, unsigned) := sign rest
      match digits Char.isDigit unsigned with
      | none => (none, cs)
      | some (ds, rest) =>
        let n : Int := Json.ofDigits ds
        (some (if negative then -n else n), rest)
    else (none, cs)

/-- A decimal number as it is written. -/
structure Decimal where
  negative : Bool
  whole : List Char
  part : List Char
  power : Option Int

/-- A decimal number. -/
def decimal : Scan Decimal := fun cs => do
  let (negative, unsigned) := sign cs
  let (ds, rest) ← whole unsigned
  let (part, rest) := fraction rest
  let (power, rest) := exponent rest
  return (⟨negative, ds, part, power⟩, rest)

/-- The value of a decimal number. A fraction or an exponent makes it a real one. -/
def Decimal.data (x : Decimal) : Except Fault Data :=
  if x.part.isEmpty ∧ x.power.isNone then
    let n : Int := Json.ofDigits x.whole
    if x.whole.length > digitLimit then .error (.longInteger x.whole.length)
    else .ok (.int (if x.negative then -n else n))
  else
    let digits := Json.ofDigits (x.whole ++ x.part)
    .ok (.real (Binary64.ofDecimal x.negative digits (x.power.getD 0 - x.part.length)))

/-- A number that is infinite or none. -/
def special : Scan Data := fun cs =>
  let (negative, unsigned) := sign cs
  match unsigned with
  | 'i' :: 'n' :: 'f' :: rest => some (.real (.infinite negative), rest)
  | 'n' :: 'a' :: 'n' :: rest => some (.real .nan, rest)
  | _ => none

/-! ### Dates and times -/

/-- A number of some digits. -/
def fixed (count : Nat) : Scan Nat := fun cs =>
  let ds := cs.take count
  if ds.length = count ∧ ds.all Char.isDigit then some (Json.ofDigits ds, cs.drop count) else none

/-- A number of two digits within bounds. -/
def two (low high : Nat) : Scan Nat := fun cs =>
  (fixed 2 cs).filter fun s => low ≤ s.1 && s.1 ≤ high

/-- The text after a character that it has to start with. -/
def expect (c : Char) : List Char → Option (List Char)
  | d :: cs => if d = c then some cs else none
  | [] => none

/-- The millionths of a second after a decimal point, if there are any. -/
def micros : List Char → Nat × List Char
  | '.' :: d :: cs =>
    if d.isDigit then
      let ds := (d :: cs).takeWhile Char.isDigit
      let six := ds.take 6 ++ List.replicate (6 - ds.length) '0'
      (Json.ofDigits six, (d :: cs).dropWhile Char.isDigit)
    else (0, '.' :: d :: cs)
  | cs => (0, cs)

/-- A time of day. -/
def time : Scan TimeOfDay := fun cs => do
  let (hour, rest) ← two 0 23 cs
  let (minute, rest) ← two 0 59 (← expect ':' rest)
  let (second, rest) ← two 0 59 (← expect ':' rest)
  let (micro, rest) := micros rest
  return (⟨hour, minute, second, micro⟩, rest)

/-- The minutes by which a time is ahead of world time, if it says so. -/
def offset (cs : List Char) : Option Int × List Char :=
  match cs with
  | [] => (none, [])
  | c :: rest =>
    if c = 'Z' ∨ c = 'z' then (some 0, rest)
    else if c = '+' ∨ c = '-' then
      let minutes : Option (Int × List Char) := do
        let (hours, rest) ← two 0 23 rest
        let (minutes, rest) ← two 0 59 (← expect ':' rest)
        let total : Int := hours * 60 + minutes
        return (if c = '-' then -total else total, rest)
      match minutes with
      | some (total, rest) => (some total, rest)
      | none => (none, cs)
    else (none, cs)

/-- A day, possibly with the time of day that follows it. -/
def withTime (date : Date) (cs : List Char) : Moment × List Char :=
  match cs with
  | [] => (.date date, [])
  | c :: rest =>
    if c = 'T' ∨ c = 't' ∨ c = ' ' then
      match time rest with
      | some (time, rest) =>
        let (ahead, rest) := offset rest
        (.instant date time ahead, rest)
      | none => (.date date, cs)
    else (.date date, cs)

/-- Whether a year has a day on the 29th of February. -/
def isLeap (year : Nat) : Bool :=
  year % 4 == 0 && (year % 100 != 0 || year % 400 == 0)

/-- The number of days of a month. -/
def daysOf (year month : Nat) : Nat :=
  if month = 2 then if isLeap year then 29 else 28
  else if [4, 6, 9, 11].contains month then 30
  else 31

/-- Whether there ever was a day. -/
def isDay (d : Date) : Bool :=
  d.year ≠ 0 && d.day ≤ daysOf d.year d.month

/-- What looks like a day. -/
def date : Scan Date := fun cs => do
  let (year, rest) ← fixed 4 cs
  let (month, rest) ← two 1 12 (← expect '-' rest)
  let (day, rest) ← two 1 31 (← expect '-' rest)
  return (⟨year, month, day⟩, rest)

/-- A date, a time or a number. -/
def scalar (cs : List Char) : Except Fault (Data × List Char) :=
  match date cs with
  | some (date, rest) =>
    if isDay date then
      let (moment, rest) := withTime date rest
      .ok (.moment moment, rest)
    else .error .malformed
  | none =>
    match time cs with
    | some (time, rest) => .ok (.moment (.time time), rest)
    | none =>
      match based cs with
      | some found => .ok found
      | none =>
        match decimal cs with
        | some (x, rest) => x.data.map fun d => (d, rest)
        | none => (special cs).elim (.error .malformed) .ok

end Lineage.Toml
