/-!
# The digit limit

Integers are read up to a number of decimal digits, so that a long text cannot keep a reader
busy. A reader that meets a longer integer reports it.
-/

namespace Lineage

/-- The most decimal digits that an integer may have. -/
def digitLimit : Nat := 4300

/-- The report of an integer of too many digits. -/
def digitLimitReport (digits : Nat) : String :=
  s!"Exceeds the limit ({digitLimit} digits) for integer string conversion: value has " ++
    s!"{digits} digits; use sys.set_int_max_str_digits() to increase the limit"

end Lineage
