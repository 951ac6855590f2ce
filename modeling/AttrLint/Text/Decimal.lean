namespace AttrLint.Text

/-!
# Decimal text of numbers

Numbers are converted from decimal text, and to it, only up to a number of digits.

* `digitLimit` — the greatest number of digits.
* `isConvertible` — says that a number is within the limit.
* `limitMessage` — the wording for a number that is not.
-/

/-- The greatest number of digits that a conversion takes. -/
def digitLimit : Nat := 4300

/-- Says that a number can be written in decimal digits; a sign does not count. -/
def isConvertible (n : Int) : Bool :=
  n.natAbs < Nat.pow 10 digitLimit

/-- The wording for a number with too many digits; `detail` says more about it. -/
def limitMessage (detail : String) : String :=
  "Exceeds the limit (" ++ toString digitLimit ++ " digits) for integer string conversion" ++
    detail ++ "; use sys.set_int_max_str_digits() to increase the limit"

end AttrLint.Text
