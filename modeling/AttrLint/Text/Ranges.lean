namespace AttrLint.Text

/-!
# Tables of code point ranges

* `inRanges` — membership of a code point in a list of closed ranges.
-/

/-- Says that `n` lies in one of the closed ranges of `table`. -/
def inRanges (table : List (Nat × Nat)) (n : Nat) : Bool :=
  table.any fun range => range.1 ≤ n && n ≤ range.2

end AttrLint.Text
