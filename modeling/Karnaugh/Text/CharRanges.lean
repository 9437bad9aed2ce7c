set_option autoImplicit false

/-! # Sets of characters given by ranges

A set of characters as a list of closed ranges of code points, the form in which the standard's
property tables are written. `CharRanges.contains` decides membership. -/

namespace Karnaugh.Text

/-- Closed ranges of code points, each by its first and its last member. -/
abbrev CharRanges := List (Nat × Nat)

namespace CharRanges

/-- A character belongs to the set when its code point lies in one of the ranges. -/
def contains (ranges : CharRanges) (c : Char) : Bool :=
  ranges.any fun range => decide (range.1 ≤ c.toNat ∧ c.toNat ≤ range.2)

theorem contains_iff (ranges : CharRanges) (c : Char) :
    contains ranges c = true ↔ ∃ range ∈ ranges, range.1 ≤ c.toNat ∧ c.toNat ≤ range.2 := by
  simp [contains]

end CharRanges

end Karnaugh.Text
