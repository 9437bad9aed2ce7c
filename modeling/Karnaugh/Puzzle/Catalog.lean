import Karnaugh.Puzzle.Level

set_option autoImplicit false

/-! # The catalog of levels

The levels of each map size in the order in which they are played: first single minterms, then sums of
them, then reduced and complemented forms. -/

namespace Karnaugh.Puzzle

/-- The levels on two variables. -/
def twoVariableLevels : List Level :=
  [⟨"F = A'B'", [0]⟩,
   ⟨"F = A'B", [1]⟩,
   ⟨"F = AB'", [2]⟩,
   ⟨"F = AB", [3]⟩,
   ⟨"F = A'B' + A'B", [0, 1]⟩,
   ⟨"F = AB' + AB", [2, 3]⟩,
   ⟨"F = A'B' + AB'", [0, 2]⟩,
   ⟨"F = A'B + AB", [1, 3]⟩,
   ⟨"F = A'B' + AB", [0, 3]⟩,
   ⟨"F = A'B + AB'", [1, 2]⟩,
   ⟨"F = A'B' + A'B + AB'", [0, 1, 2]⟩,
   ⟨"F = A'B' + A'B + AB", [0, 1, 3]⟩,
   ⟨"F = A'B' + AB' + AB", [0, 2, 3]⟩,
   ⟨"F = A'B + AB' + AB", [1, 2, 3]⟩,
   ⟨"F = A'B' + AB' + A'B", [0, 1, 2]⟩,
   ⟨"F = AB' + AB + A'B'", [0, 2, 3]⟩,
   ⟨"F = A'B' + AB' + AB", [0, 2, 3]⟩,
   ⟨"F = A'B + AB' + AB", [1, 2, 3]⟩,
   ⟨"F = A'B' + A'B + AB' + AB", [0, 1, 2, 3]⟩,
   ⟨"F = A'B' + AB'", [0, 2]⟩,
   ⟨"F = A'B + AB", [1, 3]⟩,
   ⟨"F = AB' + AB", [2, 3]⟩,
   ⟨"F = A'B' + AB", [0, 3]⟩,
   ⟨"F = A'B + AB'", [1, 2]⟩,
   ⟨"F = A'B' + A'B'", [0]⟩,
   ⟨"F = AB' + AB'", [2]⟩,
   ⟨"F = AB + AB", [3]⟩,
   ⟨"F = A'B' + AB' + AB'", [0, 2]⟩,
   ⟨"F = A'B + AB + AB", [1, 3]⟩,
   ⟨"F = A'B' + A'B + AB' + AB", [0, 1, 2, 3]⟩,
   ⟨"F = 1", [0, 1, 2, 3]⟩,
   ⟨"F = 0", []⟩,
   ⟨"F = A'", [0, 1]⟩,
   ⟨"F = A", [2, 3]⟩,
   ⟨"F = B'", [0, 2]⟩,
   ⟨"F = B", [1, 3]⟩,
   ⟨"F = A' + B'", [0, 1, 2]⟩,
   ⟨"F = A + B", [1, 2, 3]⟩,
   ⟨"F = A' + B", [0, 1, 3]⟩,
   ⟨"F = A + B'", [0, 2, 3]⟩,
   ⟨"F = (A'B')'", [1, 2, 3]⟩,
   ⟨"F = (AB)'", [0, 1, 2]⟩,
   ⟨"F = (A'B)'", [0, 2, 3]⟩,
   ⟨"F = (AB')'", [0, 1, 3]⟩,
   ⟨"F = (A' + B')'", [3]⟩,
   ⟨"F = (A + B)'", [0]⟩,
   ⟨"F = (A' + B)'", [2]⟩,
   ⟨"F = (A + B' + C')'", [5]⟩,
   ⟨"F = AB + A'B'", [0, 3]⟩,
   ⟨"F = AB' + A'B", [1, 2]⟩,
   ⟨"F = AB + AB'", [2, 3]⟩,
   ⟨"F = AB + A'B", [1, 3]⟩,
   ⟨"F = AB' + A'B'", [0, 2]⟩,
   ⟨"F = (A + B)(A' + B')", [0, 1, 2, 3]⟩,
   ⟨"F = (A' + B')(A + B)", [1, 2, 3]⟩,
   ⟨"F = (A'B + AB')'", [0, 3]⟩,
   ⟨"F = (AB + A'B')'", [1, 2]⟩,
   ⟨"F = (A'B'C' + AB'C')'", [0, 5]⟩,
   ⟨"F = (A'B'C + AB'C' + ABC')'", [0, 2, 3, 4, 5, 7]⟩]

/-- The levels on three variables. -/
def threeVariableLevels : List Level :=
  [⟨"F = A'B'C'", [0]⟩,
   ⟨"F = A'B'C", [1]⟩,
   ⟨"F = A'BC", [2]⟩,
   ⟨"F = A'BC'", [3]⟩,
   ⟨"F = AB'C'", [4]⟩,
   ⟨"F = AB'C", [5]⟩,
   ⟨"F = ABC", [6]⟩,
   ⟨"F = ABC'", [7]⟩,
   ⟨"F = A'B'C' + A'B'C", [0, 1]⟩,
   ⟨"F = A'BC + A'BC'", [2, 3]⟩,
   ⟨"F = AB'C' + AB'C", [4, 5]⟩,
   ⟨"F = ABC + ABC'", [6, 7]⟩,
   ⟨"F = A'B'C' + AB'C'", [0, 4]⟩,
   ⟨"F = A'B'C + AB'C", [1, 5]⟩,
   ⟨"F = A'BC + ABC", [2, 6]⟩,
   ⟨"F = A'BC' + ABC'", [3, 7]⟩,
   ⟨"F = A'B'C' + A'B'C + A'BC", [0, 1, 2]⟩,
   ⟨"F = AB'C' + AB'C + ABC", [4, 5, 6]⟩,
   ⟨"F = A'B'C' + AB'C' + ABC'", [0, 4, 7]⟩,
   ⟨"F = A'B'C + AB'C + ABC", [1, 5, 6]⟩,
   ⟨"F = A'BC + ABC + ABC'", [2, 6, 7]⟩,
   ⟨"F = A'BC' + ABC' + AB'C'", [3, 7, 4]⟩,
   ⟨"F = A'B'C' + A'B'C + AB'C' + AB'C", [0, 1, 4, 5]⟩,
   ⟨"F = A'BC + A'BC' + ABC + ABC'", [2, 3, 6, 7]⟩,
   ⟨"F = A'B'C' + A'BC' + AB'C' + ABC'", [0, 3, 4, 7]⟩,
   ⟨"F = A'B'C + A'BC + AB'C + ABC", [1, 2, 5, 6]⟩,
   ⟨"F = A'B'C' + A'B'C + A'BC + A'BC'", [0, 1, 2, 3]⟩,
   ⟨"F = AB'C' + AB'C + ABC + ABC'", [4, 5, 6, 7]⟩,
   ⟨"F = A'B'C' + AB'C' + AB'C + ABC'", [0, 4, 5, 7]⟩,
   ⟨"F = A'B'C + AB'C + ABC + ABC'", [1, 5, 6, 7]⟩,
   ⟨"F = A'BC + ABC + AB'C' + AB'C", [2, 6, 4, 5]⟩,
   ⟨"F = A'BC' + ABC' + AB'C' + AB'C", [3, 7, 4, 5]⟩,
   ⟨"F = A'B'C' + A'B'C + AB'C' + AB'C + ABC + ABC'", [0, 1, 4, 5, 6, 7]⟩,
   ⟨"F = A'B'C' + A'B'C + A'BC + A'BC' + AB'C' + AB'C + ABC + ABC'", [0, 1, 2, 3, 4, 5, 6, 7]⟩,
   ⟨"F = 1", [0, 1, 2, 3, 4, 5, 6, 7]⟩,
   ⟨"F = 0", []⟩,
   ⟨"F = A'", [0, 1, 2, 3]⟩,
   ⟨"F = A", [4, 5, 6, 7]⟩,
   ⟨"F = B'", [0, 1, 4, 5]⟩,
   ⟨"F = B", [2, 3, 6, 7]⟩,
   ⟨"F = C'", [0, 3, 4, 7]⟩,
   ⟨"F = C", [1, 2, 5, 6]⟩,
   ⟨"F = A' + B'", [0, 1, 2, 3, 4, 5]⟩,
   ⟨"F = A + B", [2, 3, 4, 5, 6, 7]⟩,
   ⟨"F = A' + C'", [0, 1, 2, 3, 4, 7]⟩,
   ⟨"F = A + C", [1, 2, 3, 4, 5, 6]⟩,
   ⟨"F = B' + C'", [0, 1, 3, 4, 5, 7]⟩,
   ⟨"F = B + C", [1, 2, 3, 5, 6, 7]⟩,
   ⟨"F = A' + B + C'", [0, 1, 2, 3, 4, 5, 7]⟩,
   ⟨"F = A + B' + C", [1, 2, 3, 4, 5, 6, 7]⟩,
   ⟨"F = (A'B')'", [1, 2, 3, 4, 5, 6, 7]⟩,
   ⟨"F = (ABC)'", [0, 1, 2, 3, 4, 5, 7]⟩,
   ⟨"F = (A'B'C')'", [1, 2, 3, 4, 5, 6, 7]⟩,
   ⟨"F = (A' + B' + C')'", [6]⟩,
   ⟨"F = (A + B + C)'", [0]⟩,
   ⟨"F = (A' + B + C)'", [2]⟩,
   ⟨"F = (A + B' + C')'", [5]⟩,
   ⟨"F = AB + BC' + AC", [6, 7, 2, 3, 4, 5]⟩,
   ⟨"F = A'B + AB' + BC", [1, 2, 5, 6]⟩,
   ⟨"F = AB + AC' + B'C", [5, 6, 7, 1, 2]⟩,
   ⟨"F = A'B'C + AB'C' + ABC", [1, 4, 6]⟩,
   ⟨"F = (A + B)(B' + C)", [1, 2, 3, 4, 5, 6, 7]⟩,
   ⟨"F = (A' + C)(B + C')", [0, 1, 2, 3, 4, 7]⟩,
   ⟨"F = (A'B + AC)'", [0, 1, 3, 4, 5, 7]⟩,
   ⟨"F = (AB' + BC)'", [0, 1, 3, 4, 7]⟩,
   ⟨"F = (A'B'C' + AB'C)'", [0, 5]⟩,
   ⟨"F = (A'B'C + AB'C' + ABC)'", [0, 2, 3, 4, 5, 7]⟩]

/-- The levels of a map size. -/
def levels : Arity → List Level
  | .two => twoVariableLevels
  | .three => threeVariableLevels

theorem length_levels (arity : Arity) :
    (levels arity).length = match arity with | .two => 59 | .three => 67 := by
  cases arity <;> rfl

end Karnaugh.Puzzle
