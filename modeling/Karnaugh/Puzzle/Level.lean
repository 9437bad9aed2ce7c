import Karnaugh.Grid

set_option autoImplicit false

/-! # Levels

A level shows an equation and asks for its map. The equation is shown as it stands and may be in any
form, also one that the library does not read as an equation; the solution is given by its cells. -/

namespace Karnaugh.Puzzle

/-- An equation and the positions that it sets. -/
structure Level where
  /-- The equation as it is shown. -/
  equation : String
  /-- The cells of its map that hold a 1, in any order. -/
  positions : List Nat
  deriving DecidableEq

/-- The solution on a map of the given size; positions outside it do not count. -/
def Level.target (level : Level) (arity : Arity) : Grid :=
  Grid.ofFn arity level.positions.contains

end Karnaugh.Puzzle
