import Karnaugh.Fault

set_option autoImplicit false

/-! # Variables and map sizes

A Karnaugh map is drawn for two or for three variables: `Arity`. Its variables are taken in
alphabetical order, the first being the most significant bit of a minterm, so that on three variables
minterm 5 (binary 101) is `AB'C`. -/

namespace Karnaugh

/-! ## Variables -/

/-- A variable of a map. `a` tells the two rows apart, the others the columns. -/
inductive Variable
  | a
  | b
  | c
  deriving DecidableEq

namespace Variable

/-- The place of the variable in alphabetical order, from zero. -/
def index : Variable → Nat
  | a => 0
  | b => 1
  | c => 2

/-- The letter that stands for the variable. -/
def letter : Variable → Char
  | a => 'A'
  | b => 'B'
  | c => 'C'

/-- The variable that a letter stands for. -/
def ofLetter? (letter : Char) : Option Variable :=
  if letter = 'A' then some a
  else if letter = 'B' then some b
  else if letter = 'C' then some c
  else none

theorem ofLetter?_eq_some_iff {l : Char} {v : Variable} : ofLetter? l = some v ↔ l = v.letter := by
  constructor
  · intro h
    unfold ofLetter? at h
    split at h
    · cases h
      assumption
    · split at h
      · cases h
        assumption
      · split at h
        · cases h
          assumption
        · cases h
  · rintro rfl
    cases v <;> decide

end Variable

/-! ## Map sizes -/

/-- How many variables a map has. -/
inductive Arity
  | two
  | three
  deriving DecidableEq

namespace Arity

/-- The number of variables. -/
def count : Arity → Nat
  | two => 2
  | three => 3

/-- The number of cells: one for each assignment of the variables. -/
def cells (arity : Arity) : Nat :=
  1 <<< arity.count

/-- The number of columns; there are always two rows. -/
def columns (arity : Arity) : Nat :=
  1 <<< (arity.count - 1)

/-- The variables of the map in alphabetical order. -/
def vars : Arity → List Variable
  | two => [.a, .b]
  | three => [.a, .b, .c]

/-- The bit of a minterm that holds a variable: the first variable has the highest one. -/
def bit (arity : Arity) (v : Variable) : Nat :=
  arity.count - 1 - v.index

/-- The map size with a given number of variables. -/
def ofCount : Nat → Except Fault Arity
  | 2 => .ok two
  | 3 => .ok three
  | count => .error (.variableCount count)

/-- The map size with a given number of cells. -/
def ofCells : Nat → Except Fault Arity
  | 4 => .ok two
  | 8 => .ok three
  | found => .error (.cellCount none found)

/-- The number of variables as a word of a key, such as `2var`. -/
def modeKey : Arity → String
  | two => "2var"
  | three => "3var"

@[simp]
theorem length_vars (arity : Arity) : arity.vars.length = arity.count := by
  cases arity <;> rfl

theorem columns_pos (arity : Arity) : 0 < arity.columns := by
  cases arity <;> decide

theorem cells_pos (arity : Arity) : 0 < arity.cells := by
  cases arity <;> decide

theorem columns_dvd_cells (arity : Arity) : arity.columns ∣ arity.cells := by
  cases arity <;> decide

theorem ofCount_eq_ok_iff {n : Nat} {arity : Arity} : ofCount n = .ok arity ↔ n = arity.count := by
  constructor
  · intro h
    unfold ofCount at h
    split at h <;> cases h <;> rfl
  · rintro rfl
    cases arity <;> rfl

theorem ofCells_eq_ok_iff {n : Nat} {arity : Arity} : ofCells n = .ok arity ↔ n = arity.cells := by
  constructor
  · intro h
    unfold ofCells at h
    split at h <;> cases h <;> rfl
  · rintro rfl
    cases arity <;> rfl

end Arity

end Karnaugh
