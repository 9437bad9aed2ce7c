import Karnaugh.Variable

set_option autoImplicit false

/-! # Where a minterm sits on the map

The cells of a map are numbered twice. A *position* counts the cells as they are drawn, row by row; a
*minterm* is the assignment of the variables read as a binary number. Rows agree in both, while the
columns are drawn in reflected Gray code, so that neighbouring columns differ in one variable:

```text
  two variables            three variables
         B'   B                  B'C'  B'C   BC   BC'
  A'   [ 0    1 ]          A'  [ 0     1     2    3  ]
  A    [ 2    3 ]          A   [ 4     5     6    7  ]
```

`Arity.mintermAt` and `Arity.positionOf` translate between the two numberings and undo each other on
all numbers, also beyond the map (`positionOf_mintermAt`, `mintermAt_positionOf`). -/

namespace Karnaugh

namespace Arity

/-- The row of a position. -/
def row (arity : Arity) (position : Nat) : Nat :=
  position / arity.columns

/-- The column of a position. -/
def column (arity : Arity) (position : Nat) : Nat :=
  position % arity.columns

/-- The bits of the column variables, column by column from the left. -/
def columnCodes : Arity → List Nat
  | two => [0, 1]
  | three => [0, 1, 3, 2]

/-- The minterm at a position: the row above the bits of the column. -/
def mintermAt (arity : Arity) (position : Nat) : Nat :=
  arity.row position * arity.columns + arity.columnCodes.getD (arity.column position) 0

/-- The position of a minterm: in the row of its high bit, the column that bears its low bits. -/
def positionOf (arity : Arity) (minterm : Nat) : Nat :=
  minterm / arity.columns * arity.columns + arity.columnCodes.idxOf (minterm % arity.columns)

/-! ## The two numberings undo each other -/

theorem columnCode_lt (arity : Arity) {column : Nat} (h : column < arity.columns) :
    arity.columnCodes.getD column 0 < arity.columns := by
  revert column
  cases arity <;> decide

theorem idxOf_columnCode_lt (arity : Arity) {code : Nat} (h : code < arity.columns) :
    arity.columnCodes.idxOf code < arity.columns := by
  revert code
  cases arity <;> decide

theorem idxOf_columnCode (arity : Arity) {column : Nat} (h : column < arity.columns) :
    arity.columnCodes.idxOf (arity.columnCodes.getD column 0) = column := by
  revert column
  cases arity <;> decide

theorem columnCode_idxOf (arity : Arity) {code : Nat} (h : code < arity.columns) :
    arity.columnCodes.getD (arity.columnCodes.idxOf code) 0 = code := by
  revert code
  cases arity <;> decide

/-- A minterm lies in the row of its position. -/
theorem row_mintermAt (arity : Arity) (position : Nat) :
    arity.row (arity.mintermAt position) = arity.row position := by
  have hc := arity.columnCode_lt (Nat.mod_lt position arity.columns_pos)
  rw [mintermAt, row, Nat.mul_comm, Nat.mul_add_div arity.columns_pos, column,
    Nat.div_eq_of_lt hc, Nat.add_zero]

/-- A position lies in the row of its minterm. -/
theorem row_positionOf (arity : Arity) (minterm : Nat) :
    arity.row (arity.positionOf minterm) = arity.row minterm := by
  have hc := arity.idxOf_columnCode_lt (Nat.mod_lt minterm arity.columns_pos)
  rw [positionOf, row, Nat.mul_comm, Nat.mul_add_div arity.columns_pos, Nat.div_eq_of_lt hc,
    Nat.add_zero, row]

theorem mintermAt_mod_columns (arity : Arity) (position : Nat) :
    arity.mintermAt position % arity.columns = arity.columnCodes.getD (arity.column position) 0 := by
  have hc := arity.columnCode_lt (Nat.mod_lt position arity.columns_pos)
  rw [mintermAt, Nat.mul_comm, Nat.mul_add_mod]
  exact Nat.mod_eq_of_lt hc

theorem column_positionOf (arity : Arity) (minterm : Nat) :
    arity.column (arity.positionOf minterm) = arity.columnCodes.idxOf (minterm % arity.columns) := by
  have hc := arity.idxOf_columnCode_lt (Nat.mod_lt minterm arity.columns_pos)
  rw [positionOf, column, Nat.mul_comm, Nat.mul_add_mod]
  exact Nat.mod_eq_of_lt hc

@[simp]
theorem positionOf_mintermAt (arity : Arity) (position : Nat) :
    arity.positionOf (arity.mintermAt position) = position := by
  have hcolumn : arity.column position < arity.columns := Nat.mod_lt _ arity.columns_pos
  rw [positionOf, mintermAt_mod_columns, arity.idxOf_columnCode hcolumn]
  have := arity.row_mintermAt position
  rw [row] at this
  rw [this, row, column]
  exact Nat.div_add_mod' ..

@[simp]
theorem mintermAt_positionOf (arity : Arity) (minterm : Nat) :
    arity.mintermAt (arity.positionOf minterm) = minterm := by
  rw [mintermAt, column_positionOf, row_positionOf,
    arity.columnCode_idxOf (Nat.mod_lt _ arity.columns_pos), row]
  exact Nat.div_add_mod' ..

theorem mintermAt_eq_iff {arity : Arity} {position minterm : Nat} :
    arity.mintermAt position = minterm ↔ position = arity.positionOf minterm := by
  constructor
  · rintro rfl
    exact (arity.positionOf_mintermAt position).symm
  · rintro rfl
    exact arity.mintermAt_positionOf minterm

/-! ## Below a bound of whole rows -/

/-- A bound of whole rows is a bound on the row. -/
theorem lt_iff_row_lt {arity : Arity} {bound : Nat} (h : arity.columns ∣ bound) (n : Nat) :
    n < bound ↔ arity.row n < bound / arity.columns := by
  rw [row, Nat.div_lt_iff_lt_mul arity.columns_pos, Nat.div_mul_cancel h]

theorem mintermAt_lt_iff {arity : Arity} {bound : Nat} (h : arity.columns ∣ bound) (position : Nat) :
    arity.mintermAt position < bound ↔ position < bound := by
  rw [lt_iff_row_lt h, row_mintermAt, ← lt_iff_row_lt h]

theorem positionOf_lt_iff {arity : Arity} {bound : Nat} (h : arity.columns ∣ bound) (minterm : Nat) :
    arity.positionOf minterm < bound ↔ minterm < bound := by
  rw [lt_iff_row_lt h, row_positionOf, ← lt_iff_row_lt h]

@[simp]
theorem mintermAt_lt_cells_iff (arity : Arity) (position : Nat) :
    arity.mintermAt position < arity.cells ↔ position < arity.cells :=
  mintermAt_lt_iff arity.columns_dvd_cells position

@[simp]
theorem positionOf_lt_cells_iff (arity : Arity) (minterm : Nat) :
    arity.positionOf minterm < arity.cells ↔ minterm < arity.cells :=
  positionOf_lt_iff arity.columns_dvd_cells minterm

end Arity

end Karnaugh
