import Karnaugh.Grid
import Karnaugh.Text.Blank

set_option autoImplicit false

/-! # Maps as bit strings

A filled map is written as its cells in drawing order, `Grid.bits`. `Grid.ofBits` reads it back and
allows blanks, underscores and commas anywhere; what remains decides the size of the map. The number
of characters is checked before the characters, so that a text of the wrong length is refused for its
length whatever it holds. -/

namespace Karnaugh

namespace BitString

/-- The digit of a cell. -/
def digit (value : Bool) : Char :=
  if value then '1' else '0'

/-- A character that may stand anywhere between the cells and means nothing. -/
def isSeparator (c : Char) : Bool :=
  Text.isBlank c || c == '_' || c == ','

/-- A character that can occur in a bit string. -/
def isAllowed (c : Char) : Bool :=
  c == '0' || c == '1' || isSeparator c

/-- The characters of a text that stand for cells. -/
def strip (text : List Char) : List Char :=
  text.filter fun c => !isSeparator c

/-- The cell that a character stands for. -/
def cell (c : Char) (position : Nat) : Except Fault Bool :=
  if c = '0' then .ok false
  else if c = '1' then .ok true
  else .error (.cellValue (String.singleton c) position)

/-- Reads cells, the first of them at a given position; the first character that is no digit of a
    cell is refused with its position. -/
def cells (position : Nat) : List Char → Except Fault (List Bool)
  | [] => .ok []
  | c :: rest => do
    let value ← cell c position
    let values ← cells (position + 1) rest
    return value :: values

@[simp]
theorem isSeparator_digit (value : Bool) : isSeparator (digit value) = false := by
  cases value <;> decide

theorem strip_map_digit (values : List Bool) : strip (values.map digit) = values.map digit := by
  induction values with
  | nil => rfl
  | cons value values ih => simpa [strip] using ih

@[simp]
theorem cell_digit (value : Bool) (position : Nat) : cell (digit value) position = .ok value := by
  cases value <;> rfl

theorem cells_map_digit (values : List Bool) (position : Nat) :
    cells position (values.map digit) = .ok values := by
  induction values generalizing position with
  | nil => rfl
  | cons value values ih =>
    rw [List.map_cons, cells, cell_digit, ih]
    rfl

end BitString

namespace Grid

/-- The characters of a grid. -/
def bitChars (grid : Grid) : List Char :=
  grid.values.map BitString.digit

/-- A grid as a bit string. -/
def bits (grid : Grid) : String :=
  String.ofList grid.bitChars

/-- The grid that a text of cells and separators stands for. -/
def ofBits (text : List Char) : Except Fault Grid := do
  let digits := BitString.strip text
  let arity ← Arity.ofCells digits.length
  let values ← BitString.cells 0 digits
  ofCells arity values

/-- A written grid reads back. -/
theorem ofBits_bitChars (grid : Grid) : ofBits grid.bitChars = .ok grid := by
  have hlen : (grid.values.map BitString.digit).length = grid.arity.cells := by
    simp [grid.length_values]
  rw [ofBits, bitChars, BitString.strip_map_digit, hlen,
    Arity.ofCells_eq_ok_iff.2 (rfl : grid.arity.cells = grid.arity.cells),
    BitString.cells_map_digit]
  change ofCells grid.arity grid.values = _
  rw [ofCells, dif_pos grid.length_values]

end Grid

end Karnaugh
