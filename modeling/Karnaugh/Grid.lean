import Karnaugh.Layout

set_option autoImplicit false

/-! # Filled maps

A `Grid` is a Karnaugh map with a 0 or a 1 in every cell, stored in drawing order. Grids are built
from a rule (`ofFn`), from values, from positions or from minterms, and changed cell by cell. The view
of a grid is `get?`: a cell by its position, `none` outside the map; two grids of one size are equal
when it agrees (`ext_get?`), and each operation has its equation for it. -/

namespace Karnaugh

/-- A map with a value in each of its cells. -/
@[ext]
structure Grid where
  arity : Arity
  /-- The cells in drawing order. -/
  values : List Bool
  /-- There is a value for every cell. -/
  length_values : values.length = arity.cells
  deriving DecidableEq

namespace Grid

/-! ## Building a grid -/

/-- The grid whose cells follow a rule on positions. -/
def ofFn (arity : Arity) (rule : Nat → Bool) : Grid where
  arity := arity
  values := (List.range arity.cells).map rule
  length_values := by simp

/-- The empty map: 0 in every cell. -/
def zeros (arity : Arity) : Grid :=
  ofFn arity fun _ => false

/-- The full map: 1 in every cell. -/
def ones (arity : Arity) : Grid :=
  ofFn arity fun _ => true

/-- The cell at a position, `none` outside the map. -/
def get? (grid : Grid) (position : Nat) : Option Bool :=
  grid.values[position]?

/-- The cell of a minterm, `none` outside the map. -/
def minterm? (grid : Grid) (minterm : Nat) : Option Bool :=
  if minterm < grid.arity.cells then grid.get? (grid.arity.positionOf minterm) else none

/-- Whether a position holds a 1; there is none outside the map. -/
def isSet (grid : Grid) (position : Nat) : Bool :=
  grid.get? position == some true

/-- Writes a cell of the map. -/
def set (grid : Grid) (position : Nat) (value : Bool) : Except Fault Grid :=
  if position < grid.arity.cells then
    .ok ⟨grid.arity, grid.values.set position value, by simp [grid.length_values]⟩
  else
    .error (.outOfRange position grid.arity.cells)

/-- Flips a cell of the map and tells its new value. -/
def toggle (grid : Grid) (position : Nat) : Except Fault (Bool × Grid) :=
  match grid.get? position with
  | some value => (grid.set position (!value)).map fun changed => (!value, changed)
  | none => .error (.outOfRange position grid.arity.cells)

/-- The cell that a number stands for. -/
def cellOfValue (value position : Nat) : Except Fault Bool :=
  match value with
  | 0 => .ok false
  | 1 => .ok true
  | _ => .error (.cellValue (toString value) position)

/-- Reads the numbers of the cells in drawing order, the first of them at a given position; the
    first number that is neither 0 nor 1 is refused. -/
def cellsOfValues (position : Nat) : List Nat → Except Fault (List Bool)
  | [] => .ok []
  | value :: rest => do
    let cell ← cellOfValue value position
    let cells ← cellsOfValues (position + 1) rest
    return cell :: cells

/-- The grid with given cells, which have to be as many as the map has. -/
def ofCells (arity : Arity) (cells : List Bool) : Except Fault Grid :=
  if h : cells.length = arity.cells then .ok ⟨arity, cells, h⟩
  else .error (.cellCount (some arity.cells) cells.length)

/-- The grid with given numbers in its cells. Their count is checked before the numbers. -/
def ofValues (arity : Arity) (values : List Nat) : Except Fault Grid :=
  if values.length = arity.cells then (cellsOfValues 0 values).bind (ofCells arity)
  else .error (.cellCount (some arity.cells) values.length)

/-- The grid with a 1 at the given positions; the first one outside the map is refused. -/
def ofPositions (arity : Arity) (positions : List Nat) : Except Fault Grid :=
  positions.foldlM (fun grid position => grid.set position true) (zeros arity)

/-- Writes the cell of a minterm of the map. -/
def setMinterm (grid : Grid) (minterm : Nat) : Except Fault Grid :=
  if minterm < grid.arity.cells then grid.set (grid.arity.positionOf minterm) true
  else .error (.outOfRange minterm grid.arity.cells)

/-- The grid with a 1 at the given minterms; the first one outside the map is refused. -/
def ofMinterms (arity : Arity) (minterms : List Nat) : Except Fault Grid :=
  minterms.foldlM setMinterm (zeros arity)

/-! ## Reading a grid -/

/-- The positions that hold a 1, ascending. -/
def positions (grid : Grid) : List Nat :=
  (List.range grid.arity.cells).filter grid.isSet

/-- The minterms whose cell holds a 1, ascending. -/
def minterms (grid : Grid) : List Nat :=
  (List.range grid.arity.cells).filter fun m => grid.isSet (grid.arity.positionOf m)

/-- How many cells hold a 1. -/
def count (grid : Grid) : Nat :=
  grid.values.count true

/-- Whether every cell holds a 1. -/
def isFull (grid : Grid) : Bool :=
  grid.values.all id

/-- Whether no cell holds a 1. -/
def isClear (grid : Grid) : Bool :=
  !grid.values.any id

/-! ## The view -/

theorem get?_eq_none_iff {grid : Grid} {position : Nat} :
    grid.get? position = none ↔ grid.arity.cells ≤ position := by
  rw [get?, List.getElem?_eq_none_iff, grid.length_values]

/-- Grids of one size with the same cells are equal. -/
theorem ext_get? {g h : Grid} (harity : g.arity = h.arity)
    (hcells : ∀ position, g.get? position = h.get? position) : g = h :=
  Grid.ext harity (List.ext_getElem? hcells)

@[simp]
theorem arity_ofFn (arity : Arity) (rule : Nat → Bool) : (ofFn arity rule).arity = arity := rfl

theorem get?_ofFn (arity : Arity) (rule : Nat → Bool) (position : Nat) :
    (ofFn arity rule).get? position = if position < arity.cells then some (rule position) else none := by
  by_cases h : position < arity.cells <;> simp [get?, ofFn, h]

theorem isSet_ofFn (arity : Arity) (rule : Nat → Bool) (position : Nat) :
    (ofFn arity rule).isSet position = (decide (position < arity.cells) && rule position) := by
  by_cases h : position < arity.cells <;> simp [isSet, get?_ofFn, h]

theorem lt_cells_of_isSet {grid : Grid} {position : Nat} (h : grid.isSet position = true) :
    position < grid.arity.cells := by
  refine Nat.lt_of_not_le fun hle => ?_
  simp [isSet, get?_eq_none_iff.2 hle] at h

theorem get?_eq_some_isSet {grid : Grid} {position : Nat} (h : position < grid.arity.cells) :
    grid.get? position = some (grid.isSet position) := by
  cases hget : grid.get? position with
  | none => exact absurd (get?_eq_none_iff.1 hget) (Nat.not_le_of_lt h)
  | some value => cases value <;> simp [isSet, hget]

theorem isSet_of_isFull {grid : Grid} (h : grid.isFull = true) {position : Nat}
    (hp : position < grid.arity.cells) : grid.isSet position = true := by
  have hlt : position < grid.values.length := by
    rw [grid.length_values]
    exact hp
  have hvalue := List.all_eq_true.1 h _ (List.getElem_mem hlt)
  rw [isSet, get?, List.getElem?_eq_getElem hlt, show grid.values[position] = true from hvalue]
  rfl

theorem mem_positions {grid : Grid} {position : Nat} :
    position ∈ grid.positions ↔ grid.isSet position = true := by
  simp only [positions, List.mem_filter, List.mem_range, and_iff_right_iff_imp]
  exact lt_cells_of_isSet

theorem mem_minterms {grid : Grid} {minterm : Nat} :
    minterm ∈ grid.minterms ↔ grid.isSet (grid.arity.positionOf minterm) = true := by
  simp only [minterms, List.mem_filter, List.mem_range, and_iff_right_iff_imp]
  intro h
  exact (grid.arity.positionOf_lt_cells_iff minterm).1 (lt_cells_of_isSet h)

theorem pairwise_minterms (grid : Grid) : grid.minterms.Pairwise (· < ·) :=
  List.Pairwise.filter _ List.pairwise_lt_range

theorem arity_of_set {grid changed : Grid} {position : Nat} {value : Bool}
    (h : grid.set position value = .ok changed) : changed.arity = grid.arity := by
  unfold set at h
  split at h <;> cases h
  rfl

/-- Writing a cell changes that cell and no other. -/
theorem get?_of_set {grid changed : Grid} {position : Nat} {value : Bool}
    (h : grid.set position value = .ok changed) (q : Nat) :
    changed.get? q = if q = position then some value else grid.get? q := by
  unfold set at h
  split at h
  · next hp =>
    cases h
    by_cases hq : q = position
    · subst hq
      simp [get?, grid.length_values, hp]
    · simp [get?, hq, List.getElem?_set_ne (Ne.symm hq)]
  · cases h

/-- Flipping a cell is writing it. -/
theorem set_of_toggle {grid changed : Grid} {position : Nat} {value : Bool}
    (h : grid.toggle position = .ok (value, changed)) : grid.set position value = .ok changed := by
  unfold toggle at h
  split at h
  · next old _ =>
    cases hs : grid.set position (!old) with
    | error e => rw [hs] at h; cases h
    | ok g =>
      rw [hs] at h
      cases h
      exact hs
  · cases h

theorem arity_of_toggle {grid changed : Grid} {position : Nat} {value : Bool}
    (h : grid.toggle position = .ok (value, changed)) : changed.arity = grid.arity :=
  arity_of_set (set_of_toggle h)

theorem toggle_of_lt {grid : Grid} {position : Nat} (h : position < grid.arity.cells) :
    ∃ changed, grid.toggle position = .ok (!grid.isSet position, changed) := by
  rw [toggle, get?_eq_some_isSet h]
  simp only [set, if_pos h]
  exact ⟨_, rfl⟩

theorem toggle_of_le {grid : Grid} {position : Nat} (h : grid.arity.cells ≤ position) :
    grid.toggle position = .error (.outOfRange position grid.arity.cells) := by
  rw [toggle, get?_eq_none_iff.2 h]

/-- Writing a cell of a grid given by a rule changes the rule there. -/
theorem set_ofFn (arity : Arity) (rule : Nat → Bool) {position : Nat} (h : position < arity.cells)
    (value : Bool) :
    (ofFn arity rule).set position value =
      .ok (ofFn arity fun q => if q = position then value else rule q) := by
  obtain ⟨changed, hchanged⟩ : ∃ changed, (ofFn arity rule).set position value = .ok changed :=
    ⟨_, if_pos h⟩
  have hnew : changed = ofFn arity fun q => if q = position then value else rule q := by
    have harity : changed.arity = arity := arity_of_set hchanged
    refine ext_get? harity fun q => ?_
    rw [get?_of_set hchanged, get?_ofFn, get?_ofFn]
    by_cases hq : q = position
    · simp [hq, h]
    · simp [hq]
  rw [hchanged, hnew]

/-- Flipping a cell of a grid given by a rule changes the rule there. -/
theorem toggle_ofFn (arity : Arity) (rule : Nat → Bool) {position : Nat}
    (h : position < arity.cells) :
    (ofFn arity rule).toggle position =
      .ok (!rule position, ofFn arity fun q => if q = position then !rule q else rule q) := by
  have hrule : (fun q => if q = position then !rule position else rule q) =
      fun q => if q = position then !rule q else rule q := by
    funext q
    split
    · next hq => rw [hq]
    · rfl
  rw [toggle, get?_ofFn, if_pos h, ← hrule]
  dsimp only
  rw [set_ofFn arity rule h]
  rfl

end Grid

end Karnaugh
