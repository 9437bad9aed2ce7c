import Karnaugh.Layout

set_option autoImplicit false

/-! # Adjacent cells

Two cells are adjacent when their minterms differ in one variable. On three variables this joins the
leftmost cell of a row to the rightmost one, which are not drawn side by side: such a pair *wraps*.
`Arity.neighbours` flips the variables of a position one by one, `Arity.adjacent` compares two
positions of the map. -/

namespace Karnaugh

namespace Arity

/-- How many of the lowest `width` bits two numbers differ in. -/
def distance (width m n : Nat) : Nat :=
  (List.range width).countP fun k => m.testBit k != n.testBit k

/-- Two cells of the map are adjacent when their minterms differ in exactly one variable. A position
    outside the map has no adjacent cell. -/
def adjacent (arity : Arity) (p q : Nat) : Bool :=
  decide (p < arity.cells ∧ q < arity.cells) &&
    distance arity.count (arity.mintermAt p) (arity.mintermAt q) == 1

/-- The positions reached by changing one variable, ascending. -/
def neighbours (arity : Arity) (position : Nat) : List Nat :=
  ((List.range arity.count).map fun k =>
    arity.positionOf (arity.mintermAt position ^^^ 1 <<< k)).mergeSort

/-- Two adjacent cells of one row that are not drawn side by side. -/
def wraps (arity : Arity) (p q : Nat) : Bool :=
  arity.adjacent p q && arity.row p == arity.row q &&
    decide (1 < max (arity.column p) (arity.column q) - min (arity.column p) (arity.column q))

/-- The neighbours of every cell of the map, by position. -/
def adjacencyList (arity : Arity) : List (List Nat) :=
  (List.range arity.cells).map arity.neighbours

theorem mem_neighbours {arity : Arity} {p q : Nat} :
    q ∈ arity.neighbours p ↔
      ∃ k < arity.count, arity.positionOf (arity.mintermAt p ^^^ 1 <<< k) = q := by
  simp [neighbours, List.mem_mergeSort]

/-- Being neighbours is said on minterms: they differ in one bit. -/
theorem mem_neighbours_iff_xor {arity : Arity} {p q : Nat} :
    q ∈ arity.neighbours p ↔
      ∃ k < arity.count, arity.mintermAt p ^^^ arity.mintermAt q = 1 <<< k := by
  rw [mem_neighbours]
  constructor
  · rintro ⟨k, hk, rfl⟩
    exact ⟨k, hk, by rw [mintermAt_positionOf, ← Nat.xor_assoc, Nat.xor_self, Nat.zero_xor]⟩
  · rintro ⟨k, hk, h⟩
    exact ⟨k, hk, by rw [← h, ← Nat.xor_assoc, Nat.xor_self, Nat.zero_xor, positionOf_mintermAt]⟩

end Arity

end Karnaugh
