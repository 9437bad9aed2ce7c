import Karnaugh.Adjacency
import Karnaugh.SumOfProducts

set_option autoImplicit false

/-! # Blocks of cells

A block is a set of cells that one product covers: all cells whose minterms agree on some variables
and take every value on the others. A map has finitely many of them, `Arity.cubes`: the single cells,
the pairs, on three variables the quads, and the whole map. A block is one of these sets with its map,
so that its shape and its product can be read off the cells. -/

namespace Karnaugh

/-! ## The blocks of a map -/

/-- The cells whose minterm agrees with `base` outside the bits of `free`, ascending. -/
def Arity.cube (arity : Arity) (free base : Nat) : List Nat :=
  (List.range arity.cells).filter fun p => (arity.mintermAt p ||| free) == (base ||| free)

/-- The cells of every block: for each choice of free variables, one block for each assignment of
    the others. -/
def Arity.cubes (arity : Arity) : List (List Nat) :=
  (List.range arity.cells).flatMap fun free =>
    ((List.range arity.cells).filter fun base => base &&& free == 0).map (arity.cube free)

/-- A block of a map. -/
@[ext]
structure Block where
  arity : Arity
  /-- The cells, ascending. -/
  positions : List Nat
  /-- The cells are those of a block. -/
  mem_cubes : positions ∈ arity.cubes
  deriving DecidableEq

/-- How the cells of a block lie on the map. -/
inductive Shape
  | single
  /-- Two cells side by side in a row. -/
  | rowPair
  /-- Two cells in a column. -/
  | columnPair
  /-- The two outer cells of a row. -/
  | wrapPair
  /-- A row of four cells. -/
  | rowQuad
  /-- Two columns side by side. -/
  | squareQuad
  /-- The two outer columns. -/
  | wrapQuad
  | full
  deriving DecidableEq

namespace Block

/-! ## Building a block -/

/-- Every block of a map. -/
def all (arity : Arity) : List Block :=
  arity.cubes.attach.map fun cube => ⟨arity, cube.1, cube.2⟩

/-- The whole map. -/
def full (arity : Arity) : Block where
  arity := arity
  positions := List.range arity.cells
  mem_cubes := by cases arity <;> decide

/-- The blocks of one cell, in drawing order. -/
def singles (arity : Arity) : List Block :=
  (List.range arity.cells).attach.map fun p =>
    ⟨arity, [p.1], by
      obtain ⟨p, hp⟩ := p
      have : ∀ q < arity.cells, [q] ∈ arity.cubes := by cases arity <;> decide
      exact this p (List.mem_range.1 hp)⟩

/-! ## Reading a block -/

/-- The number of cells: 1, 2, 4 or 8. -/
def size (block : Block) : Nat :=
  block.positions.length

/-- The minterms of the cells, in drawing order. -/
def minterms (block : Block) : List Nat :=
  block.positions.map block.arity.mintermAt

/-- The product of what the cells have in common. -/
def product (block : Block) : Product :=
  Product.spanning block.arity block.minterms

/-- Whether a cell belongs to the block. -/
def covers (block : Block) (position : Nat) : Bool :=
  block.positions.contains position

/-- The rows that the block touches, from the top. -/
def rows (block : Block) : List Nat :=
  (block.positions.map block.arity.row).eraseDups

/-- The columns that the block touches, from the left. -/
def columns (block : Block) : List Nat :=
  (block.positions.map block.arity.column).eraseDups

/-- Whether a list of columns has no gap. -/
def contiguous : List Nat → Bool
  | c :: d :: rest => d == c + 1 && contiguous (d :: rest)
  | _ => true

/-- The shape of a block, from the rows and columns it touches. -/
def shape (block : Block) : Shape :=
  if block.size = block.arity.cells then .full
  else
    let inRow := block.rows.length == 1
    match block.positions with
    | [_] => .single
    | [p, q] =>
      if !inRow then .columnPair
      else if block.arity.wraps p q then .wrapPair
      else .rowPair
    | _ =>
      if inRow then .rowQuad
      else if contiguous block.columns then .squareQuad
      else .wrapQuad

/-- Whether the block is the whole map. -/
def isFull (block : Block) : Bool :=
  block.shape == .full

/-! ## Describing a block -/

/-- The name of a shape; that of the whole map depends on its size. -/
def title (block : Block) : String :=
  match block.shape with
  | .single => "Single"
  | .rowPair => "Pair (row)"
  | .columnPair => "Pair (column)"
  | .wrapPair => "Pair (wrap)"
  | .rowQuad => "Quad (row)"
  | .squareQuad => "Quad (square)"
  | .wrapQuad => "Quad (wrap)"
  | .full =>
    match block.arity with
    | .two => "Quad (all cells)"
    | .three => "Octet (all cells)"

/-- A block in words: its shape, its product and its minterms, such as
    `Pair (wrap): A'C' (m0, m2)`; of the whole map the name alone. -/
def description (block : Block) : String :=
  if block.isFull then block.title
  else
    block.title ++ ": " ++ block.product.text .prime ++ " (" ++
      ", ".intercalate (block.minterms.map fun m => s!"m{m}") ++ ")"

/-! ## Cells and products -/

theorem covers_iff {block : Block} {position : Nat} :
    block.covers position = true ↔ position ∈ block.positions := by
  simp [covers]

/-- The cells of a block are chosen from those of its map, in drawing order. -/
theorem exists_positions_eq_filter (block : Block) :
    ∃ chosen : Nat → Bool, block.positions = (List.range block.arity.cells).filter chosen := by
  have hmem := block.mem_cubes
  simp only [Arity.cubes, List.mem_flatMap, List.mem_map] at hmem
  obtain ⟨free, -, base, -, hcube⟩ := hmem
  exact ⟨_, hcube.symm⟩

/-- A block lies on its map. -/
theorem lt_cells_of_covers {block : Block} {position : Nat} (h : block.covers position = true) :
    position < block.arity.cells := by
  obtain ⟨chosen, hpositions⟩ := block.exists_positions_eq_filter
  rw [covers_iff, hpositions, List.mem_filter, List.mem_range] at h
  exact h.1

/-- The cells of a block are those whose minterm its product covers. -/
theorem covers_positionOf (block : Block) {minterm : Nat} (h : minterm < block.arity.cells) :
    block.covers (block.arity.positionOf minterm) = block.product.covers minterm := by
  obtain ⟨arity, positions, hmem⟩ := block
  -- A map has finitely many blocks and minterms, so that all of them can be looked at.
  have hall : ∀ cube ∈ arity.cubes, ∀ m < arity.cells,
      cube.contains (arity.positionOf m)
        = (Product.spanning arity (cube.map arity.mintermAt)).covers m := by
    cases arity <;> decide +kernel
  exact hall positions hmem minterm h

end Block

end Karnaugh
