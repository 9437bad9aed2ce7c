import Karnaugh.Block

set_option autoImplicit false

/-! # Covering the ones of a map by blocks

`Grid.cover` chooses blocks of ones in a fixed order, which is not a search for the smallest cover.
A full map is one block. Otherwise the blocks of more than one cell are tried by `Block.priority`,
larger ones first: a block is taken when all of its cells are 1 and none of them lies in a larger
block already taken. What is left over is covered by single cells. A quad thus keeps away every pair
that touches it, even where a pair would reach a cell that ends up alone. -/

namespace Karnaugh

/-! ## The order of trial -/

namespace Block

/-- The place of a block among those of its size and rank: its first cell, for a wrapping pair its
    last one. -/
def anchor (block : Block) : Nat :=
  match block.shape with
  | .wrapPair => block.positions.getLast?.getD 0
  | _ => block.positions.head?.getD 0

/-- The place of a shape among those of its size: horizontal pairs before vertical ones; of the quads
    the rows, then the squares at the two edges, the square in the middle and the wrapping one. -/
def rank (block : Block) : Nat :=
  match block.shape with
  | .columnPair => 1
  | .squareQuad => if block.anchor = 1 then 2 else 1
  | .wrapQuad => 3
  | _ => 0

/-- Whether one block is tried no later than another: larger blocks first, then by rank, then by
    anchor. -/
def priority (b c : Block) : Bool :=
  if b.size ≠ c.size then decide (c.size < b.size)
  else if b.rank ≠ c.rank then decide (b.rank < c.rank)
  else decide (b.anchor ≤ c.anchor)

/-- Puts a block into a list in order of trial, in front of those it is tried no later than. -/
def enqueue (block : Block) : List Block → List Block
  | [] => [block]
  | c :: rest => if priority block c then block :: c :: rest else c :: enqueue block rest

/-- The blocks with more than one and fewer than all cells, in the order of trial. -/
def candidates (arity : Arity) : List Block :=
  ((all arity).filter fun b => decide (1 < b.size ∧ b.size < arity.cells)).foldr enqueue []

theorem mem_enqueue {block b : Block} {queue : List Block} :
    b ∈ enqueue block queue ↔ b = block ∨ b ∈ queue := by
  induction queue with
  | nil => simp [enqueue]
  | cons c rest ih =>
    rw [enqueue]
    split
    · simp
    · simp [ih, or_left_comm]

/-! ## Taking blocks -/

/-- Whether some block of a list larger than `size` covers a position. -/
def coveredByLarger (taken : List Block) (size position : Nat) : Bool :=
  taken.any fun b => decide (size < b.size) && b.covers position

/-- Whether a block can join those already taken: its cells are 1 and in no larger block. -/
def fits (grid : Grid) (taken : List Block) (block : Block) : Bool :=
  block.positions.all fun p => grid.isSet p && !coveredByLarger taken block.size p

/-- Tries blocks one after the other and adds those that fit to the ones already taken. -/
def take (grid : Grid) (taken : List Block) : List Block → List Block
  | [] => taken
  | block :: rest =>
    if fits grid taken block then take grid (taken ++ [block]) rest else take grid taken rest

/-- The single cells that are 1 and that no block of a list covers. -/
def leftovers (grid : Grid) (taken : List Block) : List Block :=
  (singles grid.arity).filter fun b =>
    b.positions.all fun p => grid.isSet p && !taken.any fun t => t.covers p

end Block

/-- The blocks chosen for a map, in the order in which they were taken. -/
def Grid.cover (grid : Grid) : List Block :=
  if grid.isFull then [Block.full grid.arity]
  else
    let taken := Block.take grid [] (Block.candidates grid.arity)
    taken ++ Block.leftovers grid taken

end Karnaugh
