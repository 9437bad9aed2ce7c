import Karnaugh.Cover

set_option autoImplicit false

/-! # Sums from blocks

A list of blocks becomes a sum of products with the blocks behind it: a `Solution`. A block that is
the whole map makes the sum 1. Otherwise blocks whose cells the others cover are dropped, each block
that stays gives its product, and on three variables repeated products are dropped and products that
differ in one variable are joined in pairs, once. The result is a cover, not always the smallest.
`Passes` switches the dropping of blocks and the joining of products. -/

namespace Karnaugh

/-- Which of the two optional passes are run. -/
structure Passes where
  /-- Drop the blocks that the others cover. -/
  irredundant : Bool := true
  /-- Join products in pairs. -/
  merge : Bool := true
  deriving DecidableEq

/-- No optional pass. -/
def Passes.none : Passes := ⟨false, false⟩

/-- A sum of products and the blocks it was made from. -/
@[ext]
structure Solution where
  sum : SumOfProducts
  /-- The blocks that give its products, in the order of the list they come from. -/
  blocks : List Block
  deriving DecidableEq

/-! ## Dropping blocks -/

namespace Block

/-- Goes through blocks from the last to the first (given in that order) and keeps each one with a
    cell that neither the blocks still to come nor those already kept cover. -/
def prune : List Block → List Block → List Block
  | [], kept => kept
  | block :: before, kept =>
    if block.positions.all fun p =>
        before.any (fun b => b.covers p) || kept.any (fun b => b.covers p) then
      prune before kept
    else prune before (block :: kept)

/-- The blocks that stay when every block covered by the others is dropped, the last ones first. -/
def irredundant (blocks : List Block) : List Block :=
  prune blocks.reverse []

end Block

/-! ## Joining products -/

namespace Product

/-- The first product of a list that a product can be joined with: the joined product, and the list
    without the partner. -/
def partner? (p : Product) : List Product → Option (Product × List Product)
  | [] => none
  | q :: rest =>
    match p.merge? q with
    | some joined => some (joined, rest)
    | none => (partner? p rest).map fun (joined, others) => (joined, q :: others)

theorem length_of_partner? {p joined : Product} {rest others : List Product}
    (h : partner? p rest = some (joined, others)) : others.length + 1 = rest.length := by
  induction rest generalizing others with
  | nil => simp [partner?] at h
  | cons q rest ih =>
    rw [partner?] at h
    split at h
    · cases h
      rfl
    · simp only [Option.map_eq_some_iff, Prod.exists, Prod.mk.injEq] at h
      obtain ⟨j, o, ho, rfl, rfl⟩ := h
      simp [← ih ho]

/-- Joins each product that is still free with the first later one possible; a product without a
    partner stays as it is. A joined product is not joined again. -/
def mergePairs : List Product → List Product
  | [] => []
  | p :: rest =>
    match _h : partner? p rest with
    | some (joined, others) => joined :: mergePairs others
    | none => p :: mergePairs rest
  termination_by products => products.length
  decreasing_by
    · have := length_of_partner? _h
      simp only [List.length_cons]
      omega
    · simp

/-- The products of a list without repetitions, joined in pairs where that is asked for. -/
def tidy (merge : Bool) (products : List Product) : List Product :=
  if merge then mergePairs products.eraseDups else products.eraseDups

end Product

/-! ## Solving -/

namespace Solution

/-- The solution made from a list of blocks on a map of the given size. -/
def ofBlocks (passes : Passes) (arity : Arity) (blocks : List Block) : Solution :=
  match blocks.find? Block.isFull with
  | some full => ⟨SumOfProducts.one arity, [full]⟩
  | none =>
    let kept := if passes.irredundant then Block.irredundant blocks else blocks
    let products := kept.map Block.product
    -- On two variables the products stay as the blocks give them, repetitions included.
    match arity with
    | .two => ⟨SumOfProducts.ofProducts .two products, kept⟩
    | .three => ⟨SumOfProducts.ofProducts .three (Product.tidy passes.merge products), kept⟩

/-- The solution in words, block by block. -/
def descriptions (solution : Solution) : List String :=
  solution.blocks.map Block.description

end Solution

/-- The solution of a filled map. -/
def Grid.solve (grid : Grid) (passes : Passes) : Solution :=
  Solution.ofBlocks passes grid.arity grid.cover

end Karnaugh
