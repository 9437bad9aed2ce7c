import Karnaugh.Proofs.Merge

set_option autoImplicit false

/-! # A sum covers the cells of its blocks

Every block of a map covers the cells whose minterms its product covers (`covers_product`), and the
whole map covers all of them (`covers_of_isFull`). Dropping blocks from the back keeps the cells
covered: a block only goes when the others have all of its cells (`any_covers_prune`), which holds
whatever the blocks are and in whatever order they come. With the laws of joined products this gives
the value of a sum made from blocks of one map (`evaluate_sum_iff_exists_covers`). -/

namespace Karnaugh

namespace Block

/-! ## Products of blocks -/

/-- The product of a block covers the minterms of its cells and no other; of a number beyond the map
    only the low bits count. -/
theorem covers_product (block : Block) (minterm : Nat) :
    block.product.covers minterm =
      block.covers (block.arity.positionOf (minterm % block.arity.cells)) := by
  have harity : block.product.arity = block.arity := Product.arity_spanning _ _
  have hlt := Nat.mod_lt minterm block.arity.cells_pos
  rw [covers_positionOf block hlt, ← harity, Product.covers_mod_cells]

/-! ## The whole map -/

theorem isFull_iff {block : Block} : block.isFull = true ↔ block.size = block.arity.cells := by
  have hfull : block.isFull = true ↔ block.shape = .full := beq_iff_eq
  rw [hfull]
  constructor
  · intro hshape
    refine Decidable.byContradiction fun hsize => ?_
    -- Any other size gives a shape by rows and columns, and none of these is the full one.
    rw [shape, if_neg hsize] at hshape
    dsimp only at hshape
    split at hshape
    · cases hshape
    · split at hshape
      · cases hshape
      · split at hshape <;> cases hshape
    · split at hshape
      · cases hshape
      · split at hshape <;> cases hshape
  · intro hsize
    rw [shape, if_pos hsize]

/-- The whole map is the block that covers every cell. -/
theorem isFull_iff_covers {block : Block} :
    block.isFull = true ↔ ∀ p < block.arity.cells, block.covers p = true := by
  obtain ⟨chosen, hpositions⟩ := block.exists_positions_eq_filter
  -- The choice is as long as the list of all cells when it leaves none out.
  have hsize : block.size = block.arity.cells ↔ ∀ p < block.arity.cells, chosen p = true := by
    have hall := List.length_filter_eq_length_iff (l := List.range block.arity.cells) (p := chosen)
    simpa [size, hpositions] using hall
  rw [isFull_iff, hsize]
  simp +contextual [covers_iff, hpositions]

theorem covers_of_isFull {block : Block} (h : block.isFull = true) {position : Nat}
    (hp : position < block.arity.cells) : block.covers position = true :=
  isFull_iff_covers.1 h position hp

/-- Only the whole map has the empty product. -/
theorem isFull_of_isUniversal {block : Block} (h : block.product.isUniversal = true) :
    block.isFull = true := by
  refine isFull_iff_covers.2 fun p hp => ?_
  have hcell := block.covers_positionOf ((block.arity.mintermAt_lt_cells_iff p).2 hp)
  rw [Arity.positionOf_mintermAt] at hcell
  rw [hcell, Product.eq_universal_of_isUniversal h]
  exact Product.covers_universal _ _

/-! ## Dropping blocks -/

/-- Dropping a block that the others cover keeps every cell covered. -/
theorem any_covers_prune (before kept : List Block) (position : Nat) :
    ((prune before kept).any fun b => b.covers position) =
      ((before.any fun b => b.covers position) || kept.any fun b => b.covers position) := by
  induction before generalizing kept with
  | nil => rfl
  | cons block before ih =>
    rw [prune, List.any_cons]
    split
    · next hothers =>
      rw [ih]
      cases hb : block.covers position with
      | false => rfl
      | true =>
        have := List.all_eq_true.1 hothers position (covers_iff.1 hb)
        rw [this]
        rfl
    · rw [ih, List.any_cons]
      ac_rfl

theorem any_covers_irredundant (blocks : List Block) (position : Nat) :
    ((irredundant blocks).any fun b => b.covers position) =
      blocks.any fun b => b.covers position := by
  rw [irredundant, any_covers_prune, List.any_reverse]
  simp

theorem prune_sublist (before kept : List Block) :
    (prune before kept).Sublist (before.reverse ++ kept) := by
  induction before generalizing kept with
  | nil => exact List.Sublist.refl kept
  | cons block before ih =>
    rw [prune, List.reverse_cons, List.append_assoc, List.singleton_append]
    split
    · exact (ih kept).trans ((List.sublist_cons_self block kept).append_left before.reverse)
    · exact ih (block :: kept)

/-- The blocks that stay come in the order of the list. -/
theorem irredundant_sublist (blocks : List Block) : (irredundant blocks).Sublist blocks := by
  have h := prune_sublist blocks.reverse []
  rwa [List.reverse_reverse, List.append_nil] at h

theorem mem_of_mem_irredundant {blocks : List Block} {block : Block}
    (h : block ∈ irredundant blocks) : block ∈ blocks :=
  (irredundant_sublist blocks).subset h

/-- On one map the products of two lists of blocks cover the same when the blocks do. -/
theorem any_covers_products {arity : Arity} {blocks : List Block} (h : ∀ b ∈ blocks, b.arity = arity)
    (minterm : Nat) :
    ((blocks.map product).any fun p => p.covers minterm) =
      blocks.any fun b => b.covers (arity.positionOf (minterm % arity.cells)) := by
  rw [List.any_map]
  induction blocks with
  | nil => rfl
  | cons b blocks ih =>
    rw [List.any_cons, List.any_cons, ih fun c hc => h c (List.mem_cons_of_mem b hc)]
    rw [Function.comp_apply, covers_product, h b List.mem_cons_self]

end Block

namespace Solution

/-! ## Solutions -/

theorem arity_sum_ofBlocks (passes : Passes) (arity : Arity) (blocks : List Block) :
    (ofBlocks passes arity blocks).sum.arity = arity := by
  have hproducts : ∀ products, (SumOfProducts.ofProducts arity products).arity = arity := by
    intro products
    unfold SumOfProducts.ofProducts
    split <;> rfl
  unfold ofBlocks
  split
  · rfl
  · cases arity <;> exact hproducts _

theorem blocks_ofBlocks_of_full {passes : Passes} {arity : Arity} {blocks : List Block}
    {full : Block} (h : blocks.find? Block.isFull = some full) :
    (ofBlocks passes arity blocks).blocks = [full] := by
  rw [ofBlocks, h]

theorem blocks_ofBlocks_of_partial {passes : Passes} {arity : Arity} {blocks : List Block}
    (h : blocks.find? Block.isFull = none) :
    (ofBlocks passes arity blocks).blocks =
      if passes.irredundant then Block.irredundant blocks else blocks := by
  rw [ofBlocks, h]
  cases arity <;> rfl

/-- The blocks that a solution reports come in the order of the list it was made from. -/
theorem blocks_ofBlocks_sublist (passes : Passes) (arity : Arity) (blocks : List Block) :
    (ofBlocks passes arity blocks).blocks.Sublist blocks := by
  cases hfind : blocks.find? Block.isFull with
  | some full =>
    rw [blocks_ofBlocks_of_full hfind]
    exact List.singleton_sublist.2 (List.mem_of_find?_eq_some hfind)
  | none =>
    rw [blocks_ofBlocks_of_partial hfind]
    split
    · exact Block.irredundant_sublist blocks
    · exact List.Sublist.refl blocks

theorem mem_of_mem_blocks_ofBlocks {passes : Passes} {arity : Arity} {blocks : List Block}
    {block : Block} (h : block ∈ (ofBlocks passes arity blocks).blocks) : block ∈ blocks :=
  (blocks_ofBlocks_sublist passes arity blocks).subset h

/-- The blocks that a solution reports cover the same cells as the list it was made from. -/
theorem any_blocks_ofBlocks {passes : Passes} {arity : Arity} {blocks : List Block}
    (h : ∀ b ∈ blocks, b.arity = arity) (position : Nat) :
    ((ofBlocks passes arity blocks).blocks.any fun b => b.covers position) =
      blocks.any fun b => b.covers position := by
  cases hfind : blocks.find? Block.isFull with
  | some full =>
    have hmem := List.mem_of_find?_eq_some hfind
    have hfull := List.find?_some hfind
    rw [blocks_ofBlocks_of_full hfind, Bool.eq_iff_iff, List.any_eq_true, List.any_eq_true]
    constructor
    · rintro ⟨b, hb, hcovers⟩
      rcases List.mem_singleton.1 hb with rfl
      exact ⟨b, hmem, hcovers⟩
    · rintro ⟨b, hb, hcovers⟩
      have hlt := Block.lt_cells_of_covers hcovers
      rw [h b hb, ← h full hmem] at hlt
      exact ⟨full, List.mem_singleton_self full, Block.covers_of_isFull hfull hlt⟩
  | none =>
    rw [blocks_ofBlocks_of_partial hfind]
    split
    · exact Block.any_covers_irredundant blocks position
    · rfl

/-- The sum of a solution covers what the products of its blocks cover. -/
theorem evaluate_ofBlocks {passes : Passes} {arity : Arity} {blocks : List Block} (minterm : Nat) :
    (ofBlocks passes arity blocks).sum.evaluate minterm =
      ((ofBlocks passes arity blocks).blocks.map Block.product).any fun p => p.covers minterm := by
  unfold ofBlocks
  split
  · next full hfind =>
    have hfull := List.find?_some hfind
    have hcovers : full.product.covers minterm = true := by
      rw [Block.covers_product]
      refine Block.covers_of_isFull hfull ?_
      exact (full.arity.positionOf_lt_cells_iff _).2 (Nat.mod_lt minterm full.arity.cells_pos)
    show ((SumOfProducts.one arity).products.any fun p => p.covers minterm) = _
    simp [SumOfProducts.one, Product.covers_universal, hcovers]
  · cases arity with
    | two => exact SumOfProducts.evaluate_ofProducts .two _ minterm
    | three =>
      rw [SumOfProducts.evaluate_ofProducts]
      exact Product.any_covers_tidy passes.merge _ minterm

/-- **A sum covers exactly the cells of the blocks it is made from**, whichever passes are run and
    whatever the list: its order, its repetitions, and the maps its blocks were found on do not
    matter. Of a minterm beyond the map the low bits count. -/
theorem evaluate_sum_iff_exists_covers (passes : Passes) (arity : Arity) (blocks : List Block)
    (harity : ∀ b ∈ blocks, b.arity = arity) (minterm : Nat) :
    (ofBlocks passes arity blocks).sum.evaluate minterm = true ↔
      ∃ b ∈ blocks, b.covers (arity.positionOf (minterm % arity.cells)) = true := by
  have hblocks : ∀ b ∈ (ofBlocks passes arity blocks).blocks, b.arity = arity := by
    intro b hb
    exact harity b (mem_of_mem_blocks_ofBlocks hb)
  rw [evaluate_ofBlocks, Block.any_covers_products hblocks, any_blocks_ofBlocks harity]
  exact List.any_eq_true

theorem evaluate_mixed_covers :
    let blocks := (Grid.ofFn .three fun p => decide (p < 3)).cover ++
      (Grid.ofFn .three fun p => p == 3 || p == 0 || p == 7).cover
    (∀ b ∈ blocks, b.arity = .three) ∧
      ((ofBlocks {} .three blocks).sum.evaluate 12 = true ↔
        ∃ b ∈ blocks, b.covers (Arity.three.positionOf (12 % Arity.three.cells)) = true) := by
  intro blocks
  have harity : ∀ b ∈ blocks, b.arity = .three := by decide +kernel
  exact ⟨harity, evaluate_sum_iff_exists_covers {} .three blocks harity 12⟩

end Solution

end Karnaugh
