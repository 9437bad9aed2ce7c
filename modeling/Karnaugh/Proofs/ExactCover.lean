import Karnaugh.Proofs.Coverage

set_option autoImplicit false

/-! # The chosen blocks cover exactly the ones

However blocks are tried, only those whose cells are all 1 are taken (`mem_take`), and every 1 that no
taken block reaches is left over as a single cell (`mem_leftovers`). So the blocks of `Grid.cover` lie
on the map they were chosen for (`arity_of_mem_cover`) and cover its ones and nothing else
(`any_covers_cover`), and the sum made from them has the map it came from (`toGrid_solve`). -/

namespace Karnaugh

namespace Block

/-! ## The blocks that are tried -/

theorem arity_of_mem_all {arity : Arity} {block : Block} (h : block ∈ all arity) :
    block.arity = arity := by
  obtain ⟨cube, -, rfl⟩ := List.mem_map.1 h
  rfl

theorem arity_of_mem_candidates {arity : Arity} {block : Block} (h : block ∈ candidates arity) :
    block.arity = arity := by
  have hqueue : ∀ blocks : List Block, block ∈ blocks.foldr enqueue [] → block ∈ blocks := by
    intro blocks
    induction blocks with
    | nil => exact id
    | cons b rest ih =>
      intro hb
      rw [List.foldr_cons, mem_enqueue] at hb
      rcases hb with rfl | hb
      · exact List.mem_cons_self
      · exact List.mem_cons_of_mem b (ih hb)
  exact arity_of_mem_all (List.mem_filter.1 (hqueue _ h)).1

theorem mem_singles {arity : Arity} {block : Block} :
    block ∈ singles arity ↔ block.arity = arity ∧ ∃ p < arity.cells, block.positions = [p] := by
  simp only [singles, List.mem_map, List.mem_attach, true_and]
  constructor
  · rintro ⟨⟨p, hp⟩, rfl⟩
    exact ⟨rfl, p, List.mem_range.1 hp, rfl⟩
  · rintro ⟨rfl, p, hp, hpositions⟩
    exact ⟨⟨p, List.mem_range.2 hp⟩, Block.ext rfl hpositions.symm⟩

theorem exists_mem_singles {arity : Arity} {position : Nat} (h : position < arity.cells) :
    ∃ b ∈ singles arity, b.positions = [position] := by
  refine ⟨_, List.mem_map.2 ⟨⟨position, List.mem_range.2 h⟩, List.mem_attach _ _, rfl⟩, rfl⟩

/-! ## The blocks that are taken -/

/-- A block that is taken was taken before or comes from the queue and has only ones. -/
theorem mem_take {grid : Grid} {taken queue : List Block} {block : Block}
    (h : block ∈ take grid taken queue) :
    block ∈ taken ∨ block ∈ queue ∧ ∀ p ∈ block.positions, grid.isSet p = true := by
  induction queue generalizing taken with
  | nil => exact .inl h
  | cons b rest ih =>
    rw [take] at h
    split at h
    · next hfits =>
      rcases ih h with htaken | ⟨hrest, hset⟩
      · rcases List.mem_append.1 htaken with htaken | hb
        · exact .inl htaken
        · obtain rfl := List.mem_singleton.1 hb
          refine .inr ⟨List.mem_cons_self, fun p hp => ?_⟩
          have hp := List.all_eq_true.1 hfits p hp
          exact (Bool.and_eq_true_iff.1 hp).1
      · exact .inr ⟨List.mem_cons_of_mem b hrest, hset⟩
    · rcases ih h with htaken | ⟨hrest, hset⟩
      · exact .inl htaken
      · exact .inr ⟨List.mem_cons_of_mem b hrest, hset⟩

theorem mem_leftovers {grid : Grid} {taken : List Block} {block : Block} :
    block ∈ leftovers grid taken ↔
      block.arity = grid.arity ∧ ∃ p, block.positions = [p] ∧ grid.isSet p = true ∧
        (taken.any fun b => b.covers p) = false := by
  rw [leftovers, List.mem_filter, mem_singles]
  constructor
  · rintro ⟨⟨harity, p, -, hpositions⟩, hall⟩
    rw [hpositions] at hall
    simp only [List.all_cons, List.all_nil, Bool.and_true, Bool.and_eq_true,
      Bool.not_eq_true'] at hall
    exact ⟨harity, p, hpositions, hall⟩
  · rintro ⟨harity, p, hpositions, hset, hfree⟩
    refine ⟨⟨harity, p, Grid.lt_cells_of_isSet hset, hpositions⟩, ?_⟩
    rw [hpositions]
    simp [hset, hfree]

end Block

namespace Grid

/-! ## The cover of a map -/

theorem arity_of_mem_cover {grid : Grid} {block : Block} (h : block ∈ grid.cover) :
    block.arity = grid.arity := by
  unfold cover at h
  split at h
  · obtain rfl := List.mem_singleton.1 h
    rfl
  · rcases List.mem_append.1 h with htaken | hleft
    · rcases Block.mem_take htaken with hnil | ⟨hqueue, -⟩
      · cases hnil
      · exact Block.arity_of_mem_candidates hqueue
    · exact (Block.mem_leftovers.1 hleft).1

/-- The blocks chosen for a map cover its ones and no zero. -/
theorem any_covers_cover (grid : Grid) (position : Nat) :
    (grid.cover.any fun b => b.covers position) = grid.isSet position := by
  rw [Bool.eq_iff_iff, List.any_eq_true]
  constructor
  · rintro ⟨block, hblock, hcovers⟩
    unfold cover at hblock
    split at hblock
    · next hfull =>
      obtain rfl := List.mem_singleton.1 hblock
      exact isSet_of_isFull hfull (Block.lt_cells_of_covers hcovers)
    · rcases List.mem_append.1 hblock with htaken | hleft
      · rcases Block.mem_take htaken with hnil | ⟨-, hset⟩
        · cases hnil
        · exact hset position (Block.covers_iff.1 hcovers)
      · obtain ⟨-, p, hpositions, hset, -⟩ := Block.mem_leftovers.1 hleft
        rw [Block.covers_iff, hpositions, List.mem_singleton] at hcovers
        exact hcovers ▸ hset
  · intro hset
    have hlt := lt_cells_of_isSet hset
    unfold cover
    split
    · refine ⟨Block.full grid.arity, List.mem_singleton_self _, ?_⟩
      exact Block.covers_iff.2 (List.mem_range.2 hlt)
    · -- The one is in a block that was taken, or it is left over.
      let taken := Block.take grid [] (Block.candidates grid.arity)
      show ∃ b ∈ taken ++ Block.leftovers grid taken, b.covers position = true
      cases hany : taken.any fun b => b.covers position with
      | true =>
        obtain ⟨b, hb, hcovers⟩ := List.any_eq_true.1 hany
        exact ⟨b, List.mem_append_left _ hb, hcovers⟩
      | false =>
        obtain ⟨single, hsingle, hpositions⟩ := Block.exists_mem_singles hlt
        have hleft : single ∈ Block.leftovers grid taken :=
          Block.mem_leftovers.2 ⟨(Block.mem_singles.1 hsingle).1, position, hpositions, hset, hany⟩
        refine ⟨single, List.mem_append_right _ hleft, Block.covers_iff.2 ?_⟩
        rw [hpositions]
        exact List.mem_singleton_self position

/-! ## The solution of a map -/

theorem any_blocks_solve (grid : Grid) (passes : Passes) (position : Nat) :
    ((grid.solve passes).blocks.any fun b => b.covers position) = grid.isSet position := by
  rw [solve, Solution.any_blocks_ofBlocks fun b hb => arity_of_mem_cover hb, any_covers_cover]

theorem toGrid_solve (grid : Grid) (passes : Passes) : (grid.solve passes).sum.toGrid = grid := by
  have hblocks : ∀ b ∈ (grid.solve passes).blocks, b.arity = grid.arity := by
    intro b hb
    exact arity_of_mem_cover (Solution.mem_of_mem_blocks_ofBlocks hb)
  have heval : ∀ position < grid.arity.cells,
      (grid.solve passes).sum.evaluate (grid.arity.mintermAt position) = grid.isSet position := by
    intro position hp
    have hm := (grid.arity.mintermAt_lt_cells_iff position).2 hp
    have hproducts := Block.any_covers_products hblocks (grid.arity.mintermAt position)
    rw [Nat.mod_eq_of_lt hm, Arity.positionOf_mintermAt, any_blocks_solve] at hproducts
    exact (Solution.evaluate_ofBlocks _).trans hproducts
  have harity : (grid.solve passes).sum.arity = grid.arity := Solution.arity_sum_ofBlocks ..
  refine ext_get? harity fun position => ?_
  rw [SumOfProducts.toGrid, get?_ofFn, harity]
  by_cases hp : position < grid.arity.cells
  · rw [if_pos hp, heval position hp, get?_eq_some_isSet hp]
  · rw [if_neg hp, get?_eq_none_iff.2 (Nat.le_of_not_lt hp)]

end Grid

end Karnaugh
