import Karnaugh.Proofs.Irredundance

set_option autoImplicit false

/-! # The blocks of a solution are a stable cover

The pass that drops blocks only takes blocks away (`irredundant_sublist`), and it takes none away from
blocks that each have a cell of their own (`prune_of_eachOwns`): whichever of them is looked at, the
others leave that cell uncovered. What the pass leaves are such blocks, so a second run changes nothing
(`irredundant_irredundant`), and neither does solving the blocks of a solution again
(`ofBlocks_blocks`). -/

namespace Karnaugh

namespace Block

/-! ## Dropping blocks twice -/

/-- Blocks that each have a cell of their own are all kept. -/
theorem prune_of_eachOwns {before kept : List Block}
    (h : EachOwns covers (fun _ => False) (before.reverse ++ kept)) :
    prune before kept = before.reverse ++ kept := by
  induction before generalizing kept with
  | nil => rfl
  | cons block before ih =>
    rw [List.reverse_cons, List.append_assoc, List.singleton_append] at h ⊢
    obtain ⟨⟨p, hblock, -, hothers⟩, -⟩ := h.perm List.perm_middle
    have hfree : ∀ l : List Block, (∀ b ∈ l, b ∈ before.reverse ++ kept) →
        l.any (fun b => b.covers p) = false := by
      intro l hl
      refine List.any_eq_false.2 fun b hb => ?_
      rw [hothers b (hl b hb)]
      exact Bool.false_ne_true
    have hbefore := hfree before fun b hb => List.mem_append_left _ (List.mem_reverse.2 hb)
    have hkept := hfree kept fun b hb => List.mem_append_right _ hb
    have hneeded : ¬(block.positions.all fun q =>
        before.any (fun b => b.covers q) || kept.any (fun b => b.covers q)) = true := by
      intro hall
      have hp := List.all_eq_true.1 hall p (covers_iff.1 hblock)
      rw [hbefore, hkept] at hp
      cases hp
    rw [prune, if_neg hneeded]
    exact ih h

theorem irredundant_of_eachOwns {blocks : List Block}
    (h : EachOwns covers (fun _ => False) blocks) : irredundant blocks = blocks := by
  have hprune : prune blocks.reverse [] = blocks.reverse.reverse ++ [] :=
    prune_of_eachOwns (by rwa [List.reverse_reverse, List.append_nil])
  rwa [List.reverse_reverse, List.append_nil] at hprune

theorem irredundant_irredundant (blocks : List Block) :
    irredundant (irredundant blocks) = irredundant blocks :=
  irredundant_of_eachOwns (eachOwns_irredundant blocks)

end Block

namespace Solution

/-! ## The blocks of a solution -/

section

variable (merge : Bool) (arity : Arity) (blocks : List Block)

theorem eachOwns_blocks_ofBlocks :
    EachOwns Block.covers (fun _ => False) (ofBlocks ⟨true, merge⟩ arity blocks).blocks := by
  cases hfind : blocks.find? Block.isFull with
  | some full =>
    rw [blocks_ofBlocks_of_full hfind]
    have hcovers := Block.covers_of_isFull (List.find?_some hfind) full.arity.cells_pos
    exact ⟨⟨0, hcovers, id, by simp⟩, trivial⟩
  | none =>
    rw [blocks_ofBlocks_of_partial hfind, if_pos rfl]
    exact Block.eachOwns_irredundant blocks

/-- Solving the blocks of a solution again gives the solution. -/
theorem ofBlocks_blocks :
    ofBlocks ⟨true, merge⟩ arity (ofBlocks ⟨true, merge⟩ arity blocks).blocks =
      ofBlocks ⟨true, merge⟩ arity blocks := by
  cases hfind : blocks.find? Block.isFull with
  | some full =>
    have hself : [full].find? Block.isFull = some full :=
      List.find?_cons_of_pos (List.find?_some hfind)
    rw [blocks_ofBlocks_of_full hfind, ofBlocks, ofBlocks, hself, hfind]
  | none =>
    -- Among the blocks that are kept there is no whole map either.
    have hkept : (Block.irredundant blocks).find? Block.isFull = none := by
      refine List.find?_eq_none.2 fun b hb => ?_
      exact List.find?_eq_none.1 hfind b ((Block.irredundant_sublist blocks).subset hb)
    rw [blocks_ofBlocks_of_partial hfind, if_pos rfl, ofBlocks, ofBlocks, hkept, hfind]
    dsimp only
    rw [if_pos rfl, if_pos rfl, Block.irredundant_irredundant]

/-- **The blocks of a solution are a stable irredundant cover.** With the pass that drops blocks,
    whether or not products are joined, the blocks reported for a list of blocks of one map are a
    subsequence of the list, a single whole map when one is in the list. They cover the cells that the
    list covers, each has a cell that no other entry covers, and solving them again gives the same
    sum and the same blocks. -/
theorem blocks_stable_irredundant_cover (harity : ∀ b ∈ blocks, b.arity = arity) :
    let solution := ofBlocks ⟨true, merge⟩ arity blocks
    solution.blocks.Sublist blocks ∧
      ((∃ b ∈ blocks, b.isFull = true) →
        ∃ full ∈ blocks, full.isFull = true ∧ solution.blocks = [full]) ∧
      (∀ position, (∃ b ∈ solution.blocks, b.covers position = true) ↔
        ∃ b ∈ blocks, b.covers position = true) ∧
      (∀ i (hi : i < solution.blocks.length),
        ∃ position, solution.blocks[i].covers position = true ∧
          ∀ j (hj : j < solution.blocks.length), j ≠ i →
            solution.blocks[j].covers position = false) ∧
      ofBlocks ⟨true, merge⟩ arity solution.blocks = solution := by
  intro solution
  refine ⟨blocks_ofBlocks_sublist _ arity blocks, ?_, ?_, ?_, ofBlocks_blocks merge arity blocks⟩
  · rintro ⟨b, hb, hbfull⟩
    obtain ⟨full, hfind⟩ := Option.isSome_iff_exists.1 (List.find?_isSome.2 ⟨b, hb, hbfull⟩)
    exact ⟨full, List.mem_of_find?_eq_some hfind, List.find?_some hfind,
      blocks_ofBlocks_of_full hfind⟩
  · intro position
    have hany : (solution.blocks.any fun b => b.covers position) =
        blocks.any fun b => b.covers position := any_blocks_ofBlocks harity position
    rw [Bool.eq_iff_iff, List.any_eq_true, List.any_eq_true] at hany
    exact hany
  · intro i hi
    obtain ⟨position, hown, -, hothers⟩ :=
      (eachOwns_blocks_ofBlocks merge arity blocks).exists_own hi
    exact ⟨position, hown, hothers⟩

end

/-- Of a chain of pairs, one of them given twice, the repetition and the middle one are dropped. -/
theorem blocks_stable_of_chain :
    let blocks := [[0, 1], [1, 2], [2, 3], [0, 1]].flatMap fun cells =>
      (Grid.ofFn .three fun p => cells.contains p).cover
    let solution := ofBlocks ⟨true, true⟩ .three blocks
    (∀ b ∈ blocks, b.arity = .three) ∧
      blocks.map Block.positions = [[0, 1], [1, 2], [2, 3], [0, 1]] ∧
      solution.blocks.map Block.positions = [[0, 1], [2, 3]] ∧
      solution.blocks.Sublist blocks ∧
      ofBlocks ⟨true, true⟩ .three solution.blocks = solution := by
  intro blocks solution
  have harity : ∀ b ∈ blocks, b.arity = .three := by decide +kernel
  obtain ⟨hsublist, -, -, -, hstable⟩ := blocks_stable_irredundant_cover true .three blocks harity
  exact ⟨harity, by decide +kernel, by decide +kernel, hsublist, hstable⟩

end Solution

end Karnaugh
