import Karnaugh.Proofs.Coverage
import Mathlib.Algebra.GroupWithZero.Nat
import Mathlib.Algebra.Order.BigOperators.Group.List
import Mathlib.Algebra.Order.Group.Nat
import Mathlib.Data.List.Perm.Subperm

set_option autoImplicit false

/-! # The passes never cost anything

A sum costs its products, or their literals. Both are totals of a cost of single products (`IsCost`)
that joining two products does not raise and that is least for the empty product. Such a total is not
raised by joining in pairs (`total_mergePairs_le`), nor by a sum becoming the constant 1
(`total_ofProducts_le`), and products that come from fewer blocks have no larger total, with or without
repetitions (`total_eraseDups_le`). Without passes a sum only becomes 1 when a block is the whole map,
so each run of the passes can be compared with the run without them (`total_ofBlocks_le`). -/

namespace Karnaugh

theorem nodup_eraseDups {α : Type} [BEq α] [LawfulBEq α] : ∀ l : List α, l.eraseDups.Nodup
  | [] => List.nodup_nil
  | a :: rest => by
    rw [List.eraseDups_cons, List.nodup_cons]
    refine ⟨fun h => ?_, nodup_eraseDups _⟩
    simp at h
  termination_by l => l.length
  decreasing_by exact Nat.lt_succ_of_le (List.length_filter_le _ rest)

namespace Product

/-! ## Costs of products -/

/-- A cost of products that joining two of them does not raise and that the empty product has least of. -/
structure IsCost (cost : Product → Nat) : Prop where
  joined_le : ∀ {p q joined : Product}, p.merge? q = some joined → cost joined ≤ cost p + cost q
  universal_le : ∀ arity p, cost (universal arity) ≤ cost p

theorem isCost_one : IsCost fun _ => 1 where
  joined_le _ := by omega
  universal_le _ _ := Nat.le_refl 1

theorem literalCount_relax_le (p : Product) (place : Nat) :
    (p.relax place).literalCount ≤ p.literalCount := by
  show (p.inputs.set place none).countP Option.isSome ≤ p.inputs.countP Option.isSome
  by_cases h : place < p.inputs.length
  · rw [List.countP_set h]
    simp
  · rw [List.set_eq_of_length_le (Nat.le_of_not_lt h)]

theorem isCost_literalCount : IsCost literalCount where
  joined_le {p q joined} h := by
    unfold merge? at h
    split at h
    · obtain ⟨place, -, rfl⟩ := Option.map_eq_some_iff.1 h
      exact Nat.le_add_right_of_le (p.literalCount_relax_le place)
    · cases h
  universal_le arity p := by
    rw [literalCount_universal]
    exact Nat.zero_le _

/-! ## Totals -/

/-- The costs of some products taken together. -/
def total (cost : Product → Nat) (products : List Product) : Nat :=
  (products.map cost).sum

section

variable {cost : Product → Nat}

theorem total_le_of_sublist {few many : List Product} (h : few.Sublist many) :
    total cost few ≤ total cost many :=
  (h.map cost).sum_le_sum fun _ _ => Nat.zero_le _

/-- Of fewer products those that differ cost no more. -/
theorem total_eraseDups_le {few many : List Product} (h : few ⊆ many) :
    total cost few.eraseDups ≤ total cost many.eraseDups := by
  have hsubset : few.eraseDups ⊆ many.eraseDups := by
    intro p hp
    exact List.mem_eraseDups.2 (h (List.mem_eraseDups.1 hp))
  obtain ⟨found, hperm, hsublist⟩ := List.subperm_of_subset (nodup_eraseDups few) hsubset
  calc total cost few.eraseDups
      = total cost found := (hperm.map cost).sum_nat.symm
    _ ≤ total cost many.eraseDups := total_le_of_sublist hsublist

theorem total_mergePairs_le (hcost : IsCost cost) (products : List Product) :
    total cost (mergePairs products) ≤ total cost products := by
  fun_induction mergePairs products with
  | case1 => exact Nat.le_refl _
  | case2 p rest joined others hpartner ih =>
    obtain ⟨before, q, after, rfl, rfl, hq, -⟩ := partner?_spec hpartner
    have hjoined := hcost.joined_le hq
    simp only [total, List.map_cons, List.map_append, List.sum_cons, List.sum_append] at ih ⊢
    omega
  | case3 p rest hpartner ih =>
    simp only [total, List.map_cons, List.sum_cons] at ih ⊢
    omega

theorem total_tidy_le (hcost : IsCost cost) (merge : Bool) (products : List Product) :
    total cost (tidy merge products) ≤ total cost products.eraseDups := by
  unfold tidy
  split
  · exact total_mergePairs_le hcost _
  · exact Nat.le_refl _

/-- A sum that becomes the constant 1 costs no more than one of its products. -/
theorem total_ofProducts_le (hcost : IsCost cost) (arity : Arity) (products : List Product) :
    total cost (SumOfProducts.ofProducts arity products).products ≤ total cost products := by
  unfold SumOfProducts.ofProducts
  split
  · next h =>
    obtain ⟨p, hp, -⟩ := h
    calc total cost [universal arity]
        ≤ total cost [p] := Nat.add_le_add_right (hcost.universal_le arity p) 0
      _ ≤ total cost products := total_le_of_sublist (List.singleton_sublist.2 hp)
  · exact Nat.le_refl _

end

end Product

namespace SumOfProducts

theorem products_ofProducts (arity : Arity) {products : List Product}
    (h : ∀ p ∈ products, p.isUniversal = false) : (ofProducts arity products).products = products := by
  have hnone : ¬∃ p ∈ products, p.isUniversal = true := by
    rintro ⟨p, hp, hu⟩
    rw [h p hp] at hu
    cases hu
  rw [ofProducts, dif_neg hnone]

/-- The number of literals in all products of a sum. -/
def literalCount (sum : SumOfProducts) : Nat :=
  (sum.products.map Product.literalCount).sum

end SumOfProducts

namespace Solution

open Product (IsCost total)

/-- Solving with passes costs no more than solving without. -/
theorem total_ofBlocks_le {cost : Product → Nat} (hcost : IsCost cost) (passes : Passes)
    (arity : Arity) (blocks : List Block) :
    total cost (ofBlocks passes arity blocks).sum.products ≤
      total cost (ofBlocks Passes.none arity blocks).sum.products := by
  cases hfind : blocks.find? Block.isFull with
  | some full =>
    rw [ofBlocks, ofBlocks, hfind]
  | none =>
    let kept := if passes.irredundant then Block.irredundant blocks else blocks
    have hkept : (kept.map Block.product).Sublist (blocks.map Block.product) := by
      refine List.Sublist.map Block.product ?_
      show (if passes.irredundant then Block.irredundant blocks else blocks).Sublist blocks
      split
      · exact Block.irredundant_sublist blocks
      · exact List.Sublist.refl blocks
    have hpartial : ∀ p ∈ blocks.map Block.product, p.isUniversal = false := by
      intro p hp
      obtain ⟨b, hb, rfl⟩ := List.mem_map.1 hp
      exact Bool.eq_false_iff.2 fun hu =>
        List.find?_eq_none.1 hfind b hb (Block.isFull_of_isUniversal hu)
    rw [ofBlocks, ofBlocks, hfind]
    cases arity with
    | two =>
      show total cost (SumOfProducts.ofProducts .two (kept.map Block.product)).products ≤
        total cost (SumOfProducts.ofProducts .two (blocks.map Block.product)).products
      rw [SumOfProducts.products_ofProducts .two hpartial]
      exact Nat.le_trans (Product.total_ofProducts_le hcost .two _)
        (Product.total_le_of_sublist hkept)
    | three =>
      show total cost (SumOfProducts.ofProducts .three
          (Product.tidy passes.merge (kept.map Block.product))).products ≤
        total cost (SumOfProducts.ofProducts .three (blocks.map Block.product).eraseDups).products
      rw [SumOfProducts.products_ofProducts .three fun p hp => hpartial p (List.mem_eraseDups.1 hp)]
      calc total cost (SumOfProducts.ofProducts .three
            (Product.tidy passes.merge (kept.map Block.product))).products
          ≤ total cost (Product.tidy passes.merge (kept.map Block.product)) :=
            Product.total_ofProducts_le hcost .three _
        _ ≤ total cost (kept.map Block.product).eraseDups :=
            Product.total_tidy_le hcost passes.merge _
        _ ≤ total cost (blocks.map Block.product).eraseDups :=
            Product.total_eraseDups_le hkept.subset

theorem blocks_ofBlocks_sublist_none (passes : Passes) (arity : Arity) (blocks : List Block) :
    (ofBlocks passes arity blocks).blocks.Sublist (ofBlocks Passes.none arity blocks).blocks := by
  cases hfind : blocks.find? Block.isFull with
  | some full =>
    rw [blocks_ofBlocks_of_full hfind, blocks_ofBlocks_of_full hfind]
  | none =>
    have hall : (ofBlocks Passes.none arity blocks).blocks = blocks :=
      blocks_ofBlocks_of_partial hfind
    rw [hall]
    exact blocks_ofBlocks_sublist passes arity blocks

/-- **The passes never cost anything.** Whatever the blocks, and whichever passes are run, the sum has
    at most as many products and at most as many literals as the sum made without any pass, and the
    blocks that are reported are a subsequence of those reported without any pass. -/
theorem passes_never_cost (passes : Passes) (arity : Arity) (blocks : List Block) :
    let bare := ofBlocks Passes.none arity blocks
    let solution := ofBlocks passes arity blocks
    solution.sum.products.length ≤ bare.sum.products.length ∧
      solution.sum.literalCount ≤ bare.sum.literalCount ∧
      solution.blocks.Sublist bare.blocks := by
  intro bare solution
  have hlength : ∀ products : List Product, total (fun _ => 1) products = products.length := by
    intro products
    simp [total]
  refine ⟨?_, total_ofBlocks_le Product.isCost_literalCount passes arity blocks,
    blocks_ofBlocks_sublist_none passes arity blocks⟩
  rw [← hlength, ← hlength]
  exact total_ofBlocks_le Product.isCost_one passes arity blocks

/-- Against each other the passes can cost something: a product whose block was dropped is missing when
    products are joined. -/
example :
    let blocks := [[0], [1], [0, 3]].flatMap fun cells =>
      (Grid.ofFn .three fun p => cells.contains p).cover
    (ofBlocks ⟨false, true⟩ .three blocks).sum.literalCount = 4 ∧
      (ofBlocks ⟨true, true⟩ .three blocks).sum.literalCount = 5 := by
  decide +kernel

end Solution

end Karnaugh
