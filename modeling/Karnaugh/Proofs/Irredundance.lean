import Karnaugh.Proofs.Coverage

set_option autoImplicit false

/-! # Nothing in a sum is superfluous

When the blocks that the others cover have been dropped, each block that stays has a cell of its own,
and the products of the blocks each have a minterm of their own (`EachOwns`). This is kept by what
follows: there is no repetition to drop, and a joined product owns what either of the two owned
(`eachOwns_mergePairs`). So every product of the sum is the only one to cover some minterm of the map
(`each_product_owns_minterm`), in particular none is implied by another. What an entry owns is said
relative to what is covered from `outside` the list, so that a list can be taken apart from the front
and its entries handed over to the outside one by one. -/

namespace Karnaugh

section Owning

variable {α : Type} {covers : α → Nat → Bool} {outside : Nat → Prop}

/-- Each entry of a list covers something that is neither covered by another entry nor `outside`. -/
def EachOwns (covers : α → Nat → Bool) (outside : Nat → Prop) : List α → Prop
  | [] => True
  | a :: rest =>
    (∃ n, covers a n = true ∧ ¬outside n ∧ ∀ b ∈ rest, covers b n = false) ∧
      EachOwns covers (fun n => outside n ∨ covers a n = true) rest

namespace EachOwns

/-! ## Laws of owning -/

/-- With less outside the entries own what they owned. -/
theorem mono {outside' : Nat → Prop} {l : List α} (hless : ∀ n, outside' n → outside n)
    (h : EachOwns covers outside l) : EachOwns covers outside' l := by
  induction l generalizing outside outside' with
  | nil => trivial
  | cons a rest ih =>
    obtain ⟨⟨n, ha, hout, hrest⟩, htail⟩ := h
    refine ⟨⟨n, ha, fun hn => hout (hless n hn), hrest⟩, ih ?_ htail⟩
    intro m hm
    exact hm.imp_left (hless m)

/-- The order of the entries does not matter. -/
theorem perm {l l' : List α} (hperm : l.Perm l') (h : EachOwns covers outside l) :
    EachOwns covers outside l' := by
  induction hperm generalizing outside with
  | nil => trivial
  | cons a hperm ih =>
    obtain ⟨⟨n, ha, hout, hrest⟩, htail⟩ := h
    exact ⟨⟨n, ha, hout, fun b hb => hrest b (hperm.mem_iff.2 hb)⟩, ih htail⟩
  | swap a b l =>
    obtain ⟨⟨n, hb, hout, hrest⟩, ⟨k, ha, hout', hrest'⟩, htail⟩ := h
    have hbk : covers b k = false := Bool.eq_false_iff.2 fun hbk => hout' (.inr hbk)
    refine ⟨⟨k, ha, fun hk => hout' (.inl hk), ?_⟩, ⟨n, hb, ?_, ?_⟩, htail.mono ?_⟩
    · intro c hc
      rcases List.mem_cons.1 hc with rfl | hc
      · exact hbk
      · exact hrest' c hc
    · rintro (hn | hn)
      · exact hout hn
      · exact absurd hn (by simp [hrest a List.mem_cons_self])
    · intro c hc
      exact hrest c (List.mem_cons_of_mem a hc)
    · intro m hm
      exact or_right_comm.1 hm
  | trans _ _ ih₁ ih₂ => exact ih₂ (ih₁ h)

theorem nodup {l : List α} (h : EachOwns covers outside l) : l.Nodup := by
  induction l generalizing outside with
  | nil => exact List.nodup_nil
  | cons a rest ih =>
    obtain ⟨⟨n, ha, -, hrest⟩, htail⟩ := h
    refine List.nodup_cons.2 ⟨?_, ih htail⟩
    intro hmem
    rw [hrest a hmem] at ha
    cases ha

/-- Entries that are exchanged for others which cover the same places under other names own the same
    places. -/
theorem map {β : Type} {covers' : β → Nat → Bool} {outside' : Nat → Prop} {f : α → β} {l : List α}
    (rename : Nat → Nat) (h : EachOwns covers outside l)
    (hcovers : ∀ a ∈ l, ∀ n, covers a n = true → ∀ b ∈ l, covers' (f b) (rename n) = covers b n)
    (hout : ∀ a ∈ l, ∀ n, covers a n = true → outside' (rename n) → outside n) :
    EachOwns covers' outside' (l.map f) := by
  induction l generalizing outside outside' with
  | nil => trivial
  | cons a rest ih =>
    obtain ⟨⟨n, ha, hn, hrest⟩, htail⟩ := h
    have hnames := hcovers a List.mem_cons_self n ha
    refine ⟨⟨rename n, ?_, fun h' => hn (hout a List.mem_cons_self n ha h'), ?_⟩, ih htail ?_ ?_⟩
    · rw [hnames a List.mem_cons_self, ha]
    · intro b hb
      obtain ⟨c, hc, rfl⟩ := List.mem_map.1 hb
      rw [hnames c (List.mem_cons_of_mem a hc), hrest c hc]
    · intro c hc k hk b hb
      exact hcovers c (List.mem_cons_of_mem a hc) k hk b (List.mem_cons_of_mem a hb)
    · intro c hc k hk hor
      have hc' := List.mem_cons_of_mem a hc
      rw [hcovers c hc' k hk a List.mem_cons_self] at hor
      exact hor.imp_left (hout c hc' k hk)

/-- What each entry owns, by its index. -/
theorem exists_own {l : List α} (h : EachOwns covers outside l) {i : Nat} (hi : i < l.length) :
    ∃ n, covers l[i] n = true ∧ ¬outside n ∧
      ∀ j (hj : j < l.length), j ≠ i → covers l[j] n = false := by
  induction l generalizing outside i with
  | nil => cases hi
  | cons a rest ih =>
    obtain ⟨⟨n, ha, hn, hrest⟩, htail⟩ := h
    cases i with
    | zero =>
      refine ⟨n, ha, hn, ?_⟩
      intro j hj hne
      cases j with
      | zero => exact absurd rfl hne
      | succ j => exact hrest _ (List.getElem_mem _)
    | succ i =>
      obtain ⟨k, hk, hout, hothers⟩ := ih htail (Nat.lt_of_succ_lt_succ hi)
      refine ⟨k, hk, fun h' => hout (.inl h'), ?_⟩
      intro j hj hne
      cases j with
      | zero => exact Bool.eq_false_iff.2 fun h' => hout (.inr h')
      | succ j => exact hothers j (Nat.lt_of_succ_lt_succ hj) fun heq => hne (congrArg (· + 1) heq)

end EachOwns

end Owning

theorem eraseDups_of_nodup {α : Type} [BEq α] [LawfulBEq α] {l : List α} (h : l.Nodup) :
    l.eraseDups = l := by
  induction l with
  | nil => rfl
  | cons a rest ih =>
    obtain ⟨ha, hrest⟩ := List.nodup_cons.1 h
    have hfilter : (rest.filter fun b => !b == a) = rest := by
      rw [List.filter_eq_self]
      intro b hb
      have hne : b ≠ a := fun heq => ha (heq ▸ hb)
      simp [hne]
    rw [List.eraseDups_cons, hfilter, ih hrest]

/-! ## Blocks -/

namespace Block

/-- Of blocks that are kept each owns a cell, among the kept ones and those still to be looked at. -/
theorem eachOwns_prune {before kept : List Block}
    (h : EachOwns covers (fun p => (before.any fun b => b.covers p) = true) kept) :
    EachOwns covers (fun _ => False) (prune before kept) := by
  induction before generalizing kept with
  | nil => exact h.mono fun p => False.elim
  | cons block before ih =>
    rw [prune]
    split
    · next hothers =>
      -- A block that is dropped leaves less outside.
      refine ih (h.mono ?_)
      intro p hp
      rw [List.any_cons, hp, Bool.or_true]
    · next hothers =>
      rw [Bool.not_eq_true, List.all_eq_false] at hothers
      obtain ⟨p, hp, hnot⟩ := hothers
      obtain ⟨hbefore, hkept⟩ := Bool.or_eq_false_iff.1 (Bool.not_eq_true _ ▸ hnot)
      refine ih ⟨⟨p, covers_iff.2 hp, by simp [hbefore], ?_⟩, h.mono ?_⟩
      · intro b hb
        exact Bool.eq_false_iff.2 (List.any_eq_false.1 hkept b hb)
      · intro q hq
        rw [List.any_cons, Bool.or_eq_true]
        exact hq.symm

theorem eachOwns_irredundant (blocks : List Block) :
    EachOwns covers (fun _ => False) (irredundant blocks) :=
  eachOwns_prune trivial

/-- The products of blocks of one map own the minterms of the cells that the blocks own. -/
theorem eachOwns_products {arity : Arity} {blocks : List Block}
    (harity : ∀ b ∈ blocks, b.arity = arity) (h : EachOwns covers (fun _ => False) blocks) :
    EachOwns Product.covers (fun m => arity.cells ≤ m) (blocks.map product) := by
  have hlt : ∀ a ∈ blocks, ∀ p, a.covers p = true → arity.mintermAt p < arity.cells := by
    intro a ha p hp
    have := lt_cells_of_covers hp
    rw [harity a ha] at this
    exact (arity.mintermAt_lt_cells_iff p).2 this
  refine h.map arity.mintermAt ?_ ?_
  · intro a ha p hp b hb
    rw [covers_product, harity b hb, Nat.mod_eq_of_lt (hlt a ha p hp), arity.positionOf_mintermAt]
  · intro a ha p hp hle
    exact absurd (hlt a ha p hp) (Nat.not_lt.2 hle)

end Block

/-! ## Products -/

namespace Product

theorem eq_false_of_mem_mergePairs {products : List Product} {minterm : Nat}
    (h : ∀ p ∈ products, p.covers minterm = false) :
    ∀ p ∈ mergePairs products, p.covers minterm = false := by
  have hnone : (products.any fun p => p.covers minterm) = false := by
    simpa using h
  rw [← any_covers_mergePairs] at hnone
  simpa using hnone

/-- A joined product owns what the first of the two owned, and takes nothing from the others. -/
theorem eachOwns_mergePairs {outside : Nat → Prop} {products : List Product}
    (h : EachOwns covers outside products) : EachOwns covers outside (mergePairs products) := by
  fun_induction mergePairs products generalizing outside with
  | case1 => trivial
  | case2 p rest joined others hpartner ih =>
    obtain ⟨before, q, after, rfl, rfl, hq, -⟩ := partner?_spec hpartner
    obtain ⟨⟨m, hp, hm, hrest⟩, -, htail⟩ := h.perm (List.perm_middle.cons p)
    have hjoined := covers_merge? hq
    refine ⟨⟨m, ?_, hm, ?_⟩, ih (htail.mono ?_)⟩
    · rw [hjoined, hp, Bool.true_or]
    · exact eq_false_of_mem_mergePairs fun r hr => hrest r (List.mem_cons_of_mem q hr)
    · intro n hn
      rw [hjoined, Bool.or_eq_true, ← or_assoc] at hn
      exact hn
  | case3 p rest hpartner ih =>
    obtain ⟨⟨m, hp, hm, hrest⟩, htail⟩ := h
    exact ⟨⟨m, hp, hm, eq_false_of_mem_mergePairs hrest⟩, ih htail⟩

theorem eachOwns_tidy {outside : Nat → Prop} {products : List Product} (merge : Bool)
    (h : EachOwns covers outside products) : EachOwns covers outside (tidy merge products) := by
  rw [tidy, eraseDups_of_nodup h.nodup]
  split
  · exact eachOwns_mergePairs h
  · exact h

end Product

/-! ## Sums -/

namespace SumOfProducts

theorem eachOwns_one (arity : Arity) :
    EachOwns Product.covers (fun m => arity.cells ≤ m) (one arity).products := by
  refine ⟨⟨0, Product.covers_universal arity 0, ?_, by simp⟩, trivial⟩
  exact Nat.not_le.2 arity.cells_pos

theorem eachOwns_ofProducts {arity : Arity} {products : List Product}
    (h : EachOwns Product.covers (fun m => arity.cells ≤ m) products) :
    EachOwns Product.covers (fun m => arity.cells ≤ m) (ofProducts arity products).products := by
  unfold ofProducts
  split
  · exact eachOwns_one arity
  · exact h

theorem arity_ofProducts (arity : Arity) (products : List Product) :
    (ofProducts arity products).arity = arity := by
  unfold ofProducts
  split <;> rfl

/-- Without a product that owns a minterm of the map the sum has another map. -/
theorem toGrid_eraseIdx_ne {sum : SumOfProducts} {i minterm : Nat} (hi : i < sum.products.length)
    (hm : minterm < sum.arity.cells) (hown : sum.products[i].covers minterm = true)
    (hothers : ∀ j (hj : j < sum.products.length), j ≠ i →
      sum.products[j].covers minterm = false) :
    (ofProducts sum.arity (sum.products.eraseIdx i)).toGrid ≠ sum.toGrid := by
  intro hgrid
  have hless : (ofProducts sum.arity (sum.products.eraseIdx i)).evaluate minterm = false := by
    rw [evaluate_ofProducts, List.any_eq_false]
    intro p hp
    obtain ⟨j, hj, hne, rfl⟩ := List.mem_eraseIdx_iff_getElem.1 hp
    rw [hothers j hj hne]
    exact Bool.false_ne_true
  have hfull : sum.evaluate minterm = true :=
    evaluate_eq_true_iff.2 ⟨_, List.getElem_mem hi, hown⟩
  have harity := arity_ofProducts sum.arity (sum.products.eraseIdx i)
  -- Both maps are read in the cell of the minterm.
  have hcell := isSet_toGrid (harity.symm ▸ hm)
  rw [harity, hless, hgrid, isSet_toGrid hm, hfull] at hcell
  cases hcell

end SumOfProducts

namespace Solution

theorem eachOwns_products_ofBlocks (merge : Bool) {arity : Arity} {blocks : List Block}
    (harity : ∀ b ∈ blocks, b.arity = arity) :
    EachOwns Product.covers (fun m => arity.cells ≤ m)
      (ofBlocks ⟨true, merge⟩ arity blocks).sum.products := by
  unfold ofBlocks
  split
  · exact SumOfProducts.eachOwns_one arity
  · have hproducts := Block.eachOwns_products
      (fun b hb => harity b (Block.mem_of_mem_irredundant hb)) (Block.eachOwns_irredundant blocks)
    cases arity with
    | two => exact SumOfProducts.eachOwns_ofProducts hproducts
    | three => exact SumOfProducts.eachOwns_ofProducts (Product.eachOwns_tidy merge hproducts)

/-- **Every product of a sum is needed.** Made from any list of blocks of one map with the pass that
    drops blocks, whether or not products are joined: each product covers a minterm of the map that no
    other entry of the list of products covers, so none is repeated or implied by another, and without
    it the sum has another map. -/
theorem each_product_owns_minterm (merge : Bool) (arity : Arity) (blocks : List Block)
    (harity : ∀ b ∈ blocks, b.arity = arity) :
    let sum := (ofBlocks ⟨true, merge⟩ arity blocks).sum
    ∀ i (hi : i < sum.products.length),
      (∃ m < arity.cells, sum.products[i].covers m = true ∧
        ∀ j (hj : j < sum.products.length), j ≠ i → sum.products[j].covers m = false) ∧
      (SumOfProducts.ofProducts arity (sum.products.eraseIdx i)).toGrid ≠ sum.toGrid := by
  intro sum i hi
  have hsum : sum.arity = arity := arity_sum_ofBlocks _ arity blocks
  have hall : EachOwns Product.covers (fun m => arity.cells ≤ m) sum.products :=
    eachOwns_products_ofBlocks merge harity
  obtain ⟨m, hown, hout, hothers⟩ := hall.exists_own hi
  have hm : m < arity.cells := Nat.not_le.1 hout
  refine ⟨⟨m, hm, hown, hothers⟩, ?_⟩
  rw [← hsum] at hm ⊢
  exact SumOfProducts.toGrid_eraseIdx_ne hi hm hown hothers

/-- Two of six blocks are dropped, two products are joined. -/
theorem joined_product_owns_minterm :
    let blocks := (Grid.ofFn .three fun p => p == 0 || p == 5).cover ++
      (Grid.ofFn .three fun p => p == 1 || p == 7 || p == 5).cover ++
      (Grid.ofFn .three fun p => p == 6 || p == 0).cover
    let sum := (ofBlocks ⟨true, true⟩ .three blocks).sum
    (∀ b ∈ blocks, b.arity = .three) ∧
      ∃ hi : 2 < sum.products.length,
        (∃ m < Arity.three.cells, sum.products[2].covers m = true ∧
          ∀ j (hj : j < sum.products.length), j ≠ 2 → sum.products[j].covers m = false) ∧
        (SumOfProducts.ofProducts .three (sum.products.eraseIdx 2)).toGrid ≠ sum.toGrid := by
  intro blocks sum
  have harity : ∀ b ∈ blocks, b.arity = .three := by decide +kernel
  have hi : 2 < sum.products.length := by decide +kernel
  exact ⟨harity, hi, each_product_owns_minterm true .three blocks harity 2 hi⟩

end Solution

end Karnaugh
