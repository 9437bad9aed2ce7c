import Karnaugh.Proofs.Merge

set_option autoImplicit false

/-! # The product of some minterms is the least that covers them

`Product.spanning` keeps the requirements that all given minterms meet (`input?_spanning`). So it covers
each of them (`covers_spanning_of_mem`), and what it covers is covered by every product that covers them
all, since such a product can only require what they share (`covers_of_covers_spanning`). The values of
the variables are in the low bits, so neither the order of the minterms nor their number nor their high
bits matter (`spanning_congr`). -/

namespace Karnaugh

namespace Product

variable {arity : Arity} {minterms : List Nat}

theorem covers_spanning_of_mem {m : Nat} (hm : m ∈ minterms) :
    (spanning arity minterms).covers m = true := by
  rw [covers_iff, arity_spanning]
  intro v hv value hvalue
  exact ((input?_spanning hv value).1 hvalue).2 m hm

/-- A product that covers some minterms covers all that their own product covers. -/
theorem covers_of_covers_spanning (hne : minterms ≠ []) {product : Product}
    (harity : product.arity = arity) (hall : ∀ m ∈ minterms, product.covers m = true) {n : Nat}
    (hn : (spanning arity minterms).covers n = true) : product.covers n = true := by
  subst harity
  rw [covers_iff, arity_spanning] at hn
  rw [covers_iff]
  intro v hv value hvalue
  have hshared : ∀ m ∈ minterms, product.arity.input m v = value := by
    intro m hm
    exact covers_iff.1 (hall m hm) v hv value hvalue
  exact hn v hv value ((input?_spanning hv value).2 ⟨hne, hshared⟩)

/-- Lists of minterms with the same low bits have the same product. -/
theorem spanning_congr {others : List Nat}
    (h : ∀ low, low ∈ others.map (· % arity.cells) ↔ low ∈ minterms.map (· % arity.cells)) :
    spanning arity others = spanning arity minterms := by
  -- What the product of a list requires can be said of the low bits alone.
  have hlow : ∀ (ms : List Nat) (v : Variable), v ∈ arity.vars → ∀ value,
      (spanning arity ms).input? v = some value ↔
        (¬∀ low, low ∉ ms.map (· % arity.cells)) ∧
          ∀ low ∈ ms.map (· % arity.cells), arity.input low v = value := by
    intro ms v hv value
    rw [input?_spanning hv, ← List.eq_nil_iff_forall_not_mem, List.map_eq_nil_iff,
      List.forall_mem_map]
    simp only [arity.input_mod_cells, ne_eq]
  refine ext_input? (by rw [arity_spanning, arity_spanning]) fun v hv => ?_
  rw [arity_spanning] at hv
  refine Option.ext fun value => ?_
  rw [hlow others v hv, hlow minterms v hv]
  simp only [h]

/-- **The product of some minterms is the least that covers them.** Of a list with at least one minterm,
    however large, it covers each minterm, and whatever it covers is covered by every product of the map
    that covers them all. It depends only on the set of the low bits of the minterms, one for each
    variable, not on their order or repetition. -/
theorem spanning_least_cover (arity : Arity) (minterms : List Nat) (hne : minterms ≠ []) :
    let least := spanning arity minterms
    least.arity = arity ∧
      (∀ m ∈ minterms, least.covers m = true) ∧
      (∀ product : Product, product.arity = arity → (∀ m ∈ minterms, product.covers m = true) →
        ∀ n, least.covers n = true → product.covers n = true) ∧
      ∀ others : List Nat,
        (∀ low, low ∈ others.map (· % arity.cells) ↔ low ∈ minterms.map (· % arity.cells)) →
        spanning arity others = least := by
  intro least
  refine ⟨arity_spanning arity minterms, fun m hm => covers_spanning_of_mem hm, ?_, ?_⟩
  · intro product harity hall n hn
    exact covers_of_covers_spanning hne harity hall hn
  · intro others hothers
    exact spanning_congr hothers

/-- Minterms beyond the map, one of them repeated, have the product `AB'` of 4 and 5. -/
theorem spanning_least_cover_of_repeated :
    let least := spanning .three [13, 4, 29]
    [13, 4, 29] ≠ [] ∧ least = ⟨.three, [some true, some false, none], rfl⟩ ∧
      (∀ m ∈ [13, 4, 29], least.covers m = true) ∧ spanning .three [4, 5] = least := by
  intro least
  have hne : [13, 4, 29] ≠ [] := List.cons_ne_nil 13 [4, 29]
  obtain ⟨-, hcovers, -, hlow⟩ := spanning_least_cover .three [13, 4, 29] hne
  refine ⟨hne, by decide, hcovers, hlow [4, 5] fun low => ?_⟩
  have hmaps : [4, 5].map (· % Arity.three.cells) = [4, 5] ∧
      [13, 4, 29].map (· % Arity.three.cells) = [5, 4, 5] := by decide
  rw [hmaps.1, hmaps.2]
  simp only [List.mem_cons, List.not_mem_nil, or_false]
  omega

end Product

end Karnaugh
