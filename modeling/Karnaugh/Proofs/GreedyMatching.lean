import Karnaugh.Proofs.Merge

set_option autoImplicit false

/-! # Joining products is a greedy matching

The pass that joins products takes partners out of the list. Seen from the list it began with, it pairs
up places: each place is used once, by a product that stays `alone` or in a `pair` that is joined
(`Use`). `Matching` says what holds of the uses while only some places are free, and one lemma for each
of the two steps of the pass carries it on (`Matching.alone`, `Matching.pair`). So every run is a
matching that leaves no two products alone which could be joined, and that takes for each product the
first partner still free (`mergePairs_greedy_matching`). -/

namespace Karnaugh

namespace Product

/-! ## Which products cannot be joined -/

theorem differences_comm (start : Nat) (xs ys : List (Option Bool)) :
    differences start xs ys = differences start ys xs := by
  induction xs generalizing start ys with
  | nil => cases ys <;> rfl
  | cons x xs ih =>
    cases ys with
    | nil => rfl
    | cons y ys =>
      rw [differences, differences, ih]
      simp only [eq_comm]

theorem differences_self (start : Nat) (xs : List (Option Bool)) : differences start xs xs = [] := by
  induction xs generalizing start with
  | nil => rfl
  | cons x xs ih => rw [differences, if_pos rfl, ih]

theorem merge?_self (p : Product) : p.merge? p = none := by
  rw [merge?, if_pos rfl, difference?, differences_self]
  rfl

theorem merge?_eq_none_symm {p q : Product} (h : p.merge? q = none) : q.merge? p = none := by
  unfold merge? at h ⊢
  split
  · next harity =>
    rw [if_pos harity.symm, Option.map_eq_none_iff, difference?, differences_comm] at h
    exact Option.map_eq_none_iff.2 h
  · rfl

theorem merge?_eq_none_of_partner? {p : Product} {rest : List Product} (h : partner? p rest = none)
    (r : Product) (hr : r ∈ rest) : p.merge? r = none := by
  induction rest with
  | nil => cases hr
  | cons q rest ih =>
    rw [partner?] at h
    split at h
    · cases h
    · next hnone =>
      rcases List.mem_cons.1 hr with rfl | hr
      · exact hnone
      · exact ih (Option.map_eq_none_iff.1 h) hr

/-! ## Uses of places -/

/-- What becomes of the products at one or two places of a list. -/
inductive Use
  /-- The product stays as it is. -/
  | alone (place : Nat)
  /-- The two products are joined. -/
  | pair (first second : Nat)
  deriving DecidableEq

namespace Use

/-- The places that are used up. -/
def places : Use → List Nat
  | alone i => [i]
  | pair i j => [i, j]

/-- The place at which the use is decided on. -/
def first : Use → Nat
  | alone i => i
  | pair i _ => i

theorem first_mem_places (use : Use) : use.first ∈ use.places := by
  cases use <;> exact List.mem_cons_self

end Use

/-- The product that joins those at two places of a list. -/
def joinAt? (products : List Product) (i j : Nat) : Option Product :=
  products[i]?.bind fun p => products[j]?.bind p.merge?

/-- The product that a use gives. -/
def Use.outcome? (products : List Product) : Use → Option Product
  | alone i => products[i]?
  | pair i j => joinAt? products i j

theorem joinAt?_self (products : List Product) (i : Nat) : joinAt? products i i = none := by
  unfold joinAt?
  cases products[i]? with
  | none => rfl
  | some p => exact merge?_self p

theorem joinAt?_eq_none_symm {products : List Product} {i j : Nat}
    (h : joinAt? products i j = none) : joinAt? products j i = none := by
  unfold joinAt? at h ⊢
  cases hj : products[j]? with
  | none => rfl
  | some q =>
    cases hi : products[i]? with
    | none => rfl
    | some p =>
      rw [hi, hj] at h
      exact merge?_eq_none_symm h

/-! ## Matchings -/

/-- The uses of the free places of a list, as greedy pairing makes them. -/
structure Matching (products : List Product) (free : List Nat) (uses : List Use) : Prop where
  /-- Every free place is used exactly once, and no other. -/
  perm : (uses.flatMap Use.places).Perm free
  /-- The uses come in the order of their first places. -/
  ordered : uses.Pairwise fun u v => u.first < v.first
  /-- A partner comes later. -/
  forward : ∀ i j, .pair i j ∈ uses → i < j
  /-- Products that stay could not have been joined. -/
  maximal : ∀ i j, .alone i ∈ uses → .alone j ∈ uses → joinAt? products i j = none
  /-- No place between the two of a pair was free at that moment and had a product to join with. -/
  earliest : ∀ before i j after, uses = before ++ .pair i j :: after →
    ∀ k ∈ free, i < k → k < j → k ∉ before.flatMap Use.places → joinAt? products i k = none

namespace Matching

variable {products : List Product} {uses : List Use} {free : List Nat}

theorem nil : Matching products [] [] where
  perm := List.Perm.refl []
  ordered := List.Pairwise.nil
  forward := by simp
  maximal := by simp
  earliest := by simp

theorem mem_free {use : Use} {i : Nat} (h : Matching products free uses) (huse : use ∈ uses)
    (hi : i ∈ use.places) : i ∈ free :=
  h.perm.subset (List.mem_flatMap.2 ⟨use, huse, hi⟩)

theorem first_mem_free {use : Use} (h : Matching products free uses) (huse : use ∈ uses) :
    use.first ∈ free :=
  h.mem_free huse use.first_mem_places

/-- A product that cannot be joined with any of the free ones after it stays alone. -/
theorem alone {i : Nat} (h : Matching products free uses) (hlater : ∀ k ∈ free, i < k)
    (hnone : ∀ k ∈ free, joinAt? products i k = none) :
    Matching products (i :: free) (.alone i :: uses) where
  perm := h.perm.cons i
  ordered := List.pairwise_cons.2 ⟨fun _ huse => hlater _ (h.first_mem_free huse), h.ordered⟩
  forward := by
    intro a b hab
    rcases List.mem_cons.1 hab with heq | hab
    · cases heq
    · exact h.forward a b hab
  maximal := by
    have hstays : ∀ j, .alone j ∈ uses → j ∈ free := fun j hj => h.first_mem_free hj
    intro a b ha hb
    rcases List.mem_cons.1 ha with heqa | ha
    · cases heqa
      rcases List.mem_cons.1 hb with heqb | hb
      · cases heqb
        exact joinAt?_self products _
      · exact hnone b (hstays b hb)
    · rcases List.mem_cons.1 hb with heqb | hb
      · cases heqb
        exact joinAt?_eq_none_symm (hnone a (hstays a ha))
      · exact h.maximal a b ha hb
  earliest := by
    intro before a b after heq k hk hak hkb hunused
    cases before with
    | nil => cases heq
    | cons use before =>
      obtain ⟨rfl, rfl⟩ := List.cons.inj heq
      rw [List.flatMap_cons, List.mem_append, not_or] at hunused
      -- The place of the new use is not among those still free.
      have hki : k ≠ i := fun hki => hunused.1 (List.mem_singleton.2 hki)
      have hkfree := List.mem_of_ne_of_mem hki hk
      exact h.earliest before a b after rfl k hkfree hak hkb hunused.2

/-- A product is joined with the first free one after it that it can be joined with. -/
theorem pair {i j : Nat} {skipped others : List Nat}
    (h : Matching products (skipped ++ others) uses) (hskipped : ∀ k ∈ skipped, i < k)
    (hij : i < j) (hothers : ∀ k ∈ others, j < k)
    (hnone : ∀ k ∈ skipped, joinAt? products i k = none) :
    Matching products (i :: (skipped ++ j :: others)) (.pair i j :: uses) where
  perm := by
    have hperm : (j :: (skipped ++ others)).Perm (skipped ++ j :: others) := List.perm_middle.symm
    exact ((h.perm.cons j).trans hperm).cons i
  ordered := by
    refine List.pairwise_cons.2 ⟨fun use huse => ?_, h.ordered⟩
    rcases List.mem_append.1 (h.first_mem_free huse) with hk | hk
    · exact hskipped _ hk
    · exact Nat.lt_trans hij (hothers _ hk)
  forward := by
    intro a b hab
    rcases List.mem_cons.1 hab with heq | hab
    · cases heq
      exact hij
    · exact h.forward a b hab
  maximal := by
    intro a b ha hb
    rcases List.mem_cons.1 ha with heq | ha
    · cases heq
    rcases List.mem_cons.1 hb with heq | hb
    · cases heq
    exact h.maximal a b ha hb
  earliest := by
    intro before a b after heq k hk hak hkb hunused
    cases before with
    | nil =>
      obtain ⟨hpair, rfl⟩ := List.cons.inj heq
      cases hpair
      -- A free place between the two is one that was passed over.
      rcases List.mem_cons.1 hk with rfl | hk
      · exact absurd hak (Nat.lt_irrefl k)
      rcases List.mem_append.1 hk with hk | hk
      · exact hnone k hk
      rcases List.mem_cons.1 hk with rfl | hk
      · exact absurd hkb (Nat.lt_irrefl k)
      · exact absurd hkb (Nat.lt_asymm (hothers k hk))
    | cons use before =>
      obtain ⟨rfl, rfl⟩ := List.cons.inj heq
      rw [List.flatMap_cons, List.mem_append, not_or] at hunused
      have hki : k ≠ i := fun hki => hunused.1 (hki ▸ List.mem_cons_self)
      have hkj : k ≠ j := fun hkj => hunused.1 (hkj ▸ List.mem_cons_of_mem i List.mem_cons_self)
      have hkfree : k ∈ skipped ++ others := by
        have hk := List.perm_middle.subset (List.mem_of_ne_of_mem hki hk)
        exact List.mem_of_ne_of_mem hkj hk
      exact h.earliest before a b after rfl k hkfree hak hkb hunused.2

end Matching

/-! ## The pass -/

/-- From any point of the pass on, the products still free are used by a matching of their places. -/
theorem exists_matching {products rest : List Product} {free : List Nat}
    (hfree : free.map (fun i => products[i]?) = rest.map some) (hsorted : free.Pairwise (· < ·)) :
    ∃ uses, Matching products free uses ∧
      uses.map (Use.outcome? products) = (mergePairs rest).map some := by
  have hlook : ∀ {places : List Nat} {found : List Product},
      places.map (fun i => products[i]?) = found.map some →
      ∀ k ∈ places, ∃ r ∈ found, products[k]? = some r := by
    intro places found hplaces k hk
    have hmem : products[k]? ∈ found.map some := hplaces ▸ List.mem_map.2 ⟨k, hk, rfl⟩
    obtain ⟨r, hr, heq⟩ := List.mem_map.1 hmem
    exact ⟨r, hr, heq.symm⟩
  fun_induction mergePairs rest generalizing free with
  | case1 =>
    obtain rfl := List.map_eq_nil_iff.1 hfree
    exact ⟨[], Matching.nil, rfl⟩
  | case2 p rest joined others hpartner ih =>
    obtain ⟨before, q, after, rfl, rfl, hq, hbefore⟩ := partner?_spec hpartner
    obtain ⟨i, tail, rfl, hi, htail⟩ := List.map_eq_cons_iff.1 hfree
    rw [List.map_append] at htail
    obtain ⟨skipped, tail, rfl, hskipped, htail⟩ := List.map_eq_append_iff.1 htail
    obtain ⟨j, later, rfl, hj, hlater⟩ := List.map_eq_cons_iff.1 htail
    obtain ⟨hfirst, htailSorted⟩ := List.pairwise_cons.1 hsorted
    obtain ⟨-, hjSorted, -⟩ := List.pairwise_append.1 htailSorted
    obtain ⟨uses, hmatching, houtcome⟩ := ih
      (by rw [List.map_append, List.map_append, hskipped, hlater])
      (htailSorted.sublist ((List.sublist_cons_self j later).append_left skipped))
    refine ⟨.pair i j :: uses, hmatching.pair ?_ ?_ ?_ ?_, ?_⟩
    · exact fun k hk => hfirst k (List.mem_append_left _ hk)
    · exact hfirst j (List.mem_append_right _ List.mem_cons_self)
    · exact (List.pairwise_cons.1 hjSorted).1
    · intro k hk
      obtain ⟨r, hr, hkr⟩ := hlook hskipped k hk
      rw [joinAt?, hi, hkr]
      exact hbefore r hr
    · have hjoin : joinAt? products i j = some joined := by
        rw [joinAt?, hi, hj]
        exact hq
      rw [List.map_cons, List.map_cons, Use.outcome?, hjoin, houtcome]
  | case3 p rest hpartner ih =>
    obtain ⟨i, tail, rfl, hi, htail⟩ := List.map_eq_cons_iff.1 hfree
    obtain ⟨hfirst, htailSorted⟩ := List.pairwise_cons.1 hsorted
    obtain ⟨uses, hmatching, houtcome⟩ := ih htail htailSorted
    refine ⟨.alone i :: uses, hmatching.alone hfirst ?_, ?_⟩
    · intro k hk
      obtain ⟨r, hr, hkr⟩ := hlook htail k hk
      rw [joinAt?, hi, hkr]
      exact merge?_eq_none_of_partner? hpartner r hr
    · rw [List.map_cons, List.map_cons, Use.outcome?, hi, houtcome]

/-- **Joining products is a maximal greedy matching that keeps the meaning.** Of any list of products,
    of one map or of both, each place is used exactly once: its product stays, or it is joined with one
    other. What the pass gives are the outcomes of these uses in the order of their first places; no two
    products that stay could be joined, and a product is joined with the first later one that is still
    free and can be joined. A minterm is covered afterwards exactly when it was covered before. -/
theorem mergePairs_greedy_matching (products : List Product) :
    (∃ uses, Matching products (List.range products.length) uses ∧
      uses.map (Use.outcome? products) = (mergePairs products).map some) ∧
    ∀ minterm, (∃ p ∈ mergePairs products, p.covers minterm = true) ↔
      ∃ p ∈ products, p.covers minterm = true := by
  constructor
  · refine exists_matching ?_ List.pairwise_lt_range
    refine List.ext_getElem (by simp) fun i hi hi' => ?_
    simp
  · intro minterm
    rw [← List.any_eq_true, ← List.any_eq_true, any_covers_mergePairs]

end Product

end Karnaugh
