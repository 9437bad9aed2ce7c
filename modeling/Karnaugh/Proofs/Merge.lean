import Karnaugh.Solution

set_option autoImplicit false

/-! # What joining products does

`Product.merge?` is read off the inputs of single variables: it fires on products of one size that
differ in exactly one variable, and drops that variable (`merge?_spec`). The joined product then
covers what the two covered together (`covers_merge?`), also where one product requires nothing of the
variable and the other is absorbed. The greedy pass takes partners out of the list of the products
still free (`partner?_spec`), so no minterm is gained or lost by it (`any_covers_mergePairs`), nor by
dropping repetitions (`any_covers_tidy`). -/

namespace Karnaugh

/-! ## Variables and places -/

namespace Arity

theorem index_lt_count {arity : Arity} {v : Variable} (h : v ∈ arity.vars) :
    v.index < arity.count := by
  revert v
  cases arity <;> decide

theorem exists_var_of_lt_count (arity : Arity) {place : Nat} (h : place < arity.count) :
    ∃ v ∈ arity.vars, v.index = place := by
  revert place
  cases arity <;> decide

/-- The value of a variable is in the bits below `cells`. -/
theorem input_mod_cells (arity : Arity) (minterm : Nat) (v : Variable) :
    arity.input (minterm % arity.cells) v = arity.input minterm v := by
  have hbit : arity.bit v < arity.count := by
    cases arity <;> cases v <;> decide
  rw [input, input, cells, Nat.one_shiftLeft, Nat.testBit_mod_two_pow]
  simp [hbit]

end Arity

theorem Variable.index_injective {v w : Variable} (h : v.index = w.index) : v = w := by
  revert h
  cases v <;> cases w <;> decide

namespace Product

/-! ## Covering -/

/-- Only the bits below `cells` decide whether a minterm is covered. -/
theorem covers_mod_cells (product : Product) (minterm : Nat) :
    product.covers (minterm % product.arity.cells) = product.covers minterm := by
  rw [Bool.eq_iff_iff, covers_iff, covers_iff]
  simp only [Arity.input_mod_cells]

theorem covers_universal (arity : Arity) (minterm : Nat) :
    (universal arity).covers minterm = true := by
  cases arity <;> rfl

/-! ## The difference of two products -/

theorem mem_differences {start place : Nat} {xs ys : List (Option Bool)} :
    place ∈ differences start xs ys ↔
      ∃ k x y, place = start + k ∧ xs[k]? = some x ∧ ys[k]? = some y ∧ x ≠ y := by
  induction xs generalizing start ys with
  | nil => simp [differences]
  | cons x xs ih =>
    cases ys with
    | nil => simp [differences]
    | cons y ys =>
      -- The place is that of the head, or one further along in the tails.
      have hsplit :
          (∃ k a b, place = start + k ∧ (x :: xs)[k]? = some a ∧ (y :: ys)[k]? = some b ∧ a ≠ b) ↔
          (place = start ∧ x ≠ y) ∨
            ∃ k a b, place = start + 1 + k ∧ xs[k]? = some a ∧ ys[k]? = some b ∧ a ≠ b := by
        constructor
        · rintro ⟨k, a, b, hplace, ha, hb, hne⟩
          cases k with
          | zero =>
            simp only [List.getElem?_cons_zero, Option.some.injEq] at ha hb
            exact .inl ⟨hplace, ha ▸ hb ▸ hne⟩
          | succ k => exact .inr ⟨k, a, b, by omega, by simpa using ha, by simpa using hb, hne⟩
        · rintro (⟨hplace, hne⟩ | ⟨k, a, b, hplace, ha, hb, hne⟩)
          · exact ⟨0, x, y, hplace, rfl, rfl, hne⟩
          · exact ⟨k + 1, a, b, by omega, by simpa using ha, by simpa using hb, hne⟩
      rw [hsplit, differences]
      split
      · next heq => simp [ih, heq]
      · next hne => simp [ih, hne]

theorem getElem?_inputs {product : Product} {v : Variable} (h : v ∈ product.arity.vars) :
    product.inputs[v.index]? = some (product.input? v) := by
  have hlt : v.index < product.inputs.length := by
    rw [product.length_inputs]
    exact Arity.index_lt_count h
  simp [input?, hlt]

/-- Products of one size differ at the place of a variable when they require different things of it. -/
theorem index_mem_differences {p q : Product} (harity : q.arity = p.arity) {v : Variable}
    (hv : v ∈ p.arity.vars) :
    v.index ∈ differences 0 p.inputs q.inputs ↔ p.input? v ≠ q.input? v := by
  have hp := getElem?_inputs hv
  have hq := getElem?_inputs (harity ▸ hv : v ∈ q.arity.vars)
  rw [mem_differences]
  constructor
  · rintro ⟨k, x, y, hk, hx, hy, hne⟩
    obtain rfl : v.index = k := by omega
    rw [hp, Option.some.injEq] at hx
    rw [hq, Option.some.injEq] at hy
    exact hx ▸ hy ▸ hne
  · intro hne
    exact ⟨v.index, _, _, (Nat.zero_add _).symm, hp, hq, hne⟩

/-! ## Joining two products -/

theorem input?_relax {product : Product} {v : Variable} (hv : v ∈ product.arity.vars) (place : Nat) :
    (product.relax place).input? v = if v.index = place then none else product.input? v := by
  have hlt : v.index < product.inputs.length := by
    rw [product.length_inputs]
    exact Arity.index_lt_count hv
  by_cases h : v.index = place
  · simp [input?, relax, ← h, hlt]
  · simp [input?, relax, h, List.getElem?_set_ne (Ne.symm h)]

/-- Products are joined when they belong to one map and differ in one variable, which the joined
    product leaves open. -/
theorem merge?_spec {p q joined : Product} (h : p.merge? q = some joined) :
    q.arity = p.arity ∧ joined.arity = p.arity ∧
      ∃ v ∈ p.arity.vars, p.input? v ≠ q.input? v ∧ joined.input? v = none ∧
        ∀ w ∈ p.arity.vars, w ≠ v → q.input? w = p.input? w ∧ joined.input? w = p.input? w := by
  unfold merge? at h
  split at h
  · next harity =>
    obtain ⟨place, hplace, rfl⟩ := Option.map_eq_some_iff.1 h
    have hdiff : differences 0 p.inputs q.inputs = [place] := by
      unfold difference? at hplace
      split at hplace <;> simp_all
    have hmem : ∀ k, k ∈ differences 0 p.inputs q.inputs ↔ k = place := by
      simp [hdiff]
    have hlt : place < p.arity.count := by
      obtain ⟨k, x, y, hk, hx, -, -⟩ := mem_differences.1 ((hmem place).2 rfl)
      obtain ⟨hk', -⟩ := List.getElem?_eq_some_iff.1 hx
      rw [p.length_inputs] at hk'
      omega
    obtain ⟨v, hv, rfl⟩ := p.arity.exists_var_of_lt_count hlt
    refine ⟨harity.symm, rfl, v, hv, ?_, ?_, fun w hw hne => ⟨?_, ?_⟩⟩
    · exact (index_mem_differences harity.symm hv).1 ((hmem _).2 rfl)
    · rw [input?_relax hv, if_pos rfl]
    · refine Decidable.byContradiction fun hneq => hne ?_
      have := (index_mem_differences harity.symm hw).2 (Ne.symm hneq)
      exact Variable.index_injective ((hmem _).1 this)
    · rw [input?_relax hw, if_neg fun heq => hne (Variable.index_injective heq)]
  · cases h

/-- The joined product covers what the two covered. -/
theorem covers_merge? {p q joined : Product} (h : p.merge? q = some joined) (minterm : Nat) :
    joined.covers minterm = (p.covers minterm || q.covers minterm) := by
  obtain ⟨hq, hjoined, v, hv, hne, hnone, hothers⟩ := merge?_spec h
  rw [Bool.eq_iff_iff, Bool.or_eq_true, covers_iff, covers_iff, covers_iff, hq, hjoined]
  constructor
  · intro hall
    -- Off `v` all three products require the same; at `v` the minterm meets one of the two.
    have hcase : (∀ value, p.input? v = some value → p.arity.input minterm v = value) ∨
        (∀ value, q.input? v = some value → p.arity.input minterm v = value) := by
      cases hpv : p.input? v with
      | none => exact .inl fun value hvalue => by cases hvalue
      | some a =>
        by_cases ha : p.arity.input minterm v = a
        · exact .inl fun value hvalue => by rw [ha]; exact Option.some.inj hvalue
        · refine .inr fun b hb => ?_
          have hab : a ≠ b := fun heq => hne (by rw [hpv, hb, heq])
          revert ha hab
          cases p.arity.input minterm v <;> cases a <;> cases b <;> simp
    refine hcase.imp (fun hp w hw value hvalue => ?_) (fun hq w hw value hvalue => ?_)
    · by_cases hwv : w = v
      · exact hwv ▸ hp value (hwv ▸ hvalue)
      · exact hall w hw value ((hothers w hw hwv).2.trans hvalue)
    · by_cases hwv : w = v
      · exact hwv ▸ hq value (hwv ▸ hvalue)
      · obtain ⟨hqw, hjw⟩ := hothers w hw hwv
        exact hall w hw value (hjw.trans (hqw.symm.trans hvalue))
  · intro hor w hw value hvalue
    by_cases hwv : w = v
    · rw [hwv, hnone] at hvalue
      cases hvalue
    · obtain ⟨hqw, hjw⟩ := hothers w hw hwv
      rcases hor with hp | hq
      · exact hp w hw value (hjw.symm.trans hvalue)
      · exact hq w hw value (hqw.trans (hjw.symm.trans hvalue))

/-! ## Joining in a list -/

/-- A partner is the first product of the list that can be joined with; the others stay in their
    order. -/
theorem partner?_spec {p joined : Product} {rest others : List Product}
    (h : partner? p rest = some (joined, others)) :
    ∃ before q after, rest = before ++ q :: after ∧ others = before ++ after ∧
      p.merge? q = some joined ∧ ∀ r ∈ before, p.merge? r = none := by
  induction rest generalizing others with
  | nil => simp [partner?] at h
  | cons q rest ih =>
    rw [partner?] at h
    split at h
    · next j hj =>
      cases h
      exact ⟨[], q, rest, rfl, rfl, hj, by simp⟩
    · next hnone =>
      simp only [Option.map_eq_some_iff, Prod.exists, Prod.mk.injEq] at h
      obtain ⟨j, o, ho, rfl, rfl⟩ := h
      obtain ⟨before, r, after, rfl, rfl, hr, hbefore⟩ := ih ho
      refine ⟨q :: before, r, after, rfl, rfl, hr, ?_⟩
      intro s hs
      rcases List.mem_cons.1 hs with rfl | hs
      · exact hnone
      · exact hbefore s hs

/-- Joining in pairs neither gains nor loses a minterm. -/
theorem any_covers_mergePairs (products : List Product) (minterm : Nat) :
    ((mergePairs products).any fun p => p.covers minterm) =
      products.any fun p => p.covers minterm := by
  fun_induction mergePairs products with
  | case1 => rfl
  | case2 p rest joined others h ih =>
    obtain ⟨before, q, after, rfl, rfl, hq, -⟩ := partner?_spec h
    rw [List.any_cons, ih, covers_merge? hq]
    simp only [List.any_cons, List.any_append]
    ac_rfl
  | case3 p rest h ih => rw [List.any_cons, List.any_cons, ih]

theorem any_covers_tidy (merge : Bool) (products : List Product) (minterm : Nat) :
    ((tidy merge products).any fun p => p.covers minterm) =
      products.any fun p => p.covers minterm := by
  have hdups : (products.eraseDups.any fun p => p.covers minterm) =
      products.any fun p => p.covers minterm := by
    rw [Bool.eq_iff_iff]
    simp only [List.any_eq_true, List.mem_eraseDups]
  cases merge with
  | false => exact hdups
  | true => exact (any_covers_mergePairs _ minterm).trans hdups

end Product

end Karnaugh
