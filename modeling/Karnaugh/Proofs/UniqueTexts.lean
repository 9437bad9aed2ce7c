import Karnaugh.Proofs.SumReading

set_option autoImplicit false

/-! # No two sums are written alike

A written product can be read back letter by letter: the constant `1` is no product of literals, and the
letters of any other product are those of its literals (`literals?_chars`), which determine it
(`eq_of_literals_eq`). A written sum falls apart into its products (`chunks_equation`), and none of
them looks like the constant `0`. What is written with lines over the letters differs from what is
written with primes in one sign only (`map_asPrime_chars`), so that either way the text of a sum on a map
determines the sum (`text_determines_sum`). -/

namespace Karnaugh

/-! ## The two ways of writing -/

/-- A character as it stands in the text with primes. -/
def Complement.asPrime (style : Complement) (c : Char) : Char :=
  if c = style.mark then Complement.prime.mark else c

theorem map_asPrime_literal (style : Complement) (v : Variable) (positive : Bool) :
    (literal style v positive).map style.asPrime = literal .prime v positive := by
  cases style <;> cases v <;> cases positive <;> rfl

namespace Product

theorem map_asPrime_chars (product : Product) (style : Complement) :
    (product.chars style).map style.asPrime = product.chars .prime := by
  unfold chars
  split
  · cases style <;> rfl
  · rw [List.map_flatMap]
    congr 1
    funext ⟨v, required⟩
    cases required with
    | none => rfl
    | some value => exact map_asPrime_literal style v value

/-! ## Products -/

/-- The literals of a product, in alphabetical order. -/
def literals (product : Product) : List Equation.Literal :=
  product.arity.vars.filterMap fun v => (product.input? v).map (Equation.Literal.mk v)

theorem mem_literals {product : Product} {v : Variable} {value : Bool} :
    ⟨v, value⟩ ∈ product.literals ↔ v ∈ product.arity.vars ∧ product.input? v = some value := by
  simp [literals, List.mem_filterMap, Option.map_eq_some_iff]

/-- The literals of a product determine it. -/
theorem eq_of_literals_eq {p q : Product} (harity : p.arity = q.arity)
    (h : p.literals = q.literals) : p = q := by
  refine ext_input? harity fun v hv => Option.ext fun value => ?_
  have hmem : ⟨v, value⟩ ∈ p.literals ↔ ⟨v, value⟩ ∈ q.literals := by rw [h]
  rwa [mem_literals, mem_literals, and_iff_right hv, and_iff_right (harity ▸ hv)] at hmem

theorem chars_eq_written {product : Product} (h : product.isUniversal = false) :
    product.chars .prime = Equation.written product.literals := by
  rw [chars, h, if_neg Bool.false_ne_true, entries_eq_map, List.flatMap_map, literals]
  generalize product.arity.vars = vars
  induction vars with
  | nil => rfl
  | cons v vars ih =>
    rw [List.flatMap_cons, ih, List.filterMap_cons]
    cases product.input? v <;> rfl

/-- What is read of a written product: nothing of the constant, its literals of any other. -/
theorem literals?_chars (product : Product) :
    Equation.literals? (product.chars .prime) =
      if product.isUniversal then none else some product.literals := by
  cases hu : product.isUniversal with
  | true =>
    rw [chars_of_isUniversal hu]
    rfl
  | false => exact Equation.literals?_eq_some_iff.2 (chars_eq_written hu)

/-- Products of one map that are written alike are equal. -/
theorem eq_of_chars_eq {p q : Product} (harity : p.arity = q.arity)
    (h : p.chars .prime = q.chars .prime) : p = q := by
  have hread := congrArg Equation.literals? h
  rw [literals?_chars, literals?_chars] at hread
  cases hp : p.isUniversal with
  | true =>
    cases hq : q.isUniversal with
    | true => rw [eq_universal_of_isUniversal hp, eq_universal_of_isUniversal hq, harity]
    | false => simp [hp, hq] at hread
  | false =>
    cases hq : q.isUniversal with
    | true => simp [hp, hq] at hread
    | false =>
      rw [hp, hq] at hread
      exact eq_of_literals_eq harity (Option.some.inj hread)

/-- Lists of products of one map that are written alike are equal. -/
theorem eq_of_map_chars_eq {arity : Arity} {ps qs : List Product} (hps : ∀ p ∈ ps, p.arity = arity)
    (hqs : ∀ q ∈ qs, q.arity = arity)
    (h : (ps.map fun p => p.chars .prime) = qs.map fun q => q.chars .prime) : ps = qs := by
  induction ps generalizing qs with
  | nil => exact (List.map_eq_nil_iff.1 h.symm).symm
  | cons p ps ih =>
    cases qs with
    | nil => cases h
    | cons q qs =>
      obtain ⟨hp, hps⟩ := List.forall_mem_cons.1 hps
      obtain ⟨hq, hqs⟩ := List.forall_mem_cons.1 hqs
      obtain ⟨hchars, hrest⟩ := List.cons.inj h
      rw [eq_of_chars_eq (hp.trans hq.symm) hchars, ih hps hqs hrest]

end Product

/-! ## Sums -/

namespace SumOfProducts

theorem map_asPrime_chars (sum : SumOfProducts) (style : Complement) :
    (sum.chars style).map style.asPrime = sum.chars .prime := by
  unfold chars
  split
  · cases style <;> rfl
  · have hsep : [' ', '+', ' '].map style.asPrime = [' ', '+', ' '] := by cases style <;> rfl
    rw [Text.apply_intercalate List.map_nil fun _ _ => List.map_append, hsep, List.map_map]
    simp only [Function.comp_def, Product.map_asPrime_chars]

/-- Sums that are written alike have the same equation. -/
theorem equation_eq_of_text_eq {s t : SumOfProducts} {style : Complement}
    (h : s.text style = t.text style) : s.equation = t.equation := by
  have hchars : s.chars style = t.chars style := String.ofList_inj.1 h
  rw [equation, equation, text, text, ← s.map_asPrime_chars style, ← t.map_asPrime_chars style, hchars]

/-- Sums whose parts are alike have the same products. -/
theorem products_eq_of_parts_eq {arity : Arity} {s t : SumOfProducts}
    (hs : ∀ p ∈ s.products, p.arity = arity) (ht : ∀ p ∈ t.products, p.arity = arity)
    (h : s.parts = t.parts) : s.products = t.products := by
  have hzero : ∀ products : List Product, [['0']] ≠ products.map fun p => p.chars .prime := by
    intro products heq
    have hmem : ['0'] ∈ products.map fun p => p.chars .prime := heq ▸ List.mem_singleton_self ['0']
    obtain ⟨p, -, hp⟩ := List.mem_map.1 hmem
    exact p.chars_ne_zero hp
  unfold parts at h
  split at h
  · next hs0 =>
    split at h
    · next ht0 => rw [List.isEmpty_iff.1 hs0, List.isEmpty_iff.1 ht0]
    · exact absurd h (hzero t.products)
  · split at h
    · exact absurd h.symm (hzero s.products)
    · exact Product.eq_of_map_chars_eq hs ht h

/-- **The text of a sum determines it.** Two sums for one map, all of their products for that map too,
    are equal when they are written alike, be it with primes or with lines: they have the same products
    in the same order. The sums may have any number of products, and the constants are among them. -/
theorem text_determines_sum (arity : Arity) (s t : SumOfProducts)
    (hs : s.arity = arity ∧ ∀ p ∈ s.products, p.arity = arity)
    (ht : t.arity = arity ∧ ∀ p ∈ t.products, p.arity = arity) (style : Complement)
    (h : s.text style = t.text style) : s = t := by
  refine SumOfProducts.ext (hs.1.trans ht.1.symm) ?_
  refine products_eq_of_parts_eq hs.2 ht.2 ?_
  rw [← chunks_equation s, ← chunks_equation t, equation_eq_of_text_eq h]

/-- Two sums of a full and a partial product, made in different ways, with one text. -/
theorem text_determines_sum_with_partial :
    let s := ofProducts .three [Product.ofMinterm .three 5, Product.spanning .three [1, 0]]
    let t := ofProducts .three
      [⟨.three, [some true, some false, some true], rfl⟩, ⟨.three, [some false, some false, none], rfl⟩]
    (s.arity = .three ∧ ∀ p ∈ s.products, p.arity = .three) ∧
      (t.arity = .three ∧ ∀ p ∈ t.products, p.arity = .three) ∧
      s.text .overline = t.text .overline ∧ s = t := by
  intro s t
  have hs : s.arity = .three ∧ ∀ p ∈ s.products, p.arity = .three := by decide
  have ht : t.arity = .three ∧ ∀ p ∈ t.products, p.arity = .three := by decide
  have htext : s.text .overline = t.text .overline := by decide
  exact ⟨hs, ht, htext, text_determines_sum .three s t hs ht .overline htext⟩

end SumOfProducts

end Karnaugh
