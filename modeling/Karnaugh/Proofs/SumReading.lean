import Karnaugh.Proofs.EquationReading
import Karnaugh.SumOfProducts

set_option autoImplicit false

/-! # What a written sum is read back as

The equation of a sum is cut into the texts of its products again (`chunks_equation`), since none of
them holds a blank, a plus sign or an equals sign. A product is read when it is full, that is, has a
literal for each variable of its map, and then as the one minterm that fulfils it (`minterm?_chars`).
So an equation gives back the full products of its sum and skips the others (`read_equation`); the map
is that of the sum when nothing is covered by the others alone. -/

namespace Karnaugh

/-! ## Joined texts -/

namespace Text

/-- What respects joining two lists respects joining many. -/
theorem apply_intercalate {α β : Type} {f : List α → List β} (hnil : f [] = [])
    (happend : ∀ xs ys, f (xs ++ ys) = f xs ++ f ys) (sep : List α) (parts : List (List α)) :
    f (sep.intercalate parts) = (f sep).intercalate (parts.map f) := by
  induction parts with
  | nil => exact hnil
  | cons part rest ih =>
    cases rest with
    | nil => simp only [List.map_cons, List.map_nil, List.intercalate_singleton]
    | cons next rest =>
      rw [List.intercalate_cons_cons, happend, happend, ih]
      exact List.intercalate_cons_cons.symm

theorem squeeze_intercalate (sep : List Char) (parts : List (List Char)) :
    squeeze (sep.intercalate parts) = (squeeze sep).intercalate (parts.map squeeze) :=
  apply_intercalate rfl squeeze_append sep parts

end Text

/-! ## Products -/

namespace Product

/-- Whether the product has a literal for every variable of its map. -/
def isFull (product : Product) : Bool :=
  product.literalCount == product.arity.count

/-- The full products are those of the minterms. -/
theorem isFull_iff_exists {product : Product} :
    product.isFull = true ↔
      ∃ m, m < product.arity.cells ∧ product = ofMinterm product.arity m := by
  obtain ⟨arity, inputs, hlen⟩ := product
  constructor
  · intro h
    have hcount : inputs.countP Option.isSome = inputs.length := (beq_iff_eq.1 h).trans hlen.symm
    have hsome : ∀ x ∈ inputs, x = some (x.getD false) := by
      intro x hx
      obtain ⟨value, rfl⟩ := Option.isSome_iff_exists.1 (List.countP_eq_length.1 hcount x hx)
      rfl
    have hinputs : ∃ m, m < arity.cells ∧ inputs = (ofMinterm arity m).inputs := by
      cases arity with
      | two =>
        match inputs, hlen, hsome with
        | [x, y], _, hsome =>
          rw [hsome x (by simp), hsome y (by simp)]
          generalize x.getD false = u, y.getD false = v
          revert u v
          decide
      | three =>
        match inputs, hlen, hsome with
        | [x, y, z], _, hsome =>
          rw [hsome x (by simp), hsome y (by simp), hsome z (by simp)]
          generalize x.getD false = u, y.getD false = v, z.getD false = w
          revert u v w
          decide
    obtain ⟨m, hm, hinputs⟩ := hinputs
    exact ⟨m, hm, Product.ext rfl hinputs⟩
  · rintro ⟨m, -, h⟩
    rw [h]
    cases arity <;> rfl

/-- A full product covers no minterm of the map but its own. -/
theorem covers_ofMinterm {arity : Arity} {m : Nat} (hm : m < arity.cells) {n : Nat}
    (hn : n < arity.cells) : (ofMinterm arity m).covers n = true ↔ n = m := by
  revert m
  revert n
  cases arity <;> decide

/-! ## Their letters -/

theorem chars_ofMinterm (arity : Arity) (m : Nat) (style : Complement) :
    (ofMinterm arity m).chars style = arity.labelChars style m := by
  cases arity <;> rfl

theorem countP_literal (style : Complement) (v : Variable) (positive : Bool) :
    (literal style v positive).countP (· ≠ style.mark) = 1 := by
  cases style <;> cases v <;> cases positive <;> decide

/-- The entries of a product have as many letters as literals. -/
theorem countP_flatMap_zip {style : Complement} {letters : Variable × Option Bool → List Char}
    (hnone : ∀ v, letters (v, none) = [])
    (hsome : ∀ v value, letters (v, some value) = literal style v value) (vars : List Variable)
    {inputs : List (Option Bool)} (hlen : inputs.length = vars.length) :
    ((vars.zip inputs).flatMap letters).countP (· ≠ style.mark) = inputs.countP Option.isSome := by
  induction vars generalizing inputs with
  | nil => simp [List.eq_nil_of_length_eq_zero hlen]
  | cons v vars ih =>
    cases inputs with
    | nil => rfl
    | cons required inputs =>
      have hrest := ih (Nat.succ.inj hlen)
      rw [List.zip_cons_cons, List.flatMap_cons, List.countP_append, hrest, List.countP_cons]
      cases required with
      | none => simp [hnone]
      | some value =>
        rw [hsome, countP_literal, Nat.add_comm]
        rfl

theorem countP_chars {product : Product} (h : product.isUniversal = false) (style : Complement) :
    (product.chars style).countP (· ≠ style.mark) = product.literalCount := by
  unfold chars
  rw [h]
  refine countP_flatMap_zip (fun _ => rfl) (fun _ _ => rfl) product.arity.vars ?_
  rw [product.length_inputs, Arity.length_vars]

theorem chars_of_isUniversal {product : Product} (h : product.isUniversal = true)
    (style : Complement) : product.chars style = ['1'] := by
  rw [chars, if_pos h]

/-- The signs that products are written with; none of them means anything to an equation. -/
def signs : List Char :=
  ['1', 'A', 'B', 'C', Complement.prime.mark]

theorem mem_literal {v : Variable} {positive : Bool} {c : Char} (h : c ∈ literal .prime v positive) :
    c ∈ signs := by
  have hall : (literal .prime v positive).all signs.contains = true := by
    cases v <;> cases positive <;> decide
  exact List.contains_iff_mem.1 (List.all_eq_true.1 hall c h)

theorem mem_chars {product : Product} {c : Char} (h : c ∈ product.chars .prime) : c ∈ signs := by
  cases hu : product.isUniversal with
  | true =>
    rw [chars_of_isUniversal hu, List.mem_singleton] at h
    rw [h]
    exact List.mem_cons_self
  | false =>
    unfold chars at h
    rw [hu] at h
    obtain ⟨⟨v, required⟩, -, hliteral⟩ := List.mem_flatMap.1 h
    cases required with
    | none => cases hliteral
    | some value => exact mem_literal hliteral

/-- No product is written as the constant 0. -/
theorem chars_ne_zero (product : Product) : product.chars .prime ≠ ['0'] := by
  intro h
  have hmem := mem_chars (h ▸ List.mem_singleton_self '0')
  exact absurd hmem (by decide)

theorem chars_ne_nil (product : Product) : product.chars .prime ≠ [] := by
  cases hu : product.isUniversal with
  | true =>
    rw [chars_of_isUniversal hu]
    exact List.cons_ne_nil _ _
  | false =>
    intro hnil
    have hcount := countP_chars hu .prime
    rw [hnil] at hcount
    simp [isUniversal, ← hcount] at hu

/-- A product that is written as a minterm is full. -/
theorem isFull_of_chars_eq {product : Product} {m : Nat}
    (h : product.chars .prime = product.arity.labelChars .prime m) : product.isFull = true := by
  have hlabel : (product.arity.labelChars .prime m).countP (· ≠ Complement.prime.mark) =
      product.arity.count := by
    rw [← chars_ofMinterm, countP_chars]
    · cases product.arity <;> rfl
    · cases product.arity <;> rfl
  cases hu : product.isUniversal with
  | true =>
    -- The constant has one letter, and no map has a single variable.
    rw [← h, chars_of_isUniversal hu] at hlabel
    have hsingle : ∀ arity : Arity, ['1'].countP (· ≠ Complement.prime.mark) ≠ arity.count := by
      intro arity
      cases arity <;> decide
    exact absurd hlabel (hsingle product.arity)
  | false =>
    rw [← h, countP_chars hu] at hlabel
    exact beq_iff_eq.2 hlabel

/-- A written product is read exactly when it is full, and as its minterm. -/
theorem minterm?_chars {product : Product} {m : Nat} :
    Equation.minterm? product.arity (product.chars .prime) = some m ↔
      m < product.arity.cells ∧ product = ofMinterm product.arity m := by
  constructor
  · intro h
    obtain ⟨hm, hchars⟩ := Equation.minterm?_eq_some_iff.1 h
    obtain ⟨n, hn, hproduct⟩ := isFull_iff_exists.1 (isFull_of_chars_eq hchars)
    have hread : Equation.minterm? product.arity (product.chars .prime) = some n := by
      refine Equation.minterm?_eq_some_iff.2 ⟨hn, ?_⟩
      rw [← chars_ofMinterm, ← hproduct]
    rw [hread] at h
    exact ⟨hm, Option.some.inj h ▸ hproduct⟩
  · rintro ⟨hm, hproduct⟩
    refine Equation.minterm?_eq_some_iff.2 ⟨hm, ?_⟩
    rw [← chars_ofMinterm, ← hproduct]

/-- Among the texts of products, those that name a minterm are those of the full ones. -/
theorem names_chars (product : Product) :
    Equation.names product.arity (product.chars .prime) = product.isFull := by
  rw [← Equation.isSome_minterm?, Bool.eq_iff_iff, Option.isSome_iff_exists, isFull_iff_exists]
  simp only [minterm?_chars]

end Product

/-! ## Sums -/

namespace Grid

/-- Maps of one size are known by their minterms. -/
theorem eq_iff_minterms {g h : Grid} (harity : g.arity = h.arity) :
    g = h ↔ ∀ m, m ∈ g.minterms ↔ m ∈ h.minterms := by
  constructor
  · rintro rfl
    exact fun _ => Iff.rfl
  · intro hminterms
    refine ext_get? harity fun position => ?_
    have hset : g.isSet position = h.isSet position := by
      have hm := hminterms (g.arity.mintermAt position)
      rw [mem_minterms, mem_minterms, ← harity, Arity.positionOf_mintermAt] at hm
      exact Bool.eq_iff_iff.2 hm
    by_cases hp : position < g.arity.cells
    · rw [get?_eq_some_isSet hp, get?_eq_some_isSet (harity ▸ hp), hset]
    · have hout := Nat.le_of_not_lt hp
      rw [get?_eq_none_iff.2 hout, get?_eq_none_iff.2 (harity ▸ hout)]

end Grid

namespace SumOfProducts

open Equation (chunks names leftOver namedGrid)

theorem mem_minterms_toGrid {sum : SumOfProducts} {m : Nat} :
    m ∈ sum.toGrid.minterms ↔ m < sum.arity.cells ∧ sum.evaluate m = true := by
  have harity : sum.toGrid.arity = sum.arity := rfl
  rw [Grid.mem_minterms, harity]
  by_cases hm : m < sum.arity.cells
  · rw [isSet_toGrid hm]
    exact (and_iff_right hm).symm
  · refine iff_of_false (fun hset => hm ?_) fun h => hm h.1
    exact (sum.arity.positionOf_lt_cells_iff m).1 (Grid.lt_cells_of_isSet hset)

/-- The texts of the products, or that of the constant 0. -/
def parts (sum : SumOfProducts) : List (List Char) :=
  if sum.isZero then [['0']] else sum.products.map fun p => p.chars .prime

theorem parts_ne_nil (sum : SumOfProducts) : sum.parts ≠ [] := by
  unfold parts isZero
  cases sum.products <;> simp

theorem mem_parts {sum : SumOfProducts} {part : List Char} (h : part ∈ sum.parts) :
    part ≠ [] ∧ ∀ c ∈ part, c ∈ '0' :: Product.signs := by
  unfold parts at h
  split at h
  · rw [List.mem_singleton.1 h]
    refine ⟨List.cons_ne_nil _ _, fun c hc => ?_⟩
    rw [List.mem_singleton.1 hc]
    exact List.mem_cons_self
  · obtain ⟨p, -, rfl⟩ := List.mem_map.1 h
    exact ⟨p.chars_ne_nil, fun c hc => List.mem_cons_of_mem _ (Product.mem_chars hc)⟩

theorem chars_eq_intercalate (sum : SumOfProducts) :
    sum.chars .prime = [' ', '+', ' '].intercalate sum.parts := by
  unfold chars parts
  split <;> simp [List.intercalate]

/-- The equation of a sum falls apart into the texts of its products. -/
theorem chunks_equation (sum : SumOfProducts) : chunks sum.equation = sum.parts := by
  have hblank : ∀ part ∈ sum.parts, Text.squeeze part = part := by
    intro part hpart
    refine List.filter_eq_self.2 fun c hc => ?_
    have hsigns : ('0' :: Product.signs).all (fun d => !Text.isBlank d) = true := by decide
    exact List.all_eq_true.1 hsigns c ((mem_parts hpart).2 c hc)
  have hplus : ∀ part ∈ sum.parts, '+' ∉ part := by
    intro part hpart hmem
    exact absurd ((mem_parts hpart).2 '+' hmem) (by decide)
  have hsqueeze : Text.squeeze sum.equation.toList = 'F' :: '=' :: ['+'].intercalate sum.parts := by
    have hhead : Text.squeeze "F = ".toList = ['F', '='] := by decide
    have htext : sum.equation.toList = "F = ".toList ++ sum.chars .prime := by
      rw [equation, text, String.toList_append, String.toList_ofList (l := sum.chars .prime)]
    have hsep : Text.squeeze [' ', '+', ' '] = ['+'] := by decide
    rw [htext, chars_eq_intercalate, Text.squeeze_append, hhead, Text.squeeze_intercalate, hsep,
      List.map_congr_left hblank, List.map_id']
    rfl
  have hbody : Equation.withoutMark (Text.squeeze sum.equation.toList) =
      ['+'].intercalate sum.parts := by
    rw [hsqueeze, Equation.withoutMark]
    rfl
  rw [chunks, hbody, List.splitOn_intercalate '+' hplus sum.parts_ne_nil]
  refine List.filter_eq_self.2 fun part hpart => ?_
  simpa using (mem_parts hpart).1

/-! ## Reading a sum back -/

/-- The products of a sum that are read back. -/
def full (sum : SumOfProducts) : List Product :=
  sum.products.filter Product.isFull

/-- The texts that are left out when a sum is read back. -/
def unread (sum : SumOfProducts) : List String :=
  if sum.isZero then ["0"]
  else (sum.products.filter fun p => !p.isFull).map fun p => p.text .prime

section

variable {sum : SumOfProducts} (harity : ∀ p ∈ sum.products, p.arity = sum.arity)
include harity

theorem names_chars_of_mem {p : Product} (hp : p ∈ sum.products) :
    names sum.arity (p.chars .prime) = p.isFull := by
  rw [← harity p hp, Product.names_chars]

/-- As many parts name a minterm as there are full products. -/
theorem countP_names : (chunks sum.equation).countP (names sum.arity) = sum.full.length := by
  rw [chunks_equation, parts, full, ← List.countP_eq_length_filter]
  split
  · next hzero =>
    have hnone : names sum.arity ['0'] = false := by cases sum.arity <;> decide
    rw [List.countP_singleton, hnone, List.isEmpty_iff.1 hzero]
    rfl
  · rw [List.countP_map]
    exact List.countP_congr fun p hp => by rw [Function.comp_apply, names_chars_of_mem harity hp]

theorem leftOver_equation : leftOver sum.arity sum.equation = sum.unread := by
  rw [leftOver, chunks_equation, parts, unread]
  split
  · have hzero : [['0']].filter (fun s => !names sum.arity s) = [['0']] := by
      cases sum.arity <;> decide
    rw [hzero]
    rfl
  · have hfilter : sum.products.filter ((fun s => !names sum.arity s) ∘ fun p => p.chars .prime) =
        sum.products.filter fun p => !p.isFull :=
      List.filter_congr fun p hp => by rw [Function.comp_apply, names_chars_of_mem harity hp]
    rw [List.filter_map, hfilter, List.map_map]
    rfl

/-- A part is the label of a minterm exactly when the product of the minterm is in the sum. -/
theorem labelChars_mem_chunks {m : Nat} (hm : m < sum.arity.cells) :
    sum.arity.labelChars .prime m ∈ chunks sum.equation ↔
      Product.ofMinterm sum.arity m ∈ sum.full := by
  have hfull : (Product.ofMinterm sum.arity m).isFull = true := Product.isFull_iff_exists.2 ⟨m, hm, rfl⟩
  rw [chunks_equation, parts, full, List.mem_filter, and_iff_left hfull]
  split
  · next hzero =>
    have hlabel : sum.arity.labelChars .prime m ≠ ['0'] := by
      rw [← Product.chars_ofMinterm]
      exact Product.chars_ne_zero _
    rw [List.mem_singleton, List.isEmpty_iff.1 hzero]
    exact iff_of_false hlabel List.not_mem_nil
  · rw [List.mem_map]
    constructor
    · rintro ⟨p, hp, hchars⟩
      rw [← harity p hp] at hchars
      have hread := Equation.minterm?_eq_some_iff.2 ⟨(harity p hp).symm ▸ hm, hchars⟩
      have hproduct := (Product.minterm?_chars.1 hread).2
      rw [harity p hp] at hproduct
      exact hproduct ▸ hp
    · intro hp
      exact ⟨_, hp, Product.chars_ofMinterm sum.arity m .prime⟩

theorem mem_minterms_namedGrid_equation {m : Nat} :
    m ∈ (namedGrid sum.arity sum.equation).minterms ↔
      m < sum.arity.cells ∧ Product.ofMinterm sum.arity m ∈ sum.full := by
  rw [Equation.mem_minterms_namedGrid]
  exact and_congr_right (labelChars_mem_chunks harity)

end

/-- The minterm of a full product of the sum is covered by the sum. -/
theorem evaluate_of_mem_full {sum : SumOfProducts} {m : Nat} (hm : m < sum.arity.cells)
    (h : Product.ofMinterm sum.arity m ∈ sum.full) : sum.evaluate m = true :=
  evaluate_eq_true_iff.2 ⟨_, (List.mem_filter.1 h).1, (Product.covers_ofMinterm hm hm).2 rfl⟩

/-- In a sum of full products, the product that covers a minterm is that of the minterm. -/
theorem mem_full_of_evaluate {sum : SumOfProducts}
    (harity : ∀ p ∈ sum.products, p.arity = sum.arity)
    (hall : ∀ p ∈ sum.products, p.isFull = true) {m : Nat} (hm : m < sum.arity.cells)
    (h : sum.evaluate m = true) : Product.ofMinterm sum.arity m ∈ sum.full := by
  obtain ⟨p, hp, hcovers⟩ := evaluate_eq_true_iff.1 h
  obtain ⟨n, hn, hproduct⟩ := Product.isFull_iff_exists.1 (hall p hp)
  rw [harity p hp] at hn hproduct
  rw [hproduct] at hcovers
  rw [(Product.covers_ofMinterm hn hm).1 hcovers, ← hproduct]
  exact List.mem_filter.2 ⟨hp, hall p hp⟩

/-- What is read of an equation is the map of its sum exactly when the full products cover all that
    the sum covers. -/
theorem namedGrid_eq_toGrid_iff {sum : SumOfProducts}
    (harity : ∀ p ∈ sum.products, p.arity = sum.arity) :
    namedGrid sum.arity sum.equation = sum.toGrid ↔
      ∀ m < sum.arity.cells, sum.evaluate m = true → Product.ofMinterm sum.arity m ∈ sum.full := by
  have hsize : (namedGrid sum.arity sum.equation).arity = sum.toGrid.arity :=
    (Grid.arity_ofFn _ _).trans (Grid.arity_ofFn _ _).symm
  rw [Grid.eq_iff_minterms hsize]
  simp only [mem_minterms_namedGrid_equation harity, mem_minterms_toGrid]
  constructor
  · intro h m hm hevaluate
    exact ((h m).2 ⟨hm, hevaluate⟩).2
  · intro h m
    constructor
    · rintro ⟨hm, hfull⟩
      exact ⟨hm, evaluate_of_mem_full hm hfull⟩
    · rintro ⟨hm, hevaluate⟩
      exact ⟨hm, h m hm hevaluate⟩

/-- **A written sum is read back to its full products.** The equation is refused exactly when no
    product is full. Otherwise every full product counts, repetitions included, the map has exactly
    their minterms, so no minterm that the sum does not cover, and it is the map of the sum exactly
    when they cover all that the sum covers. Either way the other products are the skipped ones, in
    their order, the constant 0 as `0`. A sum of full products is read back exactly. -/
theorem read_equation {sum : SumOfProducts} (harity : ∀ p ∈ sum.products, p.arity = sum.arity) :
    (match Equation.read sum.arity sum.equation with
      | .ok reading =>
        sum.full ≠ [] ∧
          reading.resolved = sum.full.length ∧
          reading.skipped = sum.unread ∧
          reading.grid.arity = sum.arity ∧
          (∀ m, m ∈ reading.grid.minterms ↔
            m < sum.arity.cells ∧ Product.ofMinterm sum.arity m ∈ sum.full) ∧
          (∀ m ∈ reading.grid.minterms, m ∈ sum.toGrid.minterms) ∧
          (reading.grid = sum.toGrid ↔
            ∀ m < sum.arity.cells, sum.evaluate m = true →
              Product.ofMinterm sum.arity m ∈ sum.full)
      | .error fault =>
        sum.full = [] ∧ fault.input = sum.equation ∧ fault.skipped = sum.unread) ∧
    (sum.products ≠ [] → (∀ p ∈ sum.products, p.isFull = true) →
      Equation.read sum.arity sum.equation = .ok ⟨sum.toGrid, sum.products.length, []⟩) := by
  have hany : (chunks sum.equation).any (names sum.arity) = true ↔ sum.full ≠ [] := by
    rw [List.any_eq_true, ← List.countP_pos_iff, countP_names harity, List.length_pos_iff]
  have hread := Equation.read_eq sum.arity sum.equation
  rw [countP_names harity, leftOver_equation harity] at hread
  constructor
  · cases hnames : (chunks sum.equation).any (names sum.arity) with
    | true =>
      rw [hread, if_pos hnames]
      refine ⟨hany.1 hnames, rfl, rfl, rfl, fun m => mem_minterms_namedGrid_equation harity, ?_,
        namedGrid_eq_toGrid_iff harity⟩
      intro m hm
      obtain ⟨hm, hfull⟩ := (mem_minterms_namedGrid_equation harity).1 hm
      exact mem_minterms_toGrid.2 ⟨hm, evaluate_of_mem_full hm hfull⟩
    | false =>
      have hnil : sum.full = [] := by
        rw [← Bool.not_eq_true, hany] at hnames
        exact Classical.not_not.1 hnames
      rw [hread, if_neg fun h => hany.1 h hnil]
      exact ⟨hnil, rfl, rfl⟩
  · intro hne hall
    have hfull : sum.full = sum.products := List.filter_eq_self.2 hall
    have hunread : sum.unread = [] := by
      have hzero : sum.isZero = false := List.isEmpty_eq_false_iff.2 hne
      have hnone : (sum.products.filter fun p => !p.isFull) = [] :=
        List.filter_eq_nil_iff.2 fun p hp => by rw [hall p hp]; decide
      rw [unread, hzero, hnone]
      rfl
    have hgrid : namedGrid sum.arity sum.equation = sum.toGrid :=
      (namedGrid_eq_toGrid_iff harity).2 fun m hm => mem_full_of_evaluate harity hall hm
    rw [hread, if_pos (hany.2 (hfull.symm ▸ hne)), hgrid, hunread, hfull]

/-- A repeated full product counts twice, a partial one is skipped. -/
theorem read_equation_with_partial :
    let joined : Product := ⟨.three, [some true, some true, none], rfl⟩
    let sum := ofProducts .three
      [Product.ofMinterm .three 1, joined, Product.ofMinterm .three 6, Product.ofMinterm .three 1]
    (∀ p ∈ sum.products, p.arity = sum.arity) ∧
      sum.equation = "F = A'B'C + AB + ABC' + A'B'C" ∧
      ∃ reading, Equation.read sum.arity sum.equation = .ok reading ∧ reading.resolved = 3 ∧
        reading.skipped = ["AB"] ∧ reading.grid ≠ sum.toGrid := by
  intro joined sum
  have harity : ∀ p ∈ sum.products, p.arity = sum.arity := by decide
  have hread := read_equation harity
  refine ⟨harity, by decide, ?_⟩
  cases h : Equation.read sum.arity sum.equation with
  | error fault =>
    rw [h] at hread
    exact absurd hread.1.1 (by decide)
  | ok reading =>
    rw [h] at hread
    obtain ⟨⟨-, hresolved, hskipped, -, -, -, hgrid⟩, -⟩ := hread
    have hcount : sum.full.length = 3 := by decide
    have hunread : sum.unread = ["AB"] := by decide
    refine ⟨reading, rfl, hresolved.trans hcount, hskipped.trans hunread, fun heq => ?_⟩
    exact absurd (hgrid.1 heq 7 (by decide) (by decide)) (by decide)

end SumOfProducts

end Karnaugh
