import Karnaugh.Label

set_option autoImplicit false

/-! # Products of literals

A product says for each variable of a map that it has to be 1, that it has to be 0, or nothing. It
*covers* the minterms that fulfil it. The empty product covers everything. `spanning` is the product
of what a list of minterms has in common, `merge?` joins two products that differ in one variable.
`covers_iff` reads covering off the inputs of the single variables. -/

namespace Karnaugh

/-- A product: for each variable of the map, in alphabetical order, its required value if any. -/
@[ext]
structure Product where
  arity : Arity
  /-- The required values. -/
  inputs : List (Option Bool)
  /-- There is an entry for every variable. -/
  length_inputs : inputs.length = arity.count
  deriving DecidableEq

namespace Product

/-! ## Building a product -/

/-- The product whose required values follow a rule on the variables. -/
def ofFn (arity : Arity) (rule : Variable → Option Bool) : Product where
  arity := arity
  inputs := arity.vars.map rule
  length_inputs := by simp

/-- The empty product. -/
def universal (arity : Arity) : Product :=
  ofFn arity fun _ => none

/-- The product with given inputs, when there is one for every variable. -/
def ofInputs? (arity : Arity) (inputs : List (Option Bool)) : Option Product :=
  if h : inputs.length = arity.count then some ⟨arity, inputs, h⟩ else none

/-- The product of all variables that only one minterm fulfils. -/
def ofMinterm (arity : Arity) (minterm : Nat) : Product :=
  ofFn arity fun v => some (arity.input minterm v)

/-- The product of the values that all given minterms share, the empty one when none is given. -/
def spanning (arity : Arity) : List Nat → Product
  | [] => universal arity
  | first :: rest =>
    ofFn arity fun v =>
      if rest.all fun m => arity.input m v == arity.input first v then
        some (arity.input first v)
      else none

/-! ## Reading a product -/

/-- The entries of a product, each with its variable. -/
def entries (product : Product) : List (Variable × Option Bool) :=
  product.arity.vars.zip product.inputs

/-- Whether a minterm gives every variable its required value. Only the lowest `count` bits of the
    number matter. -/
def covers (product : Product) (minterm : Nat) : Bool :=
  product.entries.all fun (v, required) =>
    required.all fun value => product.arity.input minterm v == value

/-- The number of variables with a required value. -/
def literalCount (product : Product) : Nat :=
  product.inputs.countP Option.isSome

/-- Whether the product is the empty one. -/
def isUniversal (product : Product) : Bool :=
  product.literalCount == 0

/-- The letters of a product; the empty product is written `1`. -/
def chars (product : Product) (style : Complement) : List Char :=
  if product.isUniversal then ['1']
  else product.entries.flatMap fun (v, required) =>
    match required with
    | some value => literal style v value
    | none => []

/-- A written product. -/
def text (product : Product) (style : Complement) : String :=
  String.ofList (product.chars style)

/-! ## Two products -/

/-- The places, counted from a given one, in which two lists differ. -/
def differences (place : Nat) : List (Option Bool) → List (Option Bool) → List Nat
  | x :: xs, y :: ys =>
    if x = y then differences (place + 1) xs ys else place :: differences (place + 1) xs ys
  | _, _ => []

/-- The index of the one variable in which two products differ. Products of different map sizes are
    compared on the variables that both have. -/
def difference? (p q : Product) : Option Nat :=
  match differences 0 p.inputs q.inputs with
  | [place] => some place
  | _ => none

/-- The product without its requirement on the variable of a given index. -/
def relax (product : Product) (place : Nat) : Product where
  arity := product.arity
  inputs := product.inputs.set place none
  length_inputs := by simp [product.length_inputs]

/-- Joins two products of one map size that differ in one variable, by dropping that variable. -/
def merge? (p q : Product) : Option Product :=
  if p.arity = q.arity then (p.difference? q).map p.relax else none

/-! ## The inputs of single variables -/

/-- The required value of a variable. -/
def input? (product : Product) (v : Variable) : Option Bool :=
  (product.inputs[v.index]?).join

theorem inputs_eq_map (product : Product) : product.inputs = product.arity.vars.map product.input? := by
  obtain ⟨arity, inputs, hlen⟩ := product
  cases arity with
  | two =>
    match inputs, hlen with
    | [x, y], _ => rfl
  | three =>
    match inputs, hlen with
    | [x, y, z], _ => rfl

theorem input?_ofFn {arity : Arity} {rule : Variable → Option Bool} {v : Variable}
    (h : v ∈ arity.vars) : (ofFn arity rule).input? v = rule v :=
  (List.map_inj_left.1 (inputs_eq_map (ofFn arity rule)) v h).symm

/-- Products of one size that require the same of every variable are equal. -/
theorem ext_input? {p q : Product} (harity : p.arity = q.arity)
    (hinputs : ∀ v ∈ p.arity.vars, p.input? v = q.input? v) : p = q := by
  refine Product.ext harity ?_
  rw [inputs_eq_map p, inputs_eq_map q, ← harity]
  exact List.map_congr_left hinputs

theorem entries_eq_map (product : Product) :
    product.entries = product.arity.vars.map fun v => (v, product.input? v) := by
  rw [entries, inputs_eq_map, List.map_prod_left_eq_zip]

/-- A minterm is covered when it agrees with every required value. -/
theorem covers_iff {product : Product} {minterm : Nat} :
    product.covers minterm = true ↔
      ∀ v ∈ product.arity.vars, ∀ value, product.input? v = some value →
        product.arity.input minterm v = value := by
  simp [covers, entries_eq_map, Option.all_eq_true]

theorem arity_spanning (arity : Arity) (minterms : List Nat) :
    (spanning arity minterms).arity = arity := by
  cases minterms <;> rfl

/-- The product of some minterms requires of a variable the value that all of them give it. -/
theorem input?_spanning {arity : Arity} {minterms : List Nat} {v : Variable} (hv : v ∈ arity.vars)
    (value : Bool) :
    (spanning arity minterms).input? v = some value ↔
      minterms ≠ [] ∧ ∀ m ∈ minterms, arity.input m v = value := by
  cases minterms with
  | nil => simp [spanning, universal, input?_ofFn hv]
  | cons first rest =>
    rw [spanning, input?_ofFn hv]
    split
    · next hall =>
      have hsame : ∀ m ∈ rest, arity.input m v = arity.input first v := by simpa using hall
      simp only [Option.some.injEq, List.forall_mem_cons]
      constructor
      · rintro rfl
        exact ⟨List.cons_ne_nil first rest, rfl, hsame⟩
      · exact fun h => h.2.1
    · next hnot =>
      refine iff_of_false nofun fun ⟨_, hall⟩ => hnot ?_
      obtain ⟨hfirst, hrest⟩ := List.forall_mem_cons.1 hall
      simpa [hfirst] using hrest

theorem literalCount_universal (arity : Arity) : (universal arity).literalCount = 0 := by
  cases arity <;> rfl

/-- Only the empty product requires nothing. -/
theorem eq_universal_of_isUniversal {product : Product} (h : product.isUniversal = true) :
    product = universal product.arity := by
  obtain ⟨arity, inputs, hlen⟩ := product
  have hnone : ∀ x ∈ inputs, x = none := by
    simpa [isUniversal, literalCount, List.countP_eq_zero] using h
  refine Product.ext rfl ?_
  have hrep : inputs = List.replicate inputs.length none := List.eq_replicate_of_mem hnone
  rw [hlen] at hrep
  exact hrep.trans (by cases arity <;> rfl)

end Product

end Karnaugh
