import Karnaugh.Grid
import Karnaugh.Product

set_option autoImplicit false

/-! # Sums of products

The formulas of the library: a list of products, true where one of them is. The empty sum is the
constant 0; a sum with the empty product is the constant 1 and has no other product, which `ofProducts`
sees to. The products may belong to another map size than the sum; each is read on its own. -/

namespace Karnaugh

/-- A sum of products for a map. -/
@[ext]
structure SumOfProducts where
  arity : Arity
  /-- The products in their written order. -/
  products : List Product
  /-- An empty product stands alone and belongs to the map of the sum. -/
  universal_alone : (∃ p ∈ products, p.isUniversal = true) → products = [Product.universal arity]
  deriving DecidableEq

namespace SumOfProducts

/-- The constant 0. -/
def zero (arity : Arity) : SumOfProducts where
  arity := arity
  products := []
  universal_alone := by simp

/-- The constant 1. -/
def one (arity : Arity) : SumOfProducts where
  arity := arity
  products := [Product.universal arity]
  universal_alone := by simp

/-- The sum of some products, the constant 1 when an empty product is among them. -/
def ofProducts (arity : Arity) (products : List Product) : SumOfProducts :=
  if h : ∃ p ∈ products, p.isUniversal = true then one arity
  else ⟨arity, products, fun hu => absurd hu h⟩

/-- Whether the sum is the constant 0. -/
def isZero (sum : SumOfProducts) : Bool :=
  sum.products.isEmpty

/-- Whether the sum is the constant 1. -/
def isOne (sum : SumOfProducts) : Bool :=
  match sum.products with
  | [p] => p.isUniversal
  | _ => false

/-- The value of the sum at a minterm. -/
def evaluate (sum : SumOfProducts) (minterm : Nat) : Bool :=
  sum.products.any fun p => p.covers minterm

/-- The map of the sum. -/
def toGrid (sum : SumOfProducts) : Grid :=
  Grid.ofFn sum.arity fun position => sum.evaluate (sum.arity.mintermAt position)

/-- The characters of the sum: its products with plus signs between them, `0` when there is none. -/
def chars (sum : SumOfProducts) (style : Complement) : List Char :=
  if sum.isZero then ['0']
  else [' ', '+', ' '].intercalate (sum.products.map fun p => p.chars style)

/-- The written sum. -/
def text (sum : SumOfProducts) (style : Complement) : String :=
  String.ofList (sum.chars style)

/-- The sum as an equation for `F`, complements written with a prime. -/
def equation (sum : SumOfProducts) : String :=
  "F = " ++ sum.text .prime

theorem evaluate_eq_true_iff {sum : SumOfProducts} {minterm : Nat} :
    sum.evaluate minterm = true ↔ ∃ p ∈ sum.products, p.covers minterm = true := by
  simp [evaluate]

/-- The map of a sum has a 1 in the cell of a minterm exactly when the sum is true there. -/
theorem isSet_toGrid {sum : SumOfProducts} {minterm : Nat} (h : minterm < sum.arity.cells) :
    sum.toGrid.isSet (sum.arity.positionOf minterm) = sum.evaluate minterm := by
  have hposition := (sum.arity.positionOf_lt_cells_iff minterm).2 h
  rw [toGrid, Grid.isSet_ofFn, decide_eq_true hposition, Bool.true_and,
    sum.arity.mintermAt_positionOf]

theorem evaluate_ofProducts (arity : Arity) (products : List Product) (minterm : Nat) :
    (ofProducts arity products).evaluate minterm = products.any fun p => p.covers minterm := by
  have huniversal : ∀ a m, (Product.universal a).covers m = true := by
    intro a m
    cases a <;> rfl
  unfold ofProducts
  split
  · next h =>
    obtain ⟨p, hp, hu⟩ := h
    have : products.any (fun p => p.covers minterm) = true :=
      List.any_eq_true.2 ⟨p, hp, Product.eq_universal_of_isUniversal hu ▸ huniversal _ _⟩
    simp [this, evaluate, one, huniversal]
  · rfl

end SumOfProducts

end Karnaugh
