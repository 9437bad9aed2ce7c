import Karnaugh.Grid
import Karnaugh.Label
import Karnaugh.Text.Blank

set_option autoImplicit false

/-! # Reading equations

An equation is a sum of full products such as `F = A'B'C + ABC'`, and each product sets the cell of
its minterm. Reading is lenient: the first `F =` in the text is dropped wherever it stands, blanks mean
nothing, and a summand that is not the full product of the map's variables in alphabetical order is
skipped. Only an equation none of whose summands names a cell is refused. -/

namespace Karnaugh

namespace Equation

/-! ## Products -/

/-- A variable as it occurs in a product. -/
structure Literal where
  var : Variable
  /-- Whether it stands without a prime. -/
  positive : Bool
  deriving DecidableEq

/-- Reads a product letter by letter, each with at most one prime after it. -/
def literals? : List Char → Option (List Literal)
  | [] => some []
  | c :: rest => do
    let v ← Variable.ofLetter? c
    match rest with
    | [] => return [⟨v, true⟩]
    | d :: rest' =>
      if d = Complement.prime.mark then
        let more ← literals? rest'
        return ⟨v, false⟩ :: more
      else
        let more ← literals? (d :: rest')
        return ⟨v, true⟩ :: more

/-- The minterm of a product's literals, the first one being the most significant bit. -/
def mintermOf (literals : List Literal) : Nat :=
  literals.foldl (fun minterm l => 2 * minterm + l.positive.toNat) 0

/-- The minterm that a product names: it has to hold every variable of the map once, in alphabetical
    order. -/
def minterm? (arity : Arity) (product : List Char) : Option Nat := do
  let literals ← literals? product
  if literals.map Literal.var = arity.vars then some (mintermOf literals) else none

/-! ## Sums -/

/-- The text without its first `F =`: an `F` of either case and an equals sign, with the blanks
    between and after them. What stands before it is kept. -/
def dropHead : List Char → List Char
  | [] => []
  | c :: rest =>
    if c = 'F' ∨ c = 'f' then
      match Text.trimStart rest with
      | '=' :: body => Text.trimStart body
      | _ => c :: dropHead rest
    else c :: dropHead rest

/-- The summands of an equation, without blanks; empty ones do not count. -/
def summands (text : List Char) : List (List Char) :=
  ((Text.squeeze (dropHead text)).splitOn '+').filter fun s => !s.isEmpty

/-- What is read from an equation. -/
structure Reading where
  /-- The map of the minterms that are named. -/
  grid : Grid
  /-- How many summands name a minterm, each repetition counted. -/
  resolved : Nat
  /-- The summands that name none, in their order. -/
  skipped : List String
  deriving DecidableEq

/-- Reads an equation for a map of the given size, where `named?` tells the minterm that a summand
    names. -/
def readWith (named? : List Char → Option Nat) (arity : Arity) (text : String) :
    Except NoTerms Reading :=
  let parts := summands text.toList
  let minterms := parts.filterMap named?
  let skipped := (parts.filter fun s => (named? s).isNone).map String.ofList
  if minterms.isEmpty then .error ⟨text, skipped⟩
  else
    .ok {
      grid := Grid.ofFn arity fun position => minterms.contains (arity.mintermAt position)
      resolved := minterms.length
      skipped := skipped }

/-- Reads an equation whose summands are products. -/
def read (arity : Arity) (text : String) : Except NoTerms Reading :=
  readWith (minterm? arity) arity text

/-- The map of an equation. -/
def toGrid (arity : Arity) (text : String) : Except NoTerms Grid :=
  (read arity text).map Reading.grid

/-! ## Which letters are products -/

theorem literals?_literal (v : Variable) (positive : Bool) {rest : List Char}
    {more : List Literal} (hrest : literals? rest = some more)
    (hmark : rest.head? ≠ some Complement.prime.mark) :
    literals? (literal .prime v positive ++ rest) = some (⟨v, positive⟩ :: more) := by
  have hv : Variable.ofLetter? v.letter = some v := Variable.ofLetter?_eq_some_iff.2 rfl
  cases positive with
  | false => simp [literal, literals?, hv, hrest]
  | true =>
    cases rest with
    | nil =>
      simp only [literals?, Option.some.injEq] at hrest
      subst hrest
      simp [literal, literals?, hv]
    | cons d rest =>
      have hd : d ≠ Complement.prime.mark := by simpa using hmark
      simp [literal, literals?, hv, hd, hrest]

end Equation

end Karnaugh
