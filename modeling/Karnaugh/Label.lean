import Karnaugh.Layout

set_option autoImplicit false

/-! # Written literals and minterms

A complemented variable is written with a prime after its letter (`A'`), which is also what equations
are read in, or in the textbook way with a line over it. A minterm is written as the product of all
variables of the map in alphabetical order. -/

namespace Karnaugh

/-- How a complemented variable is written. -/
inductive Complement
  /-- A prime after the letter. -/
  | prime
  /-- A line over the letter, the combining character U+0305. -/
  | overline
  deriving DecidableEq

/-- The sign after the letter of a complemented variable. -/
def Complement.mark : Complement → Char
  | prime => '\x27'
  | overline => '\u0305'

/-- A literal: the letter, and the mark of the complement where the variable has to be 0. -/
def literal (style : Complement) (v : Variable) (positive : Bool) : List Char :=
  if positive then [v.letter] else [v.letter, style.mark]

namespace Arity

/-- The value of a variable in a minterm. -/
def input (arity : Arity) (minterm : Nat) (v : Variable) : Bool :=
  minterm.testBit (arity.bit v)

/-- The letters of a minterm's product; only the lowest `count` bits of the number matter. -/
def labelChars (arity : Arity) (style : Complement) (minterm : Nat) : List Char :=
  arity.vars.flatMap fun v => literal style v (arity.input minterm v)

/-- A minterm as a product. -/
def label (arity : Arity) (style : Complement) (minterm : Nat) : String :=
  String.ofList (arity.labelChars style minterm)

/-- The products of all minterms of the map, in order. -/
def labels (arity : Arity) (style : Complement) : List String :=
  (List.range arity.cells).map (arity.label style)

end Arity

end Karnaugh
