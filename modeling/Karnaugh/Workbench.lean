import Karnaugh.Equation
import Karnaugh.Solution

set_option autoImplicit false

/-! # The workbench

A workbench is a map that is edited freely: cells are flipped, equations are submitted, the size is
changed. An equation that cannot be read leaves the map as it is and is remembered as the error shown
beside it, until an equation is accepted or the size is changed. -/

namespace Karnaugh

/-- The equation shown on a fresh workbench. -/
def sampleEquation : Arity → String
  | .two => "F = A'B + AB'"
  | .three => "F = A'B'C' + AB'C"

/-- Equations offered for trying out. Some of them hold products of fewer variables, which are not
    read. -/
def exampleEquations : Arity → List String
  | .two =>
    ["F = A'B + AB'",
     "F = A + B",
     "F = A' + B'",
     "F = AB + A'B'",
     "F = A'B + AB' + AB"]
  | .three =>
    ["F = A'B'C' + A'BC + ABC",
     "F = A'B' + BC' + AC",
     "F = A'B'C + AB'C' + ABC",
     "F = A'B' + B'C + AC'",
     "F = A'B'C' + A'BC' + ABC'"]

/-- A map under edit. -/
structure Workbench where
  /-- The map; its size is that of the workbench. -/
  grid : Grid
  /-- The last equation accepted, at first the sample. -/
  equation : String
  /-- Why the last equation was refused, when it was. -/
  error : Option NoTerms
  deriving DecidableEq

namespace Workbench

/-- A fresh workbench: the empty map and the sample equation. -/
def fresh (arity : Arity) : Workbench :=
  ⟨Grid.zeros arity, sampleEquation arity, none⟩

/-- The size of the map. -/
def arity (bench : Workbench) : Arity :=
  bench.grid.arity

/-- One edit of a workbench. -/
inductive Edit
  | toggle (position : Nat)
  | submit (text : String)
  /-- Start afresh with a map of another size, or the same one. -/
  | resize (arity : Arity)
  deriving DecidableEq

/-- What an edit answers. -/
inductive Answer
  /-- The new value of the flipped cell. -/
  | value (set : Bool)
  /-- The map of the accepted equation. -/
  | grid (map : Grid)
  | done
  deriving DecidableEq

/-- Flips a cell of the map; a position outside it changes nothing. -/
def toggle (bench : Workbench) (position : Nat) : Except Fault Bool × Workbench :=
  match bench.grid.toggle position with
  | .ok (value, grid) => (.ok value, { bench with grid := grid })
  | .error fault => (.error fault, bench)

/-- Submits an equation: an accepted one replaces map and equation and clears the error, a refused
    one is remembered as the error and changes nothing else. -/
def submit (bench : Workbench) (text : String) : Except NoTerms Grid × Workbench :=
  match Equation.toGrid bench.arity text with
  | .ok grid => (.ok grid, ⟨grid, text, none⟩)
  | .error fault => (.error fault, { bench with error := some fault })

/-- Carries out an edit. -/
def edit (bench : Workbench) : Edit → Except Fault Answer × Workbench
  | .toggle position =>
    let (result, bench) := bench.toggle position
    (result.map .value, bench)
  | .submit text =>
    let (result, bench) := bench.submit text
    ((result.map .grid).mapError .noTerms, bench)
  | .resize arity => (.ok .done, fresh arity)

/-- The workbench after a list of edits. -/
def run (bench : Workbench) (edits : List Edit) : Workbench :=
  edits.foldl (fun bench e => (bench.edit e).2) bench

/-- The solution of the map as it stands. -/
def solution (bench : Workbench) : Solution :=
  bench.grid.solve {}

end Workbench

end Karnaugh
