import Karnaugh.BitString
import Karnaugh.CommandLine.Options
import Karnaugh.Puzzle.Play
import Karnaugh.Records.FileStore
import Karnaugh.Workbench

set_option autoImplicit false

/-! # Running a command

A run takes the settings and the place of the progress file and gives a `Report`: what is printed, the
exit code, and the place as it is afterwards. Nothing else changes. What has been printed before a fault
arises stays printed; the fault comes last. -/

namespace Karnaugh.CommandLine

open Records (Place FileStore)
open Puzzle (Play)

/-- The outcome of a run. -/
structure Report where
  /-- The exit code: 0, or 1 after a fault, or 2 when the command line was wrong. -/
  code : Nat
  output : List String
  messages : List String
  /-- The progress file afterwards. -/
  place : Place
  deriving DecidableEq

namespace Report

/-- A run that ends well. -/
def success (place : Place) (output messages : List String) : Report :=
  ⟨0, output, messages, place⟩

/-- A run that ends with a fault. -/
def failure (place : Place) (output messages : List String) (fault : Fault) : Report :=
  ⟨1, output, messages ++ ["Error: " ++ fault.message], place⟩

/-- A run that cannot start. -/
def usage (place : Place) (fault : UsageFault) : Report :=
  ⟨2, [], [fault.message], place⟩

end Report

/-! ## Settings -/

namespace Options

/-- The size of map asked for, three variables unless the settings say otherwise. -/
def arity (options : Options) : Except Fault Arity :=
  Arity.ofCount (options.count?.getD 3)

/-- A message that is printed only when a summary is wanted. -/
def summarize (options : Options) (line : String) : List String :=
  if options.summary then [line] else []

end Options

/-- Reads a map: a text of cells and separators as a bit string, whose size has to be the one asked for
    if one is, any other text as an equation. -/
def readMap (options : Options) (text : String) : Except Fault Grid :=
  if text.toList.all BitString.isAllowed then do
    let grid ← Grid.ofBits text.toList
    match options.count? with
    | none => return grid
    | some count =>
      let arity ← Arity.ofCount count
      if arity = grid.arity then return grid
      else throw (.cellCount (some arity.cells) grid.arity.cells)
  else do
    let arity ← options.arity
    (Equation.toGrid arity text).mapError .noTerms

/-! ## Commands on maps -/

/-- Prints the sum of a map and the blocks it comes from. -/
def simplify (options : Options) (place : Place) (text : String) : Report :=
  match readMap options text with
  | .error fault => .failure place [] [] fault
  | .ok grid =>
    let solution := grid.solve {}
    .success place
      (("F = " ++ solution.sum.text options.style) ::
        solution.descriptions.map fun line => "  " ++ line)
      (options.summarize ("Map: " ++ grid.bits ++ s!" ({grid.arity.count}-variable)"))

/-- Prints the map of an equation and tells what was skipped. -/
def parse (options : Options) (place : Place) (text : String) : Report :=
  let reading := do
    let arity ← options.arity
    (Equation.read arity text).mapError Fault.noTerms
  match reading with
  | .error fault => .failure place [] [] fault
  | .ok reading =>
    .success place [reading.grid.bits]
      ((reading.skipped.map fun term => "Skipped term: " ++ term) ++
        options.summarize
          ("Minterms: [" ++ ", ".intercalate (reading.grid.minterms.map toString) ++ "]"))

/-- Prints the blocks chosen for a map. -/
def groups (options : Options) (place : Place) (text : String) : Report :=
  match readMap options text with
  | .error fault => .failure place [] [] fault
  | .ok grid => .success place (grid.cover.map Block.description) []

/-! ## Commands on levels -/

/-- The line of a level in the list; a star marks those below the counter. -/
def levelLine (reached index : Nat) (level : Puzzle.Level) : String :=
  (if index < reached then "*" else " ") ++ " " ++ Text.Decimal.pad 3 index ++ "  " ++ level.equation

/-- Prints the levels of a map size. -/
def levels (options : Options) (place : Place) : Report :=
  let listing := do
    let arity ← options.arity
    let store ← (FileStore.load place).mapError Fault.storage
    let reached ← (Records.Progress.level store arity).mapError Fault.storage
    return (Puzzle.levels arity).mapIdx (levelLine reached)
  match listing with
  | .error fault => .failure place [] [] fault
  | .ok lines => .success place lines []

/-- Starts to play at the level asked for, or else at the stored counter. -/
def startPlay (options : Options) (place : Place) (arity : Arity) :
    Except StorageFault (Play FileStore) := do
  let store ← FileStore.load place
  let play ← Play.start arity store
  match options.level? with
  | none => return play
  | some index => return play.select index

/-- The summary of where a play stands. -/
def playLine (options : Options) (play : Play FileStore) : String :=
  "Progress file: " ++ options.progressFile ++
    s!" ({play.arity.count}-variable, level {play.index})"

/-- The line that names the current level. -/
def headLine (index : Nat) (level : Puzzle.Level) : String :=
  s!"Level {index}: " ++ level.equation

/-- What is printed when there is no level left. -/
def completeLine : String := "All levels complete!"

/-- Answers a level with a map and prints the verdict. -/
def check (options : Options) (place : Place) (text : String) : Report :=
  match readMap options text with
  | .error fault => .failure place [] [] fault
  | .ok grid =>
    match startPlay options place grid.arity with
    | .error fault => .failure place [] [] (.storage fault)
    | .ok play =>
      let summary := options.summarize (playLine options play)
      match play.level? with
      | none => .success place [completeLine] summary
      | some level =>
        let head := headLine play.index level
        match (play.run (grid.positions.map .toggle)).check with
        | (.error fault, play) => .failure play.store.place [head] summary (.storage fault)
        | (.ok verdict, play) =>
          .success play.store.place (head :: verdict.toList.map Puzzle.Verdict.word) summary

/-- Prints the solution of a level and records it as solved. -/
def solve (options : Options) (place : Place) : Report :=
  let started := do
    let arity ← options.arity
    (startPlay options place arity).mapError Fault.storage
  match started with
  | .error fault => .failure place [] [] fault
  | .ok play =>
    let summary := options.summarize (playLine options play)
    match play.level? with
    | none => .success place [completeLine] summary
    | some level =>
      let head := headLine play.index level
      match play.solve with
      | (.error fault, play) => .failure play.store.place [head] summary (.storage fault)
      | (.ok _, play) =>
        .success play.store.place
          [head, play.grid.bits, "F = " ++ (play.grid.solve {}).sum.text options.style] summary

/-- The line of a map size in the progress. -/
def progressLine (arity : Arity) (reached : Nat) : String :=
  s!"{arity.count}-variable: {reached} of {(Puzzle.levels arity).length} levels"

/-- Prints the progress. -/
def progress (place : Place) : Report :=
  let lines := do
    let store ← FileStore.load place
    let two ← Records.Progress.level store .two
    let three ← Records.Progress.level store .three
    let seen ← Records.Progress.tutorialSeen store
    return [progressLine .two two, progressLine .three three,
      "Tutorial seen: " ++ (if seen then "true" else "false")]
  match lines with
  | .error fault => .failure place [] [] (.storage fault)
  | .ok lines => .success place lines []

/-! ## All commands -/

/-- Runs a command that needs a map. -/
def withMap (options : Options) (place : Place) (run : String → Report) : Report :=
  match options.map? with
  | some text => run text
  | none => .usage place (.missingMap options.command)

/-- Runs the command of the settings. -/
def run (options : Options) (place : Place) : Report :=
  match options.command with
  | .simplify => withMap options place (simplify options place)
  | .parse => withMap options place (parse options place)
  | .groups => withMap options place (groups options place)
  | .levels => levels options place
  | .check => withMap options place (check options place)
  | .solve => solve options place
  | .progress => progress place

end Karnaugh.CommandLine
