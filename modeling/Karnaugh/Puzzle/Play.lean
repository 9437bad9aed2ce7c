import Karnaugh.Puzzle.Catalog
import Karnaugh.Records.Progress

set_option autoImplicit false

/-! # Playing levels

A `Play` is a player's way through the levels of one map size: the current level, the map filled in
so far, and the verdict on it if there is one. It starts at the stored counter. Solving a level, by a
correct answer or by having it filled in, raises the counter to the number of the next level; going to
another level does not. The store may fail at any time, so every move answers with an outcome and the
play as it then is.

Indices are numbers of 64 bits, and a stored counter can be the last of them. Adding 1 to it wraps
round to 0, as it does in a build that does not check for overflow; a build that does check stops
there, so that its runs are the runs up to that move. No other number that a play adds to is as
large: only a level that exists is recorded as solved. -/

namespace Karnaugh.Puzzle

/-- The verdict on a filled map. -/
inductive Verdict
  | correct
  | wrong
  deriving DecidableEq

/-- The word for a verdict. -/
def Verdict.word : Verdict → String
  | correct => "correct"
  | wrong => "wrong"

/-- A player's way through the levels. -/
structure Play (σ : Type) where
  /-- The map size whose levels are played. -/
  arity : Arity
  /-- Where the progress is kept. -/
  store : σ
  /-- The index of the current level; at or beyond the end of the levels there is none. -/
  index : Nat
  /-- The map as filled in by the player. -/
  grid : Grid
  /-- The verdict on the map, until it is changed. -/
  verdict : Option Verdict

namespace Play

open Records (Store)

variable {σ : Type} [Store σ]

/-! ## Starting -/

/-- Starts at the stored counter, with an empty map. -/
def start (arity : Arity) (store : σ) : Except StorageFault (Play σ) :=
  (Records.Progress.level store arity).map fun index =>
    ⟨arity, store, index, Grid.zeros arity, none⟩

omit [Store σ] in
/-- The current level, `none` when all have been passed. -/
def level? (play : Play σ) : Option Level :=
  (levels play.arity)[play.index]?

omit [Store σ] in
/-- Whether all levels have been passed. -/
def isComplete (play : Play σ) : Bool :=
  play.level?.isNone

/-! ## Moves -/

omit [Store σ] in
/-- Flips a cell and drops the verdict. While the verdict is that the map is correct nothing is
    flipped. Tells whether the map changed. -/
def toggle (play : Play σ) (position : Nat) : Except Fault Bool × Play σ :=
  if play.verdict = some .correct then (.ok false, play)
  else
    match play.grid.toggle position with
    | .ok (_, grid) => (.ok true, { play with grid := grid, verdict := none })
    | .error fault => (.error fault, play)

/-- Records the current level as solved. -/
def recordSolved (play : Play σ) : Except StorageFault Unit × Play σ :=
  let (result, store) := Records.Progress.record play.store play.arity (play.index + 1)
  (result.map fun _ => (), { play with store := store })

/-- Records the current level as solved and, when that succeeds, gives the verdict `correct`. -/
def acknowledge (play : Play σ) : Except StorageFault (Option Verdict) × Play σ :=
  match play.recordSolved with
  | (.ok (), play) => (.ok (some .correct), { play with verdict := some .correct })
  | (.error fault, play) => (.error fault, play)

/-- Compares the map with the solution of the current level; without a level there is no verdict. -/
def check (play : Play σ) : Except StorageFault (Option Verdict) × Play σ :=
  match play.level? with
  | none => (.ok none, play)
  | some level =>
    if play.grid = level.target play.arity then play.acknowledge
    else (.ok (some .wrong), { play with verdict := some .wrong })

/-- Fills in the solution of the current level, which counts as solving it. The map stays filled in
    when recording fails. -/
def solve (play : Play σ) : Except StorageFault (Option Verdict) × Play σ :=
  match play.level? with
  | none => (.ok none, play)
  | some level => { play with grid := level.target play.arity }.acknowledge

omit [Store σ] in
/-- Goes to the level with a given index, at most to the end of the levels, with an empty map. -/
def select (play : Play σ) (index : Nat) : Play σ :=
  { play with
    index := min index (levels play.arity).length
    grid := Grid.zeros play.arity
    verdict := none }

omit [Store σ] in
/-- The index after the current one. The last number of 64 bits is followed by 0. -/
def nextIndex (play : Play σ) : Nat :=
  (play.index + 1) % Text.Decimal.bound

omit [Store σ] in
/-- Goes to the next level. -/
def next (play : Play σ) : Play σ :=
  play.select play.nextIndex

omit [Store σ] in
theorem nextIndex_of_lt {play : Play σ} (h : play.index + 1 < Text.Decimal.bound) :
    play.nextIndex = play.index + 1 :=
  Nat.mod_eq_of_lt h

omit [Store σ] in
theorem nextIndex_of_eq {play : Play σ} (h : play.index + 1 = Text.Decimal.bound) :
    play.nextIndex = 0 := by
  rw [nextIndex, h, Nat.mod_self]

/-- Goes to the levels of a map size, at their stored counter, with an empty map. When the counter
    cannot be read, nothing changes. -/
def switch (play : Play σ) (arity : Arity) : Except StorageFault Unit × Play σ :=
  match Records.Progress.level play.store arity with
  | .ok index => (.ok (), ⟨arity, play.store, index, Grid.zeros arity, none⟩)
  | .error fault => (.error fault, play)

/-! ## Runs -/

/-- One move of a player. -/
inductive Move
  | toggle (position : Nat)
  | check
  /-- Have the solution filled in. -/
  | solve
  | next
  | select (index : Nat)
  | switch (arity : Arity)
  deriving DecidableEq

/-- What a move answers. -/
inductive Answer
  | changed (b : Bool)
  /-- The verdict, `none` when there is no level. -/
  | verdict (v : Option Verdict)
  | done
  deriving DecidableEq

/-- Carries out a move. -/
def move (play : Play σ) : Move → Except Fault Answer × Play σ
  | .toggle position =>
    let (result, play) := play.toggle position
    (result.map .changed, play)
  | .check =>
    let (result, play) := play.check
    ((result.map .verdict).mapError .storage, play)
  | .solve =>
    let (result, play) := play.solve
    ((result.map .verdict).mapError .storage, play)
  | .next => (.ok .done, play.next)
  | .select index => (.ok .done, play.select index)
  | .switch arity =>
    let (result, play) := play.switch arity
    ((result.map fun _ => .done).mapError .storage, play)

/-- The play after a list of moves. -/
def run (play : Play σ) (moves : List Move) : Play σ :=
  moves.foldl (fun play m => (play.move m).2) play

end Play

end Karnaugh.Puzzle
