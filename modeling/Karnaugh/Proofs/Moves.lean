import Karnaugh.Puzzle.Play

set_option autoImplicit false

/-! # What a move does

A move reads the store, writes it and changes the play, and each of the first two may fail. `Moved`
lists what can come of it, one case for each path through a move: the answer, and the play as it then
is. That a move always comes to one of these cases (`moved_move`) is shown once; whatever is to be
known of all moves is then a look at the cases. The first such result is what a failed move leaves
behind: nothing has changed, except that a solution which could not be recorded stays filled in
(`move_error_changes_grid_iff`). -/

namespace Karnaugh.Puzzle.Play

open Records (Store)

variable {σ : Type} [Store σ]

/-! ## The cases -/

/-- What a move can answer, and the play that it can leave. -/
inductive Moved (play : Play σ) : Move → Except Fault Answer → Play σ → Prop
  /-- A map that is known to be correct is not changed any more. -/
  | locked {position : Nat} (hverdict : play.verdict = some .correct) :
      Moved play (.toggle position) (.ok (.changed false)) play
  | flipped {position : Nat} {value : Bool} {grid : Grid} (hverdict : play.verdict ≠ some .correct)
      (hgrid : play.grid.toggle position = .ok (value, grid)) :
      Moved play (.toggle position) (.ok (.changed true))
        { play with grid := grid, verdict := none }
  | outside {position : Nat} {fault : Fault} (hverdict : play.verdict ≠ some .correct)
      (hgrid : play.grid.toggle position = .error fault) :
      Moved play (.toggle position) (.error fault) play
  /-- All levels have been passed, so there is nothing to check or to solve. -/
  | unanswered {m : Move} (hmove : m = .check ∨ m = .solve) (hlevel : play.level? = none) :
      Moved play m (.ok (.verdict none)) play
  | refuted {level : Level} (hlevel : play.level? = some level)
      (hgrid : play.grid ≠ level.target play.arity) :
      Moved play .check (.ok (.verdict (some .wrong))) { play with verdict := some .wrong }
  /-- The level counts as solved: the map is the solution, found or filled in. -/
  | acknowledged {m : Move} {level : Level} {raised : Bool} {store : σ}
      (hlevel : play.level? = some level)
      (hmove : m = .check ∧ play.grid = level.target play.arity ∨ m = .solve)
      (hrecord : Records.Progress.record play.store play.arity (play.index + 1) =
        (.ok raised, store)) :
      Moved play m (.ok (.verdict (some .correct)))
        { play with store := store, grid := level.target play.arity, verdict := some .correct }
  /-- The same, but it could not be recorded. -/
  | unrecorded {m : Move} {level : Level} {fault : StorageFault} {store : σ}
      (hlevel : play.level? = some level)
      (hmove : m = .check ∧ play.grid = level.target play.arity ∨ m = .solve)
      (hrecord : Records.Progress.record play.store play.arity (play.index + 1) =
        (.error fault, store)) :
      Moved play m (.error (.storage fault))
        { play with store := store, grid := level.target play.arity }
  | selected {m : Move} {index : Nat}
      (hmove : m = .next ∧ index = play.nextIndex ∨ m = .select index) :
      Moved play m (.ok .done) (play.select index)
  | switched {arity : Arity} {index : Nat}
      (hlevel : Records.Progress.level play.store arity = .ok index) :
      Moved play (.switch arity) (.ok .done) ⟨arity, play.store, index, Grid.zeros arity, none⟩
  | unread {arity : Arity} {fault : StorageFault}
      (hlevel : Records.Progress.level play.store arity = .error fault) :
      Moved play (.switch arity) (.error (.storage fault)) play

/-! ## Every move is one of them -/

theorem moved_toggle (play : Play σ) (position : Nat) :
    Moved play (.toggle position) (play.move (.toggle position)).1
      (play.move (.toggle position)).2 := by
  simp only [move, toggle]
  split
  · next hverdict => exact .locked hverdict
  · next hverdict =>
    cases hgrid : play.grid.toggle position with
    | ok changed => exact .flipped hverdict hgrid
    | error fault => exact .outside hverdict hgrid

/-- The common end of checking and solving, on a play whose map is the solution by then. -/
theorem moved_acknowledge {play : Play σ} {m : Move} {level : Level}
    (hlevel : play.level? = some level)
    (hmove : m = .check ∧ play.grid = level.target play.arity ∨ m = .solve) :
    let ended := { play with grid := level.target play.arity }.acknowledge
    Moved play m ((ended.1.map .verdict).mapError .storage) ended.2 := by
  simp only [acknowledge, recordSolved]
  cases hrecord : Records.Progress.record play.store play.arity (play.index + 1) with
  | mk result store =>
    cases result with
    | ok raised => exact .acknowledged hlevel hmove hrecord
    | error fault => exact .unrecorded hlevel hmove hrecord

theorem moved_check (play : Play σ) :
    Moved play .check (play.move .check).1 (play.move .check).2 := by
  simp only [move, check]
  split
  · next hlevel => exact .unanswered (.inl rfl) hlevel
  · next level hlevel =>
    split
    · next hgrid =>
      have hfilled : { play with grid := level.target play.arity } = play := by rw [← hgrid]
      have := moved_acknowledge hlevel (.inl ⟨rfl, hgrid⟩)
      rw [hfilled] at this
      exact this
    · next hgrid => exact .refuted hlevel hgrid

theorem moved_solve (play : Play σ) :
    Moved play .solve (play.move .solve).1 (play.move .solve).2 := by
  simp only [move, solve]
  split
  · next hlevel => exact .unanswered (.inr rfl) hlevel
  · next level hlevel => exact moved_acknowledge hlevel (.inr rfl)

theorem moved_switch (play : Play σ) (arity : Arity) :
    Moved play (.switch arity) (play.move (.switch arity)).1 (play.move (.switch arity)).2 := by
  simp only [move, switch]
  cases hlevel : Records.Progress.level play.store arity with
  | ok index => exact .switched hlevel
  | error fault => exact .unread hlevel

/-- Every move comes to one of the cases. -/
theorem moved_move (play : Play σ) (m : Move) : Moved play m (play.move m).1 (play.move m).2 := by
  cases m with
  | toggle position => exact moved_toggle play position
  | check => exact moved_check play
  | solve => exact moved_solve play
  | next => exact .selected (.inl ⟨rfl, rfl⟩)
  | select index => exact .selected (.inr rfl)
  | switch arity => exact moved_switch play arity

/-! ## Failed moves -/

/-- **A failed move changes nothing but the map, and that only when a solution could not be
    recorded.** Whatever the play and the store, and whichever read or write it was that failed: map
    size, level and verdict are as before. The map differs exactly when the move was to solve a level
    whose solution was not on the map already; that solution is then filled in, although it neither
    counts as solved nor changes the verdict. -/
theorem move_error_changes_grid_iff (play : Play σ) {m : Move} {fault : Fault}
    (h : (play.move m).1 = .error fault) :
    let left := (play.move m).2
    left.arity = play.arity ∧ left.index = play.index ∧ left.verdict = play.verdict ∧
      (left.grid ≠ play.grid ↔
        m = .solve ∧ ∃ level, play.level? = some level ∧ play.grid ≠ level.target play.arity) ∧
      (left.grid ≠ play.grid →
        ∃ level, play.level? = some level ∧ left.grid = level.target play.arity) := by
  intro left
  have hmoved : Moved play m (.error fault) left := h ▸ moved_move play m
  clear_value left
  cases hmoved with
  | outside hverdict hgrid => simp
  | unread hlevel => simp
  | unrecorded hlevel hmove hrecord =>
    refine ⟨rfl, rfl, rfl, ?_, ?_⟩
    · simp only [hlevel, Option.some.injEq, exists_eq_left']
      rcases hmove with ⟨rfl, hgrid⟩ | rfl
      · simp [hgrid]
      · simp [ne_comm]
    · intro _
      exact ⟨_, hlevel, rfl⟩

theorem unrecorded_solve_changes_grid :
    let store : Records.Interruptible Records.Memory :=
      ⟨Records.Memory.empty, none, some ⟨.other, "set failed"⟩⟩
    let play : Play (Records.Interruptible Records.Memory) :=
      ⟨.two, store, 0, Grid.zeros .two, none⟩
    start .two store = .ok play ∧
      (play.move .solve).1 = .error (.storage ⟨.other, "set failed"⟩) ∧
      (play.move .solve).2.grid ≠ play.grid := by
  intro store play
  have hfailed : (play.move .solve).1 = .error (.storage ⟨.other, "set failed"⟩) := rfl
  have hlevel : play.level? = some ⟨"F = A'B'", [0]⟩ := rfl
  have hgrid : play.grid ≠ Level.target ⟨"F = A'B'", [0]⟩ .two := by decide
  exact ⟨rfl, hfailed,
    (move_error_changes_grid_iff play hfailed).2.2.2.1.2 ⟨rfl, _, hlevel, hgrid⟩⟩

end Karnaugh.Puzzle.Play
