import Karnaugh.Proofs.ExactCover
import Karnaugh.Workbench
import Mathlib.Data.List.Induction

set_option autoImplicit false

/-! # What a workbench shows

A workbench is the memory of the edits it was given. What it has to show is said here by looking back
over them: the size is the one asked for last (`sizeAfter`), and of the edits since then the last
equation that could be read counts (`lastAccepted`), with the flips made after it (`flips`), and the
last equation submitted at all, when that one could not be read (`lastRefusal`). The edits are looked
through from the latest one back. `edit_shown` says what one edit adds, `run_fresh` what a whole run
comes to. -/

namespace Karnaugh

namespace Equation

theorem arity_of_toGrid {arity : Arity} {text : String} {grid : Grid}
    (h : toGrid arity text = .ok grid) : grid.arity = arity := by
  unfold toGrid read readWith at h
  dsimp only at h
  split at h
  · cases h
  · cases h
    rfl

end Equation

namespace Workbench

/-! ## What is answered -/

theorem isOk_toggle (bench : Workbench) (position : Nat) :
    (bench.toggle position).1.isOk = decide (position < bench.arity.cells) := by
  unfold toggle
  by_cases hp : position < bench.arity.cells
  · obtain ⟨changed, hchanged⟩ := Grid.toggle_of_lt hp
    rw [hchanged, decide_eq_true hp]
    rfl
  · rw [Grid.toggle_of_le (Nat.le_of_not_lt hp), decide_eq_false hp]
    rfl

theorem result_submit (bench : Workbench) (text : String) :
    (bench.submit text).1 = Equation.toGrid bench.arity text := by
  unfold submit
  cases Equation.toGrid bench.arity text <;> rfl

/-! ## Looking back -/

/-- The size that an edit asks for. -/
def Edit.size? : Edit → Option Arity
  | .resize arity => some arity
  | _ => none

/-- What reading a submitted equation gives. -/
def Edit.reading? (arity : Arity) : Edit → Option (Except NoTerms Grid)
  | .submit text => some (Equation.toGrid arity text)
  | _ => none

/-- A submitted equation that can be read, with its map. -/
def Edit.accepted? (arity : Arity) : Edit → Option (String × Grid)
  | .submit text => (Equation.toGrid arity text).toOption.map fun grid => (text, grid)
  | _ => none

/-- The size asked for last, or else the one to start with. -/
def sizeAfter (start : Arity) (edits : List Edit) : Arity :=
  (edits.reverse.findSome? Edit.size?).getD start

/-- The edits since a size was last asked for, the latest first. -/
def sinceResize (edits : List Edit) : List Edit :=
  edits.reverse.takeWhile fun e => e.size?.isNone

/-- The last equation that could be read, with its map. -/
def lastAccepted (arity : Arity) (recent : List Edit) : Option (String × Grid) :=
  recent.findSome? (Edit.accepted? arity)

/-- How often a cell was flipped since then. -/
def flips (arity : Arity) (recent : List Edit) (position : Nat) : Nat :=
  (recent.takeWhile fun e => (e.accepted? arity).isNone).count (.toggle position)

/-- Why the last equation submitted could not be read, unless it could. -/
def lastRefusal (arity : Arity) (recent : List Edit) : Option NoTerms :=
  match recent.findSome? (Edit.reading? arity) with
  | some (.error fault) => some fault
  | _ => none

/-- The value of a cell: that of the last equation, turned over by every flip since then. -/
def cellAfter (arity : Arity) (recent : List Edit) (position : Nat) : Bool :=
  ((lastAccepted arity recent).any fun last => last.2.isSet position) ^^
    flips arity recent position % 2 == 1

/-- The workbench of a size after the edits since the size was asked for. -/
def shown (arity : Arity) (recent : List Edit) : Workbench where
  grid := Grid.ofFn arity (cellAfter arity recent)
  equation := ((lastAccepted arity recent).map Prod.fst).getD (sampleEquation arity)
  error := lastRefusal arity recent

/-! ## One edit -/

theorem shown_nil (arity : Arity) : shown arity [] = fresh arity := rfl

theorem cellAfter_toggle (arity : Arity) (recent : List Edit) (position q : Nat) :
    cellAfter arity (.toggle position :: recent) q =
      if q = position then !cellAfter arity recent q else cellAfter arity recent q := by
  have hlast : lastAccepted arity (.toggle position :: recent) = lastAccepted arity recent := rfl
  have hflips : flips arity (.toggle position :: recent) q =
      flips arity recent q + if q = position then 1 else 0 := by
    unfold flips
    rw [List.takeWhile_cons_of_pos rfl, List.count_cons]
    by_cases hq : q = position
    · simp [hq]
    · have hne : Edit.toggle position ≠ .toggle q := fun heq => hq (Edit.toggle.inj heq).symm
      simp [hq, hne]
  rw [cellAfter, cellAfter, hlast, hflips]
  split
  · rcases Nat.mod_two_eq_zero_or_one (flips arity recent q) with h | h <;>
      simp [Nat.add_mod, h]
  · rfl

theorem edit_toggle_shown (arity : Arity) (recent : List Edit) (position : Nat) :
    ((shown arity recent).edit (.toggle position)).2 = shown arity (.toggle position :: recent) := by
  have hedit : ((shown arity recent).edit (.toggle position)).2 =
      ((shown arity recent).toggle position).2 := rfl
  have hgrid : (shown arity recent).grid = Grid.ofFn arity (cellAfter arity recent) := rfl
  rw [hedit, toggle, hgrid]
  by_cases hp : position < arity.cells
  · rw [Grid.toggle_ofFn arity _ hp, ← funext (cellAfter_toggle arity recent position)]
    rfl
  · -- A flip beyond the map fails, and no cell of the map sees it in the new history.
    rw [Grid.toggle_of_le (Nat.le_of_not_lt hp)]
    have hsame : Grid.ofFn arity (cellAfter arity recent) =
        Grid.ofFn arity (cellAfter arity (.toggle position :: recent)) := by
      refine Grid.ext_get? rfl fun q => ?_
      rw [Grid.get?_ofFn, Grid.get?_ofFn, cellAfter_toggle]
      by_cases hq : q < arity.cells
      · have hne : q ≠ position := fun heq => hp (heq ▸ hq)
        rw [if_pos hq, if_pos hq, if_neg hne]
      · rw [if_neg hq, if_neg hq]
    show { shown arity recent with grid := (shown arity recent).grid } = _
    rw [hgrid, hsame]
    rfl

theorem edit_submit_shown (arity : Arity) (recent : List Edit) (text : String) :
    ((shown arity recent).edit (.submit text)).2 = shown arity (.submit text :: recent) := by
  have hedit : ((shown arity recent).edit (.submit text)).2 =
      ((shown arity recent).submit text).2 := rfl
  have harity : (shown arity recent).arity = arity := rfl
  rw [hedit, submit, harity]
  cases hread : Equation.toGrid arity text with
  | ok grid =>
    have hlast : lastAccepted arity (.submit text :: recent) = some (text, grid) := by
      simp [lastAccepted, Edit.accepted?, hread, Except.toOption]
    have hflips : ∀ q, flips arity (.submit text :: recent) q = 0 := by
      intro q
      simp [flips, Edit.accepted?, hread, Except.toOption]
    have hrefusal : lastRefusal arity (.submit text :: recent) = none := by
      simp [lastRefusal, Edit.reading?, hread]
    have hgrid : grid = Grid.ofFn arity (cellAfter arity (.submit text :: recent)) := by
      have hsize := Equation.arity_of_toGrid hread
      refine Grid.ext_get? hsize fun q => ?_
      rw [Grid.get?_ofFn, cellAfter, hlast, hflips]
      by_cases hq : q < arity.cells
      · rw [if_pos hq, Grid.get?_eq_some_isSet (hsize ▸ hq)]
        simp
      · rw [if_neg hq, Grid.get?_eq_none_iff, hsize]
        exact Nat.le_of_not_lt hq
    show Workbench.mk grid text none = shown arity (.submit text :: recent)
    rw [shown, ← hgrid, hlast, hrefusal]
    rfl
  | error fault =>
    have hlast : lastAccepted arity (.submit text :: recent) = lastAccepted arity recent := by
      simp [lastAccepted, Edit.accepted?, hread, Except.toOption]
    have hflips : flips arity (.submit text :: recent) = flips arity recent := by
      funext q
      simp [flips, Edit.accepted?, hread, Except.toOption]
    have hrefusal : lastRefusal arity (.submit text :: recent) = some fault := by
      simp [lastRefusal, Edit.reading?, hread]
    have hcell : cellAfter arity (.submit text :: recent) = cellAfter arity recent := by
      funext q
      rw [cellAfter, cellAfter, hlast, hflips]
    show { shown arity recent with error := some fault } = shown arity (.submit text :: recent)
    rw [shown, shown, hcell, hlast, hrefusal]

/-- What one edit does to the workbench of a history: a change of size starts a new history, any
    other edit is added to it. -/
theorem edit_shown (arity : Arity) (recent : List Edit) (e : Edit) :
    ((shown arity recent).edit e).2 =
      match e.size? with
      | some size => shown size []
      | none => shown arity (e :: recent) := by
  cases e with
  | toggle position => exact edit_toggle_shown arity recent position
  | submit text => exact edit_submit_shown arity recent text
  | resize size => exact (shown_nil size).symm

/-- A run of edits on a fresh workbench shows their history. -/
theorem run_fresh (start : Arity) (edits : List Edit) :
    (fresh start).run edits = shown (sizeAfter start edits) (sinceResize edits) := by
  induction edits using List.reverseRecOn with
  | nil => rfl
  | append_singleton edits e ih =>
    have hrun : (fresh start).run (edits ++ [e]) = (((fresh start).run edits).edit e).2 := by
      simp [run]
    have hreverse : (edits ++ [e]).reverse = e :: edits.reverse := by simp
    rw [hrun, ih, edit_shown, sizeAfter, sizeAfter, sinceResize, sinceResize, hreverse]
    -- Looking back, the last edit is met first: it is a change of size, or it joins the others.
    cases e with
    | toggle position => rfl
    | submit text => rfl
    | resize size => rfl

/-! ## The whole run -/

/-- **What a workbench shows after any run of edits.** Its cells lie on the size asked for last; each is
    that of the last equation that could be read since then (0 when there was none), turned over by
    every flip since; equation and error are those of the last equation read and of the last one
    submitted; and its solution is exact: its sum has the map that is shown, and its blocks cover the
    ones of the map and no zero. A flip succeeds exactly on the cells of the map, and a submitted
    equation is answered by its reading. -/
theorem run_fresh_shows_history (start : Arity) (edits : List Edit) :
    let bench := (fresh start).run edits
    let arity := sizeAfter start edits
    let recent := sinceResize edits
    let last := lastAccepted arity recent
    bench.arity = arity ∧
      (∀ p, bench.grid.get? p =
        if p < arity.cells then
          some ((last.any fun l => l.2.isSet p) ^^ flips arity recent p % 2 == 1)
        else none) ∧
      bench.equation = (last.map Prod.fst).getD (sampleEquation arity) ∧
      bench.error = lastRefusal arity recent ∧
      (∀ p, (bench.toggle p).1.isOk = decide (p < arity.cells)) ∧
      (∀ text, (bench.submit text).1 = Equation.toGrid arity text) ∧
      bench.solution.sum.toGrid = bench.grid ∧
      ∀ p, (∃ b ∈ bench.solution.blocks, b.covers p = true) ↔ bench.grid.get? p = some true := by
  intro bench arity recent last
  have hbench : bench = shown arity recent := run_fresh start edits
  have harity : bench.arity = arity := by rw [hbench]; rfl
  refine ⟨harity, fun p => ?_, ?_, ?_, fun p => ?_, fun text => ?_, ?_, fun p => ?_⟩
  · rw [hbench]
    exact Grid.get?_ofFn arity (cellAfter arity recent) p
  · rw [hbench]
    rfl
  · rw [hbench]
    rfl
  · rw [isOk_toggle, harity]
  · rw [result_submit, harity]
  · exact Grid.toGrid_solve bench.grid {}
  · rw [← List.any_eq_true, solution, Grid.any_blocks_solve, Grid.isSet, beq_iff_eq]

end Workbench

end Karnaugh
