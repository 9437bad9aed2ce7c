import Karnaugh.CommandLine.Report
import Karnaugh.Proofs.Reopening

set_option autoImplicit false

/-! # What a command does to the progress file

A command writes the progress file for one reason only, which is that a level has been solved and its
counter is to be raised. When that is so is said by `Raises`, from the settings, the map and the entries
of the file alone. `place_run_of_viewing` covers the commands that only look; for the other two, the
play starts where `chosenLevel` says (`startPlay_holding`), a map that is flipped in cell by cell is
that map (`run_toggles`), and a solved level leaves the file that `solvedFile` describes
(`acknowledge_holding`). The main result is `run_writes_only_raised`. -/

namespace Karnaugh

/-! ## Solving a level over a file -/

namespace Puzzle.Play

open Records (Entries FileStore Place)
open Records.FileStore (InStep)

/-- What a file holds after the level of a given index has been solved: the counter is raised to the
    level after it, if it was not beyond already. -/
def solvedFile (content? : Option String) (arity : Arity) (index : Nat) : Option String :=
  let entries := Entries.ofFile content?
  if entries.counter arity ≤ index then
    some (entries.insert (Records.levelKey arity) (Text.Decimal.write (index + 1))).toText
  else content?

/-- Solving a level over a file without faults succeeds. -/
theorem acknowledge_holding {play : Play FileStore} {content? : Option String}
    (h : play.store = ⟨Entries.ofFile content?, .holding content?⟩) :
    play.acknowledge.1 = .ok (some .correct) ∧
      play.acknowledge.2.store.place = .holding (solvedFile content? play.arity play.index) := by
  have hset := (InStep.of_holding content?).set_eq (Records.levelKey play.arity)
    (Text.Decimal.write (play.index + 1))
  have hrecord := FileStore.record_eq play.store play.arity (play.index + 1)
  rw [h] at hrecord
  have hcounter : FileStore.counter ⟨Entries.ofFile content?, .holding content?⟩ play.arity =
      (Entries.ofFile content?).counter play.arity := rfl
  rw [hcounter, show FileStore.set = Records.Store.set from rfl, hset] at hrecord
  unfold acknowledge recordSolved solvedFile
  rw [h, hrecord]
  by_cases hlow : (Entries.ofFile content?).counter play.arity ≤ play.index
  · rw [if_pos (Nat.lt_succ_of_le hlow), if_pos hlow]
    exact ⟨rfl, rfl⟩
  · rw [if_neg fun hlt => hlow (Nat.le_of_lt_succ hlt), if_neg hlow]
    exact ⟨rfl, rfl⟩

theorem solve_holding {play : Play FileStore} {content? : Option String}
    (h : play.store = ⟨Entries.ofFile content?, .holding content?⟩) {level : Level}
    (hlevel : play.level? = some level) :
    play.solve.1 = .ok (some .correct) ∧
      play.solve.2.store.place = .holding (solvedFile content? play.arity play.index) := by
  let filled : Play FileStore := { play with grid := level.target play.arity }
  have hfilled : filled.store = ⟨Entries.ofFile content?, .holding content?⟩ := h
  unfold solve
  rw [hlevel]
  exact acknowledge_holding hfilled

theorem check_holding {play : Play FileStore} {content? : Option String}
    (h : play.store = ⟨Entries.ofFile content?, .holding content?⟩) {level : Level}
    (hlevel : play.level? = some level) :
    (∃ verdict, play.check.1 = .ok (some verdict)) ∧
      play.check.2.store.place = .holding
        (if play.grid = level.target play.arity then solvedFile content? play.arity play.index
          else content?) := by
  unfold check
  rw [hlevel]
  dsimp only
  split
  · obtain ⟨hanswer, hplace⟩ := acknowledge_holding h
    exact ⟨⟨_, hanswer⟩, hplace⟩
  · exact ⟨⟨_, rfl⟩, by rw [h]⟩

/-! ## Filling in a map -/

/-- Flipping some cells in turn, none of them twice, is flipping them at once. -/
theorem run_toggles {σ : Type} [Records.Store σ] {play : Play σ} {rule : Nat → Bool}
    (hverdict : play.verdict = none) (hgrid : play.grid = Grid.ofFn play.arity rule)
    {positions : List Nat} (hnodup : positions.Nodup) (hcells : ∀ p ∈ positions, p < play.arity.cells) :
    play.run (positions.map .toggle) =
      { play with grid := Grid.ofFn play.arity fun q => rule q ^^ decide (q ∈ positions) } := by
  obtain ⟨arity, store, index, grid, verdict⟩ := play
  obtain rfl : verdict = none := hverdict
  obtain rfl : grid = Grid.ofFn arity rule := hgrid
  induction positions generalizing rule with
  | nil => simp [run]
  | cons p rest ih =>
    obtain ⟨hp, hrest⟩ := List.nodup_cons.1 hnodup
    have hflip := Grid.toggle_ofFn arity rule (hcells p List.mem_cons_self)
    have hmove : (Play.move ⟨arity, store, index, Grid.ofFn arity rule, none⟩ (.toggle p)).2 =
        ⟨arity, store, index, Grid.ofFn arity fun q => if q = p then !rule q else rule q, none⟩ := by
      simp [move, toggle, hflip]
    have hthen := @ih (fun q => if q = p then !rule q else rule q) hrest fun q hq =>
      hcells q (List.mem_cons_of_mem p hq)
    rw [List.map_cons, run, List.foldl_cons, hmove]
    refine hthen.trans ?_
    have hrule : ∀ q, ((if q = p then !rule q else rule q) ^^ decide (q ∈ rest)) =
        (rule q ^^ decide (q ∈ p :: rest)) := by
      intro q
      by_cases hq : q = p
      · subst hq
        simp [hp]
      · simp [hq]
    simp only [hrule]

/-- A map flipped into the empty map, cell by cell, is that map. -/
theorem run_toggles_positions {σ : Type} [Records.Store σ] {store : σ} {index : Nat} (grid : Grid) :
    (Play.mk grid.arity store index (Grid.zeros grid.arity) none).run
        (grid.positions.map .toggle) = ⟨grid.arity, store, index, grid, none⟩ := by
  have hnodup : grid.positions.Nodup := List.Pairwise.filter _ List.nodup_range
  have hcells : ∀ p ∈ grid.positions, p < grid.arity.cells := fun p hp =>
    Grid.lt_cells_of_isSet (Grid.mem_positions.1 hp)
  rw [run_toggles rfl rfl hnodup hcells]
  congr 1
  refine Grid.ext_get? rfl fun q => ?_
  rw [Grid.get?_ofFn, Bool.false_xor]
  split
  · next hq =>
    rw [Grid.get?_eq_some_isSet hq, Option.some.injEq, Bool.eq_iff_iff, decide_eq_true_eq,
      Grid.mem_positions]
  · next hq => exact (Grid.get?_eq_none_iff.2 (Nat.le_of_not_lt hq)).symm

end Puzzle.Play

/-! ## Commands -/

namespace CommandLine

open Records (Entries FileStore Place)
open Puzzle (Play Level)

/-- The index of the level that a command is about. -/
def chosenLevel (options : Options) (entries : Entries) (arity : Arity) : Nat :=
  match options.level? with
  | some index => min index (Puzzle.levels arity).length
  | none => entries.counter arity

/-- The command shows the solution of a level or answers it correctly. -/
def Solves (options : Options) (arity : Arity) (index : Nat) : Prop :=
  options.command = .solve ∧ options.arity = .ok arity ∨
    options.command = .check ∧ ∃ text level, options.map? = some text ∧
      (Puzzle.levels arity)[index]? = some level ∧ readMap options text = .ok (level.target arity)

/-- The command solves the level that it is about, which exists, and the counter of the map size has
    not passed that level yet. -/
structure Raises (options : Options) (entries : Entries) (arity : Arity) (index : Nat) : Prop where
  solves : Solves options arity index
  chosen : index = chosenLevel options entries arity
  inside : index < (Puzzle.levels arity).length
  due : entries.counter arity ≤ index

/-- The play that a command starts over a file without faults. -/
def started (options : Options) (content? : Option String) (arity : Arity) : Play FileStore :=
  ⟨arity, ⟨Entries.ofFile content?, .holding content?⟩,
    chosenLevel options (Entries.ofFile content?) arity, Grid.zeros arity, none⟩

theorem startPlay_holding (options : Options) (content? : Option String) (arity : Arity) :
    startPlay options (.holding content?) arity = .ok (started options content? arity) := by
  unfold startPlay started chosenLevel
  rw [Records.FileStore.load_holding]
  cases options.level? <;> rfl

/-! ## Commands that look -/

theorem place_withMap {options : Options} {place : Place} {run : String → Report}
    (h : ∀ text, (run text).place = place) : (withMap options place run).place = place := by
  unfold withMap
  split
  · exact h _
  · rfl

/-- The other commands leave the file as it is. -/
theorem place_run_of_viewing {options : Options} {place : Place} (hcheck : options.command ≠ .check)
    (hsolve : options.command ≠ .solve) : (run options place).place = place := by
  unfold run
  split
  · refine place_withMap fun text => ?_
    unfold simplify
    split <;> rfl
  · refine place_withMap fun text => ?_
    unfold parse
    dsimp only
    split <;> rfl
  · refine place_withMap fun text => ?_
    unfold groups
    split <;> rfl
  · unfold levels
    dsimp only
    split <;> rfl
  · next h => exact absurd h hcheck
  · next h => exact absurd h hsolve
  · unfold progress
    dsimp only
    split <;> rfl

/-! ## Commands that play -/

theorem solve_of_arity_error {options : Options} {place : Place} {fault : Fault}
    (h : options.arity = .error fault) : solve options place = .failure place [] [] fault := by
  unfold solve
  rw [h]
  rfl

/-- Showing a solution ends well; the file is left alone when there is no level, and has the level as
    solved when there is one. -/
theorem solve_holding {options : Options} {arity : Arity} (harity : options.arity = .ok arity)
    {content? : Option String} {index : Nat}
    (hindex : index = chosenLevel options (Entries.ofFile content?) arity) :
    (solve options (.holding content?)).code = 0 ∧
      (solve options (.holding content?)).place = .holding
        (match (Puzzle.levels arity)[index]? with
          | none => content?
          | some _ => Play.solvedFile content? arity index) := by
  subst hindex
  have hstart : (do
      let arity ← options.arity
      (startPlay options (.holding content?) arity).mapError Fault.storage) =
      .ok (started options content? arity) := by
    rw [harity]
    show (startPlay options (.holding content?) arity).mapError Fault.storage = _
    rw [startPlay_holding]
    rfl
  have hlevel? : (started options content? arity).level? =
      (Puzzle.levels arity)[chosenLevel options (Entries.ofFile content?) arity]? := rfl
  unfold solve
  rw [hstart, ← hlevel?]
  dsimp only
  cases hlevel : (started options content? arity).level? with
  | none => exact ⟨rfl, rfl⟩
  | some level =>
    obtain ⟨hanswer, hplace⟩ := Play.solve_holding rfl hlevel
    dsimp only
    cases hleft : (started options content? arity).solve with
    | mk answer left =>
      rw [hleft] at hanswer hplace
      obtain rfl : answer = .ok (some .correct) := hanswer
      exact ⟨rfl, hplace⟩

/-- Answering a level ends well; the file has the level as solved when the answer is its map, and is
    left alone otherwise. -/
theorem check_holding {options : Options} {text : String} {grid : Grid}
    (hread : readMap options text = .ok grid) {content? : Option String} {index : Nat}
    (hindex : index = chosenLevel options (Entries.ofFile content?) grid.arity) :
    (check options (.holding content?) text).code = 0 ∧
      (check options (.holding content?) text).place = .holding
        (match (Puzzle.levels grid.arity)[index]? with
          | none => content?
          | some level =>
            if grid = level.target grid.arity then Play.solvedFile content? grid.arity index
            else content?) := by
  subst hindex
  have hlevel? : (started options content? grid.arity).level? =
      (Puzzle.levels grid.arity)[chosenLevel options (Entries.ofFile content?) grid.arity]? := rfl
  unfold check
  rw [hread, ← hlevel?]
  dsimp only
  rw [startPlay_holding]
  dsimp only
  cases hlevel : (started options content? grid.arity).level? with
  | none => exact ⟨rfl, rfl⟩
  | some level =>
    dsimp only
    let filled : Play FileStore := { started options content? grid.arity with grid := grid }
    have hrun : (started options content? grid.arity).run (grid.positions.map .toggle) = filled :=
      Play.run_toggles_positions grid
    have hstore : filled.store = ⟨Entries.ofFile content?, .holding content?⟩ := rfl
    have hfilled : filled.level? = some level := hlevel
    rw [hrun]
    obtain ⟨⟨verdict, hanswer⟩, hplace⟩ := Play.check_holding hstore hfilled
    cases hleft : filled.check with
    | mk answer left =>
      rw [hleft] at hanswer hplace
      obtain rfl : answer = .ok (some verdict) := hanswer
      exact ⟨rfl, hplace⟩

/-! ## Every command -/

theorem run_of_raises {options : Options} {content? : Option String} {arity : Arity} {index : Nat}
    (h : Raises options (Entries.ofFile content?) arity index) :
    (run options (.holding content?)).code = 0 ∧
      (run options (.holding content?)).place = .holding (some ((Entries.ofFile content?).insert
        (Records.levelKey arity) (Text.Decimal.write (index + 1))).toText) := by
  have hfile : Play.solvedFile content? arity index = some ((Entries.ofFile content?).insert
      (Records.levelKey arity) (Text.Decimal.write (index + 1))).toText := if_pos h.due
  rcases h.solves with ⟨hcommand, harity⟩ | ⟨hcommand, text, level, hmap, hlevel, hread⟩
  · have hrun : run options (.holding content?) = solve options (.holding content?) := by
      rw [run, hcommand]
    have hsolve := solve_holding harity h.chosen
    rw [List.getElem?_eq_getElem h.inside] at hsolve
    rw [hrun, ← hfile]
    exact hsolve
  · have hrun : run options (.holding content?) = check options (.holding content?) text := by
      rw [run, hcommand]
      dsimp only
      rw [withMap, hmap]
    have hcheck := check_holding hread h.chosen
    rw [show (level.target arity).arity = arity from rfl, hlevel] at hcheck
    rw [hrun, ← hfile]
    simpa using hcheck

theorem place_run_of_not_raises {options : Options} {content? : Option String}
    (h : ∀ arity index, ¬Raises options (Entries.ofFile content?) arity index) :
    (run options (.holding content?)).place = .holding content? := by
  have hfile : ∀ {arity index}, index = chosenLevel options (Entries.ofFile content?) arity →
      Solves options arity index → index < (Puzzle.levels arity).length →
      Play.solvedFile content? arity index = content? := fun hchosen hsolves hinside =>
    if_neg fun hdue => h _ _ ⟨hsolves, hchosen, hinside, hdue⟩
  cases hcommand : options.command with
  | simplify | parse | groups | levels | progress =>
    exact place_run_of_viewing (by simp [hcommand]) (by simp [hcommand])
  | solve =>
    rw [run, hcommand]
    dsimp only
    cases harity : options.arity with
    | error fault =>
      rw [solve_of_arity_error harity]
      rfl
    | ok arity =>
      rw [(solve_holding harity rfl).2]
      split
      · rfl
      · next level hlevel =>
        rw [hfile rfl (.inl ⟨hcommand, harity⟩) (List.getElem?_eq_some_iff.1 hlevel).1]
  | check =>
    rw [run, hcommand]
    dsimp only
    unfold withMap
    split
    · next text hmap =>
      cases hread : readMap options text with
      | error fault =>
        rw [check, hread]
        rfl
      | ok grid =>
        rw [(check_holding hread rfl).2]
        split
        · rfl
        · next level hlevel =>
          split
          · next hgrid =>
            rw [hfile rfl (.inr ⟨hcommand, text, level, hmap, hlevel, hgrid ▸ hread⟩)
              (List.getElem?_eq_some_iff.1 hlevel).1]
          · rfl
    · rfl

/-- **A command writes the progress file only to raise a counter.** Whatever the settings and whatever
    text the file has, or where there is none: when the command solves a level that the counter of its
    map size has not passed, it ends well, and the file then has the lines of its entries in key order
    with that counter set to the number of the level; otherwise the file is left as it is, and not
    created where there is none. A command that ends with a fault leaves it as it is in any case. -/
theorem run_writes_only_raised (options : Options) (content? : Option String) :
    let entries := Entries.ofFile content?
    let report := run options (.holding content?)
    (∀ arity index, Raises options entries arity index →
      report.code = 0 ∧ report.place = .holding (some (entries.insert (Records.levelKey arity)
        (Text.Decimal.write (index + 1))).toText)) ∧
      ((∀ arity index, ¬Raises options entries arity index) → report.place = .holding content?) ∧
      (report.code ≠ 0 → report.place = .holding content?) := by
  intro entries report
  refine ⟨fun arity index h => run_of_raises h, place_run_of_not_raises, ?_⟩
  intro hcode
  refine place_run_of_not_raises fun arity index h => hcode ?_
  exact (run_of_raises h).1

theorem run_writes_after_check :
    let options : Options := { command := .check, map? := some "A'B", count? := some 2 }
    let content := "# two solved\r\nkmap_game_level_2var = 1\nowner=a=b"
    let entries := Entries.ofFile (some content)
    Raises options entries .two 1 ∧
      (run options (.holding (some content))).place = .holding (some
        (entries.insert (Records.levelKey .two) (Text.Decimal.write 2)).toText) := by
  intro options content entries
  have hcounter : entries.counter .two = 1 := by decide +kernel
  have hread : readMap options "A'B" = .ok (Level.target ⟨"F = A'B", [1]⟩ .two) := rfl
  have hraises : Raises options entries .two 1 :=
    ⟨.inr ⟨rfl, _, _, rfl, rfl, hread⟩, hcounter.symm, by decide, Nat.le_of_eq hcounter⟩
  exact ⟨hraises, ((run_writes_only_raised options (some content)).1 .two 1 hraises).2⟩

end CommandLine

end Karnaugh
