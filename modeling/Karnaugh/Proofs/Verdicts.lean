import Karnaugh.Proofs.SolvedLevels

set_option autoImplicit false

/-! # Verdicts are true

A verdict is given when a map is compared with the solution of its level or the solution is filled in,
and stays until the map or the level changes. So at any time in a session it has to be true of the map
as it then is: a map called `correct` is the solution of the current level, which exists and is
recorded as solved (`correctHolds_inductive`), and a map called `wrong` is not
(`wrongHolds_inductive`). The second can fail after a solution was filled in that could not be
recorded, since the verdict then stays as it was; after nothing else. -/

namespace Karnaugh.Puzzle

open Records (Store Fallible Entries Memory Interruptible)
open Records.Fallible (content)

variable {σ : Type} [Store σ]

/-! ## What a verdict says -/

namespace Play

/-- The map has the size that is played. -/
def GridFits (play : Play σ) : Prop :=
  play.grid.arity = play.arity

/-- A verdict `correct` is true, and the store has the level as solved. -/
def CorrectHolds [Fallible σ] (play : Play σ) : Prop :=
  play.verdict = some .correct →
    ∃ level, play.level? = some level ∧ play.grid = level.target play.arity ∧
      play.index + 1 ≤ (content play.store).counter play.arity

/-- A verdict `wrong` is true. -/
def WrongHolds (play : Play σ) : Prop :=
  play.verdict = some .wrong →
    ∃ level, play.level? = some level ∧ play.grid ≠ level.target play.arity

end Play

/-! ## Every move keeps it true -/

namespace Session

open Play (GridFits CorrectHolds WrongHolds)

variable [Fallible σ]

theorem gridFits_inductive : Inductive (GridFits : Play σ → Prop) fun _ => True where
  start _ _ _ := rfl
  meeting _ _ h := h
  moved hmoved _ h := by
    cases hmoved with
    | flipped hverdict hgrid => exact (Grid.arity_of_toggle hgrid).trans h
    | locked | outside | unanswered | refuted | unread => exact h
    | acknowledged | unrecorded | selected | switched => rfl

theorem correctHolds_inductive : Inductive (CorrectHolds : Play σ → Prop) fun _ => True where
  start _ _ _ := by
    intro hverdict
    cases hverdict
  meeting play trouble h := by
    intro hverdict
    rw [Fallible.content_meeting]
    exact h hverdict
  moved {play _ _ left} hmoved _ h := by
    intro hverdict
    cases hmoved with
    | locked | outside | unanswered | unread => exact h hverdict
    | flipped | refuted | selected | switched => cases hverdict
    | acknowledged hlevel hmove hrecord =>
      refine ⟨_, hlevel, rfl, ?_⟩
      have hbound := Play.number_lt_bound hlevel
      rw [Records.content_record_of_ok hrecord, Entries.counter_raise _ _ hbound, if_pos rfl]
      exact Nat.le_max_right _ _
    | unrecorded hlevel hmove hrecord =>
      -- The level is the same and its solution is filled in; a failed write lowers no counter.
      obtain ⟨level, hlevel', hgrid, hcounter⟩ := h hverdict
      have hkept := Records.counter_le_counter_record play.store play.arity
        (Play.number_lt_bound hlevel) play.arity
      rw [hrecord] at hkept
      exact ⟨_, hlevel, rfl, Nat.le_trans hcounter hkept⟩

/-- A verdict `wrong` stays true as long as no solution is filled in without being recorded. -/
theorem wrongHolds_inductive : Inductive (WrongHolds : Play σ → Prop) fun event =>
    event.action = .move .solve → ∀ fault, event.answer ≠ .error fault where
  start _ _ _ := by
    intro hverdict
    cases hverdict
  meeting play trouble h := h
  moved {play _ _ left} hmoved hallowed h := by
    intro hverdict
    cases hmoved with
    | outside | unanswered | unread => exact h hverdict
    | locked hcorrect => exact h hverdict
    | flipped | acknowledged | selected | switched => cases hverdict
    | refuted hlevel hgrid => exact ⟨_, hlevel, hgrid⟩
    | unrecorded hlevel hmove hrecord =>
      rcases hmove with ⟨rfl, hgrid⟩ | rfl
      · rw [← hgrid]
        exact h hverdict
      · exact absurd rfl (hallowed rfl _)

/-! ## In every session -/

/-- **A verdict is true whenever it stands.** Whatever a store holds, whatever is done in a session
    over it and whichever of its reads and writes fail: the map has the size that is played; a map
    called `correct` is the solution of the current level, and the store has the level as solved; and
    a map called `wrong` is not the solution of the current level, unless filling in a solution has
    failed before, as it does when the store cannot be read or written. -/
theorem verdict_holds_of_run (store : σ) (turns : List (Turn σ)) {play : Play σ}
    (h : ((idle store).run turns).2 = playing play) :
    play.grid.arity = play.arity ∧ play.grid.values.length = play.arity.cells ∧
      (play.verdict = some .correct →
        ∃ level, play.level? = some level ∧ play.grid = level.target play.arity ∧
          play.index + 1 ≤ (content play.store).counter play.arity) ∧
      ((∀ event ∈ ((idle store).run turns).1,
          event.action = .move .solve → ∀ fault, event.answer ≠ .error fault) →
        play.verdict = some .wrong →
        ∃ level, play.level? = some level ∧ play.grid ≠ level.target play.arity) := by
  have hfits : Holds GridFits (playing play) :=
    h ▸ gridFits_inductive.run turns (fun _ _ => trivial) trivial
  have hcorrect : Holds CorrectHolds (playing play) :=
    h ▸ correctHolds_inductive.run turns (fun _ _ => trivial) trivial
  refine ⟨hfits, ?_, hcorrect, ?_⟩
  · rw [play.grid.length_values, show play.grid.arity = play.arity from hfits]
  · intro hsolved
    have hwrong : Holds WrongHolds (playing play) :=
      h ▸ wrongHolds_inductive.run turns hsolved trivial
    exact hwrong

/-- The empty map is wrong; then the solution is found, but the first check cannot record it. -/
theorem verdict_holds_around_failed_check :
    let fault : StorageFault := ⟨.other, "set failed"⟩
    let first : List (Turn (Interruptible Memory)) :=
      [⟨.start .two, (none, none)⟩, ⟨.move .check, (none, some fault)⟩]
    let more : List (Turn (Interruptible Memory)) :=
      [⟨.move (.toggle 0), (none, none)⟩, ⟨.move .check, (none, some fault)⟩,
        ⟨.move .check, (none, none)⟩]
    (∃ play, ((idle ⟨Memory.empty, none, none⟩).run first).2 = playing play ∧
      play.verdict = some .wrong ∧
      ∃ level, play.level? = some level ∧ play.grid ≠ level.target play.arity) ∧
    ∃ play, ((idle ⟨Memory.empty, none, none⟩).run (first ++ more)).2 = playing play ∧
      play.verdict = some .correct ∧
      ∃ level, play.level? = some level ∧ play.grid = level.target play.arity ∧
        play.index + 1 ≤ (content play.store).counter play.arity := by
  intro fault first more
  have hwrong : ((idle ⟨Memory.empty, none, none⟩).run first).2 = playing _ := rfl
  have hcorrect : ((idle ⟨Memory.empty, none, none⟩).run (first ++ more)).2 = playing _ := rfl
  refine ⟨⟨_, hwrong, rfl, (verdict_holds_of_run _ first hwrong).2.2.2 ?_ rfl⟩,
    ⟨_, hcorrect, rfl, (verdict_holds_of_run _ (first ++ more) hcorrect).2.2.1 rfl⟩⟩
  -- Neither of the two turns was to have the solution filled in.
  intro event hevent hsolve
  rcases List.mem_cons.1 hevent with rfl | hevent
  · cases hsolve
  · rw [List.mem_singleton.1 hevent] at hsolve
    cases hsolve

end Session

end Karnaugh.Puzzle
