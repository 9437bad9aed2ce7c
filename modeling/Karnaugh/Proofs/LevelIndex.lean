import Karnaugh.Proofs.SolvedLevels

set_option autoImplicit false

/-! # How far the level index goes

The moves that go to a level stop at the end of the levels. Starting to play and changing the map size
do not: they take the stored counter as it is. How far a number lies beyond the end is its `overrun`.
Playing records no number that has one, so a counter keeps its overrun through every run
(`overrun_counter_run`), and the index has either the overrun of its counter or none, depending on how
the level was last chosen (`chosenBy_run`). An index beyond the end is therefore always one that the
store had from the beginning (`index_overruns_iff_resumed`), and a number of 64 bits like every
counter, so that it is known where the next level lies (`Play.index_next`). -/

namespace Karnaugh.Puzzle

open Records (Store Fallible Entries Memory Interruptible)
open Records.Fallible (content)

/-- How far a number of levels lies beyond the end of the levels. -/
def overrun (arity : Arity) (number : Nat) : Nat :=
  number - (levels arity).length

/-- Going on stops at the end of the levels, and begins anew after the last number of 64 bits. -/
theorem Play.index_next {σ : Type} {play : Play σ} (h : play.index < Text.Decimal.bound) :
    play.next.index =
      if play.index + 1 = Text.Decimal.bound then 0
      else min (play.index + 1) (levels play.arity).length := by
  have hselected : play.next.index = min play.nextIndex (levels play.arity).length := rfl
  rw [hselected]
  split
  · next hlast => rw [nextIndex_of_eq hlast, Nat.zero_min]
  · next hlast => rw [nextIndex_of_lt (Nat.lt_of_le_of_ne h hlast)]

/-! ## Counters -/

/-- A number of levels that exist changes no overrun. -/
theorem overrun_counter_raise (entries : Entries) {arity : Arity} {number : Nat}
    (h : number ≤ (levels arity).length) (a : Arity) :
    overrun a ((entries.raise arity number).counter a) = overrun a (entries.counter a) := by
  rw [Entries.counter_raise entries arity (Nat.lt_of_le_of_lt h (length_levels_lt_bound arity))]
  split
  · next ha =>
    subst ha
    rw [overrun, overrun]
    omega
  · rfl

variable {σ : Type} [Store σ] [Fallible σ]

/-- Recording a level that exists changes no overrun, whether it succeeds or not. -/
theorem overrun_counter_record {play : Play σ} {level : Level} (h : play.level? = some level)
    (a : Arity) :
    overrun a ((content (Records.Progress.record play.store play.arity (play.index + 1)).2).counter a) =
      overrun a ((content play.store).counter a) := by
  rcases Records.content_record play.store play.arity (play.index + 1) with hraised | ⟨-, hkept⟩
  · rw [hraised]
    exact overrun_counter_raise _ (Play.index_lt_of_level? h) a
  · rw [hkept]

theorem overrun_counter_moved {play left : Play σ} {m : Play.Move} {answer : Except Fault Play.Answer}
    (h : Play.Moved play m answer left) (a : Arity) :
    overrun a ((content left.store).counter a) = overrun a ((content play.store).counter a) := by
  cases h with
  | locked | flipped | outside | unanswered | refuted | selected | switched | unread => rfl
  | acknowledged hlevel _ hrecord | unrecorded hlevel _ hrecord =>
    have hkept := overrun_counter_record hlevel a
    rw [hrecord] at hkept
    exact hkept

namespace Session

theorem overrun_counter_turn (session : Session σ) (t : Turn σ) (a : Arity) :
    overrun a ((content (session.turn t).2.store).counter a) =
      overrun a ((content session.store).counter a) := by
  obtain ⟨action, trouble⟩ := t
  rw [← content_store_meeting session trouble]
  cases action with
  | start arity =>
    show overrun a ((content ((session.meeting trouble).act (.start arity)).2.store).counter a) = _
    rw [store_act_start]
  | move m =>
    cases session with
    | idle store => rfl
    | playing play => exact overrun_counter_moved (Play.moved_move _ m) a

theorem overrun_counter_run (session : Session σ) (turns : List (Turn σ)) (a : Arity) :
    overrun a ((content (session.run turns).2.store).counter a) =
      overrun a ((content session.store).counter a) := by
  induction turns generalizing session with
  | nil => rfl
  | cons t rest ih => exact (ih (session.turn t).2).trans (overrun_counter_turn session t a)

/-! ## How the level was chosen -/

/-- Whether an event chose the level by the stored counter or otherwise, if it chose one. -/
def Event.resumes? (event : Event σ) : Option Bool :=
  match event.action, event.answer with
  | .start _, .ok _ => some true
  | .move (.switch _), .ok _ => some true
  | .move .next, _ => some false
  | .move (.select _), _ => some false
  | _, _ => none

/-- Whether the level was last chosen by the stored counter, given whether it was `before`. -/
def resumed (before : Bool) (history : List (Event σ)) : Bool :=
  history.foldl (fun was event => event.resumes?.getD was) before

/-- The index has the overrun of the counter, if that chose it, and none otherwise. -/
def ChosenBy (counter : Bool) (play : Play σ) : Prop :=
  overrun play.arity play.index =
    if counter then overrun play.arity ((content play.store).counter play.arity) else 0

theorem chosenBy_moved {play left : Play σ} {m : Play.Move} {answer : Except Fault Play.Answer}
    (h : Play.Moved play m answer left) {was : Bool} (hplay : ChosenBy was play) :
    ChosenBy ((Event.resumes? ⟨playing play, .move m, answer⟩).getD was) left := by
  cases h with
  | locked | flipped | outside | refuted | unread => exact hplay
  | unanswered hmove hlevel => rcases hmove with rfl | rfl <;> exact hplay
  | acknowledged hlevel hmove hrecord | unrecorded hlevel hmove hrecord =>
    have hkept := overrun_counter_record hlevel play.arity
    rw [hrecord] at hkept
    rw [ChosenBy, ← hkept] at hplay
    rcases hmove with ⟨rfl, -⟩ | rfl <;> exact hplay
  | selected hmove =>
    have hnone : ∀ n, overrun play.arity (min n (levels play.arity).length) = 0 := fun n =>
      Nat.sub_eq_zero_of_le (Nat.min_le_right n _)
    rcases hmove with ⟨rfl, -⟩ | rfl <;> exact hnone _
  | switched hlevel =>
    rw [Records.level_ok hlevel]
    rfl

theorem chosenBy_turn {session : Session σ} {was : Bool} (h : session.Holds (ChosenBy was))
    (t : Turn σ) :
    (session.turn t).2.Holds (ChosenBy ((session.turn t).1.resumes?.getD was)) := by
  obtain ⟨action, trouble⟩ := t
  cases action with
  | start arity =>
    simp only [turn, act, Play.start]
    cases hlevel : Records.Progress.level (session.meeting trouble).store arity with
    | ok index =>
      show ChosenBy true _
      rw [Records.level_ok hlevel]
      rfl
    | error fault => trivial
  | move m =>
    cases session with
    | idle store => trivial
    | playing play =>
      refine chosenBy_moved (Play.moved_move _ m) ?_
      rw [ChosenBy, Fallible.content_meeting]
      exact h

theorem chosenBy_run {session : Session σ} {was : Bool} (h : session.Holds (ChosenBy was))
    (turns : List (Turn σ)) :
    (session.run turns).2.Holds (ChosenBy (resumed was (session.run turns).1)) := by
  induction turns generalizing session was with
  | nil => exact h
  | cons t rest ih => exact ih (chosenBy_turn h t)

/-! ## Beyond the end -/

/-- Starting to play takes up the counter of a memory as it is. -/
theorem run_start_memory (entries : Entries) (arity : Arity) :
    let store : Interruptible Memory := ⟨⟨entries⟩, none, none⟩
    (idle store).run [⟨.start arity, (none, none)⟩] =
      ([⟨idle store, .start arity, .ok .done⟩],
        playing ⟨arity, store, entries.counter arity, Grid.zeros arity, none⟩) := rfl

/-- **The index goes beyond the end of the levels only where the stored counter did.** Whatever a
    store holds, whatever is done in a session over it and whichever of its reads and writes fail: the
    index is beyond the end exactly when the level was last chosen by the stored counter and that
    counter was beyond the end from the beginning; it is that counter then. Going to the next level
    leads back exactly in this case: to the end of the levels, or to the first level where the index
    is the last number of 64 bits. -/
theorem index_overruns_iff_resumed (store : σ) (turns : List (Turn σ)) {play : Play σ}
    (h : ((idle store).run turns).2 = playing play) :
    let last := (levels play.arity).length
    let stored := (content store).counter play.arity
    (last < play.index ↔ resumed false ((idle store).run turns).1 = true ∧ last < stored) ∧
      (last < play.index → play.index = stored) ∧
      play.index < Text.Decimal.bound ∧
      (play.next.index < play.index ↔ last < play.index) ∧
      play.next.index =
        if play.index + 1 = Text.Decimal.bound then 0 else min (play.index + 1) last := by
  intro last stored
  have hidle : Holds (ChosenBy false) (idle store) := trivial
  have hchosen : Holds (ChosenBy (resumed false ((idle store).run turns).1)) (playing play) :=
    h ▸ chosenBy_run hidle turns
  have hcounter : overrun play.arity ((content play.store).counter play.arity) =
      overrun play.arity stored := by
    have := overrun_counter_run (idle store) turns play.arity
    rw [h] at this
    exact this
  have hindex : play.index - last =
      if resumed false ((idle store).run turns).1 then stored - last else 0 := by
    rw [show play.index - last = _ from hchosen, hcounter]
    rfl
  have hresume : last < play.index → play.index = stored := by
    intro hbeyond
    split at hindex <;> omega
  have hbound : play.index < Text.Decimal.bound := by
    by_cases hbeyond : last < play.index
    · rw [hresume hbeyond]
      exact Entries.counter_lt_bound _ _
    · exact Nat.lt_of_le_of_lt (Nat.not_lt.1 hbeyond) (length_levels_lt_bound play.arity)
  have hnext := Play.index_next hbound
  refine ⟨?_, hresume, hbound, ?_, hnext⟩
  · split at hindex
    · next hresumed =>
      rw [hresumed, eq_self, true_and]
      omega
    · next hresumed =>
      have hwithin : ¬last < play.index := by omega
      simp [hwithin, hresumed]
  · rw [hnext]
    have hlast : last + 1 < Text.Decimal.bound := succ_length_levels_lt_bound play.arity
    split <;> omega

/-- Counters of 1000 and of the last number of 64 bits are taken up as they are. Going on leads from the
    one back to the end of the levels and from the other to the first level. -/
theorem index_overruns_from_stored :
    let store (n : Nat) : Interruptible Memory :=
      ⟨⟨Entries.empty.insert (Records.levelKey .two) (Text.Decimal.write n)⟩, none, none⟩
    let turns : List (Turn (Interruptible Memory)) := [⟨.start .two, (none, none)⟩]
    (∃ play, ((idle (store 1000)).run turns).2 = playing play ∧
      (levels play.arity).length < play.index ∧ play.next.index < play.index ∧
      play.next.index = (levels play.arity).length) ∧
    ∃ play, ((idle (store 18446744073709551615)).run turns).2 = playing play ∧
      (levels play.arity).length < play.index ∧ play.next.index < play.index ∧
      play.next.index = 0 := by
  intro store turns
  have hreached : ∀ n, 59 < n → n < Text.Decimal.bound →
      ∃ play, ((idle (store n)).run turns).2 = playing play ∧
        (levels play.arity).length < play.index ∧ play.next.index < play.index ∧
        play.next.index =
          if n + 1 = Text.Decimal.bound then 0 else min (n + 1) (levels play.arity).length := by
    intro n hmany hn
    have hcounter : (store n).inner.entries.counter .two = n := by
      rw [Entries.counter, Entries.get?_insert, if_pos rfl, Records.counterOf_write hn]
    have hrun := run_start_memory (store n).inner.entries .two
    rw [hcounter] at hrun
    have hstored : 59 < (store n).inner.entries.counter .two := by rwa [hcounter]
    obtain ⟨hbeyond, -, -, hback, hnext⟩ :=
      index_overruns_iff_resumed (store n) turns (congrArg Prod.snd hrun)
    have hlast := hbeyond.2 ⟨congrArg (resumed false ·.1) hrun, hstored⟩
    exact ⟨_, congrArg Prod.snd hrun, hlast, hback.2 hlast, hnext⟩
  constructor
  · obtain ⟨play, hrun, hlast, hback, hnext⟩ := hreached 1000 (by decide) (by decide)
    have hlength : (levels play.arity).length ≤ 1000 + 1 := by
      rw [length_levels]
      cases play.arity <;> decide
    refine ⟨play, hrun, hlast, hback, ?_⟩
    rw [hnext, if_neg (by decide), Nat.min_eq_right hlength]
  · exact hreached 18446744073709551615 (by decide) (by decide)

end Session

end Karnaugh.Puzzle
