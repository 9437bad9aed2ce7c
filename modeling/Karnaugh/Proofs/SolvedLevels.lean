import Karnaugh.Proofs.Sessions

set_option autoImplicit false

/-! # The counters are the levels solved

Whatever happens in a session, a counter says how far the levels of its map size have been solved: it
is the largest number of a level that a check or a filled-in solution was answered `correct` for, or
what it was before. `content_turn` says this of one turn, as entries that are raised or left alone,
and `content_run` of a whole run; the counters are then read off (`level_run_eq_max_solved`). Failed
reads and writes, levels passed over, changes of the map size and new starts leave no trace. -/

namespace Karnaugh.Puzzle

open Records (Store Fallible Entries Memory Interruptible)
open Records.Fallible (content)

theorem Play.index_lt_of_level? {σ : Type} {play : Play σ} {level : Level}
    (h : play.level? = some level) : play.index < (levels play.arity).length :=
  (List.getElem?_eq_some_iff.1 h).1

/-- The number of levels fits a counter, and is not the last number that does. -/
theorem succ_length_levels_lt_bound (arity : Arity) :
    (levels arity).length + 1 < Text.Decimal.bound := by
  rw [length_levels]
  cases arity <;> decide

theorem length_levels_lt_bound (arity : Arity) : (levels arity).length < Text.Decimal.bound :=
  Nat.lt_of_succ_lt (succ_length_levels_lt_bound arity)

theorem Play.number_lt_bound {σ : Type} {play : Play σ} {level : Level}
    (h : play.level? = some level) : play.index + 1 < Text.Decimal.bound :=
  Nat.lt_of_le_of_lt (index_lt_of_level? h) (length_levels_lt_bound play.arity)

namespace Session

variable {σ : Type}

/-! ## Solved levels -/

/-- The level that a check or a solution was answered `correct` for, by its map size and its number
    counted from one. -/
def Event.solved? (event : Event σ) : Option (Arity × Nat) :=
  match event.before, event.action, event.answer with
  | .playing play, .move .check, .ok (.verdict (some .correct)) => some (play.arity, play.index + 1)
  | .playing play, .move .solve, .ok (.verdict (some .correct)) => some (play.arity, play.index + 1)
  | _, _, _ => none

/-- The levels solved in a run, in their order. -/
def solved (history : List (Event σ)) : List (Arity × Nat) :=
  history.filterMap Event.solved?

theorem eq_of_solved?_move {play : Play σ} {m : Play.Move} {answer : Except Fault Play.Answer}
    {r : Arity × Nat} (h : Event.solved? ⟨playing play, .move m, answer⟩ = some r) :
    answer = .ok (.verdict (some .correct)) ∧ r = (play.arity, play.index + 1) := by
  simp only [Event.solved?] at h
  split at h
  · next hbefore haction hanswer => simp_all
  · next hbefore haction hanswer => simp_all
  · cases h

section Numbers

variable [Store σ]

/-- A level that is solved exists, so its number is small. -/
theorem number_lt_bound_of_moved {play left : Play σ} {m : Play.Move}
    {answer : Except Fault Play.Answer} (h : Play.Moved play m answer left) {r : Arity × Nat}
    (hr : Event.solved? ⟨playing play, .move m, answer⟩ = some r) : r.2 < Text.Decimal.bound := by
  obtain ⟨rfl, rfl⟩ := eq_of_solved?_move hr
  cases h with
  | acknowledged hlevel hmove hrecord => exact Play.number_lt_bound hlevel

variable [Fallible σ]

theorem number_lt_bound_of_mem_solved (session : Session σ) (turns : List (Turn σ)) :
    ∀ r ∈ solved (session.run turns).1, r.2 < Text.Decimal.bound := by
  induction turns generalizing session with
  | nil => simp [run, solved]
  | cons t rest ih =>
    intro r hr
    obtain ⟨event, hevent, hsolved⟩ := List.mem_filterMap.1 hr
    rcases List.mem_cons.1 hevent with rfl | hevent
    · obtain ⟨action, trouble⟩ := t
      cases action with
      | start arity => simp [Event.solved?] at hsolved
      | move m =>
        cases session with
        | idle store => simp [meeting, Event.solved?] at hsolved
        | playing play => exact number_lt_bound_of_moved (Play.moved_move _ m) hsolved
    · exact ih (session.turn t).2 r (List.mem_filterMap.2 ⟨event, hevent, hsolved⟩)

end Numbers

/-! ## What a session leaves in the store -/

/-- Solving a level raises its counter, and no other move changes the entries. -/
theorem content_moved {play left : Play (Interruptible Memory)} {m : Play.Move}
    {answer : Except Fault Play.Answer} (h : Play.Moved play m answer left) :
    content left.store =
      (content play.store).raiseAll (Event.solved? ⟨playing play, .move m, answer⟩).toList := by
  cases h with
  | locked | flipped | outside | refuted | switched | unread => rfl
  | unanswered hmove hlevel => rcases hmove with rfl | rfl <;> rfl
  | selected hmove => rcases hmove with ⟨rfl, -⟩ | rfl <;> rfl
  | acknowledged hlevel hmove hrecord =>
    have hraised := Records.content_record_of_ok hrecord
    rcases hmove with ⟨rfl, -⟩ | rfl <;> exact hraised
  | unrecorded hlevel hmove hrecord =>
    have hkept := Records.content_record_of_error Interruptible.content_set_of_error hrecord
    rcases hmove with ⟨rfl, -⟩ | rfl <;> exact hkept

/-- A turn raises the counter of the level solved in it, if any. -/
theorem content_turn (session : Session (Interruptible Memory)) (t : Turn (Interruptible Memory)) :
    content (session.turn t).2.store =
      (content session.store).raiseAll (session.turn t).1.solved?.toList := by
  obtain ⟨action, trouble⟩ := t
  rw [← content_store_meeting session trouble]
  cases action with
  | start arity =>
    have hnothing : (session.turn ⟨.start arity, trouble⟩).1.solved? = none := by
      simp [turn, Event.solved?]
    rw [hnothing]
    exact congrArg content (store_act_start (session.meeting trouble) arity)
  | move m =>
    cases session with
    | idle store => rfl
    | playing play => exact content_moved (Play.moved_move _ m)

/-- A run raises the counters of the levels solved in it. -/
theorem content_run (session : Session (Interruptible Memory))
    (turns : List (Turn (Interruptible Memory))) :
    content (session.run turns).2.store =
      (content session.store).raiseAll (solved (session.run turns).1) := by
  induction turns generalizing session with
  | nil => rfl
  | cons t rest ih =>
    have hcons : solved (session.run (t :: rest)).1 =
        (session.turn t).1.solved?.toList ++ solved ((session.turn t).2.run rest).1 := by
      simp only [solved, run, List.filterMap_cons]
      cases (session.turn t).1.solved? <;> rfl
    have hrest : (session.run (t :: rest)).2 = ((session.turn t).2.run rest).2 := rfl
    rw [hcons, hrest, ih, content_turn, Entries.raiseAll, Entries.raiseAll, Entries.raiseAll,
      List.foldl_append]

/-- **A counter is the largest number of a level solved, or what it was.** In every run of a session
    over a memory whose reads and writes fail at will, from whatever entries and in whatever state it
    begins: each counter ends at the maximum of what it was and of the numbers of the levels of its
    map size that were answered `correct`; a counter that ends where it was keeps its text; and no
    other entry changes. -/
theorem level_run_eq_max_solved (session : Session (Interruptible Memory))
    (turns : List (Turn (Interruptible Memory))) :
    let before := session.store.inner
    let history := (session.run turns).1
    let after := (session.run turns).2.store.inner
    (∀ arity, Records.Progress.level after arity =
      .ok ((Entries.numbersOf arity (solved history)).foldl max (before.entries.counter arity))) ∧
    (∀ arity, after.entries.counter arity = before.entries.counter arity →
      after.entries.get? (Records.levelKey arity) = before.entries.get? (Records.levelKey arity)) ∧
    ∀ key, (∀ arity, key ≠ Records.levelKey arity) →
      after.entries.get? key = before.entries.get? key := by
  intro before history after
  have hafter : after.entries = before.entries.raiseAll (solved history) :=
    content_run session turns
  have hbound := number_lt_bound_of_mem_solved session turns
  refine ⟨?_, ?_, ?_⟩
  · intro arity
    have hlevel : Records.Progress.level after arity = .ok (after.entries.counter arity) := rfl
    rw [hlevel, hafter, Entries.counter_raiseAll before.entries hbound arity]
  · intro arity hsame
    rw [hafter] at hsame ⊢
    exact Entries.get?_raiseAll_of_counter_eq hbound hsame
  · intro key hkey
    rw [hafter]
    exact Entries.get?_raiseAll_of_ne before.entries _ hkey

end Session

end Karnaugh.Puzzle
