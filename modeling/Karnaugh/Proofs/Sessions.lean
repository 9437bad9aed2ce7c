import Karnaugh.Proofs.Moves
import Karnaugh.Proofs.Raising

set_option autoImplicit false

/-! # Runs of a session

A session is a store together with the play over it. Play is started over the store, moves are made,
and play is started again, any number of times; meanwhile the store may fail as it likes. A run is a
list of such turns, each with the trouble that the store meets in it, and is looked at as its history:
what each turn began with, what was done and what was answered. What holds of a play when it starts
and is kept by each of its moves holds whenever a run leaves a play (`Inductive.run`). -/

namespace Karnaugh.Puzzle

open Records (Store Fallible)

/-- A store, with the play over it where starting one has succeeded. -/
inductive Session (σ : Type)
  | idle (store : σ)
  | playing (play : Play σ)

namespace Session

variable {σ : Type} [Store σ]

omit [Store σ] in
/-- The store of a session, played over or not. -/
def store : Session σ → σ
  | idle store => store
  | playing play => play.store

/-! ## Actions -/

/-- What can be done in a session. -/
inductive Action
  /-- Start a play over the store, in place of the one before. -/
  | start (arity : Arity)
  | move (m : Play.Move)
  deriving DecidableEq

/-- Carries out an action. A play that cannot be started leaves the store without one, and without
    a play a move does nothing. -/
def act (session : Session σ) : Action → Except Fault Play.Answer × Session σ
  | .start arity =>
    match Play.start arity session.store with
    | .ok play => (.ok .done, playing play)
    | .error fault => (.error (.storage fault), idle session.store)
  | .move m =>
    match session with
    | idle store => (.ok .done, idle store)
    | playing play =>
      let (answer, play) := play.move m
      (answer, playing play)

/-! ## Turns -/

/-- An action, and what befalls the store meanwhile. -/
structure Turn (σ : Type) [Store σ] [Fallible σ] where
  action : Action
  trouble : Fallible.Trouble σ

/-- What a turn came to. -/
structure Event (σ : Type) where
  /-- The session that the action was carried out in. -/
  before : Session σ
  action : Action
  answer : Except Fault Play.Answer

variable [Fallible σ]

/-- The session once its store has met some trouble. -/
def meeting (session : Session σ) (trouble : Fallible.Trouble σ) : Session σ :=
  match session with
  | idle store => idle (Fallible.meeting store trouble)
  | playing play => playing { play with store := Fallible.meeting play.store trouble }

/-- Carries out an action once the store has met the trouble of the turn, and tells what came of it. -/
def turn (session : Session σ) (t : Turn σ) : Event σ × Session σ :=
  let before := session.meeting t.trouble
  let (answer, after) := before.act t.action
  (⟨before, t.action, answer⟩, after)

/-- Turns one after the other, with what they came to in order. -/
def run (session : Session σ) : List (Turn σ) → List (Event σ) × Session σ
  | [] => ([], session)
  | t :: rest =>
    let (event, session) := session.turn t
    let (history, session) := session.run rest
    (event :: history, session)

/-! ## What the store holds -/

omit [Fallible σ] in
/-- Starting to play leaves the store as it is, whether it succeeds or not. -/
theorem store_act_start (session : Session σ) (arity : Arity) :
    (session.act (.start arity)).2.store = session.store := by
  simp only [act, Play.start]
  cases Records.Progress.level session.store arity <;> rfl

/-- Trouble with the store leaves what it holds. -/
theorem content_store_meeting (session : Session σ) (trouble : Fallible.Trouble σ) :
    Fallible.content (session.meeting trouble).store = Fallible.content session.store := by
  cases session <;> exact Fallible.content_meeting _ _

/-! ## What every run keeps -/

omit [Store σ] [Fallible σ] in
/-- The play of a session, if there is one, has a property. -/
def Holds (P : Play σ → Prop) : Session σ → Prop
  | idle _ => True
  | playing play => P play

/-- A property that a play has when it starts, that does not hang on the troubles of the store, and
    that the moves keep, as far as what they come to is `allowed`. -/
structure Inductive (P : Play σ → Prop) (allowed : Event σ → Prop) : Prop where
  start : ∀ arity store index, P ⟨arity, store, index, Grid.zeros arity, none⟩
  meeting : ∀ play trouble, P play → P { play with store := Fallible.meeting play.store trouble }
  moved : ∀ {play m answer left}, Play.Moved play m answer left →
    allowed ⟨playing play, .move m, answer⟩ → P play → P left

namespace Inductive

variable {P : Play σ → Prop} {allowed : Event σ → Prop}

theorem turn (h : Inductive P allowed) {session : Session σ} {t : Turn σ}
    (hallowed : allowed (session.turn t).1) (hsession : session.Holds P) :
    (session.turn t).2.Holds P := by
  obtain ⟨action, trouble⟩ := t
  cases action with
  | start arity =>
    show Holds P ((session.meeting trouble).act (.start arity)).2
    simp only [act, Play.start]
    cases Records.Progress.level (session.meeting trouble).store arity with
    | ok index => exact h.start arity _ index
    | error fault => trivial
  | move m =>
    cases session with
    | idle store => trivial
    | playing play => exact h.moved (Play.moved_move _ m) hallowed (h.meeting play trouble hsession)

theorem run (h : Inductive P allowed) {session : Session σ} (turns : List (Turn σ))
    (hallowed : ∀ event ∈ (session.run turns).1, allowed event) (hsession : session.Holds P) :
    (session.run turns).2.Holds P := by
  induction turns generalizing session with
  | nil => exact hsession
  | cons t rest ih =>
    have hnext := h.turn (hallowed (session.turn t).1 List.mem_cons_self) hsession
    exact ih (fun event hevent => hallowed event (List.mem_cons_of_mem _ hevent)) hnext

end Inductive

end Session

end Karnaugh.Puzzle
