import Karnaugh.Proofs.FileFormat
import Karnaugh.Proofs.Sessions

set_option autoImplicit false

/-! # Stores that do as other stores do

What is done with a store is done by reading and writing it and by nothing else. So when a function on
stores keeps what is read and can be exchanged with writing (`Simulates`), it can be exchanged with
everything: with requests to the progress (`Simulates.handle`), with the moves of a play
(`Simulates.move`) and with what is done in a session (`Simulates.act`). The two sides then give the
same answers and differ in their stores alone. The function need not do this on every store, only on
those with a property that writing keeps; and only entries that a line can hold are ever written. -/

namespace Karnaugh

/-! ## Outcomes -/

/-- Two outcomes of the same operation, on a state and on its image: the answers are equal, the image
    is taken to what is left of the image, and what is left still has the property. -/
structure Carried {α S T : Type} (I : S → Prop) (f : S → T) (outcome : α × S) (image : α × T) :
    Prop where
  eq : image = (outcome.1, f outcome.2)
  kept : I outcome.2

/-- What is made of an answer does not matter. -/
theorem Carried.map {α β S T : Type} {I : S → Prop} {f : S → T} {outcome : α × S} {image : α × T}
    (h : Carried I f outcome image) (g : α → β) :
    Carried I f (g outcome.1, outcome.2) (g image.1, image.2) where
  eq := by rw [h.eq]
  kept := h.kept

namespace Records

variable {σ τ : Type} [Store σ] [Store τ]

/-- As long as a store has the property, its image reads alike and takes the same writes, and what is
    written keeps the property. -/
structure Simulates (I : σ → Prop) (f : σ → τ) : Prop where
  get : ∀ {store}, I store → ∀ key, Store.get (f store) key = Store.get store key
  set : ∀ {store}, I store → ∀ {key value}, Writable key value →
    Carried I f (Store.set store key value) (Store.set (f store) key value)

namespace Simulates

variable {I : σ → Prop} {f : σ → τ}

/-! ## Progress -/

theorem level (h : Simulates I f) {store : σ} (hstore : I store) (arity : Arity) :
    Progress.level (f store) arity = Progress.level store arity := by
  rw [Progress.level, h.get hstore, Progress.level]

theorem tutorialSeen (h : Simulates I f) {store : σ} (hstore : I store) :
    Progress.tutorialSeen (f store) = Progress.tutorialSeen store := by
  rw [Progress.tutorialSeen, h.get hstore, Progress.tutorialSeen]

theorem record (h : Simulates I f) {store : σ} (hstore : I store) (arity : Arity) (reached : Nat) :
    Carried I f (Progress.record store arity reached) (Progress.record (f store) arity reached) := by
  unfold Progress.record
  rw [h.level hstore]
  cases Progress.level store arity with
  | error fault => exact ⟨rfl, hstore⟩
  | ok stored =>
    dsimp only
    split
    · exact (h.set hstore (writable_counter arity reached)).map fun result => result.map fun _ => true
    · exact ⟨rfl, hstore⟩

theorem handle (h : Simulates I f) {store : σ} (hstore : I store) (request : Progress.Request) :
    Carried I f (Progress.handle store request) (Progress.handle (f store) request) := by
  cases request with
  | level arity => exact ⟨by rw [Progress.handle, h.level hstore, Progress.handle], hstore⟩
  | record arity reached =>
    exact (h.record hstore arity reached).map fun result => result.map Progress.Answer.truth
  | tutorialSeen => exact ⟨by rw [Progress.handle, h.tutorialSeen hstore, Progress.handle], hstore⟩
  | markTutorialSeen =>
    exact (h.set hstore writable_tutorial).map fun result =>
      result.map fun _ => Progress.Answer.done

end Simulates

end Records

/-! ## Plays -/

namespace Puzzle

open Records (Store)

/-- The play over the image of its store. -/
def Play.map {σ τ : Type} (f : σ → τ) (play : Play σ) : Play τ :=
  ⟨play.arity, f play.store, play.index, play.grid, play.verdict⟩

section

variable {σ τ : Type} (f : σ → τ) (play : Play σ)

@[simp]
theorem Play.arity_map : (play.map f).arity = play.arity := rfl

@[simp]
theorem Play.store_map : (play.map f).store = f play.store := rfl

@[simp]
theorem Play.index_map : (play.map f).index = play.index := rfl

@[simp]
theorem Play.grid_map : (play.map f).grid = play.grid := rfl

@[simp]
theorem Play.verdict_map : (play.map f).verdict = play.verdict := rfl

@[simp]
theorem Play.level?_map : (play.map f).level? = play.level? := rfl

end

/-- Starting to play leaves the store as it is. -/
theorem Play.store_of_start {σ : Type} [Store σ] {store : σ} {arity : Arity} {play : Play σ}
    (h : Play.start arity store = .ok play) : play.store = store := by
  rw [Play.start] at h
  cases hlevel : Records.Progress.level store arity with
  | ok index =>
    rw [hlevel] at h
    cases h
    rfl
  | error fault =>
    rw [hlevel] at h
    cases h

/-- The session over the image of its store. -/
def Session.map {σ τ : Type} (f : σ → τ) : Session σ → Session τ
  | .idle store => .idle (f store)
  | .playing play => .playing (play.map f)

@[simp]
theorem Session.map_idle {σ τ : Type} (f : σ → τ) (store : σ) :
    (idle store).map f = idle (f store) := rfl

@[simp]
theorem Session.store_map {σ τ : Type} (f : σ → τ) (session : Session σ) :
    (session.map f).store = f session.store := by
  cases session <;> rfl

end Puzzle

namespace Records.Simulates

open Puzzle

variable {σ τ : Type} [Store σ] [Store τ] {I : σ → Prop} {f : σ → τ}

theorem start (h : Simulates I f) {store : σ} (hstore : I store) (arity : Arity) :
    Play.start arity (f store) = (Play.start arity store).map (Play.map f) := by
  rw [Play.start, h.level hstore, Play.start]
  cases Progress.level store arity <;> rfl

omit [Store σ] [Store τ] in
theorem toggle (play : Play σ) (hplay : I play.store) (position : Nat) :
    Carried (fun p => I p.store) (Play.map f) (play.toggle position)
      ((play.map f).toggle position) := by
  unfold Play.toggle
  rw [Play.verdict_map, Play.grid_map]
  split
  · exact ⟨rfl, hplay⟩
  · cases play.grid.toggle position <;> exact ⟨rfl, hplay⟩

theorem acknowledge (h : Simulates I f) (play : Play σ) (hplay : I play.store) :
    Carried (fun p => I p.store) (Play.map f) play.acknowledge (play.map f).acknowledge := by
  have hrecord := h.record hplay play.arity (play.index + 1)
  simp only [Play.acknowledge, Play.recordSolved, Play.store_map, Play.arity_map, Play.index_map,
    hrecord.eq]
  have hkept := hrecord.kept
  cases (Progress.record play.store play.arity (play.index + 1)).1 <;> exact ⟨rfl, hkept⟩

theorem check (h : Simulates I f) (play : Play σ) (hplay : I play.store) :
    Carried (fun p => I p.store) (Play.map f) play.check (play.map f).check := by
  unfold Play.check
  rw [Play.level?_map]
  cases play.level? with
  | none => exact ⟨rfl, hplay⟩
  | some level =>
    dsimp only
    rw [Play.grid_map, Play.arity_map]
    split
    · exact h.acknowledge play hplay
    · exact ⟨rfl, hplay⟩

theorem solve (h : Simulates I f) (play : Play σ) (hplay : I play.store) :
    Carried (fun p => I p.store) (Play.map f) play.solve (play.map f).solve := by
  unfold Play.solve
  rw [Play.level?_map]
  cases play.level? with
  | none => exact ⟨rfl, hplay⟩
  | some level => exact h.acknowledge { play with grid := level.target play.arity } hplay

theorem switch (h : Simulates I f) (play : Play σ) (hplay : I play.store) (arity : Arity) :
    Carried (fun p => I p.store) (Play.map f) (play.switch arity) ((play.map f).switch arity) := by
  unfold Play.switch
  rw [Play.store_map, h.level hplay]
  cases Progress.level play.store arity <;> exact ⟨rfl, hplay⟩

theorem move (h : Simulates I f) (play : Play σ) (hplay : I play.store) (m : Play.Move) :
    Carried (fun p => I p.store) (Play.map f) (play.move m) ((play.map f).move m) := by
  cases m with
  | toggle position =>
    exact (toggle play hplay position).map fun result => result.map Play.Answer.changed
  | check =>
    exact (h.check play hplay).map fun result =>
      (result.map Play.Answer.verdict).mapError Fault.storage
  | solve =>
    exact (h.solve play hplay).map fun result =>
      (result.map Play.Answer.verdict).mapError Fault.storage
  | next => exact ⟨rfl, hplay⟩
  | select index => exact ⟨rfl, hplay⟩
  | switch arity =>
    exact (h.switch play hplay arity).map fun result =>
      (result.map fun _ => Play.Answer.done).mapError Fault.storage

/-! ## Sessions -/

theorem act (h : Simulates I f) (session : Session σ) (hsession : I session.store)
    (action : Session.Action) :
    Carried (fun s => I s.store) (Session.map f) (session.act action)
      ((session.map f).act action) := by
  cases action with
  | start arity =>
    simp only [Session.act, Session.store_map, h.start hsession]
    cases hstart : Play.start arity session.store with
    | ok play => exact ⟨rfl, (Play.store_of_start hstart).symm ▸ hsession⟩
    | error fault => exact ⟨rfl, hsession⟩
  | move m =>
    cases session with
    | idle store => exact ⟨rfl, hsession⟩
    | playing play =>
      have hmove := h.move play hsession m
      refine ⟨?_, hmove.kept⟩
      simp only [Session.act, Session.map, hmove.eq]

end Records.Simulates

end Karnaugh
