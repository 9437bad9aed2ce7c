import Karnaugh.Proofs.Durability
import Karnaugh.Proofs.Simulation

set_option autoImplicit false

/-! # A file that is opened again and again

Where reading and writing the file do not fail, a file store does what a memory does that is kept all
the time, though the file be closed and opened again at any point. What carries this over the openings
is `InStep`: opening the file once more would give the very store that is there. It holds of a freshly
opened store whatever text the file has, since what is read from a text can be written and reads back
as it is, and setting an entry keeps it (`InStep.set`). A memory therefore simulates the file store
(`simulates_toMemory`), also over the openings (`carried_stepAll`). The file itself is untouched until
the first write, and from then on it has the lines of the memory (`place_stepAll`). -/

namespace Karnaugh

namespace Records

/-! ## Files without faults -/

/-- A place where a file holds a text, or no file is, and where nothing fails. -/
def Place.holding (content? : Option String) : Place :=
  { node := content?.map .text }

/-- The entries of a file, none where there is no file. -/
def Entries.ofFile (content? : Option String) : Entries :=
  (content?.map ofText).getD empty

theorem Entries.writable_ofFile (content? : Option String) : (ofFile content?).Writable := by
  cases content? with
  | none => exact writable_empty
  | some content => exact writable_ofText content

namespace FileStore

@[simp]
theorem load_holding (content? : Option String) :
    load (.holding content?) = .ok ⟨Entries.ofFile content?, .holding content?⟩ := by
  cases content? <;> rfl

theorem write_holding (content? : Option String) (text : String) :
    (Place.holding content?).write text = (.ok (), .holding (some text)) := by
  cases content? <;> rfl

/-- Setting an entry succeeds, and the file has the lines of all the entries afterwards. -/
theorem set_holding (entries : Entries) (content? : Option String) (key value : String) :
    Store.set (⟨entries, .holding content?⟩ : FileStore) key value =
      (.ok (), ⟨entries.insert key value, .holding (some (entries.insert key value).toText)⟩) := by
  show FileStore.set _ key value = _
  rw [FileStore.set, write_holding]

/-- The memory with the same entries. -/
def toMemory (store : FileStore) : Memory :=
  ⟨store.entries⟩

/-- The store as it is after it has been closed and opened again. -/
def reopen (store : FileStore) : Except StorageFault FileStore :=
  load store.place

/-! ## Memory and file in step -/

/-- A store over a file without faults that was found with the content `origin?`: opening it anew gives
    the store as it is, and the file is as it was found or has the lines of the memory. -/
structure InStep (origin? : Option String) (store : FileStore) : Prop where
  writable : store.entries.Writable
  reopen : store.reopen = .ok store
  place : store.place = .holding origin? ∨ store.place = .holding (some store.entries.toText)

namespace InStep

variable {origin? : Option String} {store : FileStore}

theorem of_holding (content? : Option String) :
    InStep content? ⟨Entries.ofFile content?, .holding content?⟩ where
  writable := Entries.writable_ofFile content?
  reopen := load_holding content?
  place := .inl rfl

/-- The file has some content, which one may take for the one that it was found with. -/
theorem restart (h : InStep origin? store) :
    ∃ content?, store.place = .holding content? ∧ InStep content? store := by
  rcases h.place with hplace | hplace
  · exact ⟨_, hplace, h⟩
  · exact ⟨_, hplace, h.writable, h.reopen, .inl hplace⟩

theorem set_eq (h : InStep origin? store) (key value : String) :
    Store.set store key value = (.ok (), ⟨store.entries.insert key value,
      .holding (some (store.entries.insert key value).toText)⟩) := by
  obtain ⟨content?, hplace, -⟩ := h.restart
  obtain ⟨entries, place⟩ := store
  obtain rfl : place = .holding content? := hplace
  exact set_holding entries content? key value

theorem set (h : InStep origin? store) {key value : String} (hpair : Records.Writable key value) :
    InStep origin? (Store.set store key value).2 := by
  rw [h.set_eq]
  have hentries := Entries.writable_insert h.writable hpair
  refine ⟨hentries, ?_, .inr rfl⟩
  show load (.holding (some _)) = _
  rw [load_holding, Entries.ofFile, Option.map_some, Option.getD_some, Entries.ofText_toText hentries]

/-- Stores over one place are the same store. -/
theorem eq_of_place_eq {origin?' : Option String} {other : FileStore} (h : InStep origin? store)
    (hother : InStep origin?' other) (hplace : store.place = other.place) : store = other := by
  have hstore : load store.place = .ok store := h.reopen
  have hother : load other.place = .ok other := hother.reopen
  rw [hplace, hother] at hstore
  exact (Except.ok.inj hstore).symm

end InStep

theorem simulates_toMemory (origin? : Option String) : Simulates (InStep origin?) toMemory where
  get _ _ := rfl
  set h _ _ hpair := by
    refine ⟨?_, h.set hpair⟩
    rw [h.set_eq]
    rfl

end FileStore

end Records

/-! ## Sessions with openings -/

namespace Puzzle.Session

open Records (Store Simulates Place Entries FileStore Memory)
open Records.FileStore (InStep)

/-- One step of whoever uses a store. -/
inductive Step
  /-- Start a play or make a move. -/
  | act (action : Action)
  /-- Ask the progress beside the play, if there is one. -/
  | request (request : Records.Progress.Request)
  /-- End the play and keep the store. -/
  | leave
  /-- Drop the store, and the play over it, and open it again. -/
  | reopen

/-- What a step answers. -/
inductive Outcome
  | played (answer : Except Fault Play.Answer)
  | told (answer : Except StorageFault Records.Progress.Answer)
  | left
  | reopened (answer : Except StorageFault Unit)

section Steps

variable {σ : Type} [Store σ]

omit [Store σ] in
/-- The session over another store. -/
def withStore (session : Session σ) (store : σ) : Session σ :=
  match session with
  | idle _ => idle store
  | playing play => playing { play with store := store }

/-- Carries out a step, given how the store is opened again. A store that cannot be opened stays. -/
def step (reopen : σ → Except StorageFault σ) (session : Session σ) : Step → Outcome × Session σ
  | .act action =>
    let (answer, after) := session.act action
    (.played answer, after)
  | .request request =>
    let (answer, store) := Records.Progress.handle session.store request
    (.told answer, session.withStore store)
  | .leave => (.left, idle session.store)
  | .reopen =>
    match reopen session.store with
    | .ok store => (.reopened (.ok ()), idle store)
    | .error fault => (.reopened (.error fault), session)

/-- Steps one after the other, with their outcomes in order. -/
def stepAll (reopen : σ → Except StorageFault σ) (session : Session σ) :
    List Step → List Outcome × Session σ
  | [] => ([], session)
  | s :: rest =>
    let (outcome, session) := session.step reopen s
    let (outcomes, session) := session.stepAll reopen rest
    (outcome :: outcomes, session)

end Steps

section Simulated

variable {σ τ : Type} [Store σ] [Store τ] {I : σ → Prop} {f : σ → τ}
variable {reopen : σ → Except StorageFault σ} {reopen' : τ → Except StorageFault τ}

omit [Store σ] [Store τ] in
@[simp]
theorem store_withStore (session : Session σ) (store : σ) :
    (session.withStore store).store = store := by
  cases session <;> rfl

omit [Store σ] [Store τ] in
theorem map_withStore (session : Session σ) (store : σ) :
    (session.withStore store).map f = (session.map f).withStore (f store) := by
  cases session <;> rfl

/-- A step can be exchanged with what simulates the store, if opening it again can. -/
theorem carried_step (h : Simulates I f)
    (hreopen : ∀ {store}, I store → reopen store = .ok store ∧ reopen' (f store) = .ok (f store))
    {session : Session σ} (hsession : I session.store) (s : Step) :
    Carried (fun s => I s.store) (map f) (session.step reopen s) ((session.map f).step reopen' s) := by
  cases s with
  | act action => exact (h.act session hsession action).map Outcome.played
  | request request =>
    have hrequest := h.handle hsession request
    constructor
    · simp only [step, store_map, hrequest.eq, map_withStore]
    · simpa only [step, store_withStore] using hrequest.kept
  | leave => exact ⟨by simp only [step, store_map, map_idle], hsession⟩
  | reopen =>
    obtain ⟨hopened, himage⟩ := hreopen hsession
    constructor
    · simp only [step, store_map, hopened, himage, map_idle]
    · simp only [step, hopened]
      exact hsession

theorem carried_stepAll (h : Simulates I f)
    (hreopen : ∀ {store}, I store → reopen store = .ok store ∧ reopen' (f store) = .ok (f store))
    {session : Session σ} (hsession : I session.store) (steps : List Step) :
    Carried (fun s => I s.store) (map f) (session.stepAll reopen steps)
      ((session.map f).stepAll reopen' steps) := by
  induction steps generalizing session with
  | nil => exact ⟨rfl, hsession⟩
  | cons s rest ih =>
    have hstep := carried_step h hreopen hsession s
    have hrest := ih hstep.kept
    refine ⟨?_, hrest.kept⟩
    simp only [stepAll, hstep.eq, hrest.eq]

end Simulated

/-! ## Over a file -/

theorem carried_fileStore {origin? : Option String} {session : Session FileStore}
    (h : InStep origin? session.store) (steps : List Step) :
    Carried (fun s => InStep origin? s.store) (map FileStore.toMemory)
      (session.stepAll FileStore.reopen steps)
      ((session.map FileStore.toMemory).stepAll .ok steps) :=
  carried_stepAll (Records.FileStore.simulates_toMemory origin?) (fun hstore => ⟨hstore.reopen, rfl⟩)
    h steps

/-- The file stays as it is through all the steps, or it has the lines of the memory after the last. -/
theorem place_stepAll {origin? : Option String} {session : Session FileStore}
    (h : InStep origin? session.store) (steps : List Step) :
    (∀ n, (session.stepAll FileStore.reopen (steps.take n)).2.store.place = session.store.place) ∨
      (session.stepAll FileStore.reopen steps).2.store.place =
        .holding (some (session.stepAll FileStore.reopen steps).2.store.entries.toText) := by
  induction steps generalizing session origin? with
  | nil =>
    refine .inl fun n => ?_
    rw [List.take_nil]
    rfl
  | cons s rest ih =>
    -- One step leaves the file as it was before it, or writes it.
    obtain ⟨content?, hplace, hcontent⟩ := h.restart
    have hnext := (carried_fileStore hcontent [s]).kept
    rcases ih hnext with huntouched | hwritten
    · rcases hnext.place with hsame | hwritten
      · refine .inl fun n => ?_
        cases n with
        | zero => rfl
        | succ n => exact (huntouched n).trans (hsame.trans hplace.symm)
      · -- The file was written by this step and by none after it.
        have hend := huntouched rest.length
        rw [List.take_length] at hend
        have hlast : (session.stepAll FileStore.reopen (s :: rest)).2.store =
            (session.stepAll FileStore.reopen [s]).2.store :=
          (carried_fileStore hnext rest).kept.eq_of_place_eq hnext hend
        rw [hlast]
        exact .inr hwritten
    · exact .inr hwritten

/-- **A file store does what a memory does that is kept all the time.** Whatever text a file holds, or
    where there is none, and as long as reading and writing it do not fail: it can be opened, and every
    sequence of plays, moves, requests to the progress and further openings gives the same answers, and
    leaves the same play over the same entries, as it does over one memory that begins with the entries
    of the text and is kept over the openings. The file has not been touched in all of the sequence, or
    it has the lines of that memory in key order. -/
theorem stepAll_file_eq_memory (content? : Option String) (steps : List Step) :
    ∃ store, FileStore.load (.holding content?) = .ok store ∧
      let onFile := (idle store).stepAll FileStore.reopen steps
      let inMemory := (idle (Memory.mk (Entries.ofFile content?))).stepAll .ok steps
      inMemory.1 = onFile.1 ∧ inMemory.2 = onFile.2.map FileStore.toMemory ∧
        ((∀ n, ((idle store).stepAll FileStore.reopen (steps.take n)).2.store.place =
            .holding content?) ∨
          onFile.2.store.place = .holding (some inMemory.2.store.entries.toText)) := by
  let store : FileStore := ⟨Entries.ofFile content?, .holding content?⟩
  refine ⟨store, Records.FileStore.load_holding content?, ?_⟩
  intro onFile inMemory
  have hopened : InStep content? (idle store).store := .of_holding content?
  have hrun : inMemory = (onFile.1, onFile.2.map FileStore.toMemory) :=
    (carried_fileStore hopened steps).eq
  refine ⟨congrArg Prod.fst hrun, congrArg Prod.snd hrun, ?_⟩
  have hentries : inMemory.2.store.entries = onFile.2.store.entries := by
    rw [hrun, store_map]
    rfl
  rw [hentries]
  exact place_stepAll hopened steps

end Puzzle.Session

end Karnaugh
