import Karnaugh.Proofs.FileFormat

set_option autoImplicit false

/-! # What a recorded counter is worth

A store answers from memory, and memory is changed before the file is. So a counter whose writing
failed counts as recorded from then on, though the file does not have it: recording it once more
answers that nothing had to be raised. This holds until some write succeeds, whatever it was for,
since a write puts the whole memory into the file. Nothing else can come between a counter and the
file, which is the main result here. A run is looked at as the list of its calls and their answers;
`Follows` says how memory and file stand to it, `Follows.attempt` that one more call keeps it so and
`Follows.run` that any number of calls does. -/

namespace Karnaugh.Records

/-! ## Calls during which writing may fail -/

/-- A call, and the fault that writing the file meets during it. -/
structure Attempt where
  request : Progress.Request
  fault : Option StorageFault

/-- A call with its answer. -/
structure Event where
  request : Progress.Request
  answer : Except StorageFault Progress.Answer

/-- Counters are numbers of 64 bits. -/
def Progress.Request.Fits : Progress.Request → Prop
  | .record _ reached => reached < Text.Decimal.bound
  | _ => True

namespace FileStore

/-- The store while writing its file meets a fault, or none. -/
def meeting (store : FileStore) (fault : Option StorageFault) : FileStore :=
  { store with place := { store.place with writeFault := fault } }

/-- Carries out a call while writing the file meets its fault, and tells what came of it. -/
def attempt (store : FileStore) (call : Attempt) : Event × FileStore :=
  let (answer, store) := Progress.handle (store.meeting call.fault) call.request
  (⟨call.request, answer⟩, store)

/-- Calls one after the other, with their answers in order. -/
def run (store : FileStore) : List Attempt → List Event × FileStore
  | [] => ([], store)
  | call :: rest =>
    let (event, store) := store.attempt call
    let (history, store) := store.run rest
    (event :: history, store)

/-- The counter that the store has in memory. -/
def counter (store : FileStore) (arity : Arity) : Nat :=
  counterOf (store.entries.get? (levelKey arity))

end FileStore

/-- The counter of a store that is opened anew at this place is at least `n`. -/
def Place.Durable (place : Place) (arity : Arity) (n : Nat) : Prop :=
  ∃ store m, FileStore.load place = .ok store ∧ Progress.level store arity = .ok m ∧ n ≤ m

namespace Event

/-- The call was to record `n` or more. -/
def asks (arity : Arity) (n : Nat) (event : Event) : Bool :=
  match event.request with
  | .record a reached => a = arity ∧ n ≤ reached
  | _ => false

/-- The call wrote the file. -/
def wrote (event : Event) : Bool :=
  match event.request, event.answer with
  | .record _ _, .ok (.truth raised) => raised
  | .markTutorialSeen, .ok _ => true
  | _, _ => false

end Event

/-- The calls from the first one on that was to record `n` or more. -/
def sinceAsked (arity : Arity) (n : Nat) (history : List Event) : List Event :=
  history.dropWhile fun event => !event.asks arity n

/-- Recording `n` was asked for, and nothing has been written since. -/
def Unwritten (arity : Arity) (n : Nat) (history : List Event) : Prop :=
  sinceAsked arity n history ≠ [] ∧ ∀ event ∈ sinceAsked arity n history, event.wrote = false

/-! ## Looking back -/

theorem sinceAsked_append (arity : Arity) (n : Nat) (history : List Event) (event : Event) :
    sinceAsked arity n (history ++ [event]) =
      if sinceAsked arity n history = [] then sinceAsked arity n [event]
      else sinceAsked arity n history ++ [event] := by
  unfold sinceAsked
  rw [List.dropWhile_append]
  simp only [List.isEmpty_iff]

theorem sinceAsked_singleton (arity : Arity) (n : Nat) (event : Event) :
    sinceAsked arity n [event] = if event.asks arity n then [event] else [] := by
  unfold sinceAsked
  rw [List.dropWhile_cons]
  cases event.asks arity n <;> rfl

/-- A call adds to what was asked for. -/
theorem sinceAsked_append_ne_nil {arity : Arity} {n : Nat} {history : List Event} {event : Event} :
    sinceAsked arity n (history ++ [event]) ≠ [] ↔
      sinceAsked arity n history ≠ [] ∨ event.asks arity n = true := by
  rw [sinceAsked_append, sinceAsked_singleton]
  split
  · next hnil => simp [hnil]
  · next hne => simp [hne]

/-- A write keeps everything that was asked for up to it. -/
theorem exists_wrote_append {arity : Arity} {n : Nat} {history : List Event} {event : Event} :
    (∃ e ∈ sinceAsked arity n (history ++ [event]), e.wrote = true) ↔
      (∃ e ∈ sinceAsked arity n history, e.wrote = true) ∨
        event.wrote = true ∧ sinceAsked arity n (history ++ [event]) ≠ [] := by
  rw [sinceAsked_append, sinceAsked_singleton]
  split
  · next hnil =>
    cases hasks : event.asks arity n <;> simp [hnil]
  · next hne =>
    simp only [List.mem_append, List.mem_singleton, or_and_right, exists_or, exists_eq_left]
    simp [hne]

/-! ## Memory and file -/

namespace FileStore

theorem level_eq (store : FileStore) (arity : Arity) :
    Progress.level store arity = .ok (store.counter arity) := rfl

theorem counter_set_levelKey (store : FileStore) {arity : Arity} {n : Nat}
    (hn : n < Text.Decimal.bound) (a : Arity) :
    (store.set (levelKey arity) (Text.Decimal.write n)).2.counter a =
      if a = arity then n else store.counter a := by
  show counterOf ((store.entries.insert (levelKey arity) (Text.Decimal.write n)).get? (levelKey a)) = _
  rw [Entries.get?_insert]
  by_cases ha : a = arity
  · rw [ha, if_pos rfl, if_pos rfl, counterOf_write hn]
  · have hkey : levelKey a ≠ levelKey arity := fun heq => ha (levelKey_injective heq)
    rw [if_neg hkey, if_neg ha]
    rfl

theorem counter_set_tutorialKey (store : FileStore) (value : String) (a : Arity) :
    (store.set tutorialKey value).2.counter a = store.counter a := by
  show counterOf ((store.entries.insert tutorialKey value).get? (levelKey a)) = _
  rw [Entries.get?_insert, if_neg (levelKey_ne_tutorialKey a)]
  rfl

theorem load_meeting (place : Place) (fault : Option StorageFault) :
    load { place with writeFault := fault } = (load place).map fun store => store.meeting fault := by
  unfold load
  have hread : Place.read { place with writeFault := fault } = place.read := rfl
  rw [hread]
  cases place.read with
  | ok content => rfl
  | error fault =>
    dsimp only
    split
    · rfl
    · rfl

theorem record_eq (store : FileStore) (arity : Arity) (reached : Nat) :
    Progress.record store arity reached =
      if store.counter arity < reached then
        ((store.set (levelKey arity) (Text.Decimal.write reached)).1.map fun _ => true,
          (store.set (levelKey arity) (Text.Decimal.write reached)).2)
      else (.ok false, store) := by
  unfold Progress.record
  rw [level_eq]
  rfl

end FileStore

theorem Place.durable_of_load {place : Place} {store : FileStore}
    (h : FileStore.load place = .ok store) (arity : Arity) (n : Nat) :
    place.Durable arity n ↔ n ≤ store.counter arity := by
  constructor
  · rintro ⟨opened, m, hload, hlevel, hn⟩
    rw [h] at hload
    cases hload
    cases hlevel
    exact hn
  · intro hn
    exact ⟨store, store.counter arity, h, rfl, hn⟩

/-- What is in a file does not depend on whether it can be written. -/
theorem Place.durable_meeting (place : Place) (fault : Option StorageFault) (arity : Arity) (n : Nat) :
    Durable { place with writeFault := fault } arity n ↔ place.Durable arity n := by
  cases hload : FileStore.load place with
  | ok store =>
    have hmeeting : FileStore.load { place with writeFault := fault } = .ok (store.meeting fault) := by
      rw [FileStore.load_meeting, hload]
      rfl
    rw [durable_of_load hload, durable_of_load hmeeting]
    rfl
  | error e =>
    have hmeeting : FileStore.load { place with writeFault := fault } = .error e := by
      rw [FileStore.load_meeting, hload]
      rfl
    constructor
    · rintro ⟨store, m, h, -⟩
      rw [hmeeting] at h
      cases h
    · rintro ⟨store, m, h, -⟩
      rw [hload] at h
      cases h

/-- What a store has written is there when it is opened anew. -/
theorem load_write {entries : Entries} (h : entries.Writable) {place : Place}
    (hread : place.readFault = none) :
    FileStore.load { place with node := some (.text entries.toText) } =
      .ok ⟨entries, { place with node := some (.text entries.toText) }⟩ := by
  have hcontent : Place.read { place with node := some (.text entries.toText) } =
      .ok entries.toText := by
    simp only [Place.read, hread]
  rw [FileStore.load, hcontent]
  dsimp only
  rw [Entries.ofText_toText h]

theorem Place.write_cases (place : Place) (content : String) :
    place.write content = (.ok (), { place with node := some (.text content) }) ∨
      ∃ fault, place.write content = (.error fault, place) := by
  unfold write
  split
  · next fault _ => exact .inr ⟨fault, rfl⟩
  · exact .inr ⟨.folder, rfl⟩
  · exact .inl rfl

/-! ## One call -/

/-- How a store stands to the file that it was opened from and to what has been asked of it. -/
structure Follows (origin : Place) (history : List Event) (store : FileStore) : Prop where
  writable : store.entries.Writable
  readable : store.place.readFault = none
  /-- The memory has what the file had at first and everything asked for. -/
  memory : ∀ arity n, n ≤ store.counter arity ↔
    origin.Durable arity n ∨ sinceAsked arity n history ≠ []
  /-- The file has what it had at first and everything asked for before the last write. -/
  file : ∀ arity n, store.place.Durable arity n ↔
    origin.Durable arity n ∨ ∃ event ∈ sinceAsked arity n history, event.wrote = true

namespace Follows

variable {origin : Place} {history : List Event} {store : FileStore}

theorem of_load {node : Option Node} (h : FileStore.load { node := node } = .ok store) :
    Follows { node := node } [] store := by
  have hstore : store.place = { node := node } ∧ store.entries.Writable := by
    unfold FileStore.load at h
    split at h
    · next content hread =>
      cases h
      exact ⟨rfl, Entries.writable_ofText content⟩
    · split at h
      · cases h
        exact ⟨rfl, Entries.writable_empty⟩
      · cases h
  obtain ⟨hplace, hwritable⟩ := hstore
  constructor
  · exact hwritable
  · rw [hplace]
  · intro arity n
    rw [Place.durable_of_load h]
    simp [sinceAsked]
  · intro arity n
    rw [hplace]
    simp [sinceAsked]

theorem meeting (h : Follows origin history store) (fault : Option StorageFault) :
    Follows origin history (store.meeting fault) where
  writable := h.writable
  readable := h.readable
  memory := h.memory
  file := fun arity n => (Place.durable_meeting store.place fault arity n).trans (h.file arity n)

/-- A call that leaves the store as it is, since it asks for nothing new. -/
theorem unchanged (h : Follows origin history store) {event : Event} (hwrote : event.wrote = false)
    (hasks : ∀ arity n, event.asks arity n = true → n ≤ store.counter arity) :
    Follows origin (history ++ [event]) store where
  writable := h.writable
  readable := h.readable
  memory := fun arity n => by
    rw [sinceAsked_append_ne_nil, ← or_assoc, ← h.memory]
    exact (or_iff_left_of_imp (hasks arity n)).symm
  file := fun arity n => by
    rw [exists_wrote_append, hwrote, h.file]
    simp

/-- A call that sets an entry: the memory changes in any case, the file if writing it succeeds. -/
theorem set (h : Follows origin history store) {event : Event} {key value : String}
    (hpair : Writable key value) (hwrote : event.wrote = (store.set key value).1.isOk)
    (hasks : ∀ arity n, n ≤ (store.set key value).2.counter arity ↔
      n ≤ store.counter arity ∨ event.asks arity n = true) :
    Follows origin (history ++ [event]) (store.set key value).2 := by
  have hentries := Entries.writable_insert h.writable hpair
  have hmemory : ∀ arity n, n ≤ (store.set key value).2.counter arity ↔
      origin.Durable arity n ∨ sinceAsked arity n (history ++ [event]) ≠ [] := by
    intro arity n
    rw [hasks, h.memory, sinceAsked_append_ne_nil, or_assoc]
  rcases Place.write_cases store.place (store.entries.insert key value).toText with
    hwrite | ⟨fault, hwrite⟩
  · have hset : store.set key value = (.ok (), ⟨store.entries.insert key value,
        { store.place with node := some (.text (store.entries.insert key value).toText) }⟩) := by
      rw [FileStore.set, hwrite]
    rw [hset] at hwrote hmemory ⊢
    refine ⟨hentries, h.readable, hmemory, fun arity n => ?_⟩
    -- The file now has the whole memory, and with it everything asked for so far.
    have hearlier : (∃ e ∈ sinceAsked arity n history, e.wrote = true) →
        sinceAsked arity n (history ++ [event]) ≠ [] := by
      rintro ⟨e, he, -⟩
      exact sinceAsked_append_ne_nil.2 (.inl (List.ne_nil_of_mem he))
    rw [Place.durable_of_load (load_write hentries h.readable), hmemory, exists_wrote_append,
      show event.wrote = true from hwrote, eq_self, true_and, or_iff_right_of_imp hearlier]
  · have hset : store.set key value =
        (.error fault, ⟨store.entries.insert key value, store.place⟩) := by
      rw [FileStore.set, hwrite]
    rw [hset] at hwrote hmemory ⊢
    refine ⟨hentries, h.readable, hmemory, fun arity n => ?_⟩
    rw [exists_wrote_append, show event.wrote = false from hwrote, h.file]
    simp

theorem markTutorialSeen (h : Follows origin history store) :
    Follows origin
      (history ++ [⟨.markTutorialSeen, (Progress.markTutorialSeen store).1.map fun _ => .done⟩])
      (Progress.markTutorialSeen store).2 := by
  refine h.set writable_tutorial ?_ fun a n => ?_
  · show Event.wrote ⟨_, (store.set tutorialKey tutorialMark).1.map fun _ => .done⟩ = _
    cases (store.set tutorialKey tutorialMark).1 <;> rfl
  · rw [FileStore.counter_set_tutorialKey]
    simp [Event.asks]

theorem record (h : Follows origin history store) (arity : Arity) {reached : Nat}
    (hreached : reached < Text.Decimal.bound) :
    Follows origin
      (history ++ [⟨.record arity reached, (Progress.record store arity reached).1.map .truth⟩])
      (Progress.record store arity reached).2 := by
  rw [FileStore.record_eq]
  split
  · next hraised =>
    -- The counter of this map size is set in memory, and the others stay.
    refine h.set (writable_counter arity reached) ?_ fun a n => ?_
    · cases (store.set (levelKey arity) (Text.Decimal.write reached)).1 <;> rfl
    · rw [FileStore.counter_set_levelKey store hreached, Event.asks, decide_eq_true_eq]
      by_cases ha : a = arity
      · subst ha
        rw [if_pos rfl, eq_self, true_and]
        omega
      · rw [if_neg ha]
        simp [Ne.symm ha]
  · next hkept =>
    -- Nothing is raised, so memory had what this call asks for.
    refine h.unchanged rfl fun a n hasks => ?_
    obtain ⟨rfl, hn⟩ : arity = a ∧ n ≤ reached := of_decide_eq_true hasks
    exact Nat.le_trans hn (Nat.le_of_not_lt hkept)

theorem attempt (h : Follows origin history store) (call : Attempt) (hfits : call.request.Fits) :
    Follows origin (history ++ [(store.attempt call).1]) (store.attempt call).2 := by
  obtain ⟨request, fault⟩ := call
  have hmeeting := h.meeting fault
  cases request with
  | level arity => exact hmeeting.unchanged rfl fun _ _ hasks => absurd hasks Bool.false_ne_true
  | record arity reached => exact hmeeting.record arity hfits
  | tutorialSeen => exact hmeeting.unchanged rfl fun _ _ hasks => absurd hasks Bool.false_ne_true
  | markTutorialSeen => exact hmeeting.markTutorialSeen

theorem run (h : Follows origin history store) {calls : List Attempt}
    (hfits : ∀ call ∈ calls, call.request.Fits) :
    Follows origin (history ++ (store.run calls).1) (store.run calls).2 := by
  induction calls generalizing history store with
  | nil =>
    rw [FileStore.run, List.append_nil]
    exact h
  | cons call rest ih =>
    have hnext := ih (h.attempt call (hfits call List.mem_cons_self)) fun c hc =>
      hfits c (List.mem_cons_of_mem call hc)
    rw [List.append_assoc] at hnext
    exact hnext

/-- A counter that was raised is on file. -/
theorem durable_of_raised (h : Follows origin history store) {arity : Arity} {n : Nat}
    (hn : n < Text.Decimal.bound) (hraised : (Progress.record store arity n).1 = .ok true) :
    (Progress.record store arity n).2.place.Durable arity n := by
  have hlast := (h.record arity hn).file arity n
  rw [hraised] at hlast
  refine hlast.2 (.inr (exists_wrote_append.2 (.inr ⟨rfl, ?_⟩)))
  exact sinceAsked_append_ne_nil.2 (.inr (by simp [Event.asks]))

end Follows

/-! ## What an answer is worth -/

/-- **A recorded counter is on file unless its writing failed before and nothing has been written
    since.** Whatever was called before and whichever writes failed, recording `n` succeeds without
    the file having it exactly when the file began below `n` and some earlier call asked for `n` or
    more, but no call has written the file from then on. Where the counter is reported to be raised
    the file has it in any case. -/
theorem record_ok_not_durable_iff {node : Option Node} {store : FileStore}
    (hopen : FileStore.load { node := node } = .ok store) {calls : List Attempt}
    (hfits : ∀ call ∈ calls, call.request.Fits) (arity : Arity) {n : Nat}
    (hn : n < Text.Decimal.bound) (fault : Option StorageFault) :
    let history := (store.run calls).1
    let recorded := Progress.record ((store.run calls).2.meeting fault) arity n
    ((∃ raised, recorded.1 = .ok raised) ∧ ¬recorded.2.place.Durable arity n ↔
      ¬Place.Durable { node := node } arity n ∧ Unwritten arity n history) ∧
    (recorded.1 = .ok true → recorded.2.place.Durable arity n) := by
  intro history recorded
  have h : Follows { node := node } history ((store.run calls).2.meeting fault) :=
    ((Follows.of_load hopen).run hfits).meeting fault
  have hraised : recorded.1 = .ok true → recorded.2.place.Durable arity n := h.durable_of_raised hn
  refine ⟨?_, hraised⟩
  have hmemory := h.memory arity n
  have hrecord : recorded = _ := FileStore.record_eq _ arity n
  split at hrecord
  · next hlow =>
    -- Memory is below `n`: the call writes, and it either fails or tells that it raised the counter.
    constructor
    · rintro ⟨⟨raised, hok⟩, hlost⟩
      have htrue : recorded.1 = .ok true := by
        rw [hrecord] at hok ⊢
        revert hok
        cases (((store.run calls).2.meeting fault).set (levelKey arity)
          (Text.Decimal.write n)).1 with
        | ok _ => exact fun _ => rfl
        | error fault => exact fun hok => nomatch hok
      exact absurd (hraised htrue) hlost
    · rintro ⟨hfresh, hasked, -⟩
      exact absurd (hmemory.2 (.inr hasked)) (Nat.not_le_of_lt hlow)
  · next hhigh =>
    -- Memory has `n` already: nothing is written, and the file is as the run left it.
    have hasked := hmemory.1 (Nat.le_of_not_lt hhigh)
    rw [hrecord, h.file arity n]
    constructor
    · rintro ⟨-, hlost⟩
      have hfresh : ¬Place.Durable { node := node } arity n := fun hd => hlost (.inl hd)
      refine ⟨hfresh, hasked.resolve_left hfresh, fun event hevent => ?_⟩
      rw [← Bool.not_eq_true]
      exact fun hwrote => hlost (.inr ⟨event, hevent, hwrote⟩)
    · rintro ⟨hfresh, -, hunwritten⟩
      refine ⟨⟨false, rfl⟩, ?_⟩
      rintro (hd | ⟨event, hevent, hwrote⟩)
      · exact hfresh hd
      · rw [hunwritten event hevent] at hwrote
        cases hwrote

theorem record_after_failed_write_not_durable :
    let store : FileStore := ⟨Entries.empty, { node := none }⟩
    let calls : List Attempt := [⟨.record .two 3, some .missing⟩]
    let recorded := Progress.record ((store.run calls).2.meeting (some .missing)) .two 3
    (∃ raised, recorded.1 = .ok raised) ∧ ¬recorded.2.place.Durable .two 3 := by
  intro store calls recorded
  have hopen : FileStore.load { node := none } = .ok store := rfl
  have hfits : ∀ call ∈ calls, call.request.Fits := by
    intro call hcall
    rw [List.mem_singleton.1 hcall]
    show 3 < Text.Decimal.bound
    decide
  have hfresh : ¬Place.Durable { node := none } .two 3 := by
    rw [Place.durable_of_load hopen]
    decide
  have hunwritten : Unwritten .two 3 (store.run calls).1 := by
    have hsince : sinceAsked .two 3 (store.run calls).1 = [⟨.record .two 3, .error .missing⟩] := by
      rfl
    rw [Unwritten, hsince]
    refine ⟨List.cons_ne_nil _ _, fun event hevent => ?_⟩
    rw [List.mem_singleton.1 hevent]
    rfl
  exact (record_ok_not_durable_iff hopen hfits .two (by decide) (some .missing)).1.2
    ⟨hfresh, hunwritten⟩

end Karnaugh.Records
