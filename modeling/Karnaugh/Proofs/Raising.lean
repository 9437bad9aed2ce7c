import Karnaugh.Proofs.Durability

set_option autoImplicit false

/-! # Counters that are only raised

What recording does is said on the entries of a store: a counter below the recorded number is replaced
by it, any other entry keeps its text (`Entries.raise`). A row of recordings therefore leaves each
counter at the highest number recorded for it, unless it was higher to begin with
(`counter_raiseAll`), and leaves the text of a counter that ends where it began
(`get?_raiseAll_of_counter_eq`). A store that can fail is described by what it holds and by what its
failures may do to that (`Fallible`); recording then raises a counter of what it holds, or fails and
leaves it (`content_record`). -/

namespace Karnaugh.Records

namespace Entries

/-- The counter of a map size. -/
def counter (entries : Entries) (arity : Arity) : Nat :=
  counterOf (entries.get? (levelKey arity))

theorem counter_lt_bound (entries : Entries) (arity : Arity) :
    entries.counter arity < Text.Decimal.bound :=
  counterOf_lt_bound _

/-- The entries after a number has been recorded. -/
def raise (entries : Entries) (arity : Arity) (reached : Nat) : Entries :=
  if entries.counter arity < reached then
    entries.insert (levelKey arity) (Text.Decimal.write reached)
  else entries

/-- The entries after numbers have been recorded one after the other. -/
def raiseAll (entries : Entries) (records : List (Arity × Nat)) : Entries :=
  records.foldl (fun entries r => entries.raise r.1 r.2) entries

/-! ## One number -/

theorem raise_of_le {entries : Entries} {arity : Arity} {reached : Nat}
    (h : reached ≤ entries.counter arity) : entries.raise arity reached = entries := by
  rw [raise, if_neg (Nat.not_lt.2 h)]

theorem get?_raise_of_ne (entries : Entries) {arity : Arity} {reached : Nat} {key : String}
    (h : key ≠ levelKey arity) : (entries.raise arity reached).get? key = entries.get? key := by
  unfold raise
  split
  · rw [get?_insert, if_neg h]
  · rfl

theorem get?_levelKey_raise_of_ne (entries : Entries) {arity a : Arity} {reached : Nat}
    (h : arity ≠ a) :
    (entries.raise arity reached).get? (levelKey a) = entries.get? (levelKey a) := by
  refine get?_raise_of_ne entries ?_
  intro hkey
  exact h (levelKey_injective hkey.symm)

/-- Recording takes the larger of the old and the new number, for one map size alone. -/
theorem counter_raise (entries : Entries) (arity : Arity) {reached : Nat}
    (h : reached < Text.Decimal.bound) (a : Arity) :
    (entries.raise arity reached).counter a =
      if arity = a then max (entries.counter a) reached else entries.counter a := by
  by_cases ha : arity = a
  · subst ha
    rw [if_pos rfl]
    by_cases hlow : entries.counter arity < reached
    · rw [raise, if_pos hlow, counter, get?_insert, if_pos rfl, counterOf_write h]
      omega
    · rw [raise_of_le (Nat.not_lt.1 hlow)]
      omega
  · rw [if_neg ha, counter, get?_levelKey_raise_of_ne entries ha, counter]

theorem counter_le_counter_raise (entries : Entries) (arity : Arity) {reached : Nat}
    (h : reached < Text.Decimal.bound) (a : Arity) :
    entries.counter a ≤ (entries.raise arity reached).counter a := by
  rw [counter_raise entries arity h]
  split <;> omega

/-- A counter that is not raised keeps its text. -/
theorem get?_raise_of_counter_eq {entries : Entries} {arity : Arity} {reached : Nat}
    (h : reached < Text.Decimal.bound) {a : Arity}
    (hsame : (entries.raise arity reached).counter a = entries.counter a) :
    (entries.raise arity reached).get? (levelKey a) = entries.get? (levelKey a) := by
  by_cases ha : arity = a
  · subst ha
    rw [counter_raise entries arity h, if_pos rfl] at hsame
    rw [raise_of_le (by omega)]
  · exact get?_levelKey_raise_of_ne entries ha

/-! ## Many numbers -/

/-- The numbers that are recorded for a map size, in their order. -/
def numbersOf (arity : Arity) (records : List (Arity × Nat)) : List Nat :=
  records.filterMap fun r => if r.1 = arity then some r.2 else none

/-- **A counter ends at the largest number recorded for it**, or where it began. -/
theorem counter_raiseAll (entries : Entries) {records : List (Arity × Nat)}
    (h : ∀ r ∈ records, r.2 < Text.Decimal.bound) (arity : Arity) :
    (entries.raiseAll records).counter arity =
      (numbersOf arity records).foldl max (entries.counter arity) := by
  induction records generalizing entries with
  | nil => rfl
  | cons r rest ih =>
    have hrest := ih (entries.raise r.1 r.2) fun s hs => h s (List.mem_cons_of_mem r hs)
    rw [counter_raise entries r.1 (h r List.mem_cons_self)] at hrest
    rw [raiseAll, List.foldl_cons, numbersOf, List.filterMap_cons]
    by_cases ha : r.1 = arity
    · rw [if_pos ha] at hrest ⊢
      exact hrest
    · rw [if_neg ha] at hrest ⊢
      exact hrest

theorem counter_le_counter_raiseAll (entries : Entries) {records : List (Arity × Nat)}
    (h : ∀ r ∈ records, r.2 < Text.Decimal.bound) (arity : Arity) :
    entries.counter arity ≤ (entries.raiseAll records).counter arity := by
  induction records generalizing entries with
  | nil => exact Nat.le_refl _
  | cons r rest ih =>
    have hfirst := counter_le_counter_raise entries r.1 (h r List.mem_cons_self) arity
    have hrest := ih (entries.raise r.1 r.2) fun s hs => h s (List.mem_cons_of_mem r hs)
    exact Nat.le_trans hfirst hrest

theorem get?_raiseAll_of_counter_eq {entries : Entries} {records : List (Arity × Nat)}
    (h : ∀ r ∈ records, r.2 < Text.Decimal.bound) {arity : Arity}
    (hsame : (entries.raiseAll records).counter arity = entries.counter arity) :
    (entries.raiseAll records).get? (levelKey arity) = entries.get? (levelKey arity) := by
  induction records generalizing entries with
  | nil => rfl
  | cons r rest ih =>
    have hr := h r List.mem_cons_self
    have hrest : ∀ s ∈ rest, s.2 < Text.Decimal.bound := fun s hs => h s (List.mem_cons_of_mem r hs)
    -- A counter never falls, so one that ends where it began was the same after the first number.
    have hfirst := counter_le_counter_raise entries r.1 hr arity
    have hthen := counter_le_counter_raiseAll (entries.raise r.1 r.2) hrest arity
    have hend : ((entries.raise r.1 r.2).raiseAll rest).counter arity = entries.counter arity :=
      hsame
    have hmiddle : (entries.raise r.1 r.2).counter arity = entries.counter arity := by omega
    have hkept := ih hrest (hend.trans hmiddle.symm)
    exact hkept.trans (get?_raise_of_counter_eq hr hmiddle)

/-- A key for which nothing is recorded keeps its text. -/
theorem get?_raiseAll_of_not_recorded (entries : Entries) {records : List (Arity × Nat)}
    {key : String} (h : ∀ r ∈ records, key ≠ levelKey r.1) :
    (entries.raiseAll records).get? key = entries.get? key := by
  induction records generalizing entries with
  | nil => rfl
  | cons r rest ih =>
    have hrest := ih (entries.raise r.1 r.2) fun s hs => h s (List.mem_cons_of_mem r hs)
    exact hrest.trans (get?_raise_of_ne entries (h r List.mem_cons_self))

theorem get?_raiseAll_of_ne (entries : Entries) (records : List (Arity × Nat)) {key : String}
    (h : ∀ arity, key ≠ levelKey arity) :
    (entries.raiseAll records).get? key = entries.get? key :=
  get?_raiseAll_of_not_recorded entries fun r _ => h r.1

end Entries

/-! ## Stores that fail -/

/-- A store that can fail, seen by what it holds. Reading tells what is held or fails. Writing puts
    the entry into it; when it fails the entry may have been put there all the same. -/
class Fallible (σ : Type) [Store σ] where
  /-- What may befall the store from outside. -/
  Trouble : Type
  /-- The store once it has befallen it. -/
  meeting : σ → Trouble → σ
  content : σ → Entries
  content_meeting (store : σ) (trouble : Trouble) : content (meeting store trouble) = content store
  get_ok {store : σ} {key : String} {value : Option String}
    (h : Store.get store key = .ok value) : value = (content store).get? key
  content_set (store : σ) (key value : String) :
    content (Store.set store key value).2 = (content store).insert key value ∨
      (∃ fault, (Store.set store key value).1 = .error fault) ∧
        content (Store.set store key value).2 = content store

/-- A memory whose reads and writes fail at will. -/
instance : Fallible (Interruptible Memory) where
  Trouble := Option StorageFault × Option StorageFault
  meeting store trouble := store.interrupt trouble.1 trouble.2
  content store := store.inner.entries
  content_meeting _ _ := rfl
  get_ok {store key value} h := by
    obtain ⟨inner, readFault, writeFault⟩ := store
    cases readFault with
    | none => exact (Except.ok.inj h).symm
    | some fault => cases h
  content_set store key value := by
    obtain ⟨inner, readFault, writeFault⟩ := store
    cases writeFault with
    | none => exact .inl rfl
    | some fault => exact .inr ⟨⟨fault, rfl⟩, rfl⟩

/-- A memory that cannot be written holds what it held. -/
theorem Interruptible.content_set_of_error {store : Interruptible Memory} {key value : String}
    {fault : StorageFault} (h : (Store.set store key value).1 = .error fault) :
    Fallible.content (Store.set store key value).2 = Fallible.content store := by
  obtain ⟨inner, readFault, writeFault⟩ := store
  cases writeFault with
  | none => cases h
  | some fault => rfl

/-- A store in a file, which holds an entry also when the file could not be written. -/
instance : Fallible FileStore where
  Trouble := Option StorageFault
  meeting := FileStore.meeting
  content store := store.entries
  content_meeting _ _ := rfl
  get_ok h := (Except.ok.inj h).symm
  content_set _ _ _ := .inl rfl

section Recording

open Fallible (content)

variable {σ : Type} [Store σ] [Fallible σ]

theorem level_ok {store : σ} {arity : Arity} {n : Nat} (h : Progress.level store arity = .ok n) :
    n = (content store).counter arity := by
  unfold Progress.level at h
  cases hget : Store.get store (levelKey arity) with
  | error fault =>
    rw [hget] at h
    cases h
  | ok value =>
    rw [hget] at h
    cases h
    rw [Fallible.get_ok hget, Entries.counter]

/-- Recording fails to read the counter, or finds it high enough, or writes it. -/
theorem record_cases (store : σ) (arity : Arity) (reached : Nat) :
    (∃ fault, Progress.record store arity reached = (.error fault, store)) ∨
    (reached ≤ (content store).counter arity ∧
      Progress.record store arity reached = (.ok false, store)) ∨
    (content store).counter arity < reached ∧
      let written := Store.set store (levelKey arity) (Text.Decimal.write reached)
      Progress.record store arity reached = (written.1.map fun _ => true, written.2) := by
  unfold Progress.record
  cases hlevel : Progress.level store arity with
  | error fault => exact .inl ⟨fault, rfl⟩
  | ok stored =>
    obtain rfl := level_ok hlevel
    dsimp only
    split
    · next hlow => exact .inr (.inr ⟨hlow, rfl⟩)
    · next hhigh => exact .inr (.inl ⟨Nat.not_lt.1 hhigh, rfl⟩)

/-- Recording raises the counter that the store holds, or it fails and the store holds what it
    held. -/
theorem content_record (store : σ) (arity : Arity) (reached : Nat) :
    content (Progress.record store arity reached).2 = (content store).raise arity reached ∨
      (∃ fault, (Progress.record store arity reached).1 = .error fault) ∧
        content (Progress.record store arity reached).2 = content store := by
  rcases record_cases store arity reached with ⟨fault, hrecord⟩ | ⟨hhigh, hrecord⟩ | ⟨hlow, hrecord⟩
  · rw [hrecord]
    exact .inr ⟨⟨fault, rfl⟩, rfl⟩
  · rw [hrecord, Entries.raise_of_le hhigh]
    exact .inl rfl
  · rw [hrecord, Entries.raise, if_pos hlow]
    rcases Fallible.content_set store (levelKey arity) (Text.Decimal.write reached) with
      hset | ⟨⟨fault, hfault⟩, hset⟩
    · exact .inl hset
    · refine .inr ⟨⟨fault, ?_⟩, hset⟩
      rw [hfault]
      rfl

/-- A recording that succeeds has raised the counter. -/
theorem content_record_of_ok {store left : σ} {arity : Arity} {reached : Nat} {raised : Bool}
    (h : Progress.record store arity reached = (.ok raised, left)) :
    content left = (content store).raise arity reached := by
  have hcontent := content_record store arity reached
  rw [h] at hcontent
  rcases hcontent with hraised | ⟨⟨fault, hfault⟩, -⟩
  · exact hraised
  · cases hfault

/-- No counter falls, whether recording succeeds or not. -/
theorem counter_le_counter_record (store : σ) (arity : Arity) {reached : Nat}
    (h : reached < Text.Decimal.bound) (a : Arity) :
    (content store).counter a ≤ (content (Progress.record store arity reached).2).counter a := by
  rcases content_record store arity reached with hraised | ⟨-, hkept⟩
  · rw [hraised]
    exact Entries.counter_le_counter_raise _ arity h a
  · exact Nat.le_of_eq (by rw [hkept])

/-- Where a write that fails leaves no trace, a recording that fails leaves none either. -/
theorem content_record_of_error {store left : σ} {arity : Arity} {reached : Nat}
    {fault : StorageFault}
    (hset : ∀ {key value fault'}, (Store.set store key value).1 = .error fault' →
      content (Store.set store key value).2 = content store)
    (h : Progress.record store arity reached = (.error fault, left)) :
    content left = content store := by
  rcases record_cases store arity reached with ⟨_, hrecord⟩ | ⟨-, hrecord⟩ | ⟨-, hrecord⟩
  · rw [hrecord] at h
    cases h
    rfl
  · rw [hrecord] at h
    cases h
  · rw [hrecord] at h
    obtain ⟨hfailed, rfl⟩ := Prod.mk.inj h
    cases hresult : (Store.set store (levelKey arity) (Text.Decimal.write reached)).1 with
    | ok _ =>
      rw [hresult] at hfailed
      cases hfailed
    | error fault' => exact hset hresult

end Recording

end Karnaugh.Records
