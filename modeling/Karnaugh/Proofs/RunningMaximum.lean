import Karnaugh.Proofs.Raising
import Karnaugh.Proofs.Reopening

set_option autoImplicit false

/-! # Recording as a running maximum

On a store that does as a memory does, recording a number answers whether it is a `NewHigh`: whether it
exceeds what the counter was in the beginning and every number recorded for the same map size before.
`newHigh_raise` carries this over one recording, `recordAll_memory` over a row of them. What a row
leaves under the key of a counter depends on the highest number alone: the decimal of that number when
it raised the counter, and the text that was there before when it did not (`get?_levelKey_raiseAll`).
The order of the recordings therefore leaves no trace (`raiseAll_of_perm`). The main result is
`recordAll_running_maximum`. -/

namespace Karnaugh.Records

/-! ## New highs -/

/-- A number exceeds the counter of its map size as it was in the beginning, and every earlier number
    for that map size. -/
def NewHigh (initial : Arity → Nat) (earlier : List (Arity × Nat)) (r : Arity × Nat) : Prop :=
  initial r.1 < r.2 ∧ ∀ s ∈ earlier, s.1 = r.1 → s.2 < r.2

instance (initial : Arity → Nat) (earlier : List (Arity × Nat)) (r : Arity × Nat) :
    Decidable (NewHigh initial earlier r) :=
  inferInstanceAs (Decidable (_ ∧ _))

theorem newHigh_nil {initial : Arity → Nat} {r : Arity × Nat} :
    NewHigh initial [] r ↔ initial r.1 < r.2 := by
  simp [NewHigh]

namespace Entries

/-- One recording changes where the counters begin for the numbers after it. -/
theorem newHigh_raise (entries : Entries) {first : Arity × Nat} (h : first.2 < Text.Decimal.bound)
    {earlier : List (Arity × Nat)} {r : Arity × Nat} :
    NewHigh (entries.raise first.1 first.2).counter earlier r ↔
      NewHigh entries.counter (first :: earlier) r := by
  rw [NewHigh, NewHigh, counter_raise entries first.1 h, List.forall_mem_cons]
  by_cases hsame : first.1 = r.1
  · rw [if_pos hsame, Nat.max_lt, and_assoc]
    simp [hsame]
  · rw [if_neg hsame]
    simp [hsame]

/-! ## The text of a counter -/

/-- A counter that was raised is written in decimal. -/
theorem get?_raise_of_counter_lt {entries : Entries} {arity : Arity} {reached : Nat}
    (h : reached < Text.Decimal.bound) {a : Arity}
    (hlow : entries.counter a < (entries.raise arity reached).counter a) :
    (entries.raise arity reached).get? (levelKey a) =
      some (Text.Decimal.write ((entries.raise arity reached).counter a)) := by
  have hcounter := counter_raise entries arity h a
  rw [hcounter] at hlow ⊢
  split at hlow
  · next ha =>
    subst ha
    have hraised : entries.counter arity < reached := by omega
    rw [if_pos rfl, Nat.max_eq_right (Nat.le_of_lt hraised), raise, if_pos hraised, get?_insert,
      if_pos rfl]
  · exact absurd hlow (Nat.lt_irrefl _)

theorem get?_raiseAll_of_counter_lt {entries : Entries} {records : List (Arity × Nat)}
    (h : ∀ r ∈ records, r.2 < Text.Decimal.bound) {arity : Arity}
    (hlow : entries.counter arity < (entries.raiseAll records).counter arity) :
    (entries.raiseAll records).get? (levelKey arity) =
      some (Text.Decimal.write ((entries.raiseAll records).counter arity)) := by
  induction records generalizing entries with
  | nil => exact absurd hlow (Nat.lt_irrefl _)
  | cons r rest ih =>
    have hr := h r List.mem_cons_self
    have hrest : ∀ s ∈ rest, s.2 < Text.Decimal.bound := fun s hs => h s (List.mem_cons_of_mem r hs)
    have hcons : entries.raiseAll (r :: rest) = (entries.raise r.1 r.2).raiseAll rest := rfl
    rw [hcons] at hlow ⊢
    rcases Nat.lt_or_eq_of_le (counter_le_counter_raiseAll (entries.raise r.1 r.2) hrest arity) with
      hlater | hlast
    · exact ih hrest hlater
    · -- No number after the first one raises this counter, so its text is the one written first.
      rw [get?_raiseAll_of_counter_eq hrest hlast.symm, ← hlast]
      rw [← hlast] at hlow
      exact get?_raise_of_counter_lt hr hlow

/-- What recordings leave under the key of a counter. -/
theorem get?_levelKey_raiseAll (entries : Entries) {records : List (Arity × Nat)}
    (h : ∀ r ∈ records, r.2 < Text.Decimal.bound) (arity : Arity) :
    (entries.raiseAll records).get? (levelKey arity) =
      if entries.counter arity < (entries.raiseAll records).counter arity then
        some (Text.Decimal.write ((entries.raiseAll records).counter arity))
      else entries.get? (levelKey arity) := by
  split
  · next hlow => exact get?_raiseAll_of_counter_lt h hlow
  · next hhigh =>
    have hle := counter_le_counter_raiseAll entries h arity
    exact get?_raiseAll_of_counter_eq h (Nat.le_antisymm (Nat.le_of_not_lt hhigh) hle)

/-! ## The order of recordings -/

theorem foldl_max_numbersOf_of_perm {records other : List (Arity × Nat)} (h : records.Perm other)
    (arity : Arity) (initial : Nat) :
    (numbersOf arity records).foldl max initial = (numbersOf arity other).foldl max initial := by
  have hnumbers : (numbersOf arity records).Perm (numbersOf arity other) := h.filterMap _
  refine hnumbers.foldl_eq' (fun a _ b _ n => ?_) initial
  omega

/-- The same recordings in another order leave the same entries. -/
theorem raiseAll_of_perm (entries : Entries) {records other : List (Arity × Nat)}
    (h : ∀ r ∈ records, r.2 < Text.Decimal.bound) (hperm : records.Perm other) :
    entries.raiseAll records = entries.raiseAll other := by
  have hother : ∀ r ∈ other, r.2 < Text.Decimal.bound := fun r hr => h r (hperm.mem_iff.2 hr)
  refine ext_get? fun key => ?_
  by_cases hkey : ∃ arity, key = levelKey arity
  · obtain ⟨arity, rfl⟩ := hkey
    rw [get?_levelKey_raiseAll entries h, get?_levelKey_raiseAll entries hother,
      counter_raiseAll entries h, counter_raiseAll entries hother,
      foldl_max_numbersOf_of_perm hperm]
  · have hother : ∀ arity, key ≠ levelKey arity := fun arity heq => hkey ⟨arity, heq⟩
    rw [get?_raiseAll_of_ne entries records hother, get?_raiseAll_of_ne entries other hother]

end Entries

/-! ## Many recordings -/

namespace Progress

/-- Records numbers one after the other, with the answers in order. -/
def recordAll {σ : Type} [Store σ] (store : σ) :
    List (Arity × Nat) → List (Except StorageFault Bool) × σ
  | [] => ([], store)
  | r :: rest =>
    let (answer, store) := record store r.1 r.2
    let (answers, store) := recordAll store rest
    (answer :: answers, store)

theorem level_memory (memory : Memory) (arity : Arity) :
    level memory arity = .ok (memory.entries.counter arity) := rfl

theorem record_memory (memory : Memory) (arity : Arity) (reached : Nat) :
    record memory arity reached =
      (.ok (decide (memory.entries.counter arity < reached)),
        ⟨memory.entries.raise arity reached⟩) := by
  unfold record
  rw [level_memory]
  dsimp only
  by_cases hlow : memory.entries.counter arity < reached
  · rw [if_pos hlow, decide_eq_true hlow, Entries.raise, if_pos hlow]
    rfl
  · rw [if_neg hlow, decide_eq_false hlow, Entries.raise, if_neg hlow]

theorem recordAll_memory (memory : Memory) {records : List (Arity × Nat)}
    (h : ∀ r ∈ records, r.2 < Text.Decimal.bound) :
    recordAll memory records =
      (records.mapIdx fun i r =>
          .ok (decide (NewHigh memory.entries.counter (records.take i) r)),
        ⟨memory.entries.raiseAll records⟩) := by
  induction records generalizing memory with
  | nil => rfl
  | cons r rest ih =>
    have hr := h r List.mem_cons_self
    have hrest := ih ⟨memory.entries.raise r.1 r.2⟩ fun s hs => h s (List.mem_cons_of_mem r hs)
    rw [recordAll, record_memory]
    dsimp only
    rw [hrest, List.mapIdx_cons]
    simp only [List.take_zero, List.take_succ_cons, newHigh_nil, Entries.newHigh_raise _ hr]
    rfl

end Progress

namespace Simulates

variable {σ τ : Type} [Store σ] [Store τ] {I : σ → Prop}

theorem recordAll {f : σ → τ} (h : Simulates I f) {store : σ} (hstore : I store)
    (records : List (Arity × Nat)) :
    Carried I f (Progress.recordAll store records) (Progress.recordAll (f store) records) := by
  induction records generalizing store with
  | nil => exact ⟨rfl, hstore⟩
  | cons r rest ih =>
    have hfirst := h.record hstore r.1 r.2
    have hrest := ih hfirst.kept
    refine ⟨?_, hrest.kept⟩
    simp only [Progress.recordAll, hfirst.eq, hrest.eq]

/-- A store does as it does itself. -/
theorem refl : Simulates (fun _ : σ => True) (id : σ → σ) where
  get _ _ := rfl
  set _ _ _ _ := ⟨rfl, trivial⟩

/-- A store that does as a memory does reads what the memory holds. -/
theorem get_eq {f : σ → Memory} (h : Simulates I f) {store : σ} (hstore : I store) (key : String) :
    Store.get store key = .ok ((f store).entries.get? key) :=
  (h.get hstore key).symm

/-- On a store that does as a memory does, recordings answer whether their numbers are new highs, and
    leave the entries that they leave in the memory. -/
theorem recordAll_spec {f : σ → Memory} (h : Simulates I f) {store : σ} (hstore : I store)
    {records : List (Arity × Nat)} (hbound : ∀ r ∈ records, r.2 < Text.Decimal.bound) :
    (Progress.recordAll store records).1 =
        records.mapIdx (fun i r =>
          .ok (decide (NewHigh (f store).entries.counter (records.take i) r))) ∧
      ∀ key, Store.get (Progress.recordAll store records).2 key =
        .ok (((f store).entries.raiseAll records).get? key) := by
  have hcarried := h.recordAll hstore records
  have heq := hcarried.eq.symm.trans (Progress.recordAll_memory (f store) hbound)
  obtain ⟨hanswers, hleft⟩ := Prod.mk.inj heq
  refine ⟨hanswers, fun key => ?_⟩
  rw [h.get_eq hcarried.kept, hleft]

end Simulates

/-- **Recording is a running maximum.** On a store that does as a memory does, such as a memory itself
    (`Simulates.refl`) or a store in a file where nothing fails (`FileStore.simulates_toMemory`), and
    whatever texts it holds: every recording answers, and it answers that it raised the counter exactly
    when its number is a new high. Each counter ends at the maximum of what
    it was and of the numbers recorded for it; its text is the decimal of that maximum if it was
    raised, and untouched if not. No key is touched but those of the counters recorded for. The same
    recordings in another order leave the same readings. -/
theorem recordAll_running_maximum {σ : Type} [Store σ] {I : σ → Prop} {f : σ → Memory}
    (h : Simulates I f) {store : σ} (hstore : I store) {records : List (Arity × Nat)}
    (hbound : ∀ r ∈ records, r.2 < Text.Decimal.bound) :
    ∃ initial : Arity → Nat, (∀ arity, Progress.level store arity = .ok (initial arity)) ∧
      let outcome := Progress.recordAll store records
      outcome.1 = records.mapIdx (fun i r => .ok (decide (NewHigh initial (records.take i) r))) ∧
      (∀ arity,
        let last := (Entries.numbersOf arity records).foldl max (initial arity)
        Progress.level outcome.2 arity = .ok last ∧
          Store.get outcome.2 (levelKey arity) =
            if initial arity < last then .ok (some (Text.Decimal.write last))
            else Store.get store (levelKey arity)) ∧
      (∀ key, (∀ r ∈ records, key ≠ levelKey r.1) →
        Store.get outcome.2 key = Store.get store key) ∧
      ∀ other, records.Perm other →
        (∀ key, Store.get (Progress.recordAll store other).2 key = Store.get outcome.2 key) ∧
          ∀ arity, Progress.level (Progress.recordAll store other).2 arity =
            Progress.level outcome.2 arity := by
  let entries := (f store).entries
  have hbefore := h.get_eq hstore
  obtain ⟨hanswers, hafter⟩ := h.recordAll_spec hstore hbound
  refine ⟨entries.counter, fun arity => ?_, hanswers, ?_, ?_, ?_⟩
  · rw [Progress.level, hbefore]
    rfl
  · intro arity last
    have hlast : (entries.raiseAll records).counter arity = last :=
      Entries.counter_raiseAll entries hbound arity
    constructor
    · rw [Progress.level, hafter, ← hlast]
      rfl
    · rw [hafter, hbefore, Entries.get?_levelKey_raiseAll entries hbound, hlast]
      split <;> rfl
  · intro key hkey
    rw [hafter, hbefore, Entries.get?_raiseAll_of_not_recorded entries hkey]
  · intro other hperm
    have hother : ∀ r ∈ other, r.2 < Text.Decimal.bound := fun r hr =>
      hbound r (hperm.mem_iff.2 hr)
    have hsame : ∀ key, Store.get (Progress.recordAll store other).2 key =
        Store.get (Progress.recordAll store records).2 key := by
      intro key
      rw [(h.recordAll_spec hstore hother).2, hafter, Entries.raiseAll_of_perm entries hbound hperm]
    refine ⟨hsame, fun arity => ?_⟩
    rw [Progress.level, hsame, Progress.level]

/-- Over a padded counter and one beyond 64 bits, which counts as 0, and as far as 64 bits go. -/
theorem recordAll_over_untidy_counters :
    let entries := (Entries.empty.insert (levelKey .two) "\t+007 ").insert (levelKey .three)
      "18446744073709551616"
    let memory : Memory := ⟨entries⟩
    let records : List (Arity × Nat) :=
      [(.two, 7), (.three, 1), (.two, 8), (.three, 18446744073709551615), (.two, 8), (.three, 5)]
    (∀ r ∈ records, r.2 < Text.Decimal.bound) ∧
      (Progress.recordAll memory records).1 =
        [.ok false, .ok true, .ok true, .ok true, .ok false, .ok false] ∧
      Progress.level (Progress.recordAll memory records).2 .two = .ok 8 ∧
      Progress.level (Progress.recordAll memory records).2 .three = .ok 18446744073709551615 := by
  intro entries memory records
  have hbound : ∀ r ∈ records, r.2 < Text.Decimal.bound := by decide
  obtain ⟨initial, hinitial, hanswers, hlast, -⟩ :=
    @recordAll_running_maximum Memory _ _ _ .refl memory trivial records hbound
  have htwo : initial .two = 7 := by
    have hcounter : entries.counter .two = 7 := by decide +kernel
    rw [← hcounter]
    exact Except.ok.inj (hinitial .two).symm
  have hthree : initial .three = 0 := by
    have hcounter : entries.counter .three = 0 := by decide +kernel
    rw [← hcounter]
    exact Except.ok.inj (hinitial .three).symm
  refine ⟨hbound, ?_, ?_, ?_⟩
  · rw [hanswers]
    simp [records, NewHigh, htwo, hthree]
  · rw [(hlast .two).1, htwo]
    rfl
  · rw [(hlast .three).1, hthree]
    rfl

end Karnaugh.Records
