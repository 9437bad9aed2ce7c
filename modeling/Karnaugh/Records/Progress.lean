import Karnaugh.Records.Store
import Karnaugh.Text.Blank
import Karnaugh.Text.Decimal
import Karnaugh.Variable

set_option autoImplicit false

/-! # Progress

What a player has reached is kept in a store: for each map size the highest number of a level solved,
counted from one, and whether the tutorial has been seen. Levels before the highest one may have been
passed over. A counter is a decimal number of 64 bits (`counterOf_lt_bound`); one that is missing or
cannot be read counts as 0. Recording only ever raises a counter. -/

namespace Karnaugh.Records

/-- The key of a counter. -/
def levelKey (arity : Arity) : String :=
  "kmap_game_level_" ++ arity.modeKey

/-- The key that tells whether the tutorial has been seen. -/
def tutorialKey : String := "tutorialLearned"

/-- The value under `tutorialKey` once the tutorial has been seen. -/
def tutorialMark : String := "yes"

/-- The number that the text of a counter stands for. -/
def counterOf (text : Option String) : Nat :=
  (text.bind fun t => Text.Decimal.read? (Text.trim t.toList)).getD 0

theorem counterOf_lt_bound (text : Option String) : counterOf text < Text.Decimal.bound := by
  unfold counterOf
  cases hread : text.bind fun t => Text.Decimal.read? (Text.trim t.toList) with
  | none => decide
  | some n =>
    obtain ⟨t, -, hn⟩ := Option.bind_eq_some_iff.1 hread
    exact Text.Decimal.lt_bound_of_read? hn

namespace Progress

variable {σ : Type} [Store σ]

/-- The counter of a map size. -/
def level (store : σ) (arity : Arity) : Except StorageFault Nat :=
  (Store.get store (levelKey arity)).map counterOf

/-- Raises a counter to a number if that is higher, and tells whether it was. -/
def record (store : σ) (arity : Arity) (reached : Nat) : Except StorageFault Bool × σ :=
  match level store arity with
  | .error fault => (.error fault, store)
  | .ok stored =>
    if stored < reached then
      let (result, store) := Store.set store (levelKey arity) (Text.Decimal.write reached)
      (result.map fun _ => true, store)
    else (.ok false, store)

/-- Whether the tutorial has been seen. -/
def tutorialSeen (store : σ) : Except StorageFault Bool :=
  (Store.get store tutorialKey).map fun value => value == some tutorialMark

/-- Remembers that the tutorial has been seen. -/
def markTutorialSeen (store : σ) : Except StorageFault Unit × σ :=
  Store.set store tutorialKey tutorialMark

/-! ## Requests -/

/-- One request to the progress in a store. -/
inductive Request
  | level (arity : Arity)
  | record (arity : Arity) (reached : Nat)
  | tutorialSeen
  | markTutorialSeen
  deriving DecidableEq

/-- What a request answers. -/
inductive Answer
  | number (n : Nat)
  /-- Whether the counter was raised, or the tutorial seen. -/
  | truth (b : Bool)
  | done
  deriving DecidableEq

/-- Carries out a request. -/
def handle (store : σ) : Request → Except StorageFault Answer × σ
  | .level arity => ((level store arity).map .number, store)
  | .record arity reached =>
    let (result, store) := record store arity reached
    (result.map .truth, store)
  | .tutorialSeen => ((tutorialSeen store).map .truth, store)
  | .markTutorialSeen =>
    let (result, store) := markTutorialSeen store
    (result.map fun _ => .done, store)

end Progress

end Karnaugh.Records
