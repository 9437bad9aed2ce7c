import Karnaugh.Fault
import Karnaugh.Records.Entries

set_option autoImplicit false

/-! # Stores

A store keeps texts under keys; reading and writing may fail. Stores are values: writing gives the
outcome together with the store as it then is, also when it failed. `Memory` never fails.
`Interruptible` wraps a store whose reads or writes can be made to fail from outside, to see what the
rest does when they do. -/

namespace Karnaugh.Records

/-- What can be done with a store. -/
class Store (σ : Type) where
  /-- The value of a key, `none` when there is none. -/
  get : σ → String → Except StorageFault (Option String)
  set : σ → String → String → Except StorageFault Unit × σ

/-! ## In memory -/

/-- A store that lives as long as the value. -/
structure Memory where
  entries : Entries
  deriving DecidableEq

/-- A memory without entries. -/
def Memory.empty : Memory := ⟨Entries.empty⟩

instance : Store Memory where
  get memory key := .ok (memory.entries.get? key)
  set memory key value := (.ok (), ⟨memory.entries.insert key value⟩)

/-! ## Interrupted -/

/-- A store with a fault that its reads meet and one that its writes meet, if any. -/
structure Interruptible (σ : Type) where
  inner : σ
  readFault : Option StorageFault := none
  writeFault : Option StorageFault := none

namespace Interruptible

/-- Sets the faults that reads and writes meet from now on. -/
def interrupt {σ : Type} (store : Interruptible σ) (read write : Option StorageFault) :
    Interruptible σ :=
  { store with readFault := read, writeFault := write }

/-- Reads the store unless reading is interrupted. -/
def get {σ : Type} [Store σ] (store : Interruptible σ) (key : String) :
    Except StorageFault (Option String) :=
  match store.readFault with
  | some fault => .error fault
  | none => Store.get store.inner key

/-- Writes the store unless writing is interrupted; then it stays as it is. -/
def set {σ : Type} [Store σ] (store : Interruptible σ) (key value : String) :
    Except StorageFault Unit × Interruptible σ :=
  match store.writeFault with
  | some fault => (.error fault, store)
  | none =>
    let (result, inner) := Store.set store.inner key value
    (result, { store with inner := inner })

instance {σ : Type} [Store σ] : Store (Interruptible σ) where
  get := get
  set := set

end Interruptible

end Karnaugh.Records
