import Karnaugh.Text.Quoted

set_option autoImplicit false

/-! # What can go wrong

One type of faults for the whole library, each with its cause as data; the wording is in `message`
alone. Two causes are types of their own, since they also occur without the rest: `NoTerms`, an
equation that names no cell, and `StorageFault`, what a store or a file reports. Every fault can be
handed on as a storage fault with the same words (`Fault.toStorage`); a storage fault is handed on as
it is. -/

namespace Karnaugh

/-! ## Equations that name no cell -/

/-- An equation none of whose products names a cell: its text and the products passed over. -/
structure NoTerms where
  input : String
  /-- The products that name no cell, in their order. -/
  skipped : List String
  deriving DecidableEq

/-- The wording depends on whether there was anything to pass over. -/
def NoTerms.message (fault : NoTerms) : String :=
  match fault.skipped with
  | [] => "No terms found in equation " ++ Text.quoted fault.input
  | _ :: _ =>
    "No valid minterms in equation " ++ Text.quoted fault.input ++ " (skipped: " ++
      ", ".intercalate fault.skipped ++ ")"

/-! ## Storage -/

/-- The kinds of trouble that a store reports. -/
inductive StorageKind
  | notFound
  | permissionDenied
  | alreadyExists
  | isDirectory
  | notDirectory
  | invalidName
  | readOnly
  | storageFull
  | invalidInput
  | invalidData
  | timedOut
  | interrupted
  | brokenPipe
  | writeZero
  | unexpectedEnd
  | unsupported
  | outOfMemory
  | other
  deriving DecidableEq

/-- Trouble with a store. -/
structure StorageFault where
  kind : StorageKind
  /-- The words of whoever reports it. -/
  text : String
  deriving DecidableEq

namespace StorageFault

/-- The file, or the folder it should be in, does not exist. -/
def missing : StorageFault := ⟨.notFound, "No such file or directory (os error 2)"⟩

/-- A folder stands where a file is wanted. -/
def folder : StorageFault := ⟨.isDirectory, "Is a directory (os error 21)"⟩

/-- A file stands where a folder is wanted. -/
def notFolder : StorageFault := ⟨.notDirectory, "Not a directory (os error 20)"⟩

/-- The file does not hold text. -/
def notText : StorageFault := ⟨.invalidData, "stream did not contain valid UTF-8"⟩

end StorageFault

/-- An equation that names no cell, handed on as trouble with the data. -/
def NoTerms.toStorage (fault : NoTerms) : StorageFault :=
  ⟨.invalidData, fault.message⟩

/-! ## All faults -/

/-- Everything that an operation of this library can refuse. -/
inductive Fault
  | variableCount (count : Nat)
  /-- A map needs `expected` cells, or 4 or 8 where nothing says which. -/
  | cellCount (expected : Option Nat) (found : Nat)
  /-- A cell is given by something that is neither 0 nor 1. -/
  | cellValue (value : String) (position : Nat)
  /-- The map has fewer cells than the position asks for. -/
  | outOfRange (position cells : Nat)
  | noTerms (cause : NoTerms)
  | storage (cause : StorageFault)
  deriving DecidableEq

namespace Fault

/-- The wording of each fault. -/
def message : Fault → String
  | variableCount count =>
    s!"Unsupported variable count {count}. Only 2- and 3-variable maps are available."
  | cellCount (some expected) found => s!"Expected {expected} cells, found {found}"
  | cellCount none found => s!"Expected 4 or 8 cells, found {found}"
  | cellValue value position =>
    "Invalid cell value " ++ Text.quoted value ++ s!" at position {position}. Expected 0 or 1."
  | outOfRange position cells =>
    s!"Position {position} is out of range for a map with {cells} cells"
  | noTerms cause => cause.message
  | storage cause => cause.text

/-- The words of the fault behind this one, for the two faults that have one. -/
def cause? : Fault → Option String
  | noTerms cause => some cause.message
  | storage cause => some cause.text
  | _ => none

/-- A fault handed on as storage trouble: a storage fault as it is, any other as invalid input with
    the same words. -/
def toStorage : Fault → StorageFault
  | storage cause => cause
  | fault => ⟨.invalidInput, fault.message⟩

end Fault

end Karnaugh
