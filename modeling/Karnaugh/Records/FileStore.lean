import Karnaugh.Records.Store
import Karnaugh.Text.Blank
import Karnaugh.Text.Split

set_option autoImplicit false

/-! # Stores in a file

A file store keeps its entries in a text file, one `key=value` to a line. The file is read once, when
the store is opened, and rewritten from the entries whenever one is set. The entries are changed
before the file is: a write that fails leaves the new value readable in the store, though not in the
file.

The file itself is a value too, a `Place`: what is found under its path, and the fault that writing
meets there, if any. -/

namespace Karnaugh.Records

/-! ## Files -/

/-- What is found under a path. -/
inductive Node
  | text (content : String)
  /-- A file whose bytes are not UTF-8. -/
  | binary
  | folder
  deriving DecidableEq

/-- A path as a store sees it. -/
structure Place where
  /-- What is found there, if anything. -/
  node : Option Node
  /-- The fault that reading meets before it comes to what is found there. -/
  readFault : Option StorageFault := none
  writeFault : Option StorageFault := none
  deriving DecidableEq

namespace Place

/-- The text of the file at a place; where nothing is, that is a fault. -/
def read (place : Place) : Except StorageFault String :=
  match place.readFault, place.node with
  | some fault, _ => .error fault
  | none, some (.text content) => .ok content
  | none, some .binary => .error .notText
  | none, some .folder => .error .folder
  | none, none => .error .missing

/-- Replaces the text of the file at a place, which may be new. A failed write changes nothing. -/
def write (place : Place) (content : String) : Except StorageFault Unit × Place :=
  match place.writeFault, place.node with
  | some fault, _ => (.error fault, place)
  | none, some .folder => (.error .folder, place)
  | none, _ => (.ok (), { place with node := some (.text content) })

end Place

/-! ## Lines -/

/-- The key and the value of a line, each without blanks at its ends; a line without an equals sign
    has none. -/
def readLine? (line : List Char) : Option (String × String) :=
  (Text.cutAt? '=' line).map fun (key, value) =>
    (String.ofList (Text.trim key), String.ofList (Text.trim value))

/-- The entries of a text. Of two lines with one key the later counts. A carriage return before the
    end of a line is a blank like any other. -/
def Entries.ofText (text : String) : Entries :=
  ofList ((text.toList.splitOn '\n').filterMap readLine?)

/-- The text of entries, one line each in key order. -/
def Entries.toText (entries : Entries) : String :=
  String.join (entries.pairs.map fun (key, value) => key ++ "=" ++ value ++ "\n")

/-! ## The store -/

/-- A store together with the place of its file. -/
structure FileStore where
  /-- The entries as they are read, also where the file could not be written. -/
  entries : Entries
  place : Place
  deriving DecidableEq

namespace FileStore

/-- Opens the store of a place. A file that does not exist yet has no entries. -/
def load (place : Place) : Except StorageFault FileStore :=
  match place.read with
  | .ok content => .ok ⟨Entries.ofText content, place⟩
  | .error fault => if fault.kind = .notFound then .ok ⟨Entries.empty, place⟩ else .error fault

/-- Writes an entry, first in the store and then in the file. -/
def set (store : FileStore) (key value : String) : Except StorageFault Unit × FileStore :=
  let entries := store.entries.insert key value
  let (result, place) := store.place.write entries.toText
  (result, ⟨entries, place⟩)

instance : Store FileStore where
  get store key := .ok (store.entries.get? key)
  set := set

end FileStore

end Karnaugh.Records
