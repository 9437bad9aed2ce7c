import Karnaugh.Proofs.Reopening

set_option autoImplicit false

/-! # Which entries a file keeps

A file keeps entries exactly when each of their texts is `Tight`, which is said of the characters at
its ends and inside, and no key has an equals sign. That is the same as being writable
(`writable_iff_tightPair`), so tight entries come back from their written text. For the converse no
entries have to be looked at: whatever is read from a text is tight, so entries that are not cannot
come back, however their lines may run into each other. Opening a file, setting an entry and opening
it again is therefore stable for every file, and for the pairs that are tight
(`ofText_toText_iff_tight`). -/

namespace Karnaugh.Records

/-- A text that stays as it is on a line: no blank at its ends and no line break inside. -/
structure Tight (text : String) : Prop where
  first : ∀ c, text.toList.head? = some c → Text.isBlank c = false
  last : ∀ c, text.toList.getLast? = some c → Text.isBlank c = false
  newline_notMem : '\n' ∉ text.toList

/-- A key and a value that stay as they are on a line with an equals sign between them. -/
structure TightPair (key value : String) : Prop where
  tight_key : Tight key
  equals_notMem_key : '=' ∉ key.toList
  tight_value : Tight value

/-- Entries all of whose keys and values are tight. -/
def Entries.Tight (entries : Entries) : Prop :=
  ∀ key value, entries.get? key = some value → TightPair key value

/-! ## Tight and writable -/

theorem tight_iff {text : String} :
    Tight text ↔ Text.trim text.toList = text.toList ∧ '\n' ∉ text.toList := by
  rw [Text.trim_eq_self_iff]
  constructor
  · intro h
    exact ⟨⟨h.first, h.last⟩, h.newline_notMem⟩
  · rintro ⟨⟨hfirst, hlast⟩, hnewline⟩
    exact ⟨hfirst, hlast, hnewline⟩

theorem writable_iff_tightPair {key value : String} : Writable key value ↔ TightPair key value := by
  constructor
  · intro h
    refine ⟨?_, h.equals_notMem_key, ?_⟩
    · exact tight_iff.2 ⟨h.trim_key, h.newline_notMem_key⟩
    · exact tight_iff.2 ⟨h.trim_value, h.newline_notMem_value⟩
  · intro h
    obtain ⟨htrimKey, hnewlineKey⟩ := tight_iff.1 h.tight_key
    obtain ⟨htrimValue, hnewlineValue⟩ := tight_iff.1 h.tight_value
    exact ⟨htrimKey, h.equals_notMem_key, hnewlineKey, htrimValue, hnewlineValue⟩

theorem Entries.writable_iff_tight {entries : Entries} : entries.Writable ↔ entries.Tight := by
  constructor
  · intro h key value hget
    exact writable_iff_tightPair.1 (h (key, value) (mem_pairs_iff.2 hget))
  · rintro h ⟨key, value⟩ hmem
    exact writable_iff_tightPair.2 (h key value (mem_pairs_iff.1 hmem))

/-! ## Through the text -/

theorem Entries.tight_ofText (text : String) : (ofText text).Tight :=
  writable_iff_tight.1 (writable_ofText text)

theorem Entries.ofText_toText_iff {entries : Entries} :
    ofText entries.toText = entries ↔ entries.Tight := by
  constructor
  · intro h
    rw [← h]
    exact tight_ofText entries.toText
  · intro h
    exact ofText_toText (writable_iff_tight.2 h)

/-- An entry added to tight entries is the only one that can spoil them. -/
theorem Entries.tight_insert_iff {entries : Entries} (h : entries.Tight) {key value : String} :
    (entries.insert key value).Tight ↔ TightPair key value := by
  constructor
  · intro hinsert
    refine hinsert key value ?_
    rw [get?_insert, if_pos rfl]
  · intro hpair
    have hwritable := writable_insert (writable_iff_tight.2 h) (writable_iff_tightPair.2 hpair)
    exact writable_iff_tight.1 hwritable

/-! ## Through the file -/

namespace FileStore

/-- A store over a file that holds its written entries is opened anew as it is exactly when they are
    tight. -/
theorem reopen_written_iff (entries : Entries) :
    reopen ⟨entries, .holding (some entries.toText)⟩ =
        .ok ⟨entries, .holding (some entries.toText)⟩ ↔ entries.Tight := by
  have hopened : reopen ⟨entries, .holding (some entries.toText)⟩ =
      .ok ⟨Entries.ofText entries.toText, .holding (some entries.toText)⟩ := load_holding _
  rw [hopened, ← Entries.ofText_toText_iff]
  constructor
  · intro h
    exact congrArg FileStore.entries (Except.ok.inj h)
  · intro h
    rw [h]

end FileStore

/-- **Entries survive a file exactly when all their texts are tight**: written and read back they are
    the same just when no key and no value begins or ends with a blank or holds a line break, and no
    key holds an equals sign. Whatever a text holds, the entries read from it are of this kind, and they
    come back from their own text. It is this text that setting an entry writes: the store that is
    opened from it afterwards is the one that wrote it just when its entries are tight. A file can be
    opened whatever it held, and a pair that is set then comes back with all the others just when the
    pair itself is tight. -/
theorem ofText_toText_iff_tight :
    (∀ entries : Entries, Entries.ofText entries.toText = entries ↔ entries.Tight) ∧
    (∀ text : String, (Entries.ofText text).Tight ∧
      Entries.ofText (Entries.ofText text).toText = Entries.ofText text) ∧
    (∀ (entries : Entries) (content? : Option String) (key value : String),
      ∃ written : FileStore,
        Store.set (⟨entries, .holding content?⟩ : FileStore) key value = (.ok (), written) ∧
          written.entries = entries.insert key value ∧
          written.place = .holding (some written.entries.toText) ∧
          (written.reopen = .ok written ↔ written.entries.Tight)) ∧
    ∀ (content? : Option String) (key value : String), ∃ opened written : FileStore,
      FileStore.load (.holding content?) = .ok opened ∧
        Store.set opened key value = (.ok (), written) ∧
        (written.reopen = .ok written ↔ TightPair key value) := by
  refine ⟨fun entries => Entries.ofText_toText_iff, fun text => ?_, ?_, ?_⟩
  · have htight := Entries.tight_ofText text
    exact ⟨htight, Entries.ofText_toText_iff.2 htight⟩
  · intro entries content? key value
    have hset := FileStore.set_holding entries content? key value
    exact ⟨_, hset, rfl, rfl, FileStore.reopen_written_iff _⟩
  · intro content? key value
    have htight : (Entries.ofFile content?).Tight :=
      Entries.writable_iff_tight.1 (Entries.writable_ofFile content?)
    have hset := FileStore.set_holding (Entries.ofFile content?) content? key value
    refine ⟨_, _, FileStore.load_holding content?, hset, ?_⟩
    rw [FileStore.reopen_written_iff]
    exact Entries.tight_insert_iff htight

/-- A key with an equals sign comes back cut at it. -/
example : Entries.ofText (Entries.empty.insert "a=b" "c").toText = Entries.empty.insert "a" "b=c" := by
  decide

end Karnaugh.Records
