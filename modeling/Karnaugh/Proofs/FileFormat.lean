import Karnaugh.Proofs.TrimmedTexts
import Karnaugh.Records.FileStore
import Karnaugh.Records.Progress

set_option autoImplicit false

/-! # Entries that survive a file

Entries are written one `key=value` to a line and read back with blanks trimmed. What can be written so
that it reads back is said pair by pair (`Writable`): neither part begins or ends with a blank or holds
a line break, and the key holds no equals sign. Writable entries read back as they are
(`ofText_toText`), and whatever a file holds, what is read from it is writable (`writable_ofText`);
writing further writable pairs keeps it so (`Entries.writable_insert`), among them everything that the
progress writes. -/

namespace Karnaugh.Records

/-- A key and a value that a line can hold. -/
structure Writable (key value : String) : Prop where
  trim_key : Text.trim key.toList = key.toList
  /-- The first equals sign is the one after the key. -/
  equals_notMem_key : '=' ∉ key.toList
  newline_notMem_key : '\n' ∉ key.toList
  trim_value : Text.trim value.toList = value.toList
  newline_notMem_value : '\n' ∉ value.toList

/-- Entries each of which a line can hold. -/
def Entries.Writable (entries : Entries) : Prop :=
  ∀ p ∈ entries.pairs, Records.Writable p.1 p.2

/-- The characters of an entry's line, without the line break. -/
def lineChars (p : String × String) : List Char :=
  p.1.toList ++ '=' :: p.2.toList

/-! ## Lines -/

theorem readLine?_lineChars {p : String × String} (h : Writable p.1 p.2) :
    readLine? (lineChars p) = some p := by
  have hcut : Text.cutAt? '=' (lineChars p) = some (p.1.toList, p.2.toList) :=
    Text.cutAt?_eq_some_iff.2 ⟨rfl, h.equals_notMem_key⟩
  rw [readLine?, hcut, Option.map_some]
  dsimp only
  rw [h.trim_key, h.trim_value, String.ofList_toList, String.ofList_toList]

theorem filterMap_lineChars {pairs : List (String × String)}
    (h : ∀ p ∈ pairs, Writable p.1 p.2) : (pairs.map lineChars).filterMap readLine? = pairs := by
  induction pairs with
  | nil => rfl
  | cons p rest ih =>
    rw [List.map_cons, List.filterMap_cons_some (readLine?_lineChars (h p List.mem_cons_self)),
      ih fun q hq => h q (List.mem_cons_of_mem p hq)]

/-- What a line holds is writable, since its blanks are trimmed and it is cut at the first equals
    sign. -/
theorem writable_of_readLine? {line : List Char} {p : String × String} (hline : '\n' ∉ line)
    (h : readLine? line = some p) : Writable p.1 p.2 := by
  obtain ⟨⟨before, after⟩, hcut, rfl⟩ := Option.map_eq_some_iff.1 h
  obtain ⟨rfl, hbefore⟩ := Text.cutAt?_eq_some_iff.1 hcut
  constructor
  · rw [String.toList_ofList, Text.trim_trim]
  · rw [String.toList_ofList]
    exact fun hmem => hbefore (Text.mem_of_mem_trim hmem)
  · rw [String.toList_ofList]
    exact fun hmem => hline (List.mem_append_left _ (Text.mem_of_mem_trim hmem))
  · rw [String.toList_ofList, Text.trim_trim]
  · rw [String.toList_ofList]
    intro hmem
    exact hline (List.mem_append_right _ (List.mem_cons_of_mem _ (Text.mem_of_mem_trim hmem)))

namespace Entries

theorem toList_toText (entries : Entries) :
    entries.toText.toList = entries.pairs.flatMap fun p => lineChars p ++ ['\n'] := by
  rw [toText, String.toList_join, List.flatMap_map]
  congr 1
  funext p
  simp [lineChars, String.toList_append]

/-- Cutting a written text at the line breaks gives back the lines, and nothing after the last. -/
theorem splitOn_toText {pairs : List (String × String)} (h : ∀ p ∈ pairs, Records.Writable p.1 p.2) :
    (pairs.flatMap fun p => lineChars p ++ ['\n']).splitOn '\n' = pairs.map lineChars ++ [[]] := by
  induction pairs with
  | nil => rfl
  | cons p rest ih =>
    have hp := h p List.mem_cons_self
    have hnewline : '\n' ∉ lineChars p := by
      intro hmem
      rcases List.mem_append.1 hmem with hkey | hvalue
      · exact hp.newline_notMem_key hkey
      · rcases List.mem_cons.1 hvalue with heq | hvalue
        · exact absurd heq (by decide)
        · exact hp.newline_notMem_value hvalue
    rw [List.flatMap_cons, List.append_assoc, List.singleton_append,
      List.splitOn_append_cons_self_of_not_mem hnewline,
      ih fun q hq => h q (List.mem_cons_of_mem p hq)]
    rfl

/-! ## Entries from pairs in order -/

theorem place_of_forall_lt {key value : String} {pairs : List (String × String)}
    (h : ∀ p ∈ pairs, p.1 < key) : place key value pairs = pairs ++ [(key, value)] := by
  induction pairs with
  | nil => rfl
  | cons p rest ih =>
    obtain ⟨k, v⟩ := p
    have hk : k < key := h (k, v) List.mem_cons_self
    have hasymm : ¬key < k := fun hlt => String.lt_irrefl _ (String.lt_trans hlt hk)
    have hne : k ≠ key := fun heq => String.lt_irrefl _ (heq ▸ hk)
    rw [place, if_neg hasymm, if_neg hne, ih fun q hq => h q (List.mem_cons_of_mem _ hq)]
    rfl

theorem pairs_foldl_insert (entries : Entries) {rest : List (String × String)}
    (h : (entries.pairs ++ rest).Pairwise fun p q => p.1 < q.1) :
    (rest.foldl (fun e p => e.insert p.1 p.2) entries).pairs = entries.pairs ++ rest := by
  induction rest generalizing entries with
  | nil => exact (List.append_nil _).symm
  | cons p rest ih =>
    have hlast : (entries.insert p.1 p.2).pairs = entries.pairs ++ [p] := by
      refine place_of_forall_lt fun q hq => ?_
      exact (List.pairwise_append.1 h).2.2 q hq p List.mem_cons_self
    have hassoc : entries.pairs ++ p :: rest = (entries.insert p.1 p.2).pairs ++ rest := by
      rw [hlast, List.append_assoc]
      rfl
    rw [List.foldl_cons, ih _ (hassoc ▸ h), ← hassoc]

/-- Writing the pairs of some entries one after the other gives the entries back. -/
theorem ofList_pairs (entries : Entries) : ofList entries.pairs = entries :=
  Entries.ext (pairs_foldl_insert empty entries.ascending)

/-! ## Writable entries -/

theorem writable_empty : empty.Writable := by
  intro p hp
  cases hp

theorem writable_insert {entries : Entries} {key value : String} (h : entries.Writable)
    (hnew : Records.Writable key value) : (entries.insert key value).Writable := by
  intro p hp
  rcases mem_place hp with rfl | hp
  · exact hnew
  · exact h p hp

/-- Whatever a text holds, the entries read from it are writable. -/
theorem writable_ofText (text : String) : (ofText text).Writable := by
  have hfold : ∀ (pairs : List (String × String)) (entries : Entries), entries.Writable →
      (∀ p ∈ pairs, Records.Writable p.1 p.2) →
      (pairs.foldl (fun e p => e.insert p.1 p.2) entries).Writable := by
    intro pairs
    induction pairs with
    | nil => exact fun entries h _ => h
    | cons p rest ih =>
      intro entries h hpairs
      refine ih _ (writable_insert h (hpairs p List.mem_cons_self)) fun q hq => ?_
      exact hpairs q (List.mem_cons_of_mem p hq)
  refine hfold _ _ writable_empty fun p hp => ?_
  obtain ⟨line, hline, hread⟩ := List.mem_filterMap.1 hp
  exact writable_of_readLine? (Text.not_mem_of_mem_splitOn hline) hread

/-- Writable entries are read back as they were written. -/
theorem ofText_toText {entries : Entries} (h : entries.Writable) :
    ofText entries.toText = entries := by
  rw [ofText, toList_toText, splitOn_toText h, List.filterMap_append, filterMap_lineChars h]
  show ofList (entries.pairs ++ []) = entries
  rw [List.append_nil, ofList_pairs]

end Entries

/-! ## What the progress writes -/

theorem isBlank_of_isDigit {c : Char} (h : c.isDigit = true) : Text.isBlank c = false := by
  have hrange : 48 ≤ c.toNat ∧ c.toNat ≤ 57 := by
    simpa [Char.isDigit, UInt32.le_iff_toNat_le] using h
  have hblanks : ∀ range ∈ Text.blanks, range.2 < 48 ∨ 57 < range.1 := by decide
  rw [← Bool.not_eq_true]
  intro hblank
  obtain ⟨range, hmem, hlow, hhigh⟩ := (Text.CharRanges.contains_iff _ c).1 hblank
  rcases hblanks range hmem with hbelow | habove
  · omega
  · omega

theorem trim_write (n : Nat) :
    Text.trim (Text.Decimal.write n).toList = (Text.Decimal.write n).toList := by
  exact Text.trim_of_no_blank fun c hc => isBlank_of_isDigit (Text.Decimal.isDigit_of_mem_write hc)

theorem writable_counter (arity : Arity) (n : Nat) :
    Writable (levelKey arity) (Text.Decimal.write n) where
  trim_key := by cases arity <;> decide
  equals_notMem_key := by cases arity <;> decide
  newline_notMem_key := by cases arity <;> decide
  trim_value := trim_write n
  newline_notMem_value hmem := absurd (Text.Decimal.isDigit_of_mem_write hmem) (by decide)

theorem writable_tutorial : Writable tutorialKey tutorialMark where
  trim_key := by decide
  equals_notMem_key := by decide
  newline_notMem_key := by decide
  trim_value := by decide
  newline_notMem_value := by decide

/-- A counter of 64 bits is read back as it was written. -/
theorem counterOf_write {n : Nat} (h : n < Text.Decimal.bound) :
    counterOf (some (Text.Decimal.write n)) = n := by
  rw [counterOf, Option.bind_some, trim_write, Text.Decimal.read?_write h, Option.getD_some]

theorem levelKey_injective {a b : Arity} (h : levelKey a = levelKey b) : a = b := by
  revert h
  cases a <;> cases b <;> decide

theorem levelKey_ne_tutorialKey (arity : Arity) : levelKey arity ≠ tutorialKey := by
  cases arity <;> decide

end Karnaugh.Records
