set_option autoImplicit false

/-! # Entries in key order

A finite map from texts to texts, kept as its pairs in ascending order of their keys. Keys are
compared character by character by code point, which is also the order of their UTF-8 bytes. Since the
order is fixed, two maps with the same look-ups are the same value (`ext_get?`); `get?_insert` says
what writing an entry does. -/

namespace Karnaugh.Records

/-- Pairs of a key and a value, each key smaller than the next. -/
@[ext]
structure Entries where
  /-- The entries, one pair each. -/
  pairs : List (String × String)
  /-- No key comes twice, and they are in order. -/
  ascending : pairs.Pairwise fun p q => p.1 < q.1
  deriving DecidableEq

namespace Entries

/-! ## On lists of pairs -/

/-- The value of the first pair with a key. -/
def lookup (key : String) : List (String × String) → Option String
  | [] => none
  | (k, v) :: rest => if k = key then some v else lookup key rest

/-- Puts a pair in its place, in the place of the pair with the same key if there is one. -/
def place (key value : String) : List (String × String) → List (String × String)
  | [] => [(key, value)]
  | (k, v) :: rest =>
    if key < k then (key, value) :: (k, v) :: rest
    else if k = key then (key, value) :: rest
    else (k, v) :: place key value rest

theorem mem_place {key value : String} {pairs : List (String × String)} {p : String × String}
    (h : p ∈ place key value pairs) : p = (key, value) ∨ p ∈ pairs := by
  induction pairs with
  | nil => simpa [place] using h
  | cons q rest ih =>
    obtain ⟨k, v⟩ := q
    rw [place] at h
    split at h
    · simpa using h
    · split at h
      · rcases List.mem_cons.1 h with h | h
        · exact .inl h
        · exact .inr (List.mem_cons_of_mem _ h)
      · rcases List.mem_cons.1 h with h | h
        · exact .inr (h ▸ List.mem_cons_self)
        · exact (ih h).imp_right (List.mem_cons_of_mem _)

theorem ascending_place {key value : String} {pairs : List (String × String)}
    (h : pairs.Pairwise fun p q => p.1 < q.1) :
    (place key value pairs).Pairwise fun p q => p.1 < q.1 := by
  induction pairs with
  | nil => simp [place]
  | cons q rest ih =>
    obtain ⟨k, v⟩ := q
    obtain ⟨hk, hrest⟩ := List.pairwise_cons.1 h
    rw [place]
    split
    · next hlt =>
      refine List.pairwise_cons.2 ⟨fun p hp => ?_, h⟩
      rcases List.mem_cons.1 hp with rfl | hp
      · exact hlt
      · exact String.lt_trans hlt (hk p hp)
    · next hnlt =>
      split
      · next heq =>
        subst heq
        exact List.pairwise_cons.2 ⟨hk, hrest⟩
      · next hne =>
        refine List.pairwise_cons.2 ⟨fun p hp => ?_, ih hrest⟩
        rcases mem_place hp with rfl | hp
        · refine Decidable.byContradiction fun hle => hne ?_
          exact String.le_antisymm (String.not_lt.1 hnlt) (String.not_lt.1 hle)
        · exact hk p hp

theorem lookup_eq_none {key : String} {pairs : List (String × String)}
    (h : ∀ p ∈ pairs, p.1 ≠ key) : lookup key pairs = none := by
  induction pairs with
  | nil => rfl
  | cons p rest ih =>
    obtain ⟨k, v⟩ := p
    rw [lookup, if_neg (h (k, v) List.mem_cons_self)]
    exact ih fun q hq => h q (List.mem_cons_of_mem _ hq)

theorem mem_of_lookup {key value : String} {pairs : List (String × String)}
    (h : lookup key pairs = some value) : (key, value) ∈ pairs := by
  induction pairs with
  | nil => cases h
  | cons p rest ih =>
    obtain ⟨k, v⟩ := p
    rw [lookup] at h
    split at h
    · next hkey =>
      cases h
      rw [hkey]
      exact List.mem_cons_self
    · exact List.mem_cons_of_mem _ (ih h)

theorem lookup_of_mem {key value : String} {pairs : List (String × String)}
    (h : pairs.Pairwise fun p q => p.1 < q.1) (hmem : (key, value) ∈ pairs) :
    lookup key pairs = some value := by
  induction pairs with
  | nil => cases hmem
  | cons p rest ih =>
    obtain ⟨hp, hrest⟩ := List.pairwise_cons.1 h
    rcases List.mem_cons.1 hmem with rfl | hmem
    · simp [lookup]
    · have hne : p.1 ≠ key := fun heq => String.lt_irrefl _ (heq ▸ hp _ hmem)
      rw [lookup, if_neg hne]
      exact ih hrest hmem

theorem lookup_place {key value : String} {pairs : List (String × String)} (k : String) :
    lookup k (place key value pairs) = if k = key then some value else lookup k pairs := by
  induction pairs with
  | nil => simp [place, lookup, eq_comm]
  | cons q rest ih =>
    obtain ⟨k', v⟩ := q
    rw [place]
    split
    · simp [lookup, eq_comm]
    · split
      · next heq =>
        subst heq
        by_cases hk : k = k'
        · simp [lookup, hk]
        · simp [lookup, hk, Ne.symm hk]
      · next hne =>
        by_cases hk : k' = k
        · subst hk
          simp [lookup, hne]
        · simp [lookup, hk, ih]

/-- Pairs in ascending order are known by their look-ups. -/
theorem ext_lookup {pairs pairs' : List (String × String)}
    (h : pairs.Pairwise fun p q => p.1 < q.1) (h' : pairs'.Pairwise fun p q => p.1 < q.1)
    (hlookup : ∀ key, lookup key pairs = lookup key pairs') : pairs = pairs' := by
  induction pairs generalizing pairs' with
  | nil =>
    cases pairs' with
    | nil => rfl
    | cons p rest => simpa [lookup] using hlookup p.1
  | cons p rest ih =>
    obtain ⟨hp, hrest⟩ := List.pairwise_cons.1 h
    cases pairs' with
    | nil => simpa [lookup] using hlookup p.1
    | cons p' rest' =>
      obtain ⟨hp', hrest'⟩ := List.pairwise_cons.1 h'
      obtain ⟨k, v⟩ := p
      obtain ⟨k', v'⟩ := p'
      have below : ∀ {a : String} {l : List (String × String)}, (∀ q ∈ l, a < q.1) →
          lookup a l = none := fun hl =>
        lookup_eq_none fun q hq heq => String.lt_irrefl _ (heq ▸ hl q hq)
      have hkey : k = k' := by
        refine Decidable.byContradiction fun hne => ?_
        rcases Decidable.em (k < k') with hlt | hnlt
        · have := hlookup k
          simp only [lookup, ↓reduceIte, if_neg (Ne.symm hne)] at this
          rw [below fun q hq => String.lt_trans hlt (hp' q hq)] at this
          cases this
        · have hgt : k' < k := Decidable.byContradiction fun hle =>
            hne (String.le_antisymm (String.not_lt.1 hle) (String.not_lt.1 hnlt))
          have := hlookup k'
          simp only [lookup, ↓reduceIte, if_neg hne] at this
          rw [below fun q hq => String.lt_trans hgt (hp q hq)] at this
          cases this
      subst hkey
      have hval : v = v' := by simpa [lookup] using hlookup k
      subst hval
      congr 1
      refine ih hrest hrest' fun key => ?_
      have := hlookup key
      by_cases hk : k = key
      · subst hk
        rw [below hp, below hp']
      · simpa [lookup, hk] using this

/-! ## Entries -/

/-- No entry. -/
def empty : Entries := ⟨[], .nil⟩

/-- The value of a key. -/
def get? (entries : Entries) (key : String) : Option String :=
  lookup key entries.pairs

/-- Writes the value of a key. -/
def insert (entries : Entries) (key value : String) : Entries :=
  ⟨place key value entries.pairs, ascending_place entries.ascending⟩

/-- The entries that remain when pairs are written one after the other. -/
def ofList (pairs : List (String × String)) : Entries :=
  pairs.foldl (fun entries p => entries.insert p.1 p.2) empty

@[simp]
theorem get?_empty (key : String) : empty.get? key = none := rfl

/-- Writing a key changes the value of that key and no other. -/
@[simp]
theorem get?_insert (entries : Entries) (key value k : String) :
    (entries.insert key value).get? k = if k = key then some value else entries.get? k :=
  lookup_place k

/-- The pairs are the keys with their values. -/
theorem mem_pairs_iff {entries : Entries} {key value : String} :
    (key, value) ∈ entries.pairs ↔ entries.get? key = some value :=
  ⟨lookup_of_mem entries.ascending, mem_of_lookup⟩

/-- Entries are known by their look-ups. -/
theorem ext_get? {e f : Entries} (h : ∀ key, e.get? key = f.get? key) : e = f :=
  Entries.ext (ext_lookup e.ascending f.ascending h)

end Entries

end Karnaugh.Records
