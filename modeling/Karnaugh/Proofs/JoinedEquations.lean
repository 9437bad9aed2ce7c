import Karnaugh.Proofs.SumReading

set_option autoImplicit false

/-! # Joining equations with a plus sign

Reading takes sums to sums. The first head of a joined text is that of the left part, or of the right
part when the left one has none, for no head reaches across a plus sign (`withoutMark_append_plus`). So
a text joined from two of which at most one has a head has the summands of the two, one after the other
(`chunks_plus`), and what is read of it is what is read of them taken together (`outcome_sum`). The
map only depends on which summands there are (`namedGrid_congr`), not on their order or number. -/

namespace Karnaugh

namespace Equation

/-! ## Heads -/

/-- A text with an `F =` in it: an `F` of either case, any blanks and an equals sign. -/
def HasHead (text : List Char) : Prop :=
  ∃ before c blanks after, text = before ++ c :: (blanks ++ '=' :: after) ∧ (c = 'F' ∨ c = 'f') ∧
    ∀ b ∈ blanks, Text.isBlank b = true

/-- A text that is nothing but such a head, or nothing at all, apart from blanks. -/
def IsLead (text : List Char) : Prop :=
  Text.squeeze text = [] ∨ ∃ c, (c = 'F' ∨ c = 'f') ∧ Text.squeeze text = [c, '=']

/-- A text in which an `F` or `f` stands right before an equals sign. -/
def HasMark (text : List Char) : Prop :=
  ∃ before c after, text = before ++ c :: '=' :: after ∧ (c = 'F' ∨ c = 'f')

/-- Without its blanks, a text has the mark of a head only when it has a head. -/
theorem hasHead_of_hasMark_squeeze {text : List Char} (h : HasMark (Text.squeeze text)) :
    HasHead text := by
  obtain ⟨before, c, after, hsqueeze, hc⟩ := h
  obtain ⟨front, back, rfl, -, hback⟩ := List.filter_eq_append_iff.1 hsqueeze
  obtain ⟨gap, rest, rfl, -, -, hrest⟩ := List.filter_eq_cons_iff.1 hback
  obtain ⟨blanks, tail, rfl, hblanks, -, -⟩ := List.filter_eq_cons_iff.1 hrest
  refine ⟨front ++ gap, c, blanks, tail, by rw [List.append_assoc], hc, fun b hb => ?_⟩
  simpa using hblanks b hb

theorem not_hasHead_of_not_mem {text : List Char} (hF : 'F' ∉ text) (hf : 'f' ∉ text) :
    ¬HasHead text := by
  rintro ⟨before, c, blanks, after, rfl, hc⟩
  have hmem : c ∈ before ++ c :: (blanks ++ '=' :: after) :=
    List.mem_append_right before List.mem_cons_self
  rcases hc.1 with rfl | rfl
  · exact hF hmem
  · exact hf hmem

theorem hasMark_cons {c : Char} {rest : List Char} :
    HasMark (c :: rest) ↔ ((c = 'F' ∨ c = 'f') ∧ rest.head? = some '=') ∨ HasMark rest := by
  constructor
  · rintro ⟨before, d, after, heq, hd⟩
    cases before with
    | nil =>
      obtain ⟨rfl, rfl⟩ := List.cons.inj heq
      exact .inl ⟨hd, rfl⟩
    | cons b before =>
      obtain ⟨rfl, rfl⟩ := List.cons.inj heq
      exact .inr ⟨before, d, after, rfl, hd⟩
  · rintro (⟨hc, hhead⟩ | ⟨before, d, after, rfl, hd⟩)
    · obtain ⟨after, rfl⟩ := List.head?_eq_some_iff.1 hhead
      exact ⟨[], c, after, rfl, hc⟩
    · exact ⟨c :: before, d, after, rfl, hd⟩

theorem not_hasMark_nil : ¬HasMark [] := by
  rintro ⟨before, c, after, heq, -⟩
  cases before <;> cases heq

theorem withoutMark_of_not_hasMark {text : List Char} (h : ¬HasMark text) :
    withoutMark text = text := by
  induction text with
  | nil => rfl
  | cons c rest ih =>
    rw [hasMark_cons, not_or] at h
    rw [withoutMark, if_neg h.1, ih h.2]

theorem withoutMark_append_of_hasMark {text : List Char} (h : HasMark text) (more : List Char) :
    withoutMark (text ++ more) = withoutMark text ++ more := by
  induction text with
  | nil => exact absurd h not_hasMark_nil
  | cons c rest ih =>
    rw [hasMark_cons] at h
    rw [List.cons_append, withoutMark, withoutMark]
    by_cases hmark : (c = 'F' ∨ c = 'f') ∧ rest.head? = some '='
    · obtain ⟨body, rfl⟩ := List.head?_eq_some_iff.1 hmark.2
      rw [if_pos hmark, if_pos ⟨hmark.1, rfl⟩]
      rfl
    · have hrest := h.resolve_left hmark
      -- The rest is not empty, so that what follows it begins with the same character.
      have hhead : (rest ++ more).head? = rest.head? := by
        cases rest with
        | nil => exact absurd hrest not_hasMark_nil
        | cons d rest => rfl
      rw [hhead, if_neg hmark, if_neg hmark, ih hrest, List.cons_append]

/-- Behind a text without a mark and a plus sign, marks are what they are alone. -/
theorem withoutMark_append_plus {text : List Char} (h : ¬HasMark text) (more : List Char) :
    withoutMark (text ++ '+' :: more) = text ++ '+' :: withoutMark more := by
  induction text with
  | nil =>
    have hplus : ¬(('+' = 'F' ∨ '+' = 'f') ∧ more.head? = some '=') := fun hmark =>
      absurd hmark.1 (by decide)
    rw [List.nil_append, withoutMark, if_neg hplus, List.nil_append]
  | cons c rest ih =>
    rw [hasMark_cons, not_or] at h
    have hmark : ¬((c = 'F' ∨ c = 'f') ∧ (rest ++ '+' :: more).head? = some '=') := by
      rintro ⟨hc, hhead⟩
      cases rest with
      | nil => exact absurd hhead (by simp)
      | cons d rest => exact h.1 ⟨hc, hhead⟩
    rw [List.cons_append, withoutMark, if_neg hmark, ih h.2, List.cons_append]

theorem hasMark_append_plus {text more : List Char} (h : HasMark (text ++ '+' :: more)) :
    HasMark text ∨ HasMark more := by
  induction text with
  | nil =>
    rw [List.nil_append, hasMark_cons] at h
    exact .inr (h.resolve_left fun hmark => absurd hmark.1 (by decide))
  | cons c rest ih =>
    rw [List.cons_append, hasMark_cons] at h
    rcases h with ⟨hc, hhead⟩ | hrest
    · cases rest with
      | nil => exact absurd hhead (by simp)
      | cons d rest => exact .inl (hasMark_cons.2 (.inl ⟨hc, hhead⟩))
    · exact (ih hrest).imp_left fun hrest => hasMark_cons.2 (.inr hrest)

/-! ## Summands of joined texts -/

theorem squeeze_plus (s t : String) :
    Text.squeeze (s ++ "+" ++ t).toList =
      Text.squeeze s.toList ++ '+' :: Text.squeeze t.toList := by
  have hplus : Text.squeeze "+".toList = ['+'] := by decide
  rw [String.toList_append, String.toList_append, Text.squeeze_append, Text.squeeze_append, hplus,
    List.append_assoc, List.singleton_append]

/-- The pieces of a text between plus signs that are not empty. -/
def fullPieces (text : List Char) : List (List Char) :=
  (text.splitOn '+').filter fun s => !s.isEmpty

theorem chunks_eq (text : String) :
    chunks text = fullPieces (withoutMark (Text.squeeze text.toList)) := rfl

theorem fullPieces_append_plus (s t : List Char) :
    fullPieces (s ++ '+' :: t) = fullPieces s ++ fullPieces t := by
  rw [fullPieces, List.splitOn_append_cons_self, List.filter_append]
  rfl

/-- Two texts of which at most one has a head are cut into the summands of both. -/
theorem chunks_plus {s t : String} (h : ¬(HasHead s.toList ∧ HasHead t.toList)) :
    chunks (s ++ "+" ++ t) = chunks s ++ chunks t := by
  rw [chunks_eq, chunks_eq, chunks_eq, squeeze_plus]
  by_cases hs : HasMark (Text.squeeze s.toList)
  · have ht : ¬HasMark (Text.squeeze t.toList) := fun ht =>
      h ⟨hasHead_of_hasMark_squeeze hs, hasHead_of_hasMark_squeeze ht⟩
    rw [withoutMark_append_of_hasMark hs, fullPieces_append_plus, withoutMark_of_not_hasMark ht]
  · rw [withoutMark_append_plus hs, fullPieces_append_plus, withoutMark_of_not_hasMark hs]

theorem fullPieces_intercalate (parts : List (List Char)) :
    fullPieces (['+'].intercalate parts) = parts.flatMap fullPieces := by
  induction parts with
  | nil => rfl
  | cons part rest ih =>
    cases rest with
    | nil => rw [List.intercalate_singleton, List.flatMap_singleton]
    | cons next rest =>
      rw [List.intercalate_cons_cons, List.append_assoc, List.singleton_append,
        fullPieces_append_plus, ih]
      rfl

theorem not_hasMark_intercalate {parts : List (List Char)} (h : ∀ part ∈ parts, ¬HasMark part) :
    ¬HasMark (['+'].intercalate parts) := by
  induction parts with
  | nil => exact not_hasMark_nil
  | cons part rest ih =>
    have hpart := h part List.mem_cons_self
    cases rest with
    | nil => rwa [List.intercalate_singleton]
    | cons next rest =>
      have hrest := ih fun p hp => h p (List.mem_cons_of_mem part hp)
      rw [List.intercalate_cons_cons, List.append_assoc, List.singleton_append]
      exact fun hmark => (hasMark_append_plus hmark).elim hpart hrest

theorem withoutMark_lead {lead : List Char} (h : IsLead lead) {body : List Char}
    (hbody : ¬HasMark body) : withoutMark (Text.squeeze lead ++ body) = body := by
  rcases h with hnil | ⟨c, hc, hhead⟩
  · rw [hnil, List.nil_append, withoutMark_of_not_hasMark hbody]
  · rw [hhead, List.cons_append, withoutMark, if_pos ⟨hc, rfl⟩]
    rfl

/-- Behind a head, or none, the summands of texts without a head are those of the single texts. -/
theorem chunks_lead {lead : String} {parts : List String} (hlead : IsLead lead.toList)
    (hparts : ∀ part ∈ parts, ¬HasHead part.toList) :
    chunks (lead ++ "+".intercalate parts) =
      parts.flatMap fun part => fullPieces (Text.squeeze part.toList) := by
  have hplus : Text.squeeze "+".toList = ['+'] := by decide
  have hbody : Text.squeeze ("+".intercalate parts).toList =
      ['+'].intercalate (parts.map fun part => Text.squeeze part.toList) := by
    rw [String.toList_intercalate, Text.squeeze_intercalate, hplus, List.map_map]
    rfl
  have hnone : ¬HasMark (['+'].intercalate (parts.map fun part => Text.squeeze part.toList)) := by
    refine not_hasMark_intercalate fun text htext => ?_
    obtain ⟨part, hpart, rfl⟩ := List.mem_map.1 htext
    exact fun hmark => hparts part hpart (hasHead_of_hasMark_squeeze hmark)
  rw [chunks_eq, String.toList_append, Text.squeeze_append, hbody, withoutMark_lead hlead hnone,
    fullPieces_intercalate, List.flatMap_map]

/-! ## What is read of a text -/

/-- What a text comes to: what is read of it, where a refused one names nothing and is left with its
    skipped summands. -/
def outcome (arity : Arity) (text : String) : Reading :=
  match read arity text with
  | .ok reading => reading
  | .error fault => ⟨Grid.ofFn arity fun _ => false, 0, fault.skipped⟩

/-- Two readings of one map taken together. -/
def Reading.add (first second : Reading) : Reading where
  grid := Grid.ofFn first.grid.arity fun p => first.grid.isSet p || second.grid.isSet p
  resolved := first.resolved + second.resolved
  skipped := first.skipped ++ second.skipped

theorem isOk_read (arity : Arity) (text : String) :
    (read arity text).isOk = (chunks text).any (names arity) := by
  rw [read_eq]
  cases (chunks text).any (names arity) <;> rfl

theorem names_labelChars {arity : Arity} {m : Nat} (hm : m < arity.cells) :
    names arity (arity.labelChars .prime m) = true :=
  List.any_eq_true.2 ⟨m, List.mem_range.2 hm, beq_self_eq_true _⟩

/-- A text without a product of the map has no ones. -/
theorem namedGrid_of_refused {arity : Arity} {text : String}
    (h : (chunks text).any (names arity) = false) :
    namedGrid arity text = Grid.ofFn arity fun _ => false := by
  refine Grid.ext_get? rfl fun position => ?_
  rw [namedGrid, Grid.get?_ofFn, Grid.get?_ofFn]
  split
  · next hp =>
    have hm := (arity.mintermAt_lt_cells_iff position).2 hp
    have hnot : arity.labelChars .prime (arity.mintermAt position) ∉ chunks text := fun hmem =>
      List.any_eq_false.1 h _ hmem (names_labelChars hm)
    rw [Option.some.injEq, ← Bool.not_eq_true, List.contains_iff_mem]
    exact hnot
  · rfl

theorem outcome_eq (arity : Arity) (text : String) :
    outcome arity text =
      ⟨namedGrid arity text, (chunks text).countP (names arity), leftOver arity text⟩ := by
  unfold outcome
  rw [read_eq]
  cases hany : (chunks text).any (names arity) with
  | true => rfl
  | false =>
    have hcount : (chunks text).countP (names arity) = 0 :=
      List.countP_eq_zero.2 (List.any_eq_false.1 hany)
    rw [namedGrid_of_refused hany, hcount]
    rfl

/-- The map only depends on which summands a text has. -/
theorem namedGrid_congr {s t : String} (h : ∀ part, part ∈ chunks s ↔ part ∈ chunks t)
    (arity : Arity) : namedGrid arity s = namedGrid arity t := by
  refine Grid.ext_get? rfl fun position => ?_
  have hcell : (chunks s).contains (arity.labelChars .prime (arity.mintermAt position)) =
      (chunks t).contains (arity.labelChars .prime (arity.mintermAt position)) := by
    rw [Bool.eq_iff_iff, List.contains_iff_mem, List.contains_iff_mem]
    exact h _
  rw [namedGrid, namedGrid, Grid.get?_ofFn, Grid.get?_ofFn, hcell]

theorem outcome_of_chunks_append {s t joined : String} (h : chunks joined = chunks s ++ chunks t)
    (arity : Arity) : outcome arity joined = (outcome arity s).add (outcome arity t) := by
  have hgrid : namedGrid arity joined =
      Grid.ofFn arity fun p => (namedGrid arity s).isSet p || (namedGrid arity t).isSet p := by
    refine Grid.ext_get? rfl fun position => ?_
    rw [namedGrid, Grid.get?_ofFn, Grid.get?_ofFn]
    split
    · next hp =>
      rw [namedGrid, namedGrid, Grid.isSet_ofFn, Grid.isSet_ofFn, decide_eq_true hp, Bool.true_and,
        Bool.true_and, Option.some.injEq, Bool.eq_iff_iff, Bool.or_eq_true, h]
      simp only [List.contains_iff_mem, List.mem_append]
    · rfl
  have hleft : leftOver arity joined = leftOver arity s ++ leftOver arity t := by
    rw [leftOver, h, List.filter_append, List.map_append]
    rfl
  rw [outcome_eq, outcome_eq, outcome_eq, h, List.countP_append, hgrid, hleft]
  rfl

/-! ## Sums -/

/-- **Reading takes sums to sums.** Joining two texts with a plus sign, of which at most one has a
    head, counts as many products as both do, skips what the first and then the second skips, and sets
    exactly the cells that one of them sets; it is refused only when both are. The map depends on
    which summands there are and on nothing else: products may be reordered and repeated, behind a
    head or without one, and no cell changes. -/
theorem outcome_sum (arity : Arity) :
    (∀ s t : String, ¬(HasHead s.toList ∧ HasHead t.toList) →
      outcome arity (s ++ "+" ++ t) = (outcome arity s).add (outcome arity t) ∧
      (read arity (s ++ "+" ++ t)).isOk = ((read arity s).isOk || (read arity t).isOk)) ∧
    (∀ s t : String, (∀ part, part ∈ summands s.toList ↔ part ∈ summands t.toList) →
      (outcome arity s).grid = (outcome arity t).grid) ∧
    ∀ (lead lead' : String) (parts others : List String), IsLead lead.toList →
      IsLead lead'.toList → (∀ part ∈ parts, ¬HasHead part.toList) →
      (∀ part, part ∈ parts ↔ part ∈ others) →
      (outcome arity (lead ++ "+".intercalate parts)).grid =
        (outcome arity (lead' ++ "+".intercalate others)).grid := by
  refine ⟨fun s t h => ⟨outcome_of_chunks_append (chunks_plus h) arity, ?_⟩, ?_, ?_⟩
  · rw [isOk_read, isOk_read, isOk_read, chunks_plus h, List.any_append]
  · intro s t h
    rw [outcome_eq, outcome_eq]
    refine namedGrid_congr (fun part => ?_) arity
    rw [← summands_eq_chunks, ← summands_eq_chunks]
    exact h part
  · intro lead lead' parts others hlead hlead' hparts hsame
    have hothers : ∀ part ∈ others, ¬HasHead part.toList := fun part hpart =>
      hparts part ((hsame part).2 hpart)
    rw [outcome_eq, outcome_eq]
    refine namedGrid_congr (fun part => ?_) arity
    rw [chunks_lead hlead hparts, chunks_lead hlead' hothers, List.mem_flatMap, List.mem_flatMap]
    simp only [hsame]

/-- A refused text joined to one with a head, and a sum whose products are reordered and repeated. -/
theorem outcome_sum_of_refused :
    ¬(HasHead "x ".toList ∧ HasHead "F = A'B + B".toList) ∧
      outcome .two ("x " ++ "+" ++ "F = A'B + B") =
        (outcome .two "x ").add (outcome .two "F = A'B + B") ∧
      (outcome .two ("x " ++ "+" ++ "F = A'B + B")).skipped = ["x", "B"] ∧
      (outcome .two ("F = " ++ "+".intercalate ["A'B", "AB'"])).grid =
        (outcome .two ("" ++ "+".intercalate ["AB'", "A'B", "AB'"])).grid := by
  have hhead : ¬(HasHead "x ".toList ∧ HasHead "F = A'B + B".toList) := fun h =>
    not_hasHead_of_not_mem (by decide) (by decide) h.1
  obtain ⟨hplus, -, hsame⟩ := outcome_sum .two
  have hlead : IsLead "F = ".toList := .inr ⟨'F', .inl rfl, by decide⟩
  have hparts : ∀ part ∈ ["A'B", "AB'"], ¬HasHead part.toList := by
    intro part hpart
    have hF : 'F' ∉ part.toList ∧ 'f' ∉ part.toList := by
      revert part
      decide
    exact not_hasHead_of_not_mem hF.1 hF.2
  have hmore : ∀ part ∈ ["A'B", "AB'"], part ∈ ["AB'", "A'B", "AB'"] := by decide
  have hless : ∀ part ∈ ["AB'", "A'B", "AB'"], part ∈ ["A'B", "AB'"] := by decide
  exact ⟨hhead, (hplus "x " "F = A'B + B" hhead).1, by decide +kernel,
    hsame "F = " "" _ _ hlead (.inl (by decide)) hparts fun part => ⟨hmore part, hless part⟩⟩

end Equation

end Karnaugh
