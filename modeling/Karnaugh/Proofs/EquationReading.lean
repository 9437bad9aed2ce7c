import Karnaugh.Equation
import Karnaugh.Text.Split

set_option autoImplicit false

/-! # What an equation is read as

Reading cuts out the first `F =` of the text as it was typed and drops the blanks afterwards. The other
order gives the same: `withoutMark` deletes the first `F=` of a text without blanks, and
`squeeze_dropHead` says that the two steps commute, whatever stands before the `F`, however many of
them there are and wherever the blanks are. A summand is read when it is the written product of a
minterm (`minterm?_eq_some_iff`), which comes from the grammar of products: what is read letter by
letter is exactly what writes back to the same letters (`literals?_eq_some_iff`). -/

namespace Karnaugh

namespace Equation

/-! ## Products -/

/-- The letters of a product's literals. -/
def written (literals : List Literal) : List Char :=
  literals.flatMap fun l => literal .prime l.var l.positive

theorem head?_written_ne_mark (literals : List Literal) :
    (written literals).head? ≠ some Complement.prime.mark := by
  cases literals with
  | nil => simp [written]
  | cons l rest =>
    obtain ⟨v, positive⟩ := l
    cases v <;> cases positive <;> simp [written, literal, Variable.letter, Complement.mark]

theorem eq_written_of_literals? : ∀ {text : List Char} {literals : List Literal},
    literals? text = some literals → text = written literals
  | [], literals, h => by
    cases h
    rfl
  | [c], literals, h => by
    obtain ⟨v, hv, hlast⟩ := Option.bind_eq_some_iff.1 h
    obtain rfl := Variable.ofLetter?_eq_some_iff.1 hv
    obtain rfl := Option.some.inj hlast
    rfl
  | c :: d :: rest, literals, h => by
    rw [literals?] at h
    obtain ⟨v, hv, hnext⟩ := Option.bind_eq_some_iff.1 h
    obtain rfl := Variable.ofLetter?_eq_some_iff.1 hv
    dsimp only at hnext
    split at hnext
    · next hmark =>
      obtain ⟨more, hmore, hliterals⟩ := Option.bind_eq_some_iff.1 hnext
      obtain rfl := Option.some.inj hliterals
      rw [eq_written_of_literals? hmore, hmark]
      rfl
    · obtain ⟨more, hmore, hliterals⟩ := Option.bind_eq_some_iff.1 hnext
      obtain rfl := Option.some.inj hliterals
      rw [eq_written_of_literals? hmore]
      rfl

/-- A text is read as a product exactly when it is the written form of that product. -/
theorem literals?_eq_some_iff {text : List Char} {literals : List Literal} :
    literals? text = some literals ↔ text = written literals := by
  constructor
  · exact eq_written_of_literals?
  · rintro rfl
    induction literals with
    | nil => rfl
    | cons l rest ih => exact literals?_literal l.var l.positive ih (head?_written_ne_mark rest)

/-- The literals of a minterm's product. -/
def mintermLiterals (arity : Arity) (minterm : Nat) : List Literal :=
  arity.vars.map fun v => ⟨v, arity.input minterm v⟩

theorem written_mintermLiterals (arity : Arity) (minterm : Nat) :
    written (mintermLiterals arity minterm) = arity.labelChars .prime minterm := by
  rw [written, mintermLiterals, List.flatMap_map, Arity.labelChars]

theorem mintermOf_mintermLiterals {arity : Arity} {minterm : Nat} (h : minterm < arity.cells) :
    mintermOf (mintermLiterals arity minterm) = minterm := by
  revert minterm
  cases arity <;> decide

theorem exists_minterm_of_vars {arity : Arity} {literals : List Literal}
    (h : literals.map Literal.var = arity.vars) :
    mintermOf literals < arity.cells ∧ literals = mintermLiterals arity (mintermOf literals) := by
  cases arity with
  | two =>
    match literals, h with
    | [⟨v, x⟩, ⟨w, y⟩], h =>
      simp only [List.map_cons, List.map_nil, Arity.vars, List.cons.injEq, and_true] at h
      obtain ⟨rfl, rfl⟩ := h
      revert x y
      decide
  | three =>
    match literals, h with
    | [⟨v, x⟩, ⟨w, y⟩, ⟨u, z⟩], h =>
      simp only [List.map_cons, List.map_nil, Arity.vars, List.cons.injEq, and_true] at h
      obtain ⟨rfl, rfl, rfl⟩ := h
      revert x y z
      decide

/-- A summand names a minterm of the map exactly when it is that minterm's product. -/
theorem minterm?_eq_some_iff {arity : Arity} {summand : List Char} {minterm : Nat} :
    minterm? arity summand = some minterm ↔
      minterm < arity.cells ∧ summand = arity.labelChars .prime minterm := by
  constructor
  · intro h
    obtain ⟨literals, hread, h⟩ := Option.bind_eq_some_iff.1 h
    split at h
    · next hvars =>
      cases h
      obtain ⟨hlt, hliterals⟩ := exists_minterm_of_vars hvars
      refine ⟨hlt, ?_⟩
      rw [← written_mintermLiterals, ← hliterals]
      exact literals?_eq_some_iff.1 hread
    · cases h
  · rintro ⟨hlt, rfl⟩
    have hread := literals?_eq_some_iff.2 (written_mintermLiterals arity minterm).symm
    have hvars : (mintermLiterals arity minterm).map Literal.var = arity.vars := by
      cases arity <;> rfl
    rw [minterm?, hread, Option.bind_eq_bind, Option.bind_some, if_pos hvars,
      mintermOf_mintermLiterals hlt]

/-! ## The head -/

/-- The text without its first `F=` or `f=`. -/
def withoutMark : List Char → List Char
  | [] => []
  | c :: rest =>
    if (c = 'F' ∨ c = 'f') ∧ rest.head? = some '=' then rest.tail else c :: withoutMark rest

/-- Cutting out the head of the text as it was typed and dropping the blanks can be exchanged. -/
theorem squeeze_dropHead (text : List Char) :
    Text.squeeze (dropHead text) = withoutMark (Text.squeeze text) := by
  induction text with
  | nil => rfl
  | cons c rest ih =>
    by_cases hblank : Text.isBlank c = true
    · -- A blank is no `F`, so it only falls away.
      have hF : ¬(c = 'F' ∨ c = 'f') := by
        rintro (rfl | rfl) <;> exact absurd hblank (by decide)
      have hdrop : ∀ s, Text.squeeze (c :: s) = Text.squeeze s := by
        intro s
        simp [Text.squeeze, hblank]
      rw [dropHead, if_neg hF, hdrop, hdrop, ih]
    · have hkeep : ∀ s, Text.squeeze (c :: s) = c :: Text.squeeze s := by
        intro s
        simp [Text.squeeze, hblank]
      rw [dropHead, hkeep, withoutMark, Text.head?_squeeze]
      split
      · next hF =>
        split
        · next body hbody =>
          have htail : Text.squeeze rest = '=' :: Text.squeeze body := by
            rw [← Text.squeeze_trimStart, hbody]
            exact List.filter_cons_of_pos (by decide)
          rw [hbody, if_pos ⟨hF, rfl⟩, htail, List.tail_cons, Text.squeeze_trimStart]
        · next hbody =>
          have hne : ¬(Text.trimStart rest).head? = some '=' := by
            intro hhead
            obtain ⟨body, hbody'⟩ := List.head?_eq_some_iff.1 hhead
            exact hbody body hbody'
          rw [if_neg fun h => hne h.2, hkeep, ih]
      · next hF => rw [if_neg fun h => hF h.1, hkeep, ih]

/-- A summand holds nothing but characters of the text without its head, and no blanks. -/
theorem mem_dropHead_of_mem_summands {c : Char} {text summand : List Char} (hc : c ∈ summand)
    (h : summand ∈ summands text) : c ∈ dropHead text ∧ Text.isBlank c = false := by
  have hpiece := (List.mem_filter.1 h).1
  exact Text.mem_squeeze.1 (Text.mem_of_mem_splitOn hc hpiece)

/-! ## The reference -/

/-- The summands of a text from which the blanks are dropped first. -/
def chunks (text : String) : List (List Char) :=
  ((withoutMark (Text.squeeze text.toList)).splitOn '+').filter fun s => !s.isEmpty

/-- Whether a summand is the product of a minterm of the map. -/
def names (arity : Arity) (summand : List Char) : Bool :=
  (List.range arity.cells).any fun m => summand == arity.labelChars .prime m

theorem summands_eq_chunks (text : String) : summands text.toList = chunks text := by
  rw [summands, chunks, squeeze_dropHead]

theorem isSome_minterm? (arity : Arity) (summand : List Char) :
    (minterm? arity summand).isSome = names arity summand := by
  rw [Bool.eq_iff_iff, Option.isSome_iff_exists, names, List.any_eq_true]
  simp only [minterm?_eq_some_iff, List.mem_range, beq_iff_eq]

theorem mem_minterms_of_chunks {arity : Arity} {parts : List (List Char)} {minterm : Nat} :
    minterm ∈ parts.filterMap (minterm? arity) ↔
      minterm < arity.cells ∧ arity.labelChars .prime minterm ∈ parts := by
  rw [List.mem_filterMap]
  constructor
  · rintro ⟨summand, hmem, hsummand⟩
    obtain ⟨hlt, rfl⟩ := minterm?_eq_some_iff.1 hsummand
    exact ⟨hlt, hmem⟩
  · rintro ⟨hlt, hmem⟩
    exact ⟨_, hmem, minterm?_eq_some_iff.2 ⟨hlt, rfl⟩⟩

/-- The summands that are no product of a minterm. -/
def leftOver (arity : Arity) (text : String) : List String :=
  ((chunks text).filter fun s => !names arity s).map String.ofList

/-- The map that has a 1 where the product of the minterm is among the summands. -/
def namedGrid (arity : Arity) (text : String) : Grid :=
  Grid.ofFn arity fun position =>
    (chunks text).contains (arity.labelChars .prime (arity.mintermAt position))

theorem mem_minterms_namedGrid {arity : Arity} {text : String} {minterm : Nat} :
    minterm ∈ (namedGrid arity text).minterms ↔
      minterm < arity.cells ∧ arity.labelChars .prime minterm ∈ chunks text := by
  rw [Grid.mem_minterms, namedGrid, Grid.isSet_ofFn, Grid.arity_ofFn, Arity.mintermAt_positionOf]
  simp

theorem read_eq (arity : Arity) (text : String) :
    read arity text =
      if (chunks text).any (names arity) then
        .ok ⟨namedGrid arity text, (chunks text).countP (names arity), leftOver arity text⟩
      else .error ⟨text, leftOver arity text⟩ := by
  have hskipped : (fun s => (minterm? arity s).isNone) = fun s => !names arity s := by
    funext s
    rw [← isSome_minterm?, Option.not_isSome]
  have hempty : ((chunks text).filterMap (minterm? arity)).isEmpty =
      !(chunks text).any (names arity) := by
    rw [Bool.eq_iff_iff, List.isEmpty_iff, List.filterMap_eq_nil_iff]
    simp [← isSome_minterm?]
  have hgrid : (Grid.ofFn arity fun position =>
      ((chunks text).filterMap (minterm? arity)).contains (arity.mintermAt position)) =
      namedGrid arity text := by
    refine Grid.ext_get? rfl fun position => ?_
    rw [namedGrid, Grid.get?_ofFn, Grid.get?_ofFn]
    split
    · next hp =>
      have hm := (arity.mintermAt_lt_cells_iff position).2 hp
      rw [Option.some.injEq, Bool.eq_iff_iff, List.contains_iff_mem, List.contains_iff_mem,
        mem_minterms_of_chunks]
      exact and_iff_right hm
    · rfl
  have hcount : ((chunks text).filterMap (minterm? arity)).length =
      (chunks text).countP (names arity) := by
    rw [List.length_filterMap_eq_countP]
    simp only [isSome_minterm?]
  unfold read readWith
  dsimp only
  rw [summands_eq_chunks, hskipped, hempty, hgrid, hcount]
  cases (chunks text).any (names arity) <;> rfl

/-- **Reading agrees with the reference**: drop all blanks, delete the first `F=`, cut at the plus
    signs and leave out what is empty. The equation is read when some summand is the product of a
    minterm; then every such summand counts, repetitions included, the map holds exactly their
    minterms, and the other summands are the skipped ones in their order. Otherwise it is refused with
    the text as it was given and the same skipped summands. Texts that differ in blanks only are read
    alike. -/
theorem read_agrees_with_reference (arity : Arity) (text : String) :
    (match read arity text with
      | .ok reading =>
        (chunks text).any (names arity) = true ∧
          reading.grid.arity = arity ∧
          reading.resolved = (chunks text).countP (names arity) ∧
          reading.skipped = leftOver arity text ∧
          reading.grid.minterms.Pairwise (· < ·) ∧
          ∀ m, m ∈ reading.grid.minterms ↔
            m < arity.cells ∧ arity.labelChars .prime m ∈ chunks text
      | .error fault =>
        (chunks text).any (names arity) = false ∧
          fault.input = text ∧
          fault.skipped = leftOver arity text) ∧
    ∀ other : String, Text.squeeze other.toList = Text.squeeze text.toList →
      (read arity other).mapError NoTerms.skipped = (read arity text).mapError NoTerms.skipped := by
  constructor
  · rw [read_eq]
    cases hany : (chunks text).any (names arity) with
    | true =>
      exact ⟨rfl, rfl, rfl, rfl, Grid.pairwise_minterms _, fun m => mem_minterms_namedGrid⟩
    | false => exact ⟨rfl, rfl, rfl⟩
  · intro other hother
    have hchunks : chunks other = chunks text := by rw [chunks, chunks, hother]
    rw [read_eq, read_eq, namedGrid, namedGrid, leftOver, leftOver, hchunks]
    cases (chunks text).any (names arity) <;> rfl

theorem read_with_and_without_blanks :
    Text.squeeze "F=A'B+x".toList = Text.squeeze "F = A'B + x".toList ∧
      (read .two "F=A'B+x").mapError NoTerms.skipped =
        (read .two "F = A'B + x").mapError NoTerms.skipped := by
  have hsame : Text.squeeze "F=A'B+x".toList = Text.squeeze "F = A'B + x".toList := by decide
  exact ⟨hsame, (read_agrees_with_reference .two "F = A'B + x").2 "F=A'B+x" hsame⟩

end Equation

end Karnaugh
