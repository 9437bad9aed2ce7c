import Karnaugh.CommandLine.Report
import Karnaugh.Proofs.BitDecoding
import Karnaugh.Proofs.EquationReading

set_option autoImplicit false

/-! # Two ways to read a map

A map is given as a bit string or as an equation, and which of the two a text is meant to be is told
from its characters before it is read. That test never takes a text away from a reader that could have
read it: what is read as bits has no character but digits and separators (`all_isAllowed_of_ofBits`),
and what is read as an equation has the letter of the first variable (`letter_mem_of_toGrid`), which is
neither. So the two readers read no text in common, and a text is read as a map when one of them reads
it at the size asked for (`readMap_iff_either_reader`). -/

namespace Karnaugh

/-! ## Bit strings -/

namespace BitString

theorem mem_strip {c : Char} {text : List Char} :
    c ∈ strip text ↔ c ∈ text ∧ isSeparator c = false := by
  simp [strip]

/-- A text has digits and separators only when digits are all that remains without separators. -/
theorem all_isAllowed_iff {text : List Char} :
    text.all isAllowed = true ↔ ∀ c ∈ strip text, c = '0' ∨ c = '1' := by
  rw [List.all_eq_true]
  constructor
  · intro h c hc
    obtain ⟨hmem, hseparator⟩ := mem_strip.1 hc
    simpa [isAllowed, hseparator] using h c hmem
  · intro h c hc
    cases hseparator : isSeparator c with
    | true => simp [isAllowed, hseparator]
    | false => simpa [isAllowed, hseparator] using h c (mem_strip.2 ⟨hc, hseparator⟩)

theorem all_isAllowed_of_ofBits {text : List Char} {grid : Grid} (h : Grid.ofBits text = .ok grid) :
    text.all isAllowed = true := by
  rw [all_isAllowed_iff, Grid.ofBits_eq_ok_iff.1 h]
  intro c hc
  obtain ⟨value, -, rfl⟩ := List.mem_map.1 hc
  exact exists_digit_iff.1 ⟨value, rfl⟩

/-- Digits and separators are refused for their number alone. -/
theorem ofBits_of_all_isAllowed {text : List Char} (h : text.all isAllowed = true) :
    (∃ grid, Grid.ofBits text = .ok grid) ∨
      Grid.ofBits text = .error (.cellCount none (strip text).length) := by
  rcases Grid.ofBits_cases text with ⟨grid, -, hread⟩ | ⟨-, -, hread⟩ |
    ⟨-, values, c, after, hstrip, h0, h1, -⟩
  · exact .inl ⟨grid, hread⟩
  · exact .inr hread
  · have hc : c ∈ strip text := hstrip ▸ List.mem_append_right _ List.mem_cons_self
    rcases all_isAllowed_iff.1 h c hc with hdigit | hdigit
    · exact absurd hdigit h0
    · exact absurd hdigit h1

end BitString

/-! ## Equations -/

namespace Equation

theorem mem_of_mem_dropHead {c : Char} {text : List Char} (h : c ∈ dropHead text) : c ∈ text := by
  induction text with
  | nil => exact h
  | cons d rest ih =>
    have hkept : c ∈ d :: dropHead rest → c ∈ d :: rest := by
      intro hc
      rcases List.mem_cons.1 hc with rfl | hc
      · exact List.mem_cons_self
      · exact List.mem_cons_of_mem d (ih hc)
    rw [dropHead] at h
    split at h
    · split at h
      · next body hbody =>
        have hbodyMem : c ∈ Text.trimStart rest :=
          hbody ▸ List.mem_cons_of_mem _ ((List.dropWhile_sublist _).subset h)
        exact List.mem_cons_of_mem d ((List.dropWhile_sublist _).subset hbodyMem)
      · exact hkept h
    · exact hkept h

theorem mem_of_mem_summands {c : Char} {text summand : List Char} (hc : c ∈ summand)
    (h : summand ∈ summands text) : c ∈ text :=
  mem_of_mem_dropHead (mem_dropHead_of_mem_summands hc h).1

theorem letter_mem_labelChars (arity : Arity) (style : Complement) (minterm : Nat) :
    Variable.a.letter ∈ arity.labelChars style minterm := by
  refine List.mem_flatMap.2 ⟨.a, ?_, ?_⟩
  · cases arity <;> exact List.mem_cons_self
  · unfold literal
    split <;> exact List.mem_cons_self

/-- An equation that is read has the letter of the first variable in it. -/
theorem letter_mem_of_toGrid {arity : Arity} {text : String} {grid : Grid}
    (h : toGrid arity text = .ok grid) : Variable.a.letter ∈ text.toList := by
  rw [toGrid, read_eq] at h
  split at h
  · next hany =>
    obtain ⟨summand, hmem, hnames⟩ := List.any_eq_true.1 hany
    obtain ⟨m, -, hlabel⟩ := List.any_eq_true.1 hnames
    rw [← summands_eq_chunks] at hmem
    refine mem_of_mem_summands ?_ hmem
    rw [beq_iff_eq.1 hlabel]
    exact letter_mem_labelChars arity .prime m
  · cases h

theorem not_all_isAllowed_of_toGrid {arity : Arity} {text : String} {grid : Grid}
    (h : toGrid arity text = .ok grid) : ¬text.toList.all BitString.isAllowed = true := by
  intro hall
  have hletter := List.all_eq_true.1 hall _ (letter_mem_of_toGrid h)
  exact absurd hletter (by decide)

end Equation

/-! ## The size asked for -/

theorem Arity.ofCount_cases (count : Nat) :
    (∃ arity : Arity, count = arity.count ∧ ofCount count = .ok arity) ∨
      ofCount count = .error (.variableCount count) := by
  unfold ofCount
  split
  · exact .inl ⟨.two, rfl, rfl⟩
  · exact .inl ⟨.three, rfl, rfl⟩
  · exact .inr rfl

namespace CommandLine

open BitString (isAllowed)

/-- The settings ask for no other size than that of the map. -/
def Options.Admits (options : Options) (grid : Grid) : Prop :=
  options.count? = none ∨ options.count? = some grid.arity.count

/-- A map that was read as bits, which has to have the size asked for. -/
def Options.sized (options : Options) (grid : Grid) : Except Fault Grid :=
  match options.count? with
  | none => .ok grid
  | some count =>
    (Arity.ofCount count).bind fun arity =>
      if arity = grid.arity then .ok grid
      else .error (.cellCount (some arity.cells) grid.arity.cells)

theorem Options.sized_of_admits {options : Options} {grid : Grid} (h : options.Admits grid) :
    options.sized grid = .ok grid := by
  rcases h with hcount | hcount
  · rw [sized, hcount]
  · rw [sized, hcount]
    dsimp only
    rw [Arity.ofCount_eq_ok_iff.2 rfl]
    exact if_pos rfl

/-- A map of another size is refused for the size, or the size for its own sake. -/
theorem Options.sized_of_not_admits {options : Options} {grid : Grid} (h : ¬options.Admits grid) :
    (∃ count, options.sized grid = .error (.variableCount count)) ∨
      ∃ arity : Arity,
        options.sized grid = .error (.cellCount (some arity.cells) grid.arity.cells) := by
  rw [Admits, not_or] at h
  cases hcount : options.count? with
  | none => exact absurd hcount h.1
  | some count =>
    rcases Arity.ofCount_cases count with ⟨arity, rfl, harity⟩ | hrefused
    · refine .inr ⟨arity, ?_⟩
      have hne : arity ≠ grid.arity := fun heq => h.2 (heq ▸ hcount)
      rw [sized, hcount]
      dsimp only
      rw [harity]
      exact if_neg hne
    · refine .inl ⟨count, ?_⟩
      rw [sized, hcount]
      dsimp only
      rw [hrefused]
      rfl

theorem Options.sized_eq_ok_iff {options : Options} {bits grid : Grid} :
    options.sized bits = .ok grid ↔ bits = grid ∧ options.Admits grid := by
  by_cases h : options.Admits bits
  · rw [sized_of_admits h, Except.ok.injEq]
    constructor
    · rintro rfl
      exact ⟨rfl, h⟩
    · exact And.left
  · constructor
    · intro hsized
      rcases sized_of_not_admits h with ⟨count, hrefused⟩ | ⟨arity, hrefused⟩
      · simp [hrefused] at hsized
      · simp [hrefused] at hsized
    · rintro ⟨rfl, hadmits⟩
      exact absurd hadmits h

theorem Options.sized_ne_cellValue (options : Options) (grid : Grid) (value : String)
    (position : Nat) : options.sized grid ≠ .error (.cellValue value position) := by
  by_cases h : options.Admits grid
  · simp [sized_of_admits h]
  · rcases sized_of_not_admits h with ⟨count, hrefused⟩ | ⟨arity, hrefused⟩
    · simp [hrefused]
    · simp [hrefused]

theorem Options.arity_ne_cellValue (options : Options) (value : String) (position : Nat) :
    options.arity ≠ .error (.cellValue value position) := by
  rw [Options.arity]
  rcases Arity.ofCount_cases (options.count?.getD 3) with ⟨arity, -, harity⟩ | hrefused
  · simp [harity]
  · simp [hrefused]

/-! ## One step after the other -/

theorem bind_eq_ok_iff {α β : Type} {first : Except Fault α} {next : α → Except Fault β} {b : β} :
    first.bind next = .ok b ↔ ∃ a, first = .ok a ∧ next a = .ok b := by
  cases first <;> simp [Except.bind]

/-- A fault that no step ends with is not the fault of all of them. -/
theorem bind_ne_error {α β : Type} {first : Except Fault α} {next : α → Except Fault β}
    {fault : Fault} (hfirst : first ≠ .error fault) (hnext : ∀ a, next a ≠ .error fault) :
    first.bind next ≠ .error fault := by
  cases first with
  | ok a => exact hnext a
  | error other =>
    intro h
    exact hfirst (congrArg Except.error (Except.error.inj h))

theorem mapError_eq_ok_iff {α ε : Type} {first : Except ε α} {f : ε → Fault} {a : α} :
    first.mapError f = .ok a ↔ first = .ok a := by
  cases first with
  | ok other =>
    show (.ok other : Except Fault α) = .ok a ↔ _
    rw [Except.ok.injEq, Except.ok.injEq]
  | error fault =>
    show (.error (f fault) : Except Fault α) = .ok a ↔ _
    simp

theorem mapError_ne_error {α ε : Type} {first : Except ε α} {f : ε → Fault} {fault : Fault}
    (h : ∀ e, f e ≠ fault) : first.mapError f ≠ .error fault := by
  intro hfirst
  cases first with
  | ok a => cases hfirst
  | error e => exact h e (Except.error.inj hfirst)

/-! ## Either of them -/

theorem readMap_of_all_isAllowed {text : String} (h : text.toList.all isAllowed = true)
    (options : Options) : readMap options text = (Grid.ofBits text.toList).bind options.sized := by
  rw [readMap, if_pos h]
  rfl

theorem readMap_of_not_all_isAllowed {text : String} (h : ¬text.toList.all isAllowed = true)
    (options : Options) :
    readMap options text = options.arity.bind fun arity =>
      (Equation.toGrid arity text).mapError .noTerms := by
  rw [readMap, if_neg h]
  rfl

theorem readMap_eq_ok_iff_of_all_isAllowed {options : Options} {text : String}
    (h : text.toList.all isAllowed = true) {grid : Grid} :
    readMap options text = .ok grid ↔
      Grid.ofBits text.toList = .ok grid ∧ options.Admits grid := by
  rw [readMap_of_all_isAllowed h, bind_eq_ok_iff]
  constructor
  · rintro ⟨bits, hbits, hsized⟩
    obtain ⟨rfl, hadmits⟩ := Options.sized_eq_ok_iff.1 hsized
    exact ⟨hbits, hadmits⟩
  · rintro ⟨hbits, hadmits⟩
    exact ⟨grid, hbits, Options.sized_of_admits hadmits⟩

theorem readMap_eq_ok_iff_of_not_all_isAllowed {options : Options} {text : String}
    (h : ¬text.toList.all isAllowed = true) {grid : Grid} :
    readMap options text = .ok grid ↔
      ∃ arity, options.arity = .ok arity ∧ Equation.toGrid arity text = .ok grid := by
  rw [readMap_of_not_all_isAllowed h, bind_eq_ok_iff]
  simp only [mapError_eq_ok_iff]

/-- No way of reading a map refuses a text for a character in it. -/
theorem readMap_ne_cellValue (options : Options) (text value : String) (position : Nat) :
    readMap options text ≠ .error (.cellValue value position) := by
  by_cases h : text.toList.all isAllowed = true
  · rw [readMap_of_all_isAllowed h]
    refine bind_ne_error ?_ fun grid => options.sized_ne_cellValue grid value position
    rcases BitString.ofBits_of_all_isAllowed h with ⟨grid, hbits⟩ | hbits
    · simp [hbits]
    · simp [hbits]
  · rw [readMap_of_not_all_isAllowed h]
    refine bind_ne_error (options.arity_ne_cellValue value position) fun arity => ?_
    exact mapError_ne_error fun refusal => by simp

/-- **The two readers of maps never compete.** Whatever the text and whatever size is asked for, if
    any: the text is read as a map exactly when it reads as a bit string and no other size is asked
    for, or when the size asked for, three variables where none is, is one that there is and the text
    reads as an equation of that size. No text reads as both, at any size. A text that is no map is
    never refused for a character that is no digit of a cell. -/
theorem readMap_iff_either_reader (options : Options) (text : String) :
    (∀ grid, readMap options text = .ok grid ↔
      (Grid.ofBits text.toList = .ok grid ∧
        (options.count? = none ∨ options.count? = some grid.arity.count)) ∨
      ∃ arity, Arity.ofCount (options.count?.getD 3) = .ok arity ∧
        Equation.toGrid arity text = .ok grid) ∧
    (∀ bits arity grid, Grid.ofBits text.toList = .ok bits → Equation.toGrid arity text ≠ .ok grid) ∧
    ∀ value position, readMap options text ≠ .error (.cellValue value position) := by
  refine ⟨fun grid => ?_, ?_, readMap_ne_cellValue options text⟩
  · by_cases h : text.toList.all isAllowed = true
    · -- Such a text is no equation.
      rw [readMap_eq_ok_iff_of_all_isAllowed h]
      refine (or_iff_left ?_).symm
      rintro ⟨arity, -, hread⟩
      exact Equation.not_all_isAllowed_of_toGrid hread h
    · -- Any other text is no bit string.
      rw [readMap_eq_ok_iff_of_not_all_isAllowed h]
      refine (or_iff_right ?_).symm
      rintro ⟨hread, -⟩
      exact h (BitString.all_isAllowed_of_ofBits hread)
  · intro bits arity grid hbits hread
    exact Equation.not_all_isAllowed_of_toGrid hread (BitString.all_isAllowed_of_ofBits hbits)

end CommandLine

end Karnaugh
