import Karnaugh.BitString

set_option autoImplicit false

/-! # Bit strings and their maps

Reading a bit string is the inverse of writing one, apart from the separators: a text stands for a map
exactly when what remains of it without them is the map's bit string. Everything comes from one split
(`exists_leading_digits`): the characters that remain are the digits of some cells, up to the end or up
to a first character that is no digit. In the first case the cells are read (`cells_map_digit`), in the
second that character is refused with its position (`cells_map_digit_append`). Together with the count
of the characters, which is checked before, this gives the three outcomes of reading (`ofBits_cases`).
The numbers of the cells may be checked once more when the map is built from them: that refuses
nothing (`ofValues_map_toNat`). -/

namespace Karnaugh

namespace BitString

/-! ## Digits -/

theorem exists_digit_iff {c : Char} : (∃ value, c = digit value) ↔ c = '0' ∨ c = '1' := by
  simp [digit]

/-- Characters are the digits of some cells, up to the end or up to a first one that is none. -/
theorem exists_leading_digits (chars : List Char) :
    ∃ values : List Bool, chars = values.map digit ∨
      ∃ c after, chars = values.map digit ++ c :: after ∧ c ≠ '0' ∧ c ≠ '1' := by
  induction chars with
  | nil => exact ⟨[], .inl rfl⟩
  | cons c rest ih =>
    by_cases hc : c = '0' ∨ c = '1'
    · obtain ⟨value, rfl⟩ := exists_digit_iff.2 hc
      obtain ⟨values, hrest⟩ := ih
      refine ⟨value :: values, ?_⟩
      rcases hrest with rfl | ⟨d, after, rfl, hd⟩
      · exact .inl rfl
      · exact .inr ⟨d, after, rfl, hd⟩
    · rw [not_or] at hc
      exact ⟨[], .inr ⟨c, rest, rfl, hc⟩⟩

theorem cell_of_ne {c : Char} (h0 : c ≠ '0') (h1 : c ≠ '1') (position : Nat) :
    cell c position = .error (.cellValue (String.singleton c) position) := by
  rw [cell, if_neg h0, if_neg h1]

/-- The first character that is no digit is refused with its position. -/
theorem cells_map_digit_append (values : List Bool) {c : Char} (h0 : c ≠ '0') (h1 : c ≠ '1')
    (after : List Char) (position : Nat) :
    cells position (values.map digit ++ c :: after) =
      .error (.cellValue (String.singleton c) (position + values.length)) := by
  induction values generalizing position with
  | nil =>
    rw [List.map_nil, List.nil_append, cells, cell_of_ne h0 h1]
    rfl
  | cons value values ih =>
    have hrest := ih (position + 1)
    rw [List.map_cons, List.cons_append, cells, cell_digit, hrest, List.length_cons,
      Nat.add_assoc position 1, Nat.add_comm 1]
    rfl

end BitString

theorem Arity.ofCells_of_ne {n : Nat} (h4 : n ≠ 4) (h8 : n ≠ 8) :
    Arity.ofCells n = .error (.cellCount none n) := by
  unfold Arity.ofCells
  split
  · exact absurd rfl h4
  · exact absurd rfl h8
  · rfl

namespace Grid

open BitString (strip digit cells)

/-! ## The second check -/

/-- The numbers of cells pass the check of their values. -/
theorem cellsOfValues_map_toNat (values : List Bool) (position : Nat) :
    cellsOfValues position (values.map Bool.toNat) = .ok values := by
  induction values generalizing position with
  | nil => rfl
  | cons value values ih =>
    rw [List.map_cons, cellsOfValues, ih]
    cases value <;> rfl

/-- Building a map from the numbers of cells checks their count and nothing else. -/
theorem ofValues_map_toNat (arity : Arity) (values : List Bool) :
    ofValues arity (values.map Bool.toNat) = ofCells arity values := by
  rw [ofValues, List.length_map, cellsOfValues_map_toNat]
  split
  · rfl
  · next hlength => rw [ofCells, dif_neg hlength]

/-! ## What a text is read as -/

/-- Only what remains without separators is read. -/
theorem ofBits_of_strip_eq {text other : List Char} (h : strip text = strip other) :
    ofBits text = ofBits other := by
  rw [ofBits, ofBits, h]

theorem ofBits_of_strip_eq_bitChars {text : List Char} {grid : Grid}
    (h : strip text = grid.bitChars) : ofBits text = .ok grid := by
  rw [← ofBits_bitChars grid]
  refine ofBits_of_strip_eq ?_
  rw [h, bitChars, BitString.strip_map_digit]

theorem ofBits_of_length_ne {text : List Char} (h4 : (strip text).length ≠ 4)
    (h8 : (strip text).length ≠ 8) :
    ofBits text = .error (.cellCount none (strip text).length) := by
  rw [ofBits, Arity.ofCells_of_ne h4 h8]
  rfl

theorem ofBits_of_not_digit {text : List Char} (hlength : (strip text).length = 4 ∨
    (strip text).length = 8) {values : List Bool} {c : Char} {after : List Char}
    (hstrip : strip text = values.map digit ++ c :: after) (h0 : c ≠ '0') (h1 : c ≠ '1') :
    ofBits text = .error (.cellValue (String.singleton c) values.length) := by
  have hcells : cells 0 (strip text) = .error (.cellValue (String.singleton c) values.length) := by
    rw [hstrip, BitString.cells_map_digit_append values h0 h1, Nat.zero_add]
  rw [ofBits, hcells]
  rcases hlength with hlength | hlength
  · rw [hlength]
    rfl
  · rw [hlength]
    rfl

/-- A text is read as a map, or refused for the number of its characters, or for the first of them
    that is no digit. -/
theorem ofBits_cases (text : List Char) :
    (∃ grid : Grid, strip text = grid.bitChars ∧ ofBits text = .ok grid) ∨
    ((strip text).length ≠ 4 ∧ (strip text).length ≠ 8 ∧
      ofBits text = .error (.cellCount none (strip text).length)) ∨
    ((strip text).length = 4 ∨ (strip text).length = 8) ∧
      ∃ (values : List Bool) (c : Char) (after : List Char),
        strip text = values.map digit ++ c :: after ∧ c ≠ '0' ∧ c ≠ '1' ∧
        ofBits text = .error (.cellValue (String.singleton c) values.length) := by
  by_cases hlength : (strip text).length = 4 ∨ (strip text).length = 8
  · obtain ⟨values, hstrip | ⟨c, after, hstrip, h0, h1⟩⟩ :=
      BitString.exists_leading_digits (strip text)
    · obtain ⟨arity, harity⟩ : ∃ arity : Arity, values.length = arity.cells := by
        rw [hstrip, List.length_map] at hlength
        rcases hlength with hlength | hlength
        · exact ⟨.two, hlength⟩
        · exact ⟨.three, hlength⟩
      have hgrid : strip text = Grid.bitChars ⟨arity, values, harity⟩ := hstrip
      exact .inl ⟨_, hgrid, ofBits_of_strip_eq_bitChars hgrid⟩
    · have hrefused := ofBits_of_not_digit hlength hstrip h0 h1
      exact .inr (.inr ⟨hlength, values, c, after, hstrip, h0, h1, hrefused⟩)
  · rw [not_or] at hlength
    exact .inr (.inl ⟨hlength.1, hlength.2, ofBits_of_length_ne hlength.1 hlength.2⟩)

theorem ofBits_eq_ok_iff {text : List Char} {grid : Grid} :
    ofBits text = .ok grid ↔ strip text = grid.bitChars := by
  constructor
  · intro h
    rcases ofBits_cases text with ⟨other, hstrip, hread⟩ | ⟨-, -, hread⟩ |
      ⟨-, values, c, after, -, -, -, hread⟩
    · obtain rfl : other = grid := Except.ok.inj (hread.symm.trans h)
      exact hstrip
    · simp [hread] at h
    · simp [hread] at h
  · exact ofBits_of_strip_eq_bitChars

/-- **Reading a bit string is the exact inverse of writing one.** Whatever the text, let `rest` be its
    characters without blanks, underscores and commas. The text is read as a map exactly when `rest` is
    the bit string of that map. When it is that of no map, the text is refused for the number of the
    characters in `rest` if that is neither 4 nor 8, and otherwise for the first of them that is neither
    0 nor 1, with its place in `rest`. Building the map from the numbers of its cells, which checks
    their count and their values once more, answers the same. -/
theorem ofBits_inverts_bits (text : String) :
    let rest := text.toList.filter fun c => !Text.isBlank c && c != '_' && c != ','
    (∀ grid : Grid, ofBits text.toList = .ok grid ↔ String.ofList rest = grid.bits) ∧
    ((∀ grid : Grid, String.ofList rest ≠ grid.bits) →
      (rest.length ≠ 4 ∧ rest.length ≠ 8 →
        ofBits text.toList = .error (.cellCount none rest.length)) ∧
      (rest.length = 4 ∨ rest.length = 8 →
        ∃ before c after, rest = before ++ c :: after ∧ (∀ b ∈ before, b = '0' ∨ b = '1') ∧
          c ≠ '0' ∧ c ≠ '1' ∧
          ofBits text.toList = .error (.cellValue (String.singleton c) before.length))) ∧
    ofBits text.toList = (do
      let arity ← Arity.ofCells rest.length
      let values ← cells 0 rest
      ofValues arity (values.map Bool.toNat)) := by
  intro rest
  have hrest : strip text.toList = rest := by
    refine List.filter_congr fun c _ => ?_
    simp [BitString.isSeparator, bne, Bool.and_assoc]
  have hiff : ∀ grid : Grid, ofBits text.toList = .ok grid ↔ String.ofList rest = grid.bits := by
    intro grid
    rw [ofBits_eq_ok_iff, hrest, bits, String.ofList_inj]
  refine ⟨hiff, ?_, ?_⟩
  · intro hnone
    rcases ofBits_cases text.toList with ⟨grid, -, hread⟩ | ⟨h4, h8, hread⟩ |
      ⟨hlength, values, c, after, hstrip, h0, h1, hread⟩
    · exact absurd ((hiff grid).1 hread) (hnone grid)
    · rw [hrest] at h4 h8 hread
      exact ⟨fun _ => hread, fun hlength => absurd hlength (not_or.2 ⟨h4, h8⟩)⟩
    · rw [hrest] at hlength hstrip
      refine ⟨fun hne => absurd hlength (not_or.2 hne), fun _ => ?_⟩
      refine ⟨values.map digit, c, after, hstrip, ?_, h0, h1, ?_⟩
      · intro b hb
        obtain ⟨value, -, rfl⟩ := List.mem_map.1 hb
        exact BitString.exists_digit_iff.1 ⟨value, rfl⟩
      · rw [hread, List.length_map]
  · simp only [ofValues_map_toNat]
    rw [← hrest]
    rfl

end Grid

end Karnaugh
