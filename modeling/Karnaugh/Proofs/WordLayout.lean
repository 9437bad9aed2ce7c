import Karnaugh.Layout
import Mathlib.Data.Nat.Bitwise
import Mathlib.Logic.Equiv.Defs

set_option autoImplicit false

/-! # The two numberings on machine words

Positions and minterms are kept in words of 64 bits, and neither is checked against the size of the map.
`Arity.mintermWord?` and `Arity.positionWord?` translate between them by the arithmetic of words: the
row is shifted into place or multiplied out, the column is looked up among the codes. Each operation
gives a word exactly where that word is the number meant (`Word.checked_eq_some_iff`).

It always is, up to the last word. The columns of a map divide the number of words, so a translation
that stays in the row of a word cannot leave the words (`Arity.numbering`), and the words computed are
the numbers of the layout (`mintermWord?_eq`, `positionWord?_eq`). -/

namespace Karnaugh

/-! ## Arithmetic that loses nothing -/

/-- A machine word. -/
abbrev Word := BitVec 64

namespace Word

/-- The result of an operation, where it has lost nothing. -/
def checked (lost : Bool) (result : Word) : Option Word :=
  if lost then none else some result

/-- The sum of two words, where it is a word. -/
def add? (x y : Word) : Option Word :=
  checked (x.uaddOverflow y) (x + y)

/-- The difference of two words, where it is a word. -/
def sub? (x y : Word) : Option Word :=
  checked (x.usubOverflow y) (x - y)

/-- The product of two words, where it is a word. -/
def mul? (x y : Word) : Option Word :=
  checked (x.umulOverflow y) (x * y)

/-- A word shifted up, where no bit is lost. There have to be fewer places than bits. -/
def shiftLeft? (x : Word) (places : Nat) : Option Word :=
  checked (decide (64 ≤ places ∨ 2 ^ 64 ≤ x.toNat <<< places)) (x <<< places)

/-- A word shifted down. There have to be fewer places than bits. -/
def shiftRight? (x : Word) (places : Nat) : Option Word :=
  checked (decide (64 ≤ places)) (x >>> places)

variable {x y z : Word} {places : Nat}

/-- An operation that loses something exactly where its number is no word gives a word exactly where it
    is the number. -/
theorem checked_eq_some_iff {lost : Bool} {result : Word} {n : Nat} (hlost : lost = true → 2 ^ 64 ≤ n)
    (hkept : ¬lost = true → result.toNat = n) : checked lost result = some z ↔ n = z.toNat := by
  rw [checked]
  split
  · next h => exact iff_of_false nofun fun hz => Nat.not_le_of_lt z.isLt (hz ▸ hlost h)
  · next h => rw [Option.some.injEq, ← BitVec.toNat_inj, hkept h]

theorem add?_eq_some_iff : add? x y = some z ↔ x.toNat + y.toNat = z.toNat :=
  checked_eq_some_iff of_decide_eq_true BitVec.toNat_add_of_not_uaddOverflow

/-- There is no word after the last one. -/
example : add? (BitVec.allOnes 64) 1 = none := by decide

theorem mul?_eq_some_iff : mul? x y = some z ↔ x.toNat * y.toNat = z.toNat :=
  checked_eq_some_iff of_decide_eq_true BitVec.toNat_mul_of_not_umulOverflow

theorem shiftLeft?_eq_some_iff (hplaces : places < 64) :
    shiftLeft? x places = some z ↔ x.toNat <<< places = z.toNat := by
  refine checked_eq_some_iff (fun hlost => ?_) fun hkept => ?_
  · exact (of_decide_eq_true hlost).resolve_left (Nat.not_le_of_lt hplaces)
  · rw [decide_eq_true_iff, not_or] at hkept
    rw [BitVec.toNat_shiftLeft, Nat.mod_eq_of_lt (Nat.lt_of_not_le hkept.2)]

theorem shiftRight?_of_lt (hplaces : places < 64) : shiftRight? x places = some (x >>> places) :=
  if_neg (by simpa using hplaces)

end Word

namespace Arity

/-! ## The translations -/

/-- The number of columns as a word: the cells in two rows. -/
def columnsWord? (arity : Arity) : Option Word := do
  let cells ← Word.shiftLeft? 1 arity.count
  return cells / 2

/-- The bits of the column variables as words. -/
def columnWords (arity : Arity) : List Word :=
  arity.columnCodes.map (BitVec.ofNat 64)

/-- The minterm at a position, both as words: the row shifted above the code of the column. -/
def mintermWord? (arity : Arity) (position : Word) : Option Word := do
  let columns ← arity.columnsWord?
  let row := position / columns
  let column := position % columns
  let code ← arity.columnWords[column.toNat]?
  let high ← row.shiftLeft? (arity.count - 1)
  return high ||| code

/-- The word whose ones are the bits of the column variables. -/
def columnMask? (arity : Arity) : Option Word := do
  let row ← Word.shiftLeft? 1 (arity.count - 1)
  row.sub? 1

/-- The column that bears a code. A word that is no code would stand for itself. -/
def columnOf (arity : Arity) (code : Word) : Word :=
  ((arity.columnWords.idxOf? code).map (BitVec.ofNat 64)).getD code

/-- The position of a minterm, both as words: the cells of the rows above it, and the column of its low
    bits. -/
def positionWord? (arity : Arity) (minterm : Word) : Option Word := do
  let columns ← arity.columnsWord?
  let row ← minterm.shiftRight? (arity.count - 1)
  let mask ← arity.columnMask?
  let start ← row.mul? columns
  start.add? (arity.columnOf (minterm &&& mask))

/-! ## The numberings stay among the words -/

theorem columns_eq_two_pow (arity : Arity) : arity.columns = 2 ^ (arity.count - 1) :=
  Nat.one_shiftLeft _

theorem cells_eq_two_pow (arity : Arity) : arity.cells = 2 ^ arity.count :=
  Nat.one_shiftLeft _

theorem columns_dvd_words (arity : Arity) : arity.columns ∣ 2 ^ 64 := by
  cases arity <;> decide

/-- The layout on words: from a position to its minterm, and back. -/
def numbering (arity : Arity) : Word ≃ Word where
  toFun position := BitVec.ofNatLT (arity.mintermAt position.toNat)
    ((mintermAt_lt_iff arity.columns_dvd_words _).2 position.isLt)
  invFun minterm := BitVec.ofNatLT (arity.positionOf minterm.toNat)
    ((positionOf_lt_iff arity.columns_dvd_words _).2 minterm.isLt)
  left_inv position := by
    apply BitVec.eq_of_toNat_eq
    rw [BitVec.toNat_ofNatLT, BitVec.toNat_ofNatLT, positionOf_mintermAt]
  right_inv minterm := by
    apply BitVec.eq_of_toNat_eq
    rw [BitVec.toNat_ofNatLT, BitVec.toNat_ofNatLT, mintermAt_positionOf]

/-- The first word in the row of a word. -/
def rowStart (arity : Arity) (n : Word) : Word :=
  BitVec.ofNatLT (arity.row n.toNat * arity.columns)
    (Nat.lt_of_le_of_lt (Nat.div_mul_le_self n.toNat arity.columns) n.isLt)

variable {arity : Arity}

@[simp]
theorem toNat_numbering (position : Word) :
    (arity.numbering position).toNat = arity.mintermAt position.toNat :=
  BitVec.toNat_ofNatLT ..

@[simp]
theorem toNat_numbering_symm (minterm : Word) :
    (arity.numbering.symm minterm).toNat = arity.positionOf minterm.toNat :=
  BitVec.toNat_ofNatLT ..

@[simp]
theorem toNat_rowStart (n : Word) :
    (arity.rowStart n).toNat = arity.row n.toNat * arity.columns :=
  BitVec.toNat_ofNatLT ..

/-! ## Columns and rows as words -/

theorem count_lt (arity : Arity) : arity.count < 64 := by
  cases arity <;> decide

theorem count_pred_lt (arity : Arity) : arity.count - 1 < 64 :=
  Nat.lt_of_le_of_lt (Nat.sub_le arity.count 1) arity.count_lt

theorem columnsWord?_eq (arity : Arity) :
    arity.columnsWord? = some (BitVec.ofNat 64 arity.columns) := by
  cases arity <;> decide

theorem columnMask?_eq (arity : Arity) :
    arity.columnMask? = some (BitVec.ofNat 64 (arity.columns - 1)) := by
  cases arity <;> decide

theorem toNat_columns (arity : Arity) : (BitVec.ofNat 64 arity.columns).toNat = arity.columns := by
  cases arity <;> decide

theorem toNat_mod_columns (arity : Arity) (position : Word) :
    (position % BitVec.ofNat 64 arity.columns).toNat = arity.column position.toNat := by
  rw [BitVec.toNat_umod, toNat_columns, column]

theorem toNat_and_columnMask (arity : Arity) (minterm : Word) :
    (minterm &&& BitVec.ofNat 64 (arity.columns - 1)).toNat = minterm.toNat % arity.columns := by
  have hmask : (BitVec.ofNat 64 (arity.columns - 1)).toNat = 2 ^ (arity.count - 1) - 1 := by
    cases arity <;> decide
  rw [BitVec.toNat_and, hmask, Nat.and_two_pow_sub_one_eq_mod, columns_eq_two_pow]

theorem getElem?_columnWords {column : Nat} (h : column < arity.columns) :
    ∃ code : Word, arity.columnWords[column]? = some code ∧
      code.toNat = arity.columnCodes.getD column 0 := by
  refine ⟨BitVec.ofNat 64 (arity.columnCodes.getD column 0), ?_⟩
  revert column
  cases arity <;> decide

theorem toNat_columnOf {code : Word} (h : code.toNat < arity.columns) :
    (arity.columnOf code).toNat = arity.columnCodes.idxOf code.toNat := by
  obtain ⟨n, hn, rfl⟩ : ∃ n < arity.columns, BitVec.ofNat 64 n = code :=
    ⟨code.toNat, h, BitVec.ofNat_toNat ..⟩
  clear h
  revert n
  cases arity <;> decide

/-- A row is shifted up to its first word. -/
theorem shiftLeft?_row (arity : Arity) (position : Word) :
    (position / BitVec.ofNat 64 arity.columns).shiftLeft? (arity.count - 1) =
      some (arity.rowStart position) := by
  rw [Word.shiftLeft?_eq_some_iff arity.count_pred_lt, BitVec.toNat_udiv, toNat_columns,
    Nat.shiftLeft_eq, ← columns_eq_two_pow, toNat_rowStart, row]

/-- A row is multiplied out to its first word. -/
theorem mul?_row (arity : Arity) (minterm : Word) :
    Word.mul? (minterm >>> (arity.count - 1)) (BitVec.ofNat 64 arity.columns) =
      some (arity.rowStart minterm) := by
  rw [Word.mul?_eq_some_iff, BitVec.toNat_ushiftRight, Nat.shiftRight_eq_div_pow,
    ← columns_eq_two_pow, toNat_columns, toNat_rowStart, row]

/-! ## The arithmetic of words computes the numberings -/

theorem mintermWord?_eq (arity : Arity) (position : Word) :
    arity.mintermWord? position = some (arity.numbering position) := by
  have hcolumn : arity.column position.toNat < arity.columns := Nat.mod_lt _ arity.columns_pos
  obtain ⟨code, hcode, hcodeNat⟩ := getElem?_columnWords hcolumn
  have hlow : code.toNat < 2 ^ (arity.count - 1) := by
    rw [hcodeNat, ← columns_eq_two_pow]
    exact arity.columnCode_lt hcolumn
  -- The code of the column fills the places that the shift has freed.
  have hword : arity.rowStart position ||| code = arity.numbering position := by
    apply BitVec.eq_of_toNat_eq
    calc (arity.rowStart position ||| code).toNat
        = arity.row position.toNat <<< (arity.count - 1) ||| code.toNat := by
          rw [BitVec.toNat_or, toNat_rowStart, columns_eq_two_pow, Nat.shiftLeft_eq]
      _ = arity.row position.toNat <<< (arity.count - 1) + code.toNat :=
          (Nat.shiftLeft_add_eq_or_of_lt hlow _).symm
      _ = (arity.numbering position).toNat := by
          rw [Nat.shiftLeft_eq, ← columns_eq_two_pow, hcodeNat, toNat_numbering, mintermAt]
  simp only [mintermWord?, columnsWord?_eq, Option.bind_eq_bind, Option.bind_some, toNat_mod_columns,
    hcode, shiftLeft?_row, hword, Option.pure_def]

theorem positionWord?_eq (arity : Arity) (minterm : Word) :
    arity.positionWord? minterm = some (arity.numbering.symm minterm) := by
  have hcode := arity.toNat_and_columnMask minterm
  have hlt : (minterm &&& BitVec.ofNat 64 (arity.columns - 1)).toNat < arity.columns := by
    rw [hcode]
    exact Nat.mod_lt _ arity.columns_pos
  have hsum : (arity.rowStart minterm).add?
      (arity.columnOf (minterm &&& BitVec.ofNat 64 (arity.columns - 1))) =
        some (arity.numbering.symm minterm) := by
    rw [Word.add?_eq_some_iff, toNat_rowStart, toNat_columnOf hlt, hcode, toNat_numbering_symm,
      positionOf, row]
  simp only [positionWord?, columnsWord?_eq, columnMask?_eq, Option.bind_eq_bind, Option.bind_some,
    Word.shiftRight?_of_lt arity.count_pred_lt, mul?_row, hsum]

/-- **The layout is a bijection of the words.** On every word the two numberings undo each other, and
    both stay in its row. Word by word they are computed without losing a bit, in the shifts, the mask,
    the product and the sum, also beyond the map and up to the last word. -/
theorem layout_bijective_on_words (arity : Arity) (n : Word) :
    (arity.positionOf (arity.mintermAt n.toNat) = n.toNat ∧
      arity.mintermAt (arity.positionOf n.toNat) = n.toNat) ∧
    (arity.row (arity.mintermAt n.toNat) = arity.row n.toNat ∧
      arity.row (arity.positionOf n.toNat) = arity.row n.toNat) ∧
    (arity.mintermWord? n = some (arity.numbering n) ∧
      (arity.numbering n).toNat = arity.mintermAt n.toNat) ∧
    arity.positionWord? n = some (arity.numbering.symm n) ∧
      (arity.numbering.symm n).toNat = arity.positionOf n.toNat :=
  ⟨⟨arity.positionOf_mintermAt n.toNat, arity.mintermAt_positionOf n.toNat⟩,
    ⟨arity.row_mintermAt n.toNat, arity.row_positionOf n.toNat⟩,
    ⟨arity.mintermWord?_eq n, toNat_numbering n⟩,
    arity.positionWord?_eq n, toNat_numbering_symm n⟩

end Arity

end Karnaugh
