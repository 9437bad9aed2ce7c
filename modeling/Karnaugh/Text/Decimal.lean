set_option autoImplicit false

/-! # Decimal numbers

Counters and positions are written in decimal without leading zeros (`Decimal.write`) and read back
more freely (`Decimal.read?`): a plus sign may stand in front, leading zeros do no harm, and a number
beyond 64 bits is no number. `read?_write` says that every number of 64 bits reads back, and
`lt_bound_of_read?` that nothing else is read. -/

namespace Karnaugh.Text.Decimal

/-- One more than the largest number of 64 bits. -/
def bound : Nat := 18446744073709551616

/-- A number in decimal. -/
def write (n : Nat) : String :=
  n.repr

/-- The number that unsigned digits name: at least one digit, nothing else, below `bound`. Digits are
    the ASCII ones; those of other scripts do not count. -/
def readDigits? (ds : List Char) : Option Nat :=
  let value := Nat.ofDigitChars 10 ds 0
  if ds ≠ [] ∧ ds.all Char.isDigit = true ∧ value < bound then some value else none

/-- The number that a text names: digits with at most one plus sign in front. -/
def read? : List Char → Option Nat
  | '+' :: ds => readDigits? ds
  | ds => readDigits? ds

/-- A number set to the right in a field of a given width. -/
def pad (width n : Nat) : String :=
  String.ofList ((Nat.toDigits 10 n).leftpad width ' ')

theorem isDigit_of_mem_write {c : Char} {n : Nat} (h : c ∈ (write n).toList) : c.isDigit = true := by
  rw [write, Nat.toList_repr] at h
  exact Nat.isDigit_of_mem_toDigits (by decide) (by decide) h

theorem lt_bound_of_read? {text : List Char} {n : Nat} (h : read? text = some n) : n < bound := by
  have aux : ∀ ds, readDigits? ds = some n → n < bound := by
    intro ds hds
    simp only [readDigits?] at hds
    split at hds
    · next hb =>
      cases hds
      exact hb.2.2
    · cases hds
  unfold read? at h
  split at h <;> exact aux _ h

theorem readDigits?_write {n : Nat} (h : n < bound) : readDigits? (write n).toList = some n := by
  have hdigits : (write n).toList.all Char.isDigit = true :=
    List.all_eq_true.2 fun c hc => isDigit_of_mem_write hc
  have hne : (write n).toList ≠ [] := by
    rw [write, Nat.toList_repr]
    exact Nat.toDigits_ne_nil
  have hvalue : Nat.ofDigitChars 10 (write n).toList 0 = n := by
    rw [write, Nat.toList_repr, Nat.ofDigitChars_ten_toDigits]
  simp only [readDigits?, hvalue]
  rw [if_pos ⟨hne, hdigits, h⟩]

/-- Every number of 64 bits reads back. -/
theorem read?_write {n : Nat} (h : n < bound) : read? (write n).toList = some n := by
  unfold read?
  split
  · next ds heq =>
    have hplus : '+'.isDigit = true := isDigit_of_mem_write (heq ▸ List.mem_cons_self)
    exact absurd hplus (by decide)
  · exact readDigits?_write h

end Karnaugh.Text.Decimal
