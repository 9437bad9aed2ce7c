import Karnaugh.Text.CharRanges

set_option autoImplicit false

/-! # Blank characters

The characters with the property White_Space, and the two things done with them: dropping them from
the ends of a text (`trim`) and dropping them everywhere (`squeeze`). Information separators, the
zero-width space and the byte order mark are not blank. Dropping blanks in front does not change what
is left when all are dropped (`squeeze_trimStart`), nor which character comes first then
(`head?_squeeze`). -/

namespace Karnaugh.Text

/-- The ranges of White_Space. -/
def blanks : CharRanges :=
  [(0x9, 0xd), (0x20, 0x20), (0x85, 0x85), (0xa0, 0xa0), (0x1680, 0x1680), (0x2000, 0x200a),
   (0x2028, 0x2029), (0x202f, 0x202f), (0x205f, 0x205f), (0x3000, 0x3000)]

/-- A character is blank when it has the property White_Space. -/
def isBlank (c : Char) : Bool :=
  blanks.contains c

/-! ## Dropping blanks -/

/-- The text without the blanks in front of it. -/
def trimStart (text : List Char) : List Char :=
  text.dropWhile isBlank

/-- The text without the blanks behind it. -/
def trimEnd (text : List Char) : List Char :=
  (text.reverse.dropWhile isBlank).reverse

/-- The text without the blanks at its two ends. -/
def trim (text : List Char) : List Char :=
  trimEnd (trimStart text)

/-- The text without any blank. -/
def squeeze (text : List Char) : List Char :=
  text.filter fun c => !isBlank c

@[simp]
theorem squeeze_append (s t : List Char) : squeeze (s ++ t) = squeeze s ++ squeeze t :=
  List.filter_append ..

theorem mem_squeeze {c : Char} {text : List Char} :
    c ∈ squeeze text ↔ c ∈ text ∧ isBlank c = false := by
  simp [squeeze]

@[simp]
theorem squeeze_trimStart (text : List Char) : squeeze (trimStart text) = squeeze text := by
  induction text with
  | nil => rfl
  | cons c rest ih =>
    by_cases hc : isBlank c = true
    · simpa [squeeze, trimStart, List.dropWhile_cons, hc] using ih
    · simp [trimStart, hc]

/-- The first character that is no blank. -/
theorem head?_squeeze (text : List Char) : (squeeze text).head? = (trimStart text).head? := by
  induction text with
  | nil => rfl
  | cons c rest ih =>
    by_cases hc : isBlank c = true
    · simpa [squeeze, trimStart, List.dropWhile_cons, hc] using ih
    · simp [squeeze, trimStart, hc]

end Karnaugh.Text
