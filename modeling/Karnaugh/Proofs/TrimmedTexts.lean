import Karnaugh.Text.Blank
import Mathlib.Data.List.DropRight

set_option autoImplicit false

/-! # Trimmed texts

Trimming drops the blanks at the two ends of a text with `List.dropWhile` and `List.rdropWhile`, so
that what is known of these carries over: nothing new comes in (`mem_of_mem_trim`), a text stays as it
is exactly when it neither begins nor ends with a blank (`trim_eq_self_iff`), and trimming twice is
trimming once (`trim_trim`). -/

namespace Karnaugh.Text

theorem trim_eq_rdropWhile (text : List Char) :
    trim text = (text.dropWhile isBlank).rdropWhile isBlank := rfl

theorem trim_isPrefix (text : List Char) : trim text <+: text.dropWhile isBlank :=
  List.rdropWhile_prefix isBlank _

theorem mem_of_mem_trim {c : Char} {text : List Char} (h : c ∈ trim text) : c ∈ text :=
  (List.dropWhile_sublist isBlank).subset ((trim_isPrefix text).subset h)

/-- A text is trimmed when nothing is dropped at either end. -/
theorem trim_eq_self_iff_dropWhile {text : List Char} :
    trim text = text ↔ text.dropWhile isBlank = text ∧ text.rdropWhile isBlank = text := by
  constructor
  · intro h
    have hlen := (trim_isPrefix text).length_le
    rw [h] at hlen
    have hstart : text.dropWhile isBlank = text :=
      (List.dropWhile_sublist isBlank).eq_of_length_le hlen
    exact ⟨hstart, by rwa [trim_eq_rdropWhile, hstart] at h⟩
  · rintro ⟨hstart, hend⟩
    rw [trim_eq_rdropWhile, hstart, hend]

/-- Trimming keeps a text exactly when it neither begins nor ends with a blank. -/
theorem trim_eq_self_iff {text : List Char} :
    trim text = text ↔ (∀ c, text.head? = some c → isBlank c = false) ∧
      ∀ c, text.getLast? = some c → isBlank c = false := by
  rw [trim_eq_self_iff_dropWhile, List.dropWhile_eq_self_iff, List.rdropWhile_eq_self_iff]
  cases text with
  | nil => simp
  | cons c rest => simp [List.getLast?_eq_some_getLast]

@[simp]
theorem trim_trim (text : List Char) : trim (trim text) = trim text := by
  rw [trim_eq_self_iff_dropWhile]
  constructor
  · rw [List.dropWhile_eq_self_iff]
    intro hne
    -- What is left after trimming the end begins as it did before.
    rw [(trim_isPrefix text).getElem hne]
    exact List.dropWhile_get_zero_not isBlank text _
  · exact List.rdropWhile_idempotent isBlank _

theorem trim_of_no_blank {text : List Char} (h : ∀ c ∈ text, isBlank c = false) :
    trim text = text :=
  trim_eq_self_iff.2 ⟨fun c hc => h c (List.mem_of_head? hc), fun c hc => h c (List.mem_of_getLast? hc)⟩

end Karnaugh.Text
