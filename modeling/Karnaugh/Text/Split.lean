set_option autoImplicit false

/-! # Cutting a text at a character

A text is cut at every occurrence of a character by `List.splitOn`, and at the first one by `cutAt?`.
Beside what the standard library says of the former, `not_mem_of_mem_splitOn` says that no piece holds
the separator and `mem_of_mem_splitOn` that a piece holds nothing new; `cutAt?_eq_some_iff` says where
the single cut falls. -/

namespace Karnaugh.Text

/-! ## Every occurrence -/

/-- No piece holds the separator. -/
theorem not_mem_of_mem_splitOn {sep : Char} {text piece : List Char}
    (h : piece ∈ text.splitOn sep) : sep ∉ piece := by
  induction text generalizing piece with
  | nil =>
    cases List.mem_singleton.1 h
    exact List.not_mem_nil
  | cons c rest ih =>
    rw [List.splitOn_cons_eq_if_modifyHead] at h
    split at h
    · rcases List.mem_cons.1 h with rfl | h
      · exact List.not_mem_nil
      · exact ih h
    · next hc =>
      -- The character goes to the first piece, which exists.
      obtain ⟨first, more, hrest⟩ := List.exists_cons_of_ne_nil (List.splitOn_ne_nil sep rest)
      rw [hrest] at h ih
      rcases List.mem_cons.1 h with rfl | h
      · intro hmem
        rcases List.mem_cons.1 hmem with rfl | hmem
        · exact hc (beq_self_eq_true sep)
        · exact ih List.mem_cons_self hmem
      · exact ih (List.mem_cons_of_mem _ h)

/-- The pieces hold nothing but characters of the text. -/
theorem mem_of_mem_splitOn {sep c : Char} {text piece : List Char} (hc : c ∈ piece)
    (h : piece ∈ text.splitOn sep) : c ∈ text := by
  have hjoin : ((text.splitOn sep).intersperse [sep]).flatten = text := List.intercalate_splitOn sep
  obtain ⟨i, hi⟩ := List.mem_iff_getElem?.1 h
  have hpiece : piece ∈ (text.splitOn sep).intersperse [sep] :=
    List.mem_of_getElem? (List.getElem?_intersperse_two_mul.trans hi)
  rw [← hjoin]
  exact (List.infix_of_mem_flatten hpiece).subset hc

/-! ## The first occurrence -/

/-- What stands before and after the first `sep`, `none` when there is none. -/
def cutAt? (sep : Char) : List Char → Option (List Char × List Char)
  | [] => none
  | c :: rest =>
    if c = sep then some ([], rest)
    else (cutAt? sep rest).map fun (before, after) => (c :: before, after)

theorem cutAt?_eq_some_iff {sep : Char} {text before after : List Char} :
    cutAt? sep text = some (before, after) ↔ text = before ++ sep :: after ∧ sep ∉ before := by
  induction text generalizing before with
  | nil => simp [cutAt?]
  | cons c rest ih =>
    rw [cutAt?]
    split
    · next hc =>
      subst hc
      cases before <;> simp_all [eq_comm]
    · next hc =>
      cases before with
      | nil => simp [hc]
      | cons b before =>
        simp only [Option.map_eq_some_iff, Prod.exists, Prod.mk.injEq, List.cons.injEq,
          List.cons_append, List.mem_cons, not_or]
        constructor
        · rintro ⟨x, y, hxy, ⟨rfl, rfl⟩, rfl⟩
          obtain ⟨rfl, hx⟩ := ih.1 hxy
          exact ⟨⟨rfl, rfl⟩, Ne.symm hc, hx⟩
        · rintro ⟨⟨rfl, rfl⟩, _, hb⟩
          exact ⟨before, after, ih.2 ⟨rfl, hb⟩, ⟨rfl, rfl⟩, rfl⟩

end Karnaugh.Text
