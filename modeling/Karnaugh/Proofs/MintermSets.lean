import Karnaugh.Grid

set_option autoImplicit false

/-! # A map made from numbers is a set of numbers

Maps are filled number by number, from minterms or from positions, and a number outside the map ends it.
`Marks` says what one step does for a minterm, whichever way it is given: it writes the cell of the
minterm, or refuses it. From there one induction gives the whole list (`Marks.foldlM_eq`): the first
minterm beyond the map is refused, and without one the map has a 1 in the cells of the minterms given.
So both ways of filling make the same map on the same lists, and reading its minterms gives back the set
of the numbers (`ofMinterms_set_semantics`). -/

namespace Karnaugh

namespace Grid

/-! ## One number after the other -/

/-- What a step of filling does for a minterm, on a map of the given size: it writes a 1 into the cell of
    the minterm, or refuses a minterm beyond the map. -/
structure Marks (arity : Arity) (step : Grid → Nat → Except Fault Grid) (refusal : Nat → Fault) :
    Prop where
  inside : ∀ rule minterm, minterm < arity.cells →
    step (ofFn arity rule) minterm = .ok (ofFn arity fun p => rule p || arity.mintermAt p == minterm)
  beyond : ∀ rule minterm, arity.cells ≤ minterm →
    step (ofFn arity rule) minterm = .error (refusal minterm)

namespace Marks

variable {arity : Arity} {step : Grid → Nat → Except Fault Grid} {refusal : Nat → Fault}

/-- Filling a map ends at the first number beyond it, or marks the cells of all numbers. -/
theorem foldlM_eq (h : Marks arity step refusal) (numbers : List Nat) (rule : Nat → Bool) :
    numbers.foldlM step (ofFn arity rule) =
      match numbers.find? fun m => decide (arity.cells ≤ m) with
      | some m => .error (refusal m)
      | none => .ok (ofFn arity fun p => rule p || numbers.contains (arity.mintermAt p)) := by
  induction numbers generalizing rule with
  | nil => simp [pure, Except.pure]
  | cons m rest ih =>
    rw [List.foldlM_cons]
    by_cases hm : arity.cells ≤ m
    · have hfirst : (m :: rest).find? (fun k => decide (arity.cells ≤ k)) = some m :=
        List.find?_cons_of_pos (decide_eq_true hm)
      rw [h.beyond rule m hm, hfirst]
      rfl
    · have hlater : (m :: rest).find? (fun k => decide (arity.cells ≤ k)) =
          rest.find? fun k => decide (arity.cells ≤ k) :=
        List.find?_cons_of_neg (by simpa using hm)
      rw [h.inside rule m (Nat.lt_of_not_le hm), hlater]
      refine (ih _).trans ?_
      simp only [List.contains_cons, Bool.or_assoc]

end Marks

/-- Writing a 1 at the position of a minterm marks it. -/
theorem set_positionOf (arity : Arity) (rule : Nat → Bool) {minterm : Nat}
    (h : minterm < arity.cells) :
    (ofFn arity rule).set (arity.positionOf minterm) true =
      .ok (ofFn arity fun p => rule p || arity.mintermAt p == minterm) := by
  rw [set_ofFn arity rule ((arity.positionOf_lt_cells_iff minterm).2 h)]
  have hrule : (fun p => if p = arity.positionOf minterm then true else rule p) =
      fun p => rule p || arity.mintermAt p == minterm := by
    funext p
    by_cases hp : p = arity.positionOf minterm
    · simp [hp]
    · have hne : arity.mintermAt p ≠ minterm := fun heq => hp (Arity.mintermAt_eq_iff.1 heq)
      simp [hp, hne]
  rw [hrule]

theorem marks_setMinterm (arity : Arity) :
    Marks arity setMinterm fun m => .outOfRange m arity.cells where
  inside rule _ hm := (if_pos hm).trans (set_positionOf arity rule hm)
  beyond _ _ hm := if_neg (Nat.not_lt_of_le hm)

theorem marks_set_positionOf (arity : Arity) :
    Marks arity (fun grid m => grid.set (arity.positionOf m) true)
      fun m => .outOfRange (arity.positionOf m) arity.cells where
  inside rule _ hm := set_positionOf arity rule hm
  beyond _ m hm := if_neg fun hlt => Nat.not_lt_of_le hm ((arity.positionOf_lt_cells_iff m).1 hlt)

/-! ## Lists of numbers -/

/-- The map that has a 1 in the cells of the given minterms. -/
def marked (arity : Arity) (minterms : List Nat) : Grid :=
  ofFn arity fun p => minterms.contains (arity.mintermAt p)

theorem ofMinterms_eq (arity : Arity) (numbers : List Nat) :
    ofMinterms arity numbers =
      match numbers.find? fun m => decide (arity.cells ≤ m) with
      | some m => .error (.outOfRange m arity.cells)
      | none => .ok (marked arity numbers) :=
  (marks_setMinterm arity).foldlM_eq numbers fun _ => false

theorem ofPositions_map_positionOf (arity : Arity) (numbers : List Nat) :
    ofPositions arity (numbers.map arity.positionOf) =
      match numbers.find? fun m => decide (arity.cells ≤ m) with
      | some m => .error (.outOfRange (arity.positionOf m) arity.cells)
      | none => .ok (marked arity numbers) := by
  rw [ofPositions, List.foldlM_map]
  exact (marks_set_positionOf arity).foldlM_eq numbers fun _ => false

/-! ## Reading a map back -/

theorem minterm?_marked (arity : Arity) (minterms : List Nat) (m : Nat) :
    (marked arity minterms).minterm? m =
      if m < arity.cells then some (decide (m ∈ minterms)) else none := by
  show (if m < arity.cells then (marked arity minterms).get? (arity.positionOf m) else none) = _
  by_cases hm : m < arity.cells
  · simp [marked, get?_ofFn, hm]
  · simp [hm]

theorem mem_minterms_marked {arity : Arity} {minterms : List Nat}
    (h : ∀ m ∈ minterms, m < arity.cells) (m : Nat) :
    m ∈ (marked arity minterms).minterms ↔ m ∈ minterms := by
  rw [mem_minterms, marked, isSet_ofFn, arity_ofFn, Arity.mintermAt_positionOf]
  simpa using h m

/-- The minterms of a map are those at the positions that hold a 1. -/
theorem map_positions_perm_minterms (grid : Grid) :
    (grid.positions.map grid.arity.mintermAt).Perm grid.minterms := by
  have hpositions : grid.positions.Nodup := List.nodup_range.filter _
  have hmap : (grid.positions.map grid.arity.mintermAt).Nodup := by
    refine List.pairwise_map.2 (hpositions.imp fun {p q} hne heq => hne ?_)
    rw [Arity.mintermAt_eq_iff.1 heq, Arity.positionOf_mintermAt]
  have hminterms : grid.minterms.Nodup := List.nodup_range.filter _
  refine (List.perm_ext_iff_of_nodup hmap hminterms).2 fun m => ?_
  simp only [List.mem_map, mem_positions, mem_minterms, Arity.mintermAt_eq_iff]
  constructor
  · rintro ⟨p, hset, rfl⟩
    exact hset
  · intro hset
    exact ⟨_, hset, rfl⟩

/-- **A map made from numbers is the set of the numbers.** A list of minterms, of any length and in any
    order, makes a map exactly when each of them lies on the map, and so does the list of their
    positions. The map is then the same. Its minterms, read off the positions that hold a 1, are the
    distinct numbers of the list in ascending order, and a minterm of the map has a 1 exactly when it
    is in the list. Otherwise the first number beyond the map is refused. -/
theorem ofMinterms_set_semantics (arity : Arity) (numbers : List Nat) :
    ((∃ grid, ofMinterms arity numbers = .ok grid) ↔ ∀ m ∈ numbers, m < arity.cells) ∧
    ((∃ grid, ofPositions arity (numbers.map arity.positionOf) = .ok grid) ↔
      ∀ m ∈ numbers, m < arity.cells) ∧
    (∀ grid, ofMinterms arity numbers = .ok grid →
      grid.arity = arity ∧
        (grid.positions.map arity.mintermAt).Perm grid.minterms ∧
        grid.minterms.Pairwise (· < ·) ∧
        (∀ m, m ∈ grid.minterms ↔ m ∈ numbers) ∧
        (∀ m, grid.minterm? m = if m < arity.cells then some (decide (m ∈ numbers)) else none) ∧
        ofPositions arity (numbers.map arity.positionOf) = .ok grid) ∧
    ∀ fault, ofMinterms arity numbers = .error fault →
      ∃ before m after, numbers = before ++ m :: after ∧ (∀ k ∈ before, k < arity.cells) ∧
        arity.cells ≤ m ∧ fault = .outOfRange m arity.cells := by
  have hminterms := ofMinterms_eq arity numbers
  have hpositions := ofPositions_map_positionOf arity numbers
  cases hfind : numbers.find? fun m => decide (arity.cells ≤ m) with
  | none =>
    rw [hfind] at hminterms hpositions
    have hall : ∀ m ∈ numbers, m < arity.cells := by
      simpa [List.find?_eq_none] using hfind
    refine ⟨iff_of_true ⟨_, hminterms⟩ hall, iff_of_true ⟨_, hpositions⟩ hall, ?_, ?_⟩
    · intro grid hgrid
      obtain rfl := Except.ok.inj (hminterms.symm.trans hgrid)
      exact ⟨rfl, map_positions_perm_minterms (marked arity numbers), pairwise_minterms _,
        mem_minterms_marked hall, minterm?_marked arity numbers, hpositions⟩
    · intro fault hfault
      cases hminterms.symm.trans hfault
  | some m =>
    rw [hfind] at hminterms hpositions
    obtain ⟨hm, before, after, hnumbers, hbefore⟩ := List.find?_eq_some_iff_append.1 hfind
    have hm : arity.cells ≤ m := of_decide_eq_true hm
    have hbefore : ∀ k ∈ before, k < arity.cells := by simpa using hbefore
    have hnot : ¬∀ k ∈ numbers, k < arity.cells := by
      intro hall
      exact Nat.not_le_of_lt (hall m (List.mem_of_find?_eq_some hfind)) hm
    refine ⟨iff_of_false ?_ hnot, iff_of_false ?_ hnot, ?_, ?_⟩
    · rintro ⟨grid, hgrid⟩
      cases hminterms.symm.trans hgrid
    · rintro ⟨grid, hgrid⟩
      cases hpositions.symm.trans hgrid
    · intro grid hgrid
      cases hminterms.symm.trans hgrid
    · intro fault hfault
      obtain rfl := Except.error.inj (hminterms.symm.trans hfault)
      exact ⟨before, m, after, hnumbers, hbefore, hm, rfl⟩

end Grid

end Karnaugh
