import Karnaugh.Adjacency
import Karnaugh.Proofs.WordLayout
import Mathlib.Data.List.Sort

set_option autoImplicit false

/-! # The two accounts of adjacency agree

`Arity.adjacent` asks two cells of the map whether their minterms differ in one bit; `Arity.neighbours`
flips the bits of a position one by one, whether it lies on the map or not. The numbers that differ from
a number in one bit are those reached by one flip (`distance_eq_one_iff`), and a flip of a column or row
bit does not leave the map, so the first is the second on the map (`adjacent_iff`). Each flip leads to a
position of its own, so there is one neighbour for each variable (`nodup_flips`).

Both are also computed on machine words, where nothing is lost up to the last one
(`neighbourWords?_eq`, `adjacentWords?_eq`). -/

namespace Karnaugh

/-! ## Numbers with a single one -/

theorem countP_testBit_eq_one_iff {x width : Nat} (hx : x < 2 ^ width) :
    (List.range width).countP x.testBit = 1 ↔ ∃ k < width, x = 1 <<< k := by
  constructor
  · intro hcount
    rw [List.countP_eq_length_filter, List.length_eq_one_iff] at hcount
    obtain ⟨k, hfilter⟩ := hcount
    have hbits : ∀ j, j = k ↔ j < width ∧ x.testBit j = true := by
      intro j
      rw [← List.mem_range, ← List.mem_filter, hfilter, List.mem_singleton]
    refine ⟨k, ((hbits k).1 rfl).1, Nat.eq_of_testBit_eq fun j => ?_⟩
    rw [Nat.one_shiftLeft, Nat.testBit_two_pow, Bool.eq_iff_iff, decide_eq_true_iff,
      @eq_comm Nat k j, hbits j]
    constructor
    · intro hj
      have hlt : 2 ^ j < 2 ^ width := Nat.lt_of_le_of_lt (Nat.ge_two_pow_of_testBit hj) hx
      exact ⟨(Nat.pow_lt_pow_iff_right (by decide)).1 hlt, hj⟩
    · exact And.right
  · rintro ⟨k, hk, rfl⟩
    have hbit : ∀ j ∈ List.range width, (1 <<< k).testBit j = true ↔ (j == k) = true := by
      intro j _
      rw [Nat.one_shiftLeft, Nat.testBit_two_pow, decide_eq_true_iff, beq_iff_eq, eq_comm]
    rw [List.countP_congr hbit]
    exact List.count_eq_one_of_mem List.nodup_range (List.mem_range.2 hk)

/-- Bits above a number hold no ones. -/
theorem countP_testBit_of_lt {x width wider : Nat} (hx : x < 2 ^ width) (h : width ≤ wider) :
    (List.range wider).countP x.testBit = (List.range width).countP x.testBit := by
  obtain ⟨more, rfl⟩ := Nat.exists_eq_add_of_le h
  have hnone : ((List.range more).map (width + ·)).countP x.testBit = 0 := by
    rw [List.countP_eq_zero, List.forall_mem_map]
    intro j _
    rw [Nat.testBit_lt_two_pow (Nat.lt_of_lt_of_le hx (Nat.pow_le_pow_right (by decide) (by omega)))]
    exact Bool.false_ne_true
  rw [List.range_add, List.countP_append, hnone, Nat.add_zero]

theorem toNat_cpop_eq_countP (x : Word) : x.cpop.toNat = (List.range 64).countP x.toNat.testBit := by
  have hrec : ∀ n, x.cpopNatRec n 0 = (List.range n).countP x.toNat.testBit := by
    intro n
    induction n with
    | zero => rfl
    | succ n ih =>
      rw [BitVec.cpopNatRec_succ, BitVec.cpopNatRec_eq, ih, List.range_succ, List.countP_append,
        List.countP_singleton, BitVec.testBit_toNat, Nat.zero_add]
      cases x.getLsbD n <;> rfl
  rw [BitVec.toNat_cpop, hrec]

/-- Steps that all give a value give the list of the values. -/
theorem mapM_eq_map {α β : Type} {f : α → Option β} {g : α → β} {l : List α}
    (h : ∀ a ∈ l, f a = some (g a)) : l.mapM f = some (l.map g) := by
  induction l with
  | nil => rfl
  | cons a rest ih =>
    rw [List.forall_mem_cons] at h
    rw [List.mapM_cons, h.1, ih h.2]
    rfl

namespace Arity

variable {arity : Arity} {p q : Nat}

theorem distance_eq_countP_xor (width m n : Nat) :
    distance width m n = (List.range width).countP (m ^^^ n).testBit := by
  rw [distance]
  refine List.countP_congr fun k _ => ?_
  rw [Nat.testBit_xor, Bool.bne_eq_xor]

theorem distance_eq_one_iff {width m n : Nat} (hm : m < 2 ^ width) (hn : n < 2 ^ width) :
    distance width m n = 1 ↔ ∃ k < width, m ^^^ n = 1 <<< k := by
  rw [distance_eq_countP_xor, countP_testBit_eq_one_iff (Nat.xor_lt_two_pow hm hn)]

/-! ## Flips -/

/-- Different bits lead to different positions. -/
theorem nodup_flips (arity : Arity) (p : Nat) :
    ((List.range arity.count).map fun k =>
      arity.positionOf (arity.mintermAt p ^^^ 1 <<< k)).Nodup := by
  refine List.nodup_range.map fun k l hkl => ?_
  have hflips : arity.mintermAt p ^^^ 1 <<< k = arity.mintermAt p ^^^ 1 <<< l := by
    rw [← mintermAt_eq_iff.2 hkl, mintermAt_positionOf]
  rw [Nat.xor_right_inj, Nat.one_shiftLeft, Nat.one_shiftLeft] at hflips
  exact (Nat.pow_right_inj (by decide)).1 hflips

theorem length_neighbours (arity : Arity) (p : Nat) : (arity.neighbours p).length = arity.count := by
  rw [neighbours, List.length_mergeSort, List.length_map, List.length_range]

theorem pairwise_neighbours (arity : Arity) (p : Nat) : (arity.neighbours p).Pairwise (· < ·) :=
  (List.sortedLE_mergeSort.sortedLT_of_nodup
    ((List.mergeSort_perm _ _).nodup_iff.2 (arity.nodup_flips p))).pairwise

theorem mem_neighbours_symm : q ∈ arity.neighbours p ↔ p ∈ arity.neighbours q := by
  rw [mem_neighbours_iff_xor, mem_neighbours_iff_xor, Nat.xor_comm]

/-! ## Neighbours on the map -/

/-- A flip does not leave the map. -/
theorem lt_cells_of_mem_neighbours (hp : p < arity.cells) (h : q ∈ arity.neighbours p) :
    q < arity.cells := by
  obtain ⟨k, hk, rfl⟩ := mem_neighbours.1 h
  rw [← mintermAt_lt_cells_iff, cells_eq_two_pow] at hp
  rw [positionOf_lt_cells_iff, cells_eq_two_pow, Nat.one_shiftLeft]
  exact Nat.xor_lt_two_pow hp (Nat.pow_lt_pow_right (by decide) hk)

theorem adjacent_iff : arity.adjacent p q = true ↔ p < arity.cells ∧ q ∈ arity.neighbours p := by
  have hone : ∀ (_ : p < arity.cells) (_ : q < arity.cells),
      distance arity.count (arity.mintermAt p) (arity.mintermAt q) = 1 ↔ q ∈ arity.neighbours p := by
    intro hp hq
    rw [← mintermAt_lt_cells_iff, cells_eq_two_pow] at hp hq
    rw [distance_eq_one_iff hp hq, mem_neighbours_iff_xor]
  rw [adjacent, Bool.and_eq_true, decide_eq_true_iff, beq_iff_eq]
  constructor
  · rintro ⟨⟨hp, hq⟩, hdistance⟩
    exact ⟨hp, (hone hp hq).1 hdistance⟩
  · rintro ⟨hp, hmem⟩
    have hq := lt_cells_of_mem_neighbours hp hmem
    exact ⟨⟨hp, hq⟩, (hone hp hq).2 hmem⟩

/-! ## Adjacency on words -/

/-- The position of a minterm after a change of one bit, all as words. -/
def flipWord? (arity : Arity) (minterm : Word) (k : Nat) : Option Word := do
  let bit ← Word.shiftLeft? 1 k
  arity.positionWord? (minterm ^^^ bit)

/-- The positions reached from a position by changing one variable, ascending, all as words. -/
def neighbourWords? (arity : Arity) (position : Word) : Option (List Word) := do
  let minterm ← arity.mintermWord? position
  let reached ← (List.range arity.count).mapM (arity.flipWord? minterm)
  return reached.mergeSort

/-- Whether two words are positions on the map whose minterms differ in one of all bits of a word. -/
def adjacentWords? (arity : Arity) (p q : Word) : Option Bool := do
  let cells ← Word.shiftLeft? 1 arity.count
  if cells ≤ p ∨ cells ≤ q then return false
  let m ← arity.mintermWord? p
  let n ← arity.mintermWord? q
  return (m ^^^ n).cpop == 1

/-- The position reached from a position by a change of one bit of its minterm. -/
def flipped (arity : Arity) (position : Word) (k : Nat) : Word :=
  arity.numbering.symm (arity.numbering position ^^^ BitVec.twoPow 64 k)

theorem toNat_flipped (position : Word) {k : Nat} (hk : k < 64) :
    (arity.flipped position k).toNat =
      arity.positionOf (arity.mintermAt position.toNat ^^^ 1 <<< k) := by
  rw [flipped, toNat_numbering_symm, BitVec.toNat_xor, toNat_numbering, BitVec.toNat_twoPow_of_lt hk,
    Nat.one_shiftLeft]

theorem shiftLeft?_one {k : Nat} (hk : k < 64) :
    Word.shiftLeft? 1 k = some (BitVec.twoPow 64 k) := by
  rw [Word.shiftLeft?_eq_some_iff hk, BitVec.toNat_twoPow_of_lt hk]
  exact Nat.one_shiftLeft k

theorem flipWord?_eq (arity : Arity) (position : Word) {k : Nat} (hk : k < 64) :
    arity.flipWord? (arity.numbering position) k = some (arity.flipped position k) := by
  rw [flipWord?, shiftLeft?_one hk]
  exact arity.positionWord?_eq _

theorem neighbourWords?_eq (arity : Arity) (position : Word) :
    (arity.neighbourWords? position).map (List.map BitVec.toNat) =
      some (arity.neighbours position.toNat) := by
  have hplace : ∀ k ∈ List.range arity.count, k < 64 := fun k hk =>
    (List.mem_range.1 hk).trans arity.count_lt
  have hreached : (List.range arity.count).mapM (arity.flipWord? (arity.numbering position)) =
      some ((List.range arity.count).map (arity.flipped position)) :=
    mapM_eq_map fun k hk => arity.flipWord?_eq position (hplace k hk)
  have hflips : ((List.range arity.count).map (arity.flipped position)).map BitVec.toNat =
      (List.range arity.count).map fun k =>
        arity.positionOf (arity.mintermAt position.toNat ^^^ 1 <<< k) := by
    rw [List.map_map]
    exact List.map_congr_left fun k hk => toNat_flipped position (hplace k hk)
  -- Words are in order as their numbers are.
  have hsorted : ((List.range arity.count).map (arity.flipped position)).mergeSort.map BitVec.toNat =
      arity.neighbours position.toNat := by
    rw [neighbours, ← hflips]
    exact List.map_mergeSort fun _ _ _ _ => rfl
  rw [neighbourWords?, mintermWord?_eq, Option.bind_eq_bind, Option.bind_some, hreached]
  exact congrArg some hsorted

/-- On the map the bits of the variables are the only ones in which minterms can differ. -/
theorem cpop_xor_numbering {p q : Word} (hp : p.toNat < arity.cells) (hq : q.toNat < arity.cells) :
    (arity.numbering p ^^^ arity.numbering q).cpop.toNat =
      distance arity.count (arity.mintermAt p.toNat) (arity.mintermAt q.toNat) := by
  rw [← mintermAt_lt_cells_iff, cells_eq_two_pow] at hp hq
  rw [toNat_cpop_eq_countP, BitVec.toNat_xor, toNat_numbering, toNat_numbering,
    countP_testBit_of_lt (Nat.xor_lt_two_pow hp hq) arity.count_lt.le, distance_eq_countP_xor]

theorem adjacentWords?_eq (arity : Arity) (p q : Word) :
    arity.adjacentWords? p q = some (arity.adjacent p.toNat q.toNat) := by
  have hbeyond : (BitVec.twoPow 64 arity.count ≤ p ∨ BitVec.twoPow 64 arity.count ≤ q) ↔
      ¬(p.toNat < arity.cells ∧ q.toNat < arity.cells) := by
    rw [BitVec.le_def, BitVec.le_def, BitVec.toNat_twoPow_of_lt arity.count_lt, ← cells_eq_two_pow]
    omega
  rw [adjacentWords?, shiftLeft?_one arity.count_lt, Option.bind_eq_bind, Option.bind_some,
    mintermWord?_eq, mintermWord?_eq]
  by_cases hmap : p.toNat < arity.cells ∧ q.toNat < arity.cells
  · have hone : ((arity.numbering p ^^^ arity.numbering q).cpop == 1) =
        (distance arity.count (arity.mintermAt p.toNat) (arity.mintermAt q.toNat) == 1) := by
      rw [← cpop_xor_numbering hmap.1 hmap.2, Bool.eq_iff_iff, beq_iff_eq, beq_iff_eq]
      exact BitVec.toNat_inj.symm
    rw [if_neg fun hout => hbeyond.1 hout hmap, adjacent, decide_eq_true hmap, Bool.true_and, ← hone]
    rfl
  · rw [if_pos (hbeyond.2 hmap), adjacent, decide_eq_false hmap, Bool.false_and]
    rfl

/-- **The two accounts of adjacency agree.** Every word, also beyond the map, has one neighbour for each
    variable, in ascending order: the words whose minterms differ from its own in the bit of a variable.
    Being neighbours goes both ways, and it is adjacency for the cells of the map. Neither account loses
    a bit where it is computed on words, and both give there what the numbers give. -/
theorem adjacent_iff_neighbours_on_words (arity : Arity) (p q : Word) :
    ((arity.neighbours p.toNat).Pairwise (· < ·) ∧
      (arity.neighbours p.toNat).length = arity.count) ∧
    (q.toNat ∈ arity.neighbours p.toNat ↔
      ∃ k < arity.count, arity.mintermAt p.toNat ^^^ arity.mintermAt q.toNat = 1 <<< k) ∧
    (q.toNat ∈ arity.neighbours p.toNat ↔ p.toNat ∈ arity.neighbours q.toNat) ∧
    (arity.adjacent p.toNat q.toNat = true ↔
      p.toNat < arity.cells ∧ q.toNat ∈ arity.neighbours p.toNat) ∧
    (arity.neighbourWords? p).map (List.map BitVec.toNat) = some (arity.neighbours p.toNat) ∧
    arity.adjacentWords? p q = some (arity.adjacent p.toNat q.toNat) :=
  ⟨⟨arity.pairwise_neighbours p.toNat, arity.length_neighbours p.toNat⟩,
    mem_neighbours_iff_xor, mem_neighbours_symm, adjacent_iff,
    arity.neighbourWords?_eq p, arity.adjacentWords?_eq p q⟩

end Arity

end Karnaugh
