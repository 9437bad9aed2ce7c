import Karnaugh.Proofs.EquationReading
import Mathlib.Data.List.Basic

set_option autoImplicit false

/-! # The grammar of products

A product is one or more literals, a literal is the letter of a variable with at most one prime after
it: `SpellsProduct`. The grammar is unambiguous, since what it spells is what the literals are written
as (`spellsProduct_iff`), and reading letter by letter follows it on every text that is not empty
(`literals?_eq_some_iff_spells`). So a reader that follows the grammar and then asks for the variables
of the map in their order names a minterm exactly on its label (`product_read_iff_label`), whatever
the reader does with blanks, which never reach it; and whole equations are read alike with any such
reader (`readWith_mintermBy`). -/

namespace Karnaugh

namespace Equation

/-! ## Literals and products -/

/-- How a literal is spelled. -/
inductive SpellsLiteral : List Char → Literal → Prop
  | plain (v : Variable) : SpellsLiteral [v.letter] ⟨v, true⟩
  | primed (v : Variable) : SpellsLiteral [v.letter, Complement.prime.mark] ⟨v, false⟩

/-- How a product is spelled: one or more literals without anything between them. -/
inductive SpellsProduct : List Char → List Literal → Prop
  | single {text : List Char} {l : Literal} (h : SpellsLiteral text l) : SpellsProduct text [l]
  | more {text rest : List Char} {l : Literal} {literals : List Literal}
      (h : SpellsLiteral text l) (hrest : SpellsProduct rest literals) :
      SpellsProduct (text ++ rest) (l :: literals)

theorem spellsLiteral_iff {text : List Char} {l : Literal} :
    SpellsLiteral text l ↔ text = literal .prime l.var l.positive := by
  constructor
  · rintro (v | v) <;> rfl
  · rintro rfl
    obtain ⟨v, positive⟩ := l
    cases positive with
    | true => exact .plain v
    | false => exact .primed v

/-- The grammar spells a product as its literals are written, one after the other. -/
theorem spellsProduct_iff {text : List Char} {literals : List Literal} :
    SpellsProduct text literals ↔ literals ≠ [] ∧ text = written literals := by
  constructor
  · intro h
    induction h with
    | single h =>
      refine ⟨List.cons_ne_nil _ _, ?_⟩
      rw [spellsLiteral_iff.1 h, written, List.flatMap_singleton]
    | more h _ ih =>
      refine ⟨List.cons_ne_nil _ _, ?_⟩
      rw [spellsLiteral_iff.1 h, ih.2]
      rfl
  · rintro ⟨hne, rfl⟩
    induction literals with
    | nil => exact absurd rfl hne
    | cons l rest ih =>
      have hl : SpellsLiteral (literal .prime l.var l.positive) l := spellsLiteral_iff.2 rfl
      cases rest with
      | nil =>
        rw [written, List.flatMap_singleton]
        exact .single hl
      | cons next rest => exact .more hl (ih (List.cons_ne_nil next rest))

/-- Reading letter by letter follows the grammar; only the empty text is read as no literals. -/
theorem literals?_eq_some_iff_spells {text : List Char} {literals : List Literal}
    (hne : literals ≠ []) : literals? text = some literals ↔ SpellsProduct text literals := by
  rw [literals?_eq_some_iff, spellsProduct_iff, and_iff_right hne]

/-! ## Readers -/

/-- A reader of products follows the grammar where a text holds no blanks. -/
def FollowsGrammar (parse : List Char → Option (List Literal)) : Prop :=
  ∀ text, (∀ c ∈ text, Text.isBlank c = false) →
    ∀ literals, parse text = some literals ↔ SpellsProduct text literals

/-- The minterm of literals that are the variables of the map in alphabetical order. -/
def canonical? (arity : Arity) (literals : List Literal) : Option Nat :=
  if literals.map Literal.var = arity.vars then some (mintermOf literals) else none

/-- The minterm that a text names by way of a reader. -/
def mintermBy (parse : List Char → Option (List Literal)) (arity : Arity) (text : List Char) :
    Option Nat :=
  (parse text).bind (canonical? arity)

theorem canonical?_nil (arity : Arity) : canonical? arity [] = none := by
  cases arity <;> rfl

/-- Every reader that follows the grammar names the same minterms. -/
theorem mintermBy_eq {parse : List Char → Option (List Literal)} (hparse : FollowsGrammar parse)
    (arity : Arity) {text : List Char} (hblank : ∀ c ∈ text, Text.isBlank c = false) :
    mintermBy parse arity text = minterm? arity text := by
  refine Option.ext fun m => ?_
  -- No minterm comes from the empty list, so the literals are ones that the grammar spells.
  have hread : ∀ literals, canonical? arity literals = some m →
      (parse text = some literals ↔ literals? text = some literals) := by
    intro literals hliterals
    have hne : literals ≠ [] := by
      rintro rfl
      rw [canonical?_nil] at hliterals
      cases hliterals
    rw [hparse text hblank, literals?_eq_some_iff_spells hne]
  show (parse text).bind (canonical? arity) = some m ↔
    (literals? text).bind (canonical? arity) = some m
  rw [Option.bind_eq_some_iff, Option.bind_eq_some_iff]
  exact exists_congr fun literals => and_congr_left (hread literals)

/-- **An equation is read alike by every reader that follows the grammar.** Its summands hold no blanks,
    so whatever else such a reader does has no part in it. -/
theorem readWith_mintermBy {parse : List Char → Option (List Literal)} (hparse : FollowsGrammar parse)
    (arity : Arity) (text : String) :
    readWith (mintermBy parse arity) arity text = read arity text := by
  have hnamed : ∀ summand ∈ summands text.toList,
      mintermBy parse arity summand = minterm? arity summand := by
    intro summand h
    exact mintermBy_eq hparse arity fun c hc => (mem_dropHead_of_mem_summands hc h).2
  have hminterms := List.filterMap_congr hnamed
  have hskipped : (summands text.toList).filter (fun s => (mintermBy parse arity s).isNone) =
      (summands text.toList).filter fun s => (minterm? arity s).isNone :=
    List.filter_congr fun s hs => by rw [hnamed s hs]
  unfold read readWith
  dsimp only
  rw [hminterms, hskipped]

/-- A reader that passes over blanks and refuses the empty text. -/
def parse? (text : List Char) : Option (List Literal) :=
  (literals? (Text.squeeze text)).filter fun literals => !literals.isEmpty

theorem followsGrammar_parse? : FollowsGrammar parse? := by
  intro text hblank literals
  have hsqueeze : Text.squeeze text = text :=
    List.filter_eq_self.2 fun c hc => by rw [hblank c hc]; rfl
  rw [parse?, hsqueeze, Option.filter_eq_some_iff, literals?_eq_some_iff, spellsProduct_iff]
  rw [Bool.not_eq_true', List.isEmpty_eq_false_iff, and_comm]

/-! ## Texts that name nothing -/

section

variable (arity : Arity)

/-- Literals other than the variables of the map in their order: too few, too many, repeated or
    reordered. -/
theorem minterm?_written_eq_none {literals : List Literal}
    (h : literals.map Literal.var ≠ arity.vars) : minterm? arity (written literals) = none := by
  have hread : literals? (written literals) = some literals := literals?_eq_some_iff.2 rfl
  rw [minterm?, hread, Option.bind_eq_bind, Option.bind_some, if_neg h]

/-- What no label of the map holds, no text that names a minterm holds. -/
theorem minterm?_eq_none_of_isInfix {part text : List Char} (hpart : part <:+: text)
    (h : ∀ m < arity.cells, ¬part <:+: arity.labelChars .prime m) : minterm? arity text = none := by
  refine Option.eq_none_iff_forall_ne_some.2 fun m hm => ?_
  obtain ⟨hlt, rfl⟩ := minterm?_eq_some_iff.1 hm
  exact h m hlt hpart

theorem minterm?_doubly_primed (before after : List Char) :
    minterm? arity (before ++ [Complement.prime.mark, Complement.prime.mark] ++ after) = none := by
  refine minterm?_eq_none_of_isInfix arity (List.infix_append before _ after) ?_
  cases arity <;> decide

theorem minterm?_overlined {m : Nat} {v : Variable} (hv : v ∈ arity.vars)
    (h : arity.input m v = false) : minterm? arity (arity.labelChars .overline m) = none := by
  have hmark : Complement.overline.mark ∈ arity.labelChars .overline m := by
    refine List.mem_flatMap.2 ⟨v, hv, ?_⟩
    rw [h]
    exact List.mem_cons_of_mem _ List.mem_cons_self
  obtain ⟨before, after, hsplit⟩ := List.append_of_mem hmark
  have hpart : [Complement.overline.mark] <:+: arity.labelChars .overline m :=
    ⟨before, after, by rw [hsplit, List.append_assoc, List.singleton_append]⟩
  refine minterm?_eq_none_of_isInfix arity hpart ?_
  cases arity <;> decide

theorem minterm?_other_map {other : Arity} (h : other ≠ arity) (m : Nat) :
    minterm? arity (other.labelChars .prime m) = none := by
  rw [← written_mintermLiterals]
  refine minterm?_written_eq_none arity fun hvars => h ?_
  have hmap : (mintermLiterals other m).map Literal.var = other.vars := by cases other <;> rfl
  rw [hmap] at hvars
  revert hvars
  cases other <;> cases arity <;> decide

end

/-! ## Labels -/

/-- **A product is read exactly when it is the label of a minterm**, and then as that minterm, by any
    reader that follows the grammar. Every other text without blanks names nothing: so do literals
    that are not the variables of the map in their order, anything with two primes in a row, a label
    with a line over a letter, and the labels of the other map. -/
theorem product_read_iff_label (arity : Arity) {parse : List Char → Option (List Literal)}
    (hparse : FollowsGrammar parse) :
    (∀ text : String, (∀ c ∈ text.toList, Text.isBlank c = false) →
      mintermBy parse arity text.toList = minterm? arity text.toList ∧
      (∀ m, mintermBy parse arity text.toList = some m ↔
        m < arity.cells ∧ text = arity.label .prime m) ∧
      (mintermBy parse arity text.toList = none ↔
        ∀ m < arity.cells, text ≠ arity.label .prime m)) ∧
    (∀ literals : List Literal, literals.map Literal.var ≠ arity.vars →
      minterm? arity (written literals) = none) ∧
    (∀ before after : List Char,
      minterm? arity (before ++ [Complement.prime.mark, Complement.prime.mark] ++ after) = none) ∧
    (∀ m, ∀ v ∈ arity.vars, arity.input m v = false →
      minterm? arity (arity.labelChars .overline m) = none) ∧
    ∀ other m, other ≠ arity → minterm? arity (other.labelChars .prime m) = none := by
  refine ⟨?_, fun _ h => minterm?_written_eq_none arity h, minterm?_doubly_primed arity,
    fun m v hv h => minterm?_overlined arity hv h, fun other m h => minterm?_other_map arity h m⟩
  intro text hblank
  have hby := mintermBy_eq hparse arity hblank
  have hlabel : ∀ m, mintermBy parse arity text.toList = some m ↔
      m < arity.cells ∧ text = arity.label .prime m := by
    intro m
    rw [hby, minterm?_eq_some_iff, Arity.label, String.ext_iff, String.toList_ofList]
  refine ⟨hby, hlabel, ?_⟩
  rw [Option.eq_none_iff_forall_ne_some]
  constructor
  · intro hnone m hm htext
    exact hnone m ((hlabel m).2 ⟨hm, htext⟩)
  · intro hno m hsome
    obtain ⟨hm, htext⟩ := (hlabel m).1 hsome
    exact hno m hm htext

/-- A reader that passes over blanks reads a label with one prime, but no reordered product, no letter
    with a line over it, and no label of the other map. -/
theorem product_read_past_blanks :
    FollowsGrammar parse? ∧
      (∀ c ∈ "AB'C".toList, Text.isBlank c = false) ∧
      (mintermBy parse? .three "AB'C".toList = some 5 ↔
        5 < Arity.three.cells ∧ "AB'C" = Arity.three.label .prime 5) ∧
      minterm? .three (written [⟨.b, false⟩, ⟨.a, true⟩, ⟨.c, true⟩]) = none ∧
      minterm? .three (Arity.three.labelChars .overline 5) = none ∧
      minterm? .three (Arity.two.labelChars .prime 2) = none := by
  have hall : "AB'C".toList.all (fun c => !Text.isBlank c) = true := by decide
  have hblank : ∀ c ∈ "AB'C".toList, Text.isBlank c = false := by
    intro c hc
    have hc := List.all_eq_true.1 hall c hc
    rwa [Bool.not_eq_true'] at hc
  obtain ⟨hread, hvars, -, hoverlined, hother⟩ :=
    product_read_iff_label .three followsGrammar_parse?
  exact ⟨followsGrammar_parse?, hblank, (hread "AB'C" hblank).2.1 5, hvars _ (by decide),
    hoverlined 5 .b (by decide) (by decide), hother .two 2 (by decide)⟩

end Equation

end Karnaugh
