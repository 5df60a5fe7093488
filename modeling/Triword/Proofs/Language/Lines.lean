import Triword.Proofs.Language.Operands

/-!
The lines of the bundled language, by the characters with which they begin, and the labels that are declared
on them.
-/

namespace Triword

namespace Language

namespace Bundled

open Regex (Node CharSet)

theorem edges_labelStart
    : (CharSet.ofRanges [(0x41, 0x5A), (0x5F, 0x5F), (0x61, 0x7A)]).edges
        =
      [0x41, 0x5B, 0x5F, 0x60, 0x61, 0x7B] := by
  decide

theorem edges_labelRest
    : (CharSet.ofRanges [(0x30, 0x39), (0x41, 0x5A), (0x5F, 0x5F), (0x61, 0x7A)]).edges
        =
      [0x30, 0x3A, 0x41, 0x5B, 0x5F, 0x60, 0x61, 0x7B] := by
  decide

theorem bounds_of_contains {c : Char}
    (h : (CharSet.ofRanges [(0x41, 0x5A), (0x5F, 0x5F), (0x61, 0x7A)]).contains c
      ∨ (CharSet.ofRanges [(0x30, 0x39), (0x41, 0x5A), (0x5F, 0x5F), (0x61, 0x7A)]).contains c)
    : '0'.toNat ≤ c.toNat ∧ c.toNat ≤ 'z'.toNat := by
  unfold CharSet.contains at h
  rw [edges_labelStart, edges_labelRest] at h
  simp only [CharSet.holds] at h
  have hlow : '0'.toNat = 48 := rfl
  have hhigh : 'z'.toNat = 122 := rfl
  rw [hlow, hhigh]
  grind

theorem of_matches_label {cs : List Char} (h : (Node.cat [labelStart, labelRest]).Matches cs)
    : cs ≠ [] ∧ ∀ c ∈ cs, '0'.toNat ≤ c.toNat ∧ c.toNat ≤ 'z'.toNat := by
  obtain ⟨ds, es, rfl, hfirst, hrest⟩ := Node.exists_of_matches_cat_cons h
  obtain ⟨es, fs, rfl, hrow, hnothing⟩ := Node.exists_of_matches_cat_cons hrest
  obtain ⟨c, hc, rfl⟩ := Node.exists_of_matches_set hfirst
  obtain rfl := Node.eq_nil_of_matches_cat_nil hnothing
  rw [List.append_nil, List.singleton_append]
  refine ⟨List.cons_ne_nil c es, List.forall_mem_cons.mpr ⟨bounds_of_contains (.inl hc), ?_⟩⟩
  exact fun d hd => bounds_of_contains (.inr (Node.forall_of_matches_row hrow d hd))

theorem of_declaredLabel? {l : Language} (hl : l.declaration = declaration) {line name : String}
    (h : l.declaredLabel? line = some name)
    : name.toList ≠ [] ∧ ∀ c ∈ name.toList, '0'.toNat ≤ c.toNat ∧ c.toNat ≤ 'z'.toNat := by
  unfold declaredLabel? at h
  rw [hl, Option.bind_eq_bind, Option.bind_eq_some_iff] at h
  obtain ⟨c, hc, h⟩ := h
  rw [Option.bind_eq_bind, Option.bind_eq_some_iff] at h
  obtain ⟨name', hname, h⟩ := h
  split at h
  . cases h
    have hbodies : declaration.node.bodies 1 = [.cat [labelStart, labelRest]] := rfl
    have hflat : Node.IsFlat 1 (declaration.node.bodies 1) := by
      rw [hbodies]
      exact List.forall_mem_singleton.mpr rfl
    obtain ⟨b, hb, hmatches⟩ := Regex.Expression.exists_matches_of_numbered? hflat hc hname
    rw [hbodies, List.mem_singleton] at hb
    rw [hb] at hmatches
    exact of_matches_label hmatches
  . cases h

/-- The characters that a mnemonic may be written with, for each of its letters. -/
def letterSets (mnemonic : String) : List CharSet :=
  mnemonic.toList.map fun c => (CharSet.single c).foldCase

theorem exists_admits_of_captures {v : Variant} (hv : v ∈ bundled.variants) {line : String}
    {c : Regex.Expression.Captures} (h : v.regex.captures? line = some c)
    : ∃ r ∈ instructions, Node.admits (letterSets r.mnemonic) line.toList := by
  obtain ⟨r, hr, types, -, rfl⟩ := exists_of_mem_variants hv
  obtain ⟨-, -, p, q, hp, hpasses⟩ := Regex.Expression.exists_passes h
  replace hpasses : (lineNode r.mnemonic (types.map KnownType.kind)).Passes p q c.marks := hpasses
  -- A run through a line passes its start and then the letters, each as a set of its two cases.
  obtain ⟨p', ms₁, ms₂, ⟨hstart, rfl, -⟩, hletters, -⟩ := hpasses
  have hsets : r.mnemonic.toList.map anyCase = (letterSets r.mnemonic).map Node.set := by
    unfold letterSets
    rw [List.map_map]
    rfl
  rw [hsets, List.append_assoc] at hletters
  refine ⟨r, hr, ?_⟩
  rw [← hp.rest_eq_of_textStart hstart]
  exact Node.admits_of_passesAll hletters

theorem head?_of_declaredLabel? {l : Language} (hl : l.declaration = declaration) {line name : String}
    (h : l.declaredLabel? line = some name)
    : line.toList.head? = some '.' := by
  unfold declaredLabel? at h
  rw [hl, Option.bind_eq_bind, Option.bind_eq_some_iff] at h
  obtain ⟨c, hc, -⟩ := h
  obtain ⟨-, -, p, q, hp, hpasses⟩ := Regex.Expression.exists_passes hc
  obtain ⟨p', ms₁, ms₂, ⟨hstart, rfl, -⟩, ⟨r, ms₃, ms₄, ⟨hdot, -⟩, -, -⟩, -⟩ := hpasses
  rw [← hp.rest_eq_of_textStart hstart, hdot.rest_eq]
  rfl

structure IsForeign (start : List Char) : Prop where
  nonempty : start ≠ []
  noDot : start.head? ≠ some '.'
  noMnemonic : ∀ r ∈ instructions, Node.admits (letterSets r.mnemonic) start = false

theorem not_declares_of_foreign {l : Language} (hl : l.declaration = declaration) {line : String}
    {start : List Char} (hstart : IsForeign start) (hbegin : start <+: line.toList)
    : l.declaredLabel? line = none := by
  rw [Option.eq_none_iff_forall_ne_some]
  intro name h
  have hdot := head?_of_declaredLabel? hl h
  obtain ⟨rest, hrest⟩ := hbegin
  obtain ⟨c, cs, rfl⟩ := List.exists_cons_of_ne_nil hstart.nonempty
  rw [← hrest] at hdot
  exact hstart.noDot hdot

theorem variantsMatching_of_foreign {line : String} {start : List Char} (hstart : IsForeign start)
    (hbegin : start <+: line.toList)
    : bundled.variantsMatching line = [] := by
  apply List.filterMap_eq_nil_iff.mpr
  intro v hv
  rw [Option.map_eq_none_iff, Option.eq_none_iff_forall_ne_some]
  intro c hc
  obtain ⟨r, hr, hadmits⟩ := exists_admits_of_captures hv hc
  obtain ⟨rest, hrest⟩ := hbegin
  rw [← hrest] at hadmits
  have hstart := (Node.admits_of_append hadmits).symm.trans (hstart.noMnemonic r hr)
  cases hstart

end Bundled

end Language

end Triword
