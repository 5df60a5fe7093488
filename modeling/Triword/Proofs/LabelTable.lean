import Triword.LabelTable

/-!
Tables of labels as what they say of each label. A table is known from its look-ups, and the bindings of
which it is made are those that it has, none of them for a label that another one binds.
-/

namespace Triword

namespace LabelTable

variable {t t' : LabelTable} {label name : String} {a b : VirtualAddress}

theorem ext_lookup? (h : ∀ name, t.lookup? name = t'.lookup? name) : t = t' := by
  obtain ⟨entries⟩ := t
  obtain ⟨entries'⟩ := t'
  rw [mk.injEq]
  exact Std.ExtTreeMap.ext_getElem? (fun {name} => h name)

@[simp]
theorem lookup?_empty (name : String) : empty.lookup? name = none := by
  unfold lookup? empty
  simp

theorem mem_toList_iff : (name, a) ∈ t.toList ↔ t.lookup? name = some a := by
  exact Std.ExtTreeMap.mem_toList_iff_getElem?_eq_some

theorem nodup_toList (t : LabelTable) : (t.toList.map Prod.fst).Nodup := by
  unfold List.Nodup
  rw [List.pairwise_map]
  apply Std.ExtTreeMap.distinct_keys_toList.imp
  intro x y hdistinct heq
  exact hdistinct (Std.compare_eq_iff_eq.mpr heq)

theorem insert?_of_bound (h : t.lookup? label = some b) (a : VirtualAddress) : t.insert? label a = none := by
  unfold lookup? at h
  unfold insert?
  rw [Std.ExtTreeMap.contains_eq_isSome_getElem?, h]
  rfl

theorem exists_insert?_of_free (h : t.lookup? label = none) (a : VirtualAddress)
    : ∃ t', t.insert? label a = some t' := by
  unfold lookup? at h
  unfold insert?
  rw [Std.ExtTreeMap.contains_eq_isSome_getElem?, h]
  exact ⟨_, rfl⟩

theorem lookup?_of_insert? (h : t.insert? label a = some t')
    : t.lookup? label = none
        ∧ ∀ name, t'.lookup? name = if name = label then some a else t.lookup? name := by
  unfold insert? at h
  split at h
  . cases h
  . next hfree =>
    cases h
    constructor
    . rw [Std.ExtTreeMap.contains_eq_isSome_getElem?, Bool.not_eq_true, Option.isSome_eq_false_iff,
        Option.isNone_iff_eq_none] at hfree
      exact hfree
    . intro name
      unfold lookup?
      dsimp only
      have hsame : compare label name = .eq ↔ name = label := Std.compare_eq_iff_eq.trans eq_comm
      rw [Std.ExtTreeMap.getElem?_insert]
      simp only [hsame]

theorem foldlM_insert?_eq_some_iff {bindings : List (String × VirtualAddress)}
    : bindings.foldlM (fun t (label, a) => t.insert? label a) t = some t'
        ↔
      (bindings.map Prod.fst).Nodup
        ∧ (∀ x ∈ bindings, t.lookup? x.1 = none)
        ∧ ∀ name a, t'.lookup? name = some a ↔ (name, a) ∈ bindings ∨ t.lookup? name = some a := by
  -- On the bindings, for any table that the first ones have left.
  induction bindings generalizing t with
  | nil =>
    simp
    constructor
    . rintro rfl
      exact fun name a => .rfl
    . intro h
      apply ext_lookup?
      intro name
      exact (Option.ext (h name)).symm
  | cons binding bindings ih =>
    obtain ⟨label, a⟩ := binding
    rw [List.foldlM_cons]
    dsimp only
    cases hlookup : t.lookup? label with
    | some b =>
      rw [insert?_of_bound hlookup]
      simp [hlookup]
    | none =>
      obtain ⟨u, hu⟩ := exists_insert?_of_free hlookup a
      have hbound : ∀ name b, u.lookup? name = some b
          ↔ (name, b) = (label, a) ∨ t.lookup? name = some b := by
        intro name b
        rw [(lookup?_of_insert? hu).2, Prod.mk.injEq]
        by_cases hname : name = label
        . simp [hname, hlookup, eq_comm]
        . simp [hname]
      have hfree : ∀ name, u.lookup? name = none ↔ name ≠ label ∧ t.lookup? name = none := by
        intro name
        rw [(lookup?_of_insert? hu).2]
        by_cases hname : name = label
        . simp [hname]
        . simp [hname]
      rw [hu, Option.bind_eq_bind, Option.bind_some, ih, List.map_cons, List.nodup_cons, List.forall_mem_cons]
      simp only [hbound, hfree, List.mem_cons, List.mem_map]
      -- Both sides now speak of names only: that `label` is among none of the others.
      grind

theorem ofList?_eq_some_iff {bindings : List (String × VirtualAddress)}
    : ofList? bindings = some t
        ↔
      (bindings.map Prod.fst).Nodup ∧ ∀ name a, t.lookup? name = some a ↔ (name, a) ∈ bindings := by
  unfold ofList?
  rw [foldlM_insert?_eq_some_iff]
  simp

theorem exists_foldlM_insert? {bindings : List (String × VirtualAddress)}
    (hnodup : (bindings.map Prod.fst).Nodup) (hfree : ∀ x ∈ bindings, t.lookup? x.1 = none)
    : ∃ t', bindings.foldlM (fun t (label, a) => t.insert? label a) t = some t' := by
  induction bindings generalizing t with
  | nil => exact ⟨t, rfl⟩
  | cons binding bindings ih =>
    obtain ⟨label, a⟩ := binding
    rw [List.map_cons, List.nodup_cons] at hnodup
    obtain ⟨hlabel, hbindings⟩ := List.forall_mem_cons.mp hfree
    obtain ⟨u, hu⟩ := exists_insert?_of_free hlabel a
    rw [List.foldlM_cons]
    dsimp only
    rw [hu]
    apply ih hnodup.2
    intro x hx
    have hne : x.1 ≠ label := fun heq => hnodup.1 (List.mem_map.mpr ⟨x, hx, heq⟩)
    rw [(lookup?_of_insert? hu).2, if_neg hne]
    exact hbindings x hx

theorem isSome_ofList?_iff {bindings : List (String × VirtualAddress)}
    : (ofList? bindings).isSome ↔ (bindings.map Prod.fst).Nodup := by
  rw [Option.isSome_iff_exists]
  constructor
  . rintro ⟨t, ht⟩
    exact (ofList?_eq_some_iff.mp ht).1
  . intro hnodup
    exact exists_foldlM_insert? hnodup fun x _ => lookup?_empty x.1

theorem ofList?_toList (t : LabelTable) : ofList? t.toList = some t := by
  rw [ofList?_eq_some_iff]
  exact ⟨t.nodup_toList, fun name a => mem_toList_iff.symm⟩

end LabelTable

end Triword
