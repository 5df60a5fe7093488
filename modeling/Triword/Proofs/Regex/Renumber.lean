import Mathlib.Data.List.Basic
import Triword.Proofs.Regex.Groups
import Triword.Regex.Reader

/-!
Expressions whose groups have other numbers. Renumbering goes through all that builds expressions, which look at
the numbers of groups at most to see whether two of them are the same; and what is built has just the groups of
its parts.
-/

namespace Triword.Regex

namespace Node

mutual

def renumber (k : Nat) : Node → Node
  | empty => empty
  | literal cs => literal cs
  | set s => set s
  | look l => look l
  | rep a min max lazy => rep (a.renumber k) min max lazy
  | group n a => group (n + k) (a.renumber k)
  | cat as => cat (renumberAll k as)
  | alt as => alt (renumberAll k as)

def renumberAll (k : Nat) : List Node → List Node
  | [] => []
  | a :: as => a.renumber k :: renumberAll k as

end

variable {k n : Nat} {a b : Node} {as bs : List Node}

theorem renumberAll_eq_map (k : Nat) (as : List Node) : renumberAll k as = as.map (renumber k) := by
  induction as with
  | nil => rfl
  | cons a as ih => rw [renumberAll, ih, List.map_cons]

@[simp]
theorem renumber_cat : (cat as).renumber k = cat (as.map (renumber k)) := by
  rw [renumber, renumberAll_eq_map]

@[simp]
theorem renumber_alt : (alt as).renumber k = alt (as.map (renumber k)) := by
  rw [renumber, renumberAll_eq_map]

/-! ### Building -/

mutual

theorem eq_of_same {a b : Node} (h : a.same b) : a = b := by
  cases a with
  | empty =>
    cases b with
    | empty => rfl
    | _ => cases h
  | literal cs =>
    cases b with
    | literal ds => rw [eq_of_beq (show (cs == ds) = true from h)]
    | _ => cases h
  | set s =>
    cases b with
    | set t => rw [eq_of_beq (show (s == t) = true from h)]
    | _ => cases h
  | look l =>
    cases b with
    | look k => rw [eq_of_beq (show (l == k) = true from h)]
    | _ => cases h
  | rep a min max lazy =>
    cases b with
    | rep b min' max' lazy' =>
      simp only [same, Bool.and_eq_true, beq_iff_eq] at h
      obtain ⟨⟨⟨rfl, rfl⟩, rfl⟩, hsame⟩ := h
      rw [eq_of_same hsame]
    | _ => cases h
  | group m a =>
    cases b with
    | group n b =>
      simp only [same, Bool.and_eq_true, beq_iff_eq] at h
      obtain ⟨rfl, hsame⟩ := h
      rw [eq_of_same hsame]
    | _ => cases h
  | cat as =>
    cases b with
    | cat bs => rw [eq_of_sameAll (show sameAll as bs = true from h)]
    | _ => cases h
  | alt as =>
    cases b with
    | alt bs => rw [eq_of_sameAll (show sameAll as bs = true from h)]
    | _ => cases h

theorem eq_of_sameAll {as bs : List Node} (h : sameAll as bs) : as = bs := by
  cases as with
  | nil =>
    cases bs with
    | nil => rfl
    | cons b bs => cases h
  | cons a as =>
    cases bs with
    | nil => cases h
    | cons b bs =>
      obtain ⟨hsame, hrest⟩ := Bool.and_eq_true_iff.mp h
      rw [eq_of_same hsame, eq_of_sameAll hrest]

end

mutual

theorem same_renumber (k : Nat) (a b : Node) : (a.renumber k).same (b.renumber k) = a.same b := by
  cases a with
  | rep a min max lazy =>
    cases b with
    | rep b min' max' lazy' => simp only [renumber, same, same_renumber k a b]
    | _ => rfl
  | group m a =>
    cases b with
    | group n b =>
      have hnumbers : (m + k == n + k) = (m == n) := by
        rw [Bool.eq_iff_iff]
        simp
      simp only [renumber, same, hnumbers, same_renumber k a b]
    | _ => rfl
  | cat as =>
    cases b with
    | cat bs => simpa only [renumber, same] using sameAll_renumberAll k as bs
    | _ => rfl
  | alt as =>
    cases b with
    | alt bs => simpa only [renumber, same] using sameAll_renumberAll k as bs
    | _ => rfl
  | _ =>
    cases b with
    | _ => rfl

theorem sameAll_renumberAll (k : Nat) (as bs : List Node)
    : sameAll (renumberAll k as) (renumberAll k bs) = sameAll as bs := by
  cases as with
  | nil =>
    cases bs with
    | _ => rfl
  | cons a as =>
    cases bs with
    | nil => rfl
    | cons b bs => rw [renumberAll, renumberAll, sameAll, sameAll, same_renumber, sameAll_renumberAll]

end

mutual

@[simp]
theorem maxLength?_renumber (k : Nat) (a : Node) : (a.renumber k).maxLength? = a.maxLength? := by
  cases a with
  | rep a min max lazy =>
    show (do return (← max) * (← (a.renumber k).maxLength?)) = _
    rw [maxLength?_renumber k a]
    rfl
  | group n a => exact maxLength?_renumber k a
  | cat as => exact congrArg (Option.map List.sum) (maxLengths?_renumberAll k as)
  | alt as => exact congrArg (Option.bind · List.max?) (maxLengths?_renumberAll k as)
  | _ => rfl

theorem maxLengths?_renumberAll (k : Nat) (as : List Node) : maxLengths? (renumberAll k as) = maxLengths? as := by
  cases as with
  | nil => rfl
  | cons a as =>
    show (do return (← (a.renumber k).maxLength?) :: (← maxLengths? (renumberAll k as))) = _
    rw [maxLength?_renumber k a, maxLengths?_renumberAll k as]
    rfl

end

@[simp]
theorem renumber_ofSet (s : CharSet) : (ofSet s).renumber k = ofSet s := by
  unfold ofSet
  split
  . rfl
  . rfl

theorem renumber_repeated (a : Node) (min : Nat) (max : Option Nat) (lazy : Bool)
    : (a.repeated min max lazy).renumber k = (a.renumber k).repeated min max lazy := by
  unfold repeated
  simp only [maxLength?_renumber]
  split
  . rfl
  . rfl
  . rfl

theorem map_push (a : Node) (as : List Node)
    : (push a as).map (renumber k) = push (a.renumber k) (as.map (renumber k)) := by
  cases a with
  | literal cs =>
    cases as with
    | nil => rfl
    | cons b bs =>
      cases b with
      | _ => rfl
  | _ => rfl

theorem map_foldr_push (as bs : List Node)
    : (as.foldr push bs).map (renumber k) = (as.map (renumber k)).foldr push (bs.map (renumber k)) := by
  induction as with
  | nil => rfl
  | cons a as ih => rw [List.foldr_cons, map_push, ih, List.map_cons, List.foldr_cons]

theorem map_join (a : Node) (bs : List Node)
    : (join a bs).map (renumber k) = join (a.renumber k) (bs.map (renumber k)) := by
  cases a with
  | cat as => rw [renumber_cat, join, join, map_foldr_push]
  | _ =>
    simp only [join, renumber]
    exact map_push _ _

theorem map_foldr_join (as : List Node)
    : (as.foldr join []).map (renumber k) = (as.map (renumber k)).foldr join [] := by
  induction as with
  | nil => rfl
  | cons a as ih => rw [List.foldr_cons, map_join, ih, List.map_cons, List.foldr_cons]

theorem renumber_sequence (as : List Node) : (sequence as).renumber k = sequence (as.map (renumber k)) := by
  unfold sequence
  rw [← map_foldr_join]
  match as.foldr join [] with
  | [] => rfl
  | [_] => rfl
  | _ :: _ :: _ => exact renumber_cat

theorem alternatives_renumber (a : Node) : (a.renumber k).alternatives = a.alternatives.map (renumber k) := by
  cases a with
  | alt as => rw [renumber_alt, alternatives, alternatives]
  | _ => rfl

theorem char?_renumber (a : Node) : (a.renumber k).char? = a.char? := by
  cases a with
  | _ => rfl

theorem set?_renumber (a : Node) : (a.renumber k).set? = a.set? := by
  cases a with
  | _ => rfl

theorem renumber_choice (as : List Node) : (choice as).renumber k = choice (as.map (renumber k)) := by
  have halternatives : (as.map (renumber k)).flatMap alternatives
      = (as.flatMap alternatives).map (renumber k) := by
    simp only [List.flatMap_map, List.map_flatMap, alternatives_renumber]
  unfold choice
  rw [halternatives]
  match as.flatMap alternatives with
  | [] => rfl
  | [_] => rfl
  | a :: b :: bs =>
    have hchars : ((a :: b :: bs).map (renumber k)).mapM char? = (a :: b :: bs).mapM char? := by
      rw [List.mapM_map]
      exact congrArg (List.mapM · _) (funext char?_renumber)
    have hsets : ((a :: b :: bs).map (renumber k)).mapM set? = (a :: b :: bs).mapM set? := by
      rw [List.mapM_map]
      exact congrArg (List.mapM · _) (funext set?_renumber)
    simp only [List.map_cons] at hchars hsets ⊢
    rw [hchars, hsets]
    split
    . exact renumber_ofSet _
    . exact renumber_ofSet _
    . exact renumber_alt

theorem commonPrefix_renumber (as bs : List Node)
    : commonPrefix (as.map (renumber k)) (bs.map (renumber k)) = (commonPrefix as bs).map (renumber k) := by
  induction as generalizing bs with
  | nil => rfl
  | cons a as ih =>
    cases bs with
    | nil => rfl
    | cons b bs =>
      rw [List.map_cons, List.map_cons, commonPrefix, commonPrefix, same_renumber, ih]
      split
      . rfl
      . rfl

theorem foldl_commonPrefix_renumber (first : List Node) (others : List (List Node))
    : (others.map (List.map (renumber k))).foldl commonPrefix (first.map (renumber k))
        =
      (others.foldl commonPrefix first).map (renumber k) := by
  induction others generalizing first with
  | nil => rfl
  | cons as others ih => rw [List.map_cons, List.foldl_cons, commonPrefix_renumber, ih, List.foldl_cons]

theorem mapM_parts?_renumber (as : List Node)
    : (as.map (renumber k)).mapM parts? = (as.mapM parts?).map (List.map (List.map (renumber k))) := by
  induction as with
  | nil => rfl
  | cons a as ih =>
    rw [List.map_cons, List.mapM_cons, List.mapM_cons, ih]
    cases a with
    | cat parts =>
      rw [renumber_cat]
      cases as.mapM parts? with
      | none => rfl
      | some rest => rfl
    | _ => rfl

theorem renumber_alternation (as : List Node)
    : (alternation as).renumber k = alternation (as.map (renumber k)) := by
  unfold alternation
  rw [← renumber_choice]
  cases choice as with
  | alt as =>
    rw [renumber_alt]
    dsimp only
    rw [mapM_parts?_renumber]
    match as.mapM parts? with
    | none => exact renumber_alt
    | some [] => exact renumber_alt
    | some (first :: others) =>
      simp only [Option.map_some, List.map_cons, foldl_commonPrefix_renumber, List.isEmpty_map]
      split
      . exact renumber_alt
      . rw [renumber_sequence, List.map_append, List.map_singleton, renumber_choice]
        simp [renumber_sequence, Function.comp_def]
  | cat as =>
    rw [renumber_cat]
  | _ => rfl

/-! ### Groups -/

theorem bodiesAll_eq_flatMap (n : Nat) (as : List Node) : bodiesAll n as = as.flatMap (bodies n) := by
  induction as with
  | nil => rfl
  | cons a as ih => rw [bodiesAll, ih, List.flatMap_cons]

theorem bodiesAll_eq_nil_iff : bodiesAll n as = [] ↔ ∀ a ∈ as, a.bodies n = [] := by
  induction as with
  | nil => simp [bodiesAll]
  | cons a as ih => simp [bodiesAll, ih]

theorem bodies_ofSet (n : Nat) (s : CharSet) : (ofSet s).bodies n = [] := by
  unfold ofSet
  split
  . rfl
  . rfl

theorem bodiesAll_push (n : Nat) (a : Node) (as : List Node)
    : bodiesAll n (push a as) = a.bodies n ++ bodiesAll n as := by
  cases a with
  | literal cs =>
    cases as with
    | nil => rfl
    | cons b bs =>
      cases b with
      | _ => rfl
  | _ => rfl

theorem bodiesAll_foldr_push (n : Nat) (as bs : List Node)
    : bodiesAll n (as.foldr push bs) = bodiesAll n as ++ bodiesAll n bs := by
  induction as with
  | nil => rfl
  | cons a as ih => rw [List.foldr_cons, bodiesAll_push, ih, bodiesAll, List.append_assoc]

theorem bodiesAll_join (n : Nat) (a : Node) (bs : List Node)
    : bodiesAll n (join a bs) = a.bodies n ++ bodiesAll n bs := by
  cases a with
  | cat as => exact bodiesAll_foldr_push n as bs
  | _ => simp only [join, bodiesAll_push]

theorem bodiesAll_foldr_join (n : Nat) (as : List Node) : bodiesAll n (as.foldr join []) = bodiesAll n as := by
  induction as with
  | nil => rfl
  | cons a as ih => rw [List.foldr_cons, bodiesAll_join, ih, bodiesAll]

theorem bodies_sequence (n : Nat) (as : List Node) : (sequence as).bodies n = bodiesAll n as := by
  unfold sequence
  rw [← bodiesAll_foldr_join]
  match as.foldr join [] with
  | [] => rfl
  | [a] => exact (List.append_nil _).symm
  | _ :: _ :: _ => rfl

/-- A repetition has the groups of what it repeats, unless it stands for nothing at all. -/
theorem bodies_repeated (n : Nat) (a : Node) (min : Nat) (max : Option Nat) (lazy : Bool)
    : (a.repeated min max lazy).bodies n = if min = 0 ∧ max = some 0 then [] else a.bodies n := by
  have hone (m : Nat) : Nat.min m 1 = 0 ↔ m = 0 :=
    Nat.min_eq_zero_iff.trans (or_iff_left Nat.one_ne_zero)
  have hmin : (if a.maxLength? = some 0 then Nat.min min 1 else min) = 0 ↔ min = 0 := by
    split
    . exact hone min
    . rfl
  have hmax : (if a.maxLength? = some 0 then some (Nat.min (max.getD 1) 1) else max) = some 0 ↔ max = some 0 := by
    split
    . cases max with
      | none => simp
      | some m => simp
    . rfl
  rw [← if_congr (and_congr hmin hmax) rfl rfl]
  unfold repeated
  dsimp only
  split
  . next hzero hnone => exact (if_pos ⟨hzero, hnone⟩).symm
  . next hfirst _ => exact (if_neg fun h => absurd (hfirst.symm.trans h.1) Nat.one_ne_zero).symm
  . next hnone _ => exact (if_neg fun h => hnone h.1 h.2).symm

theorem bodies_repeated_eq_nil (h : a.bodies n = []) (min : Nat) (max : Option Nat) (lazy : Bool)
    : (a.repeated min max lazy).bodies n = [] := by
  rw [bodies_repeated, h, ite_self]

theorem bodiesAll_alternatives (n : Nat) (a : Node) : bodiesAll n a.alternatives = a.bodies n := by
  cases a with
  | alt as => rfl
  | _ => exact List.append_nil _

theorem bodiesAll_flatMap_alternatives (n : Nat) (as : List Node)
    : bodiesAll n (as.flatMap alternatives) = bodiesAll n as := by
  induction as with
  | nil => rfl
  | cons a as ih => rw [List.flatMap_cons, bodiesAll_append, bodiesAll_alternatives, ih, bodiesAll]

theorem bodies_of_char? {c : Char} (h : a.char? = some c) (n : Nat) : a.bodies n = [] := by
  cases a with
  | literal cs => rfl
  | _ => cases h

theorem bodies_of_set? {s : CharSet} (h : a.set? = some s) (n : Nat) : a.bodies n = [] := by
  cases a with
  | set s => rfl
  | _ => cases h

theorem bodiesAll_of_mapM {α : Type} {f : Node → Option α} {found : List α} (h : as.mapM f = some found)
    (hf : ∀ {a x}, f a = some x → a.bodies n = []) : bodiesAll n as = [] := by
  induction as generalizing found with
  | nil => rfl
  | cons a as ih =>
    simp only [List.mapM_cons, Option.bind_eq_bind, Option.bind_eq_some_iff] at h
    obtain ⟨x, hx, found', hfound, -⟩ := h
    rw [bodiesAll, hf hx, ih hfound, List.append_nil]

theorem bodies_choice (n : Nat) (as : List Node) : (choice as).bodies n = bodiesAll n as := by
  rw [← bodiesAll_flatMap_alternatives]
  unfold choice
  split
  . next hparts =>
    rw [hparts]
    rfl
  . next a hparts =>
    rw [hparts]
    exact (List.append_nil _).symm
  . split
    . next hchars => rw [bodies_ofSet, bodiesAll_of_mapM hchars fun h => bodies_of_char? h n]
    . next hsets => rw [bodies_ofSet, bodiesAll_of_mapM hsets fun h => bodies_of_set? h n]
    . rfl

theorem commonPrefix_prefix_both (as bs : List Node) : commonPrefix as bs <+: as ∧ commonPrefix as bs <+: bs := by
  induction as generalizing bs with
  | nil => exact ⟨List.prefix_rfl, List.nil_prefix⟩
  | cons a as ih =>
    cases bs with
    | nil => exact ⟨List.nil_prefix, List.prefix_rfl⟩
    | cons b bs =>
      unfold commonPrefix
      split
      . next hsame =>
        obtain rfl := eq_of_same hsame
        exact ⟨(List.prefix_cons_inj a).mpr (ih bs).1, (List.prefix_cons_inj a).mpr (ih bs).2⟩
      . exact ⟨List.nil_prefix, List.nil_prefix⟩

theorem foldl_commonPrefix_prefix_all (first : List Node) (others : List (List Node))
    : ∀ ps ∈ first :: others, others.foldl commonPrefix first <+: ps := by
  induction others generalizing first with
  | nil =>
    rw [List.forall_mem_singleton]
    exact List.prefix_rfl
  | cons as others ih =>
    obtain ⟨hfirst, hothers⟩ := List.forall_mem_cons.mp (ih (commonPrefix first as))
    rw [List.forall_mem_cons, List.forall_mem_cons]
    have hboth := commonPrefix_prefix_both first as
    exact ⟨hfirst.trans hboth.1, hfirst.trans hboth.2, hothers⟩

theorem bodiesAll_of_parts {parts : List (List Node)} (h : as.mapM parts? = some parts)
    : bodiesAll n as = parts.flatMap (bodiesAll n) := by
  induction as generalizing parts with
  | nil =>
    cases h
    rfl
  | cons a as ih =>
    cases a with
    | cat ps =>
      obtain ⟨rest, hrest, rfl⟩ : ∃ rest, as.mapM parts? = some rest ∧ ps :: rest = parts := by
        simpa [parts?, Option.bind_eq_some_iff] using h
      rw [bodiesAll, ih hrest, List.flatMap_cons]
      rfl
    | _ => simp [parts?] at h

/-- What is built of some expressions has the only body of a group among them, or none if they have none. -/
def Keeps (build : List Node → Node) : Prop :=
  ∀ n as, (bodiesAll n as).length ≤ 1 → (build as).bodies n = bodiesAll n as

theorem keeps_sequence : Keeps sequence :=
  fun n as _ => bodies_sequence n as

/-- Parts that two alternatives have in common have no groups, where there is one body at most. -/
theorem flatMap_common {α : Type} {common : List α} {ends : List (List α)}
    (h : (ends.flatMap (common ++ ·)).length ≤ 1) (hends : ends ≠ [])
    : ends.flatMap (common ++ ·) = common ++ ends.flatten := by
  match ends with
  | [] => exact absurd rfl hends
  | [_] => simp
  | _ :: _ :: _ =>
    obtain rfl : common = [] := by
      simp only [List.flatMap_cons, List.length_append] at h
      exact List.eq_nil_of_length_eq_zero (by omega)
    simp

/-- Where there is one body at most, parts that all alternatives begin with may be put in front of them once. -/
theorem bodiesAll_of_common {parts : List (List Node)} {common : List Node} (hcommon : ∀ ps ∈ parts, common <+: ps)
    (hparts : parts ≠ []) (h : (parts.flatMap (bodiesAll n)).length ≤ 1)
    : parts.flatMap (bodiesAll n)
        =
      bodiesAll n common ++ bodiesAll n (parts.map fun ps => sequence (ps.drop common.length)) := by
  let ends := parts.map fun ps => bodiesAll n (ps.drop common.length)
  have hall : parts.flatMap (bodiesAll n) = ends.flatMap (bodiesAll n common ++ ·) := by
    rw [List.flatMap_map]
    apply List.flatMap_congr
    intro ps hps
    obtain ⟨tail, rfl⟩ := hcommon ps hps
    rw [bodiesAll_append, List.drop_left]
  have hends : bodiesAll n (parts.map fun ps => sequence (ps.drop common.length)) = ends.flatten := by
    rw [bodiesAll_eq_flatMap, List.flatMap_map, ← List.flatMap_def]
    simp only [bodies_sequence]
  rw [hall] at h ⊢
  rw [flatMap_common h (List.map_eq_nil_iff.not.mpr hparts), hends]

theorem keeps_alternation : Keeps alternation := by
  intro n as h
  rw [← bodies_choice] at h ⊢
  unfold alternation
  split
  . next as hcases =>
    rw [hcases] at h ⊢
    split
    . next first others hparts =>
      dsimp only
      split
      . rfl
      . have hall : (alt as).bodies n = (first :: others).flatMap (bodiesAll n) := bodiesAll_of_parts hparts
        have hcommon := foldl_commonPrefix_prefix_all first others
        rw [hall] at h ⊢
        rw [bodiesAll_of_common hcommon (List.cons_ne_nil _ _) h, bodies_sequence, bodiesAll_append, bodiesAll,
          bodiesAll, List.append_nil, bodies_choice]
    . rfl
  . rfl

mutual

theorem bodies_renumber {a : Node} (h : ∀ m, m + k = n → a.bodies m = []) : (a.renumber k).bodies n = [] := by
  cases a with
  | rep a min max lazy => exact bodies_renumber (a := a) h
  | group m a =>
    have hm : m + k ≠ n := fun heq => by simpa [bodies] using h m heq
    rw [renumber, bodies, if_neg hm]
    refine bodies_renumber fun i hi => ?_
    have hnil := h i hi
    rw [bodies] at hnil
    split at hnil
    . cases hnil
    . exact hnil
  | cat as =>
    have hall : ∀ m, m + k = n → bodiesAll m as = [] := h
    exact bodiesAll_renumberAll hall
  | alt as =>
    have hall : ∀ m, m + k = n → bodiesAll m as = [] := h
    exact bodiesAll_renumberAll hall
  | _ => rfl

theorem bodiesAll_renumberAll {as : List Node} (h : ∀ m, m + k = n → bodiesAll m as = [])
    : bodiesAll n (renumberAll k as) = [] := by
  cases as with
  | nil => rfl
  | cons a as =>
    have hboth : ∀ m, m + k = n → a.bodies m = [] ∧ bodiesAll m as = [] :=
      fun m hm => List.append_eq_nil_iff.mp (h m hm)
    rw [renumberAll, bodiesAll, bodies_renumber fun m hm => (hboth m hm).1,
      bodiesAll_renumberAll fun m hm => (hboth m hm).2, List.append_nil]

end

end Node

/-! ### Parts that are read -/

def Nested.renumber (k : Nat) (a : Nested Node) : Nested Node :=
  ⟨a.value.renumber k, a.depth⟩

namespace Reader

def Item.renumber (k : Nat) (i : Item) : Item :=
  ⟨i.node.renumber k, i.isSetting⟩

theorem foldl_depth_renumber (k start : Nat) (parts : List (Nested Node))
    : (parts.map (Nested.renumber k)).foldl (fun d a => Nat.max d a.depth) start
        =
      parts.foldl (fun d a => Nat.max d a.depth) start := by
  rw [List.foldl_map]
  rfl

theorem renumber_combine {k : Nat} {build : List Node → Node}
    (hbuild : ∀ as, (build as).renumber k = build (as.map (Node.renumber k))) (parts : List (Nested Node))
    : (combine build parts).renumber k = combine build (parts.map (Nested.renumber k)) := by
  have hvalues : (build (parts.map Nested.value)).renumber k
      = build ((parts.map (Nested.renumber k)).map Nested.value) := by
    rw [hbuild, List.map_map, List.map_map]
    rfl
  match parts with
  | [] => exact congrArg (Nested.mk · 0) hvalues
  | [a] => rfl
  | a :: b :: parts =>
    have hdepth := foldl_depth_renumber k 0 (a :: b :: parts)
    exact congr (congrArg Nested.mk hvalues) (congrArg (· + 1) hdepth.symm)

theorem bodies_combine {build : List Node → Node} (hbuild : Node.Keeps build) {n : Nat} {parts : List (Nested Node)}
    (h : (Node.bodiesAll n (parts.map Nested.value)).length ≤ 1)
    : (combine build parts).value.bodies n = Node.bodiesAll n (parts.map Nested.value) := by
  unfold combine
  split
  . exact (List.append_nil _).symm
  . exact hbuild n _ h

theorem bodies_combine_sequence (n : Nat) (parts : List (Nested Node))
    : (combine Node.sequence parts).value.bodies n = Node.bodiesAll n (parts.map Nested.value) := by
  unfold combine
  split
  . exact (List.append_nil _).symm
  . exact Node.bodies_sequence n _

end Reader

end Triword.Regex
