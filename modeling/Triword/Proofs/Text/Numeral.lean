import Mathlib.Data.Nat.Digits.Defs
import Triword.Text.Hex
import Triword.Text.Numeral

/-!
Numbers are found again in their digits, in letters of either case and with any zeros before them.
-/

namespace Triword

namespace Text

variable {base bound n : Nat} {f : Char → Char}

def capitalDigits : List Char :=
  "0123456789ABCDEF".toList

theorem digitValue?_zero (hbase : 0 < base) : digitValue? base '0' = some 0 :=
  Option.filter_some_pos (p := (· < base)) (decide_eq_true hbase)

theorem digitValue?_ten : ∀ d < 10, digitValue? 10 d.digitChar = some d := by
  decide

theorem digitValue?_sixteen : ∀ d < 16, digitValue? 16 d.digitChar.toUpper = some d := by
  decide

theorem exists_of_mem_toDigits (hbase : 1 < base) {c : Char} (h : c ∈ Nat.toDigits base n)
    : ∃ d < base, c = d.digitChar := by
  induction n using Nat.strongRecOn with
  | ind n ih =>
    rw [Nat.toDigits_eq_if hbase] at h
    split at h
    . next hlt => exact ⟨n, hlt, List.mem_singleton.mp h⟩
    . next hle =>
      obtain h | h := List.mem_append.mp h
      . exact ih _ (Nat.div_lt_self (by omega) hbase) h
      . exact ⟨n % base, Nat.mod_lt _ (by omega), List.mem_singleton.mp h⟩

theorem mem_capitalDigits_of_mem_toDigits {c : Char} (h : c ∈ Nat.toDigits 10 n) : c ∈ capitalDigits := by
  have hdigit : ∀ d < 10, d.digitChar ∈ capitalDigits := by decide
  obtain ⟨d, hd, rfl⟩ := exists_of_mem_toDigits (by decide) h
  exact hdigit d hd

theorem toList_upperHex (width n : Nat)
    : (upperHex width n).toList
        =
      List.replicate (width - (Nat.toDigits 16 n).length) '0' ++ (Nat.toDigits 16 n).map Char.toUpper := by
  have hzero : '0'.toUpper = '0' := by decide
  unfold upperHex hexDigits
  rw [String.toList_ofList, List.map_append, List.map_replicate, hzero]

theorem mem_capitalDigits_of_mem_upperHex {width : Nat} {c : Char} (h : c ∈ (upperHex width n).toList)
    : c ∈ capitalDigits := by
  have hdigit : ∀ d < 16, d.digitChar.toUpper ∈ capitalDigits := by decide
  rw [toList_upperHex] at h
  obtain h | h := List.mem_append.mp h
  . rw [(List.mem_replicate.mp h).2]
    exact hdigit 0 (by decide)
  . obtain ⟨c, hc, rfl⟩ := List.mem_map.mp h
    obtain ⟨d, hd, rfl⟩ := exists_of_mem_toDigits (by decide) hc
    exact hdigit d hd

theorem length_upperHex {width : Nat} (hwidth : 0 < width) (h : n < Nat.pow 16 width)
    : (upperHex width n).toList.length = width := by
  have hlength : (Nat.toDigits 16 n).length ≤ width := (Nat.length_toDigits_le_iff (by decide) hwidth).mpr h
  rw [toList_upperHex, List.length_append, List.length_replicate, List.length_map]
  exact Nat.sub_add_cancel hlength

theorem not_mem_of_capitalDigits {c : Char} {cs : List Char} (hcs : ∀ d ∈ cs, d ∈ capitalDigits)
    (hc : c ∉ capitalDigits)
    : c ∉ cs :=
  fun h => hc (hcs c h)

theorem readDigits_append (n : Nat) (cs ds : List Char)
    : readDigits base bound n (cs ++ ds)
        =
      (readDigits base bound n cs).bind fun n => readDigits base bound n ds := by
  induction cs generalizing n with
  | nil => rfl
  | cons c cs ih =>
    rw [List.cons_append, readDigits, readDigits]
    cases digitValue? base c with
    | none => rfl
    | some d =>
      by_cases h : n * base + d < bound
      . simp only [h, if_true]
        exact ih _
      . simp only [h, if_false]
        rfl

theorem readDigits_singleton {c : Char} {d : Nat} (hd : digitValue? base c = some d)
    (hn : n * base + d < bound)
    : readDigits base bound n [c] = .ok (n * base + d) := by
  unfold readDigits
  rw [hd]
  exact if_pos hn

theorem readDigits_replicate (hbase : 0 < base) (hbound : 0 < bound) (k : Nat) (cs : List Char)
    : readDigits base bound 0 (List.replicate k '0' ++ cs) = readDigits base bound 0 cs := by
  induction k with
  | zero => rfl
  | succ k ih =>
    have hstep : readDigits base bound 0 ['0'] = .ok 0 := by
      rw [readDigits_singleton (digitValue?_zero hbase) (by omega), Nat.zero_mul]
    rw [List.replicate_succ, ← List.singleton_append, List.append_assoc, readDigits_append, hstep]
    exact ih

theorem readDigits_toDigits (hbase : 1 < base)
    (hdigit : ∀ d < base, digitValue? base (f d.digitChar) = some d)
    (hn : n < bound)
    : readDigits base bound 0 ((Nat.toDigits base n).map f) = .ok n := by
  -- All digits but the last are those of the quotient, which is smaller and so still within the bound.
  induction n using Nat.strongRecOn with
  | ind n ih =>
    rw [Nat.toDigits_eq_if hbase]
    split
    . next hlt =>
      rw [List.map_singleton, readDigits_singleton (hdigit n hlt) (by omega), Nat.zero_mul, Nat.zero_add]
    . next hle =>
      have hquotient : n / base < n := Nat.div_lt_self (by omega) hbase
      have hvalue : n / base * base + n % base = n := Nat.div_add_mod' n base
      rw [List.map_append, readDigits_append, ih _ hquotient (by omega)]
      show readDigits base bound (n / base) [f (n % base).digitChar] = _
      rw [readDigits_singleton (hdigit _ (Nat.mod_lt n (by omega))) (hvalue.symm ▸ hn), hvalue]

theorem ofDigits_reverse (base : Nat) (ds : List Nat)
    : Nat.ofDigits base ds.reverse = ds.foldl (fun n d => n * base + d) 0 := by
  rw [Nat.ofDigits_eq_foldr, List.foldr_reverse]
  congr 1
  funext n d
  show d + base * n = n * base + d
  rw [Nat.add_comm, Nat.mul_comm]

theorem le_foldl_digits (hbase : 0 < base) (n : Nat) (ds : List Nat)
    : n ≤ ds.foldl (fun n d => n * base + d) n := by
  induction ds generalizing n with
  | nil => exact Nat.le_refl n
  | cons d ds ih =>
    rw [List.foldl_cons]
    refine Nat.le_trans ?_ (ih (n * base + d))
    exact Nat.le_add_right_of_le (Nat.le_mul_of_pos_right n hbase)

/-- The first digits are worth too much only if all of them are, so it does not matter when it is noticed. -/
theorem readDigits_map {α : Type} {char : α → Char} {value : α → Nat} (hbase : 0 < base)
    (hdigit : ∀ a, digitValue? base (char a) = some (value a)) (hn : n < bound) (as : List α)
    : readDigits base bound n (as.map char)
        =
      if (as.map value).foldl (fun n d => n * base + d) n < bound
        then .ok ((as.map value).foldl (fun n d => n * base + d) n) else .error .overflow := by
  induction as generalizing n with
  | nil => exact (if_pos hn).symm
  | cons a as ih =>
    rw [List.map_cons, List.map_cons, List.foldl_cons, readDigits, hdigit]
    dsimp only
    by_cases hnext : n * base + value a < bound
    . rw [if_pos hnext]
      exact ih hnext
    . have hall := le_foldl_digits hbase (n * base + value a) (as.map value)
      rw [if_neg hnext, if_neg (by omega)]

theorem readNumeral_map {α : Type} {char : α → Char} {value : α → Nat} (hbase : 0 < base) (hbound : 0 < bound)
    (hdigit : ∀ a, digitValue? base (char a) = some (value a)) {as : List α} (hne : as ≠ [])
    : readNumeral base bound (as.map char)
        =
      if Nat.ofDigits base (as.map value).reverse < bound
        then .ok (Nat.ofDigits base (as.map value).reverse) else .error .overflow := by
  obtain ⟨a, as, rfl⟩ := List.exists_cons_of_ne_nil hne
  rw [ofDigits_reverse]
  exact readDigits_map hbase hdigit hbound (a :: as)

theorem readSigned?_of_readDigits {cs : List Char} (hne : cs ≠ []) (hplus : '+' ∉ cs)
    (h : readDigits base bound 0 cs = .ok n)
    : readSigned? base bound cs = some n := by
  obtain ⟨c, cs, rfl⟩ := List.exists_cons_of_ne_nil hne
  unfold readSigned?
  split
  . next heq =>
    cases heq
    exact absurd List.mem_cons_self hplus
  . show (readDigits base bound 0 (c :: cs)).toOption = some n
    rw [h]
    rfl

theorem readSigned?_toDigits (hn : n < bound) : readSigned? 10 bound (Nat.toDigits 10 n) = some n := by
  have hread : readDigits 10 bound 0 ((Nat.toDigits 10 n).map id) = .ok n :=
    readDigits_toDigits (by decide) digitValue?_ten hn
  rw [List.map_id] at hread
  refine readSigned?_of_readDigits Nat.toDigits_ne_nil ?_ hread
  exact not_mem_of_capitalDigits (fun d => mem_capitalDigits_of_mem_toDigits) (by decide)

theorem readSigned?_upperHex (width : Nat) (hn : n < bound)
    : readSigned? 16 bound (upperHex width n).toList = some n := by
  have hread : readDigits 16 bound 0 (upperHex width n).toList = .ok n := by
    rw [toList_upperHex, readDigits_replicate (by decide) (by omega)]
    exact readDigits_toDigits (by decide) digitValue?_sixteen hn
  refine readSigned?_of_readDigits ?_ ?_ hread
  . rw [toList_upperHex]
    exact List.append_ne_nil_of_right_ne_nil _ (mt List.map_eq_nil_iff.mp Nat.toDigits_ne_nil)
  . exact not_mem_of_capitalDigits (fun d => mem_capitalDigits_of_mem_upperHex) (by decide)

end Text

end Triword
