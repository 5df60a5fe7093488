import Triword.Proofs.Language.Lines
import Triword.Proofs.Regex.Accepts
import Triword.Proofs.Regex.Leftmost

/-!
Comments of the bundled language. A comment goes from its semicolon to the end of the line, so what is left of a line
is all that comes before its first semicolon.
-/

namespace Triword

namespace Language

namespace Bundled

open Regex (CharSet Node Place)

variable {l : Language} {line : String} {before after : List Char}

theorem edges_noLineFeed : (CharSet.single '\n').compl.edges = [0, 10, 11] := by
  decide

theorem contains_noLineFeed {c : Char} (hc : c ≠ '\n') : (CharSet.single '\n').compl.contains c := by
  have hten : c.toNat ≠ 10 := fun h => hc (Char.toNat_inj.mp h)
  unfold CharSet.contains
  rw [edges_noLineFeed]
  simp only [CharSet.holds]
  grind

theorem of_passes_comment {p q : Place} {ms : List Regex.Mark} (h : comment.node.Passes p q ms)
    : (∃ rest, p.rest = ';' :: rest) ∧ q.rest = [] := by
  obtain ⟨r, ms₁, ms₂, ⟨hsemicolon, -⟩, ⟨t, ms₃, ms₄, -, hend, -⟩, -⟩ := h
  obtain ⟨u, ms₅, ms₆, ⟨hend, rfl, -⟩, ⟨rfl, -⟩, -⟩ := hend
  exact ⟨⟨r.rest, hsemicolon.rest_eq⟩, List.isEmpty_iff.mp hend⟩

theorem exists_passes_comment {p q : Place} (hreads : p.Reads ([';'] ++ after) q) (hend : q.rest = [])
    (hafter : '\n' ∉ after) : ∃ ms, comment.node.Passes p q ms := by
  obtain ⟨r, hsemicolon, hnote⟩ := hreads.exists_of_append
  have hchars : ∀ c ∈ after, (CharSet.single '\n').compl.contains c := by
    intro c hc
    apply contains_noLineFeed
    rintro rfl
    exact hafter hc
  have hrow : (Node.rep (.set (CharSet.single '\n').compl) 0 none false).Accepts after :=
    Node.accepts_row hchars (Nat.zero_le _)
  obtain ⟨ms, hrow⟩ := hrow hnote
  have htextEnd : (Node.look .textEnd).Passes q q [] := ⟨List.isEmpty_iff.mpr hend, rfl, rfl⟩
  exact ⟨_, r, [], _, ⟨hsemicolon, rfl⟩, ⟨q, ms, _, hrow, ⟨q, [], [], htextEnd, ⟨rfl, rfl⟩, rfl⟩, rfl⟩, rfl⟩

theorem exists_first?_comment (hline : line.toList = before ++ ([';'] ++ after)) (hbefore : ';' ∉ before)
    (hafter : '\n' ∉ after)
    : ∃ m, Regex.Search.first? comment.code (.start line.toList) = some m
        ∧ m.start = before.length
        ∧ m.stop = line.toList.length := by
  obtain ⟨q, hreads, hend⟩ := Place.exists_reads_end (.start line.toList) hline
  obtain ⟨p, hp, hreads⟩ := hreads.exists_of_append
  have hin : p.IsIn line.toList := ⟨before, hp⟩
  have hpos : p.pos = 0 + before.length := hp.pos_eq
  obtain ⟨ms, hpasses⟩ := exists_passes_comment hreads hend hafter
  have hsome := Regex.Expression.isSome_captures?_iff.mpr ⟨p, q, ms, hin, hpasses⟩
  unfold Regex.Expression.captures? at hsome
  rw [Option.isSome_map] at hsome
  obtain ⟨m, hm⟩ := Option.isSome_iff_exists.mp hsome
  obtain ⟨p', q', hp', hstart, hstop, hpasses'⟩ := Regex.Expression.exists_passes_of_first? hm
  obtain ⟨⟨rest, hrest⟩, hend'⟩ := of_passes_comment hpasses'
  refine ⟨m, hm, ?_, ?_⟩
  -- A match begins at a semicolon, so not before the first one, and no later than the comment there.
  . have hearliest := Regex.Expression.start_le_of_passes hin hpasses hm
    have hlatest := hp'.length_le_pos (hline ▸ List.prefix_append _ _) hbefore hrest
    omega
  . obtain ⟨cs, hreads'⟩ := Node.exists_reads hpasses'
    have hlength := (hp'.of_reads hreads').pos_add_length
    rw [hend', List.length_nil] at hlength
    omega

theorem stripComments_eq_self (hl : l.comment = comment) (h : ';' ∉ line.toList) : l.stripComments line = line := by
  unfold stripComments
  rw [hl]
  apply Regex.Expression.erase_eq_self
  intro p q ms hp hpasses
  obtain ⟨⟨rest, hrest⟩, -⟩ := of_passes_comment hpasses
  rw [hp.rest_eq] at hrest
  exact h (List.mem_of_mem_drop (hrest ▸ List.mem_cons_self))

theorem bne_semicolon_of_not_mem {cs : List Char} (h : ';' ∉ cs) : ∀ c ∈ cs, (c != ';') = true := by
  intro c hc
  rw [bne_iff_ne]
  rintro rfl
  exact h hc

theorem toList_stripComments (hl : l.comment = comment) (hline : '\n' ∉ line.toList)
    : (l.stripComments line).toList = line.toList.takeWhile (· != ';') := by
  by_cases hsemicolon : ';' ∈ line.toList
  . obtain ⟨before, after, hsplit, hbefore⟩ := List.eq_append_cons_of_mem hsemicolon
    have hafter : '\n' ∉ after := by
      intro hmem
      rw [hsplit] at hline
      exact hline (List.mem_append_right _ (List.mem_cons_of_mem _ hmem))
    obtain ⟨m, hm, hstart, hstop⟩ := exists_first?_comment hsplit hbefore hafter
    unfold stripComments
    rw [hl, Regex.Expression.toList_erase_of_first? hm hstop, hstart, hsplit, List.take_left,
      List.takeWhile_append_of_pos (bne_semicolon_of_not_mem hbefore), List.takeWhile_cons_of_neg (by decide),
      List.append_nil]
  . rw [stripComments_eq_self hl hsemicolon, eq_comm, List.takeWhile_eq_self_iff]
    exact bne_semicolon_of_not_mem hsemicolon

end Bundled

end Language

end Triword
