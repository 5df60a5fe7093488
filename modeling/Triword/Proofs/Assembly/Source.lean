import Triword.Proofs.Assembly.Encode
import Triword.Proofs.Language.Comments
import Triword.Proofs.Language.Lines
import Triword.Proofs.Text.Lines

/-!
The lines of a source text. What is assembled of a line is what comes before its comment, without the blanks around
it. So what a line begins with, behind its blanks, is assembled, and a text of which a line begins as none of the
bundled language can is no source.
-/

namespace Triword

namespace Assembly

open Language.Bundled (IsForeign)

variable {l : Language} {t : LabelTable} {source : String} {origin : VirtualAddress} {p : Program}
variable {start line : List Char} {ls : List (List Char)}

def said (line : List Char) : List Char :=
  Text.trimList (line.takeWhile (· != ';'))

theorem bne_semicolon_of_isBlank {c : Char} (hc : Text.isBlank c = true) : (c != ';') = true := by
  rw [bne_iff_ne]
  rintro rfl
  exact absurd hc (by decide)

theorem said_of_not_mem (h : ';' ∉ line) : said line = Text.trimList line := by
  have hself : line.takeWhile (· != ';') = line :=
    List.takeWhile_eq_self_iff.mpr (Language.Bundled.bne_semicolon_of_not_mem h)
  unfold said
  rw [hself]

theorem said_append_comment (line note : List Char) : said (line ++ ';' :: note) = said line := by
  unfold said
  rw [List.takeWhile_append]
  split
  . next hall =>
    have hself : line.takeWhile (· != ';') = line := (List.takeWhile_prefix _).eq_of_length hall
    rw [List.takeWhile_cons, if_neg (by decide), List.append_nil, hself]
  . rfl

theorem said_concat {c : Char} (line : List Char) (hc : Text.isBlank c = true) : said (line ++ [c]) = said line := by
  unfold said
  rw [List.takeWhile_append]
  split
  . next hall =>
    have hself : line.takeWhile (· != ';') = line := (List.takeWhile_prefix _).eq_of_length hall
    rw [List.takeWhile_cons, if_pos (bne_semicolon_of_isBlank hc), List.takeWhile_nil, Text.trimList_concat hc, hself]
  . rfl

theorem said_append_blanks {blanks : List Char} (line : List Char) (h : ∀ c ∈ blanks, Text.isBlank c = true)
    : said (line ++ blanks) = said line := by
  induction blanks generalizing line with
  | nil => rw [List.append_nil]
  | cons c blanks ih =>
    obtain ⟨hc, hblanks⟩ := List.forall_mem_cons.mp h
    rw [List.append_cons, ih _ hblanks, said_concat line hc]

theorem said_cons {c : Char} (line : List Char) (hc : Text.isBlank c = true) : said (c :: line) = said line := by
  unfold said
  rw [List.takeWhile_cons, if_pos (bne_semicolon_of_isBlank hc), Text.trimList_cons hc]

theorem said_blanks_append {blanks : List Char} (line : List Char) (h : ∀ c ∈ blanks, Text.isBlank c = true)
    : said (blanks ++ line) = said line := by
  unfold said
  rw [List.takeWhile_append_of_pos fun c hc => bne_semicolon_of_isBlank (h c hc), Text.trimList_append h]

theorem ofText?_eq (hl : l.comment = Language.Bundled.comment) (hline : '\n' ∉ line) (n : Nat)
    : SourceLine.ofText? l n (String.ofList line)
        =
      if said line = [] then none else some ⟨n, String.ofList (said line)⟩ := by
  rw [← String.toList_ofList (l := line)] at hline
  have htext : Text.trim (l.stripComments (String.ofList line)) = String.ofList (said line) := by
    unfold Text.trim said
    rw [Language.Bundled.toList_stripComments hl hline, String.toList_ofList]
  unfold SourceLine.ofText?
  rw [htext]
  simp [String.isEmpty_iff]

theorem filterMap_ofText? (hl : l.comment = Language.Bundled.comment) (hls : ∀ line ∈ ls, '\n' ∉ line) (n : Nat)
    : (((ls.map String.ofList).zipIdx n).filterMap fun (text, number) => SourceLine.ofText? l number text)
        =
      (Text.keptFrom said n ls).map fun x => ⟨x.2, String.ofList x.1⟩ := by
  induction ls generalizing n with
  | nil => rfl
  | cons line ls ih =>
    obtain ⟨hline, hls⟩ := List.forall_mem_cons.mp hls
    rw [List.map_cons, List.zipIdx_cons, List.filterMap_cons]
    dsimp only
    rw [ofText?_eq hl hline, ih hls, Text.keptFrom_cons]
    by_cases hsaid : said line = []
    . rw [if_pos hsaid, if_pos hsaid]
    . rw [if_neg hsaid, if_neg hsaid, List.map_cons]

/-- The lines of a source are what its pieces between line feeds say, with the numbers of these pieces. -/
theorem sourceLines_eq (hl : l.comment = Language.Bundled.comment) (source : String)
    : sourceLines l source
        =
      (Text.keptFrom said 1 (source.toList.splitOn '\n')).map fun x => ⟨x.2, String.ofList x.1⟩ := by
  unfold sourceLines Text.lines
  rw [filterMap_ofText? hl fun line => Text.not_mem_of_mem_linesList]
  rw [Text.keptFrom_linesList rfl fun line c => said_concat line]

theorem exists_sourceLine (hl : l.comment = Language.Bundled.comment) (hne : start ≠ [])
    (htrim : Text.trimList start = start) (hsemicolon : ';' ∉ start)
    (hline : line ∈ (Text.trimStartList source.toList).splitOn '\n') (hbegin : start <+: line)
    : ∃ x ∈ sourceLines l source, start <+: x.text.toList := by
  have hsaid : start <+: said line := by
    obtain ⟨rest, rfl⟩ := hbegin
    unfold said
    rw [List.takeWhile_append_of_pos (Language.Bundled.bne_semicolon_of_not_mem hsemicolon)]
    exact Text.prefix_trimList hne htrim _
  have hmem : said line ∈ (Text.keptFrom said 1 (source.toList.splitOn '\n')).map Prod.fst := by
    rw [Text.map_fst_keptFrom, ← Text.kept_splitOn_trimStartList rfl fun line c => said_cons line]
    refine Text.mem_kept hline fun hnil => hne ?_
    rw [hnil] at hsaid
    exact List.prefix_nil.mp hsaid
  obtain ⟨x, hx, hfound⟩ := List.mem_map.mp hmem
  rw [sourceLines_eq hl]
  refine ⟨_, List.mem_map_of_mem hx, ?_⟩
  rw [String.toList_ofList, hfound]
  exact hsaid

theorem encodeLine_of_foreign (hl : l = Language.bundled) {x : SourceLine} (hstart : IsForeign start)
    (hbegin : start <+: x.text.toList)
    : encodeLine l t x = .error ⟨.unrecognized x.text, x.number⟩ := by
  have hdeclaration : l.declaration = Language.Bundled.declaration := by
    rw [hl, Language.bundled_eq]
  have hvariants : l.variantsMatching x.text = [] := by
    rw [hl]
    exact Language.Bundled.variantsMatching_of_foreign hstart hbegin
  unfold encodeLine encodeText
  rw [Language.Bundled.not_declares_of_foreign hdeclaration hstart hbegin, hvariants]
  rfl

theorem not_assembles_of_foreign (hl : l = Language.bundled) (hstart : IsForeign start)
    (htrim : Text.trimList start = start) (hsemicolon : ';' ∉ start)
    (hline : line ∈ (Text.trimStartList source.toList).splitOn '\n') (hbegin : start <+: line)
    (origin : VirtualAddress) (p : Program)
    : assemble l origin source ≠ .ok p := by
  intro h
  have hcomment : l.comment = Language.Bundled.comment := by
    rw [hl, Language.bundled_eq]
  obtain ⟨-, -, parts, hparts, -⟩ := exists_of_assemble h
  obtain ⟨x, hx, htext⟩ := exists_sourceLine hcomment hstart.nonempty htrim hsemicolon hline hbegin
  obtain ⟨i, hi⟩ := List.getElem?_of_mem hx
  obtain ⟨words, hwords, -⟩ := Outcome.getElem?_of_mapM_eq_ok hparts hi
  rw [encodeLine_of_foreign hl hstart htext] at hwords
  cases hwords

end Assembly

end Triword
