import Triword.Proofs.Action
import Triword.Proofs.Assembly.Source

/-!
Edits that do not matter. Comments, blanks and line ends can be changed and lines that say nothing can be inserted:
the lines that are assembled stay as they are but for their numbers, and so do the program and the faults in it.
-/

namespace Triword

namespace Assembly

variable {l : Language} {t : LabelTable} {line line' : List Char} {ls ls' : List (List Char)}
variable {moved : Nat → Nat} {source source' : String}

def IsEnding (ending : List Char) : Prop :=
  ending = [] ∨ ending = ['\r']

def IsGap (c : Char) : Prop :=
  Text.isBlank c = true ∧ c ≠ '\n'

structure IsSilent (line : List Char) : Prop where
  noLineFeed : '\n' ∉ line
  blank : ∀ c ∈ line.takeWhile (· != ';'), Text.isBlank c = true

/-- A change of what comes before a line feed, where that is the line and, if there is one, a carriage return. -/
inductive LineEdit : List Char → List Char → Prop where
  | comment (line : List Char) {note ending : List Char} (hnote : '\n' ∉ note) (hending : IsEnding ending)
      : LineEdit (line ++ ending) (line ++ ';' :: note ++ ending)
  | blanksBefore (line : List Char) {blanks : List Char} (hblanks : ∀ c ∈ blanks, IsGap c)
      : LineEdit line (blanks ++ line)
  | blanksBehind (line : List Char) {blanks ending : List Char} (hblanks : ∀ c ∈ blanks, IsGap c)
      (hending : IsEnding ending) : LineEdit (line ++ ending) (line ++ blanks ++ ending)
  | carriageReturn (line : List Char) : LineEdit line (line ++ ['\r'])
  | noCarriageReturn (line : List Char) : LineEdit (line ++ ['\r']) line

/--
A change of the pieces of a source between its line feeds, with the number of lines that are inserted before each
line.
-/
inductive Edit : List (List Char) → List (List Char) → (Nat → Nat) → Prop where
  | insert {before after lines : List (List Char)} (hlines : ∀ line ∈ lines, IsSilent line)
      : Edit (before ++ after) (before ++ lines ++ after) fun n => if n ≤ before.length then 0 else lines.length
  | change {before after : List (List Char)} {line line' : List Char} (hline : LineEdit line line')
      : Edit (before ++ line :: after) (before ++ line' :: after) fun _ => 0

inductive Edits : List (List Char) → List (List Char) → (Nat → Nat) → Prop where
  | refl (ls : List (List Char)) : Edits ls ls fun _ => 0
  | step {ls ls' ls'' : List (List Char)} {moved moved' : Nat → Nat} (hedits : Edits ls ls' moved)
      (hedit : Edit ls' ls'' moved') : Edits ls ls'' fun n => moved n + moved' (n + moved n)

theorem isBlank_of_isEnding {ending : List Char} (h : IsEnding ending) : ∀ c ∈ ending, Text.isBlank c = true := by
  obtain rfl | rfl := h
  . exact List.forall_mem_nil _
  . exact List.forall_mem_singleton.mpr (by decide)

theorem said_of_lineEdit (h : LineEdit line line') : said line' = said line := by
  cases h with
  | comment line hnote hending =>
    have hblank := isBlank_of_isEnding hending
    rw [said_append_blanks _ hblank, said_append_blanks _ hblank, said_append_comment]
  | blanksBefore line hblanks => exact said_blanks_append line fun c hc => (hblanks c hc).1
  | blanksBehind line hblanks hending =>
    have hblank := isBlank_of_isEnding hending
    rw [said_append_blanks _ hblank, said_append_blanks _ hblank]
    exact said_append_blanks line fun c hc => (hblanks c hc).1
  | carriageReturn line => exact said_concat line (by decide)
  | noCarriageReturn => exact (said_concat line' (by decide)).symm

theorem said_of_isSilent (h : IsSilent line) : said line = [] :=
  Text.trimList_eq_nil_iff.mpr h.blank

/-- Lines that say nothing count, so those behind them have greater numbers. -/
theorem keptFrom_of_edit (h : Edit ls ls' moved)
    : Text.keptFrom said 1 ls' = (Text.keptFrom said 1 ls).map fun x => (x.1, x.2 + moved x.2) := by
  cases h with
  | @insert before after lines hlines =>
    have hsilent : Text.keptFrom said (1 + before.length) lines = [] :=
      Text.keptFrom_eq_nil (fun line hline => said_of_isSilent (hlines line hline)) _
    have hbefore : ∀ x ∈ Text.keptFrom said 1 before,
        (x.1, x.2 + if x.2 ≤ before.length then 0 else lines.length) = x := by
      intro x hx
      obtain ⟨-, hlt⟩ := Text.number_of_mem_keptFrom hx
      rw [if_pos (by omega), Nat.add_zero]
    have hafter : ∀ x ∈ Text.keptFrom said (1 + before.length) after,
        (x.1, x.2 + if x.2 ≤ before.length then 0 else lines.length) = (x.1, x.2 + lines.length) := by
      intro x hx
      obtain ⟨hle, -⟩ := Text.number_of_mem_keptFrom hx
      rw [if_neg (by omega)]
    rw [Text.keptFrom_append, Text.keptFrom_append, Text.keptFrom_append, hsilent, List.append_nil, List.map_append,
      List.length_append, ← Nat.add_assoc, Text.keptFrom_add, List.map_congr_left hafter, List.map_congr_left hbefore,
      List.map_id']
  | change hline =>
    rw [Text.keptFrom_append, Text.keptFrom_append, Text.keptFrom_cons_congr (said_of_lineEdit hline) rfl]
    simp only [Nat.add_zero, Prod.mk.eta, List.map_id']

theorem keptFrom_of_edits (h : Edits ls ls' moved)
    : Text.keptFrom said 1 ls' = (Text.keptFrom said 1 ls).map fun x => (x.1, x.2 + moved x.2) := by
  induction h with
  | refl => simp only [Nat.add_zero, Prod.mk.eta, List.map_id']
  | step hedits hedit ih =>
    rw [keptFrom_of_edit hedit, ih, List.map_map]
    simp only [Function.comp_def, Nat.add_assoc]

def SourceLine.renumber (f : Nat → Nat) (line : SourceLine) : SourceLine :=
  ⟨f line.number, line.text⟩

def Error.renumber (f : Nat → Nat) (e : Error) : Error :=
  ⟨e.fault, f e.line⟩

variable {f : Nat → Nat} {origin : VirtualAddress}

theorem locateLabelsFrom_renumber (k : Nat) (lines : List SourceLine)
    : locateLabelsFrom l origin t k (lines.map (SourceLine.renumber f))
        =
      (locateLabelsFrom l origin t k lines).mapError (Error.renumber f) := by
  induction lines generalizing t k with
  | nil => rfl
  | cons line lines ih =>
    rw [List.map_cons, locateLabelsFrom, locateLabelsFrom]
    unfold SourceLine.renumber at ih ⊢
    dsimp only
    cases l.declaredLabel? line.text with
    | none => exact ih (k + 1)
    | some label =>
      dsimp only
      cases t.insert? label (instructionAddress origin k) with
      | none => rfl
      | some t => exact ih k

theorem encodeLine_renumber (line : SourceLine)
    : encodeLine l t (line.renumber f) = (encodeLine l t line).mapError (Error.renumber f) := by
  unfold encodeLine SourceLine.renumber
  dsimp only
  cases l.declaredLabel? line.text with
  | some label => rfl
  | none =>
    dsimp only
    rw [Outcome.mapError_mapError]
    rfl

theorem encodeLines_renumber (lines : List SourceLine)
    : encodeLines l t (lines.map (SourceLine.renumber f)) = (encodeLines l t lines).mapError (Error.renumber f) := by
  have hlines : (fun line => encodeLine l t (line.renumber f))
      = fun line => (encodeLine l t line).mapError (Error.renumber f) :=
    funext encodeLine_renumber
  unfold encodeLines
  rw [List.mapM_map, Function.comp_def, hlines, Outcome.mapM_mapError]
  cases lines.mapM (encodeLine l t) with
  | error e => rfl
  | ok words => rfl

theorem assemble_of_renumber (h : sourceLines l source' = (sourceLines l source).map (SourceLine.renumber f))
    : assemble l origin source' = (assemble l origin source).mapError (Error.renumber f) := by
  unfold assemble locateLabels
  simp only [h, locateLabelsFrom_renumber, encodeLines_renumber, Outcome.mapError_bind]
  rfl

/--
Comments, blanks and line ends do not matter, nor do lines that say nothing: the edited source assembles to the same
program, or has the same fault in the same line, whose number has grown by that of the lines inserted before it.
-/
theorem assemble_of_edits (h : Edits (source.toList.splitOn '\n') (source'.toList.splitOn '\n') moved)
    (origin : VirtualAddress)
    : assemble .bundled origin source'
        =
      (assemble .bundled origin source).mapError fun e => ⟨e.fault, e.line + moved e.line⟩ := by
  have hl : Language.bundled.comment = Language.Bundled.comment := by
    rw [Language.bundled_eq]
  have hlines : sourceLines .bundled source'
      = (sourceLines .bundled source).map (SourceLine.renumber fun n => n + moved n) := by
    rw [sourceLines_eq hl, sourceLines_eq hl, keptFrom_of_edits h, List.map_map, List.map_map]
    rfl
  exact assemble_of_renumber hlines

def declaredTwice : String :=
  ".a:\n.a:\n"

def annotated : String :=
  "; twice\r\n\t.a:; once\r\n.a:\n"

theorem assemble_of_annotated
    : ∃ moved, Edits (declaredTwice.toList.splitOn '\n') (annotated.toList.splitOn '\n') moved
        ∧ moved 2 = 1
        ∧ assemble .bundled ⟨0⟩ declaredTwice = .error ⟨.duplicateLabel "a", 2⟩
        ∧ assemble .bundled ⟨0⟩ annotated = .error ⟨.duplicateLabel "a", 3⟩ := by
  have hpieces : declaredTwice.toList.splitOn '\n' = [".a:".toList, ".a:".toList, []] := by decide +kernel
  have hpieces' : annotated.toList.splitOn '\n'
      = ["; twice\r".toList, "\t.a:; once\r".toList, ".a:".toList, []] := by
    decide +kernel
  have hnothing : "; twice\r".toList.takeWhile (· != ';') = [] := by decide
  have hsilent : ∀ line ∈ ["; twice\r".toList], IsSilent line := by
    refine List.forall_mem_singleton.mpr ⟨by decide, ?_⟩
    rw [hnothing]
    exact List.forall_mem_nil _
  have hnote : '\n' ∉ " once".toList := by decide
  have hgap : ∀ c ∈ ['\t'], IsGap c := List.forall_mem_singleton.mpr ⟨by decide, by decide⟩
  have hinsert := @Edit.insert [] [".a:".toList, ".a:".toList, []] _ hsilent
  have hcomment := @Edit.change ["; twice\r".toList] [".a:".toList, []] _ _
    (.comment ".a:".toList hnote (.inl rfl))
  have hblank := @Edit.change ["; twice\r".toList] [".a:".toList, []] _ _
    (.blanksBefore ".a:; once".toList hgap)
  have hreturn := @Edit.change ["; twice\r".toList] [".a:".toList, []] _ _
    (.carriageReturn "\t.a:; once".toList)
  have hfault : assemble .bundled ⟨0⟩ declaredTwice = .error ⟨.duplicateLabel "a", 2⟩ := by
    rw [Language.bundled_eq]
    decide +kernel
  obtain ⟨moved, hedits, hmoved⟩ : ∃ moved, Edits (declaredTwice.toList.splitOn '\n')
      (annotated.toList.splitOn '\n') moved ∧ moved 2 = 1 := by
    rw [hpieces, hpieces']
    exact ⟨_, .step (.step (.step (.step (.refl _) hinsert) hcomment) hblank) hreturn, rfl⟩
  refine ⟨moved, hedits, hmoved, hfault, ?_⟩
  rw [assemble_of_edits hedits, hfault, Except.mapError, hmoved]

end Assembly

end Triword
