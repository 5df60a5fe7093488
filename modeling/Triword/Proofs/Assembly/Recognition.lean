import Triword.Proofs.Assembly.Encode
import Triword.Proofs.Language.Spelling

/-!
Which lines of a source are instructions. In the bundled language a line is recognized in one way at most, and
none that is an instruction is taken for the declaration of a label, so a program has the words of each line
that a variant matches, and of no other.
-/

namespace Triword

namespace Assembly

open Triword.Language (bundled)

variable {l : Language} {t : LabelTable} {source : String} {origin : VirtualAddress} {p : Program}
variable {fault : Fault} {n : Nat}

theorem fault_of_encodeToken {token : Token} (h : encodeToken t token = .error fault)
    : (∃ e, fault = .token e) ∨ ∃ name, fault = .undefinedLabel name := by
  cases token with
  | immediate v =>
    unfold encodeToken at h
    dsimp only at h
    split at h
    . cases h
    . cases h
      exact .inl ⟨_, rfl⟩
  | label name =>
    unfold encodeToken at h
    dsimp only at h
    split at h
    . cases h
    . cases h
      exact .inr ⟨_, rfl⟩
  | address w | register r | indirect r => cases h

theorem fault_of_encodeMatch {m : Language.Match} (h : encodeMatch t m = .error fault)
    : (∃ e, fault = .token e) ∨ ∃ name, fault = .undefinedLabel name := by
  obtain hoperands | ⟨operands, -, h⟩ := Outcome.bind_eq_error_iff.mp h
  . obtain ⟨o, -, ho⟩ := Outcome.exists_of_mapM_eq_error hoperands
    obtain hread | ⟨token, -, ho⟩ := Outcome.bind_eq_error_iff.mp ho
    . generalize Token.read _ = r at hread
      cases r with
      | error e =>
        cases hread
        exact .inl ⟨e, rfl⟩
      | ok token => cases hread
    . obtain htoken | ⟨found, -, ho⟩ := Outcome.bind_eq_error_iff.mp ho
      . exact fault_of_encodeToken htoken
      . cases ho
  . cases h

theorem ne_ambiguous_of_encodeText {text : String} {mnemonics : List String}
    (hone : (l.variantsMatching text).length ≤ 1)
    : encodeText l t text ≠ .error (.ambiguous mnemonics) := by
  intro h
  unfold encodeText at h
  cases hmatches : l.variantsMatching text with
  | nil =>
    rw [hmatches] at h
    cases h
  | cons m ms =>
    obtain rfl : ms = [] := by simpa [hmatches] using hone
    rw [hmatches] at h
    obtain ⟨e, hfault⟩ | ⟨name, hfault⟩ := fault_of_encodeMatch h
    . cases hfault
    . cases hfault

theorem fault_of_locateLabelsFrom {k : Nat} {lines : List SourceLine}
    (h : locateLabelsFrom l origin t k lines = .error ⟨fault, n⟩) : ∃ label, fault = .duplicateLabel label := by
  induction lines generalizing t k with
  | nil => cases h
  | cons line lines ih =>
    unfold locateLabelsFrom at h
    split at h
    . split at h
      . exact ih h
      . cases h
        exact ⟨_, rfl⟩
    . exact ih h

theorem exists_of_encodeLines {lines : List SourceLine} {e : Error} (h : encodeLines l t lines = .error e)
    : ∃ line ∈ lines, encodeLine l t line = .error e := by
  unfold encodeLines at h
  cases hparts : lines.mapM (encodeLine l t) with
  | error e' =>
    rw [hparts] at h
    cases h
    exact Outcome.exists_of_mapM_eq_error hparts
  | ok parts =>
    rw [hparts] at h
    cases h

theorem encodeText_of_encodeLine_error {line : SourceLine} (h : encodeLine l t line = .error ⟨fault, n⟩)
    : encodeText l t line.text = .error fault := by
  unfold encodeLine at h
  split at h
  . cases h
  . generalize encodeText l t line.text = r at h ⊢
    cases r with
    | error f =>
      cases h
      rfl
    | ok words => cases h

theorem ne_ambiguous_of_assemble (hone : ∀ text, (l.variantsMatching text).length ≤ 1) (mnemonics : List String)
    (n : Nat) : assemble l origin source ≠ .error ⟨.ambiguous mnemonics, n⟩ := by
  intro h
  obtain hlabels | ⟨labels, -, h⟩ := Outcome.bind_eq_error_iff.mp h
  . obtain ⟨label, hfault⟩ := fault_of_locateLabelsFrom hlabels
    cases hfault
  obtain hlines | ⟨words, -, h⟩ := Outcome.bind_eq_error_iff.mp h
  . obtain ⟨line, -, hline⟩ := exists_of_encodeLines hlines
    exact ne_ambiguous_of_encodeText (hone line.text) (encodeText_of_encodeLine_error hline)
  . cases h

def matchingLines (l : Language) (lines : List SourceLine) : List SourceLine :=
  lines.filter fun line => !(l.variantsMatching line.text).isEmpty

theorem words_of_matchingLines {lines : List SourceLine} {parts : List (List Word)}
    (hlabels : ∀ text name, l.declaredLabel? text = some name → l.variantsMatching text = [])
    (h : lines.mapM (encodeLine l t) = .ok parts)
    : ∃ words, (matchingLines l lines).mapM (fun line => encodeText l t line.text) = .ok words
        ∧ parts.flatten = words.flatten
        ∧ words.flatten.length = 3 * (matchingLines l lines).length := by
  induction lines generalizing parts with
  | nil =>
    cases h
    exact ⟨[], rfl, rfl, rfl⟩
  | cons line lines ih =>
    rw [List.mapM_cons] at h
    obtain ⟨first, hfirst, h⟩ := Outcome.bind_eq_ok_iff.mp h
    obtain ⟨rest, hrest, h⟩ := Outcome.bind_eq_ok_iff.mp h
    cases h
    obtain ⟨words, hwords, hsame, hlength⟩ := ih hrest
    unfold matchingLines at hwords hlength ⊢
    rw [List.filter_cons, List.flatten_cons, hsame]
    cases hlabel : l.declaredLabel? line.text with
    | some name =>
      rw [eq_nil_of_encodeLine hlabel hfirst, hlabels line.text name hlabel]
      exact ⟨words, hwords, rfl, hlength⟩
    | none =>
      have htext := encodeText_of_encodeLine hlabel hfirst
      obtain ⟨m, operands, hmatch, -, -⟩ := exists_of_encodeText htext
      rw [hmatch]
      refine ⟨first :: words, ?_, rfl, ?_⟩
      . show (line :: _).mapM _ = _
        rw [List.mapM_cons, htext, hwords]
        rfl
      . show (first ++ words.flatten).length = 3 * (line :: _).length
        rw [List.length_append, length_of_encodeText htext, hlength, List.length_cons]
        omega

/--
A text is an instruction of the bundled language in one way at most and in none if it declares a label, so no
source is ambiguous, and a program has the words of all lines that are instructions, in their order.
-/
theorem recognized_in_one_way
    : (∀ text, (bundled.variantsMatching text).length ≤ 1
        ∧ ∀ name, bundled.declaredLabel? text = some name → bundled.variantsMatching text = [])
      ∧ ∀ origin source,
          (∀ mnemonics n, assemble bundled origin source ≠ .error ⟨.ambiguous mnemonics, n⟩)
          ∧ ∀ p, assemble bundled origin source = .ok p →
              ∃ words,
                (matchingLines bundled (sourceLines bundled source)).mapM
                    (fun line => encodeText bundled p.labels line.text) = .ok words
                  ∧ p.words = words.flatten
                  ∧ p.words.length = 3 * (matchingLines bundled (sourceLines bundled source)).length := by
  have hone := Language.Bundled.length_variantsMatching_le_one
  have hlabels : ∀ text name, bundled.declaredLabel? text = some name → bundled.variantsMatching text = [] :=
    fun _ _ => Language.Bundled.variantsMatching_of_declares
  refine ⟨fun text => ⟨hone text, hlabels text⟩, fun origin source => ⟨ne_ambiguous_of_assemble hone, ?_⟩⟩
  intro p hp
  obtain ⟨-, -, parts, hparts, hwords⟩ := exists_of_assemble hp
  obtain ⟨words, hmatching, hsame, hlength⟩ := words_of_matchingLines hlabels hparts
  rw [hwords, hsame]
  exact ⟨words, hmatching, rfl, hlength⟩

/-- A label, and two mnemonics of which the one begins as the other. -/
theorem recognized_in_one_way_pushing
    : bundled.declaredLabel? ".push:" = some "push"
      ∧ bundled.variantsMatching ".push:" = []
      ∧ ∃ p words, assemble bundled .zero ".push:\nPUSH push ; itself\npuſhf" = .ok p
        ∧ ([⟨2, "PUSH push"⟩, ⟨3, "puſhf"⟩] : List SourceLine).mapM
            (fun line => encodeText bundled p.labels line.text) = .ok words
        ∧ p.words = words.flatten := by
  obtain ⟨hlabel, hok, hlines⟩ : bundled.declaredLabel? ".push:" = some "push"
      ∧ (assemble bundled .zero ".push:\nPUSH push ; itself\npuſhf").toOption.isSome
      ∧ matchingLines bundled (sourceLines bundled ".push:\nPUSH push ; itself\npuſhf")
        = [⟨2, "PUSH push"⟩, ⟨3, "puſhf"⟩] := by
    rw [Language.bundled_eq]
    decide +kernel
  cases hp : assemble bundled .zero ".push:\nPUSH push ; itself\npuſhf" with
  | error e =>
    rw [hp] at hok
    cases hok
  | ok p =>
    obtain ⟨words, hwords, hsame, -⟩ := (recognized_in_one_way.2 _ _).2 p hp
    rw [hlines] at hwords
    exact ⟨hlabel, (recognized_in_one_way.1 _).2 _ hlabel, p, words, rfl, hwords, hsame⟩

end Assembly

end Triword
