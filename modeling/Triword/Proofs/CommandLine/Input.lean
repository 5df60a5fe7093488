import Triword.CommandLine.Run
import Triword.Proofs.Assembly.Source
import Triword.Proofs.Object.Binary
import Triword.Proofs.Object.Listing

/-!
The file that a run is given. It may be an object file of either kind or a source text, and no content is more
than one of these, so it does not matter as which of them it is read first.
-/

namespace Triword

namespace CommandLine

open Language.Bundled (IsForeign letterSets instructions)

variable {content : List Byte} {source : String} {p : Program}

/-- What the bytes of an object file are as characters, as far as these are not blank. -/
def binaryTitle : List Char :=
  "obj2".toList

theorem noMnemonic_titles : ∀ r ∈ instructions, ∀ start ∈ [Object.Listing.title, binaryTitle],
    Regex.Node.admits (letterSets r.mnemonic) start = false := by
  decide +kernel

theorem isForeign_title : IsForeign Object.Listing.title :=
  ⟨by decide, by decide, fun r hr => noMnemonic_titles r hr _ (by simp)⟩

theorem isForeign_binaryTitle : IsForeign binaryTitle :=
  ⟨by decide, by decide, fun r hr => noMnemonic_titles r hr _ (by simp)⟩

theorem prefix_of_binary (h : Object.Binary.read? (Text.utf8 source) = some p)
    : binaryTitle <+: source.toList := by
  obtain ⟨blocks, pieces, hbytes, -, -⟩ := Object.Binary.read?_eq_some_iff.mp h
  have hmark : Text.utf8 "obj2" ++ [0x20] = Object.Binary.mark := by decide +kernel
  apply Text.prefix_of_utf8
  rw [hbytes, ← hmark, List.append_assoc, List.append_assoc]
  exact List.prefix_append _ _

theorem listing_of_binary (h : Object.Binary.read? (Text.utf8 source) = some p)
    : Object.Listing.read? source = none := by
  obtain ⟨l, lines, hlines, hbegin⟩ :=
    Object.Listing.exists_contentLines_of_prefix (by decide) (by decide) (by decide) (by decide)
      (prefix_of_binary h)
  rw [Option.eq_none_iff_forall_ne_some]
  intro q hq
  obtain ⟨rest, blocks, htitle, -⟩ := Object.Listing.read?_eq_some_iff.mp hq
  rw [hlines] at htitle
  obtain ⟨rfl, -⟩ := List.cons.inj htitle
  -- The first line would begin both as the one kind of object file does and as the other.
  revert hbegin
  decide

variable {l : Language}

theorem not_assembles_of_binary (hl : l = Language.bundled)
    (h : Object.Binary.read? (Text.utf8 source) = some p) (origin : VirtualAddress) (q : Program)
    : assemble l origin source ≠ .ok q := by
  obtain ⟨rest, hrest⟩ := prefix_of_binary h
  have hfeed : '\n' ∉ binaryTitle := by decide
  obtain ⟨line, lines, hlines⟩ := Text.exists_splitOn_append hfeed rest
  have hline : binaryTitle ++ line ∈ (Text.trimStartList source.toList).splitOn '\n' := by
    rw [← hrest, Text.trimStartList_append (by decide) (by decide), hlines]
    exact List.mem_cons_self
  exact Assembly.not_assembles_of_foreign hl isForeign_binaryTitle (by decide) (by decide) hline
    (List.prefix_append _ _) origin q

theorem not_assembles_of_listing (hl : l = Language.bundled) (h : Object.Listing.read? source = some p)
    (origin : VirtualAddress) (q : Program)
    : assemble l origin source ≠ .ok q := by
  obtain ⟨lines, blocks, hlines, -⟩ := Object.Listing.read?_eq_some_iff.mp h
  rw [Object.Listing.contentLines_eq] at hlines
  have htitle : Object.Listing.title ∈ Object.Listing.title :: lines := List.mem_cons_self
  rw [← hlines] at htitle
  obtain ⟨line, hline, hcontent, -⟩ := Text.exists_of_mem_kept htitle
  refine Assembly.not_assembles_of_foreign hl isForeign_title (by decide) (by decide) hline ?_ origin q
  rw [← hcontent]
  exact (Text.trimEndList_prefix_self _).trans (Text.takeBefore_prefix_self _ line)

def readers (origin : VirtualAddress) : List (List Byte → Option Program) :=
  [Object.Binary.read?,
   fun content => (Text.ofUtf8? content).bind Object.Listing.read?,
   fun content => (Text.ofUtf8? content).bind fun source => (assemble .bundled origin source).toOption]

theorem toOption_eq_none {ε α : Type} {x : Except ε α} (h : ∀ a, x ≠ .ok a) : x.toOption = none := by
  cases x with
  | error e => rfl
  | ok a => exact absurd rfl (h a)

theorem pairwise_readers (origin : VirtualAddress) (content : List Byte)
    : (readers origin).Pairwise fun f g => f content = none ∨ g content = none := by
  unfold readers
  -- The language is only known by its name from here on, or it would be evaluated.
  generalize hl : Language.bundled = l
  simp only [List.pairwise_cons, List.forall_mem_cons, List.not_mem_nil, false_imp_iff, implies_true, and_true,
    List.Pairwise.nil]
  cases hsource : Text.ofUtf8? content with
  | none => exact ⟨⟨.inr rfl, .inr rfl⟩, .inl rfl⟩
  | some source =>
    obtain rfl := Text.ofUtf8?_eq_some_iff.mp hsource
    simp only [Option.bind_some]
    refine ⟨⟨?_, ?_⟩, ?_⟩
    . exact (Option.eq_none_or_eq_some _).imp_right fun ⟨p, hp⟩ => listing_of_binary hp
    . exact (Option.eq_none_or_eq_some _).imp_right fun ⟨p, hp⟩ =>
        toOption_eq_none (not_assembles_of_binary hl.symm hp origin)
    . exact (Option.eq_none_or_eq_some _).imp_right fun ⟨p, hp⟩ =>
        toOption_eq_none (not_assembles_of_listing hl.symm hp origin)

theorem findSome?_eq_of_perm {α β : Type} {fs gs : List (α → Option β)} {a : α} (hperm : fs.Perm gs)
    (h : gs.Pairwise fun f g => f a = none ∨ g a = none)
    : fs.findSome? (· a) = gs.findSome? (· a) := by
  induction hperm with
  | nil => rfl
  | cons f hperm ih => rw [List.findSome?_cons, List.findSome?_cons, ih (List.pairwise_cons.mp h).2]
  | swap f g fs =>
    obtain ⟨hf, -⟩ := List.pairwise_cons.mp h
    rw [List.findSome?_cons, List.findSome?_cons, List.findSome?_cons, List.findSome?_cons]
    obtain hnone | hnone := hf g List.mem_cons_self
    . rw [hnone]
    . rw [hnone]
  | trans hperm hperm' ih ih' =>
    rw [ih (hperm'.symm.pairwise h fun hfg => hfg.symm), ih' h]

variable {m : Type → Type} [Monad m]

theorem assembleContent_of_assemble [LawfulMonad m] (fs : FileSystem m) (path : String)
    {origin : VirtualAddress} (hsource : Text.ofUtf8? content = some source)
    (h : assemble .bundled origin source = .ok p)
    : assembleContent fs path content none origin = pure p := by
  unfold assembleContent decodeText loadLanguage
  rw [hsource]
  simp only [pure_bind, h]

/--
The program of a file that some readers in turn make of it. A file that none of them can read is taken
for a source.
-/
def loadWith (fs : FileSystem m) (path : String) (rs : List (List Byte → Option Program))
    : Task m Program := do
  let content ← readFile fs path
  match rs.findSome? (· content) with
  | some p => return p
  | none => assembleContent fs path content none .zero

theorem loadInput_eq [LawfulMonad m] (fs : FileSystem m) (path : String)
    : loadInput fs path none = loadWith fs path (readers .zero) := by
  unfold loadInput loadWith
  congr 1
  funext content
  unfold readObject? readers
  simp only [List.findSome?_cons, List.findSome?_nil]
  cases hbinary : Object.Binary.read? content with
  | some p => rfl
  | none =>
    cases hsource : Text.ofUtf8? content with
    | none => rfl
    | some source =>
      cases hlisting : Object.Listing.read? source with
      | some p => simp [hlisting]
      | none =>
        -- What no reader accepts is assembled once more, for the sake of the error.
        cases hassemble : assemble .bundled .zero source with
        | error e => simp [hlisting, hassemble, Except.toOption]
        | ok p =>
          simp [hlisting, hassemble, Except.toOption, assembleContent_of_assemble fs path hsource hassemble]

/--
No content is accepted by more than one of the readers, wherever a source is put; so a file is read as the
same program, or fails in the same way, in whatever order the readers are tried.
-/
theorem pairwise_readers_and_loadInput_eq [LawfulMonad m] (fs : FileSystem m) (path : String)
    : (∀ origin content, (readers origin).Pairwise fun f g => f content = none ∨ g content = none)
        ∧ (∀ origin source p, assemble .bundled origin source = .ok p → readObject? (Text.utf8 source) = none)
        ∧ ∀ rs, rs.Perm (readers .zero) → loadInput fs path none = loadWith fs path rs := by
  refine ⟨pairwise_readers, ?_, ?_⟩
  . intro origin source p h
    have hbinary : Object.Binary.read? (Text.utf8 source) = none :=
      Option.eq_none_iff_forall_ne_some.mpr fun q hq => not_assembles_of_binary rfl hq origin p h
    have hlisting : Object.Listing.read? source = none :=
      Option.eq_none_iff_forall_ne_some.mpr fun q hq => not_assembles_of_listing rfl hq origin p h
    unfold readObject?
    rw [hbinary, Text.ofUtf8?_utf8, Option.bind_some, hlisting]
    rfl
  . intro rs hperm
    rw [loadInput_eq]
    unfold loadWith
    congr 1
    funext content
    rw [findSome?_eq_of_perm hperm (pairwise_readers .zero content)]

/-- A program without words, at an address whose bytes are not those of any text. -/
def emptyProgram : Program where
  origin := ⟨0xFFFFFFFC⟩
  words := []
  labels := .empty

def emptyFiles : FileSystem Id where
  read _ := .ok (Object.Binary.write emptyProgram)
  write _ _ := .ok ()

theorem loadInput_of_emptyFiles
    : LawfulMonad Id ∧ loadInput emptyFiles "empty.obj" none = pure emptyProgram := by
  have hsource : Text.ofUtf8? (Object.Binary.write emptyProgram) = none := by decide +kernel
  have hread : Object.Binary.read? (Object.Binary.write emptyProgram) = some emptyProgram := by decide +kernel
  have hfile : readFile emptyFiles "empty.obj" = pure (Object.Binary.write emptyProgram) := rfl
  have hperm : (readers .zero).reverse.Perm (readers .zero) := List.reverse_perm _
  refine ⟨inferInstance, ?_⟩
  rw [(pairwise_readers_and_loadInput_eq emptyFiles "empty.obj").2.2 _ hperm]
  unfold loadWith
  rw [hfile, pure_bind]
  simp [readers, hsource, hread]

end CommandLine

end Triword
