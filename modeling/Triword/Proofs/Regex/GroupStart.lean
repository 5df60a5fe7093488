import Triword.Proofs.Regex.Local

/-!
How groups begin. A group that sets no flags begins with nothing but its parenthesis, with the sign of a group
without a number, or with a name, and ends with the parenthesis behind its body.
-/

namespace Triword.Regex.Reader

variable {props : Properties} {cs : List Char} {groups : Nat} {names : List (String × Nat)}

def lookMarks : List (List Char) :=
  [['?', '='], ['?', '!'], ['?', '<', '='], ['?', '<', '!']]

def nameMarks : List (List Char) :=
  [['?', 'P', '<'], ['?', '<']]

def unnamedStart : Reader GroupStart := do
  if ← skip? ['?'] then
    let cs ← Reader.rest
    let letters := cs.takeWhile fun c => c ≠ ':' ∧ c ≠ ')'
    setRest (cs.drop letters.length)
    flagLetters letters
    match ← next with
    | ')' => if letters.isEmpty then failure else return .settings
    | _ => return .unnumbered
  return .numbered (← newNumber)

theorem either_skip? {first second : List Char} (hfirst : ¬first <+: cs) (hsecond : ¬second <+: cs)
    : (skip? first <||> skip? second) (ahead props cs groups names) = some (false, ahead props cs groups names) := by
  show (skip? first _).bind _ = _
  rw [skip?_of_not_begins hfirst]
  exact skip?_of_not_begins hsecond

theorem groupStart_unnamed (h : ∀ mark ∈ lookMarks ++ nameMarks, ¬mark <+: cs)
    : groupStart (ahead props cs groups names) = unnamedStart (ahead props cs groups names) := by
  show ((skip? ['?', '='] <||> skip? ['?', '!']) (ahead props cs groups names)).bind _ = _
  rw [either_skip? (h _ (by simp [lookMarks])) (h _ (by simp [lookMarks]))]
  show ((skip? ['?', '<', '='] <||> skip? ['?', '<', '!']) (ahead props cs groups names)).bind _ = _
  rw [either_skip? (h _ (by simp [lookMarks])) (h _ (by simp [lookMarks]))]
  show ((skip? ['?', 'P', '<'] <||> skip? ['?', '<']) (ahead props cs groups names)).bind _ = _
  rw [either_skip? (h _ (by simp [nameMarks])) (h _ (by simp [nameMarks]))]
  rfl

theorem groupStart_named {mark : List Char} (hmark : mark ∈ nameMarks)
    (h : ∀ look ∈ lookMarks, ¬look <+: mark ++ cs)
    : groupStart (ahead props (mark ++ cs) groups names)
        =
      (groupName (groups + 1) >>= fun _ => pure (.numbered (groups + 1))) (ahead props cs (groups + 1) names) := by
  have hname : (skip? ['?', 'P', '<'] <||> skip? ['?', '<']) (ahead props (mark ++ cs) groups names)
      = some (true, ahead props cs groups names) := by
    simp only [nameMarks, List.mem_cons, List.not_mem_nil, or_false] at hmark
    obtain rfl | rfl := hmark
    . rfl
    . rfl
  show ((skip? ['?', '='] <||> skip? ['?', '!']) (ahead props (mark ++ cs) groups names)).bind _ = _
  rw [either_skip? (h _ (by simp [lookMarks])) (h _ (by simp [lookMarks]))]
  show ((skip? ['?', '<', '='] <||> skip? ['?', '<', '!']) (ahead props (mark ++ cs) groups names)).bind _ = _
  rw [either_skip? (h _ (by simp [lookMarks])) (h _ (by simp [lookMarks]))]
  show ((skip? ['?', 'P', '<'] <||> skip? ['?', '<']) (ahead props (mark ++ cs) groups names)).bind _ = _
  rw [hname]
  rfl

theorem flagLetters_unknown (letters : List Char) (s : State) : flagLetters ('P' :: letters) s = none := by
  have hon : ('P' :: letters).takeWhile (· ≠ '-') = 'P' :: letters.takeWhile (· ≠ '-') := by simp
  unfold flagLetters
  rw [hon]
  dsimp only
  split
  . rfl
  . split
    . rfl
    . rfl

theorem unnamedStart_unknown (cs : List Char) (groups : Nat) (names : List (String × Nat))
    : unnamedStart (ahead props ('?' :: 'P' :: cs) groups names) = none := by
  show (flagLetters (('P' :: cs).takeWhile fun c => c ≠ ':' ∧ c ≠ ')') _).bind _ = none
  rw [List.takeWhile_cons_of_pos (by decide), flagLetters_unknown]
  rfl

theorem groupStart_of_look {mark : List Char} (hmark : mark ∈ nameMarks) {look : List Char} (hlook : look ∈ lookMarks)
    (hbegin : look <+: mark ++ cs) : groupStart (ahead props (mark ++ cs) groups names) = none := by
  obtain ⟨tail, htail⟩ := hbegin
  simp only [nameMarks, lookMarks, List.mem_cons, List.not_mem_nil, or_false] at hmark hlook
  obtain rfl | rfl := hmark
  . obtain rfl | rfl | rfl | rfl := hlook
    all_goals simp at htail
  . obtain rfl | rfl | rfl | rfl := hlook
    . simp at htail
    . simp at htail
    . cases htail
      rfl
    . cases htail
      rfl

theorem groupName_cases {number : Nat} {s : State}
    (h : groupName number (ahead props cs groups names) = some ((), s))
    : ∃ name ds, cs = name ++ '>' :: ds ∧ '>' ∉ name ∧ names.any (·.1 == String.ofList name) = false
        ∧ s = ahead props ds groups ((String.ofList name, number) :: names) := by
  unfold groupName at h
  rw [rest_bind] at h
  dsimp only at h
  by_cases hclose : '>' ∈ cs
  . obtain ⟨name, ds, rfl, hname⟩ := List.eq_append_cons_of_mem hclose
    refine ⟨name, ds, rfl, hname, ?_⟩
    rw [takeWhile_ne_append_cons hname, List.drop_left] at h
    replace h : (if !name.head?.any isNameStart || !name.all isNamePart
        || names.any (·.1 == String.ofList name) then _ else _ : Reader Unit) (ahead props ds groups names) = _ := h
    split at h
    . cases h
    . next hgood =>
      cases h
      simp only [Bool.or_eq_true, not_or, Bool.not_eq_true] at hgood
      exact ⟨hgood.2, rfl⟩
  . have hall : cs.takeWhile (· ≠ '>') = cs := by
      rw [List.takeWhile_eq_self_iff]
      intro c hc
      simpa using fun heq : c = '>' => hclose (heq ▸ hc)
    rw [hall, List.drop_length] at h
    cases h

theorem exists_of_mark {mark : List Char} (hmark : mark ∈ nameMarks) {start : GroupStart} {s : State}
    (h : groupStart (ahead props (mark ++ cs) groups names) = some (start, s))
    : ∃ name ds, cs = name ++ '>' :: ds ∧ '>' ∉ name ∧ names.any (·.1 == String.ofList name) = false
        ∧ start = .numbered (groups + 1)
        ∧ s = ahead props ds (groups + 1) ((String.ofList name, groups + 1) :: names) := by
  have hlook : ∀ look ∈ lookMarks, ¬look <+: mark ++ cs := by
    intro look hlook hbegin
    rw [groupStart_of_look hmark hlook hbegin] at h
    cases h
  rw [groupStart_named hmark hlook] at h
  obtain ⟨⟨⟩, s₁, hname, h⟩ := exists_of_bind h
  cases h
  obtain ⟨name, ds, hcs, hclose, hfresh, hs⟩ := groupName_cases hname
  exact ⟨name, ds, hcs, hclose, hfresh, rfl, hs⟩

theorem eq_of_append_cons_eq {d : Char} {before before' cs' : List Char} (h : d ∉ before) (h' : d ∉ before')
    (heq : before ++ d :: cs = before' ++ d :: cs') : before = before' ∧ cs = cs' := by
  have hbefore : before = before' := by
    rw [← takeWhile_ne_append_cons h cs, heq, takeWhile_ne_append_cons h' cs']
  subst hbefore
  exact ⟨rfl, List.tail_eq_of_cons_eq (List.append_cancel_left heq)⟩

theorem groupStart_of_name {mark name : List Char} (hmark : mark ∈ nameMarks) (hname : '>' ∉ name)
    {start : GroupStart} {s : State}
    (h : groupStart (ahead props (mark ++ (name ++ '>' :: cs)) groups names) = some (start, s))
    : start = .numbered (groups + 1) ∧ s = ahead props cs (groups + 1) ((String.ofList name, groups + 1) :: names)
        ∧ names.any (·.1 == String.ofList name) = false := by
  obtain ⟨name', ds, hsplit, hname', hfresh, rfl, rfl⟩ := exists_of_mark hmark h
  obtain ⟨rfl, rfl⟩ := eq_of_append_cons_eq hname hname' hsplit
  exact ⟨rfl, rfl, hfresh⟩

theorem groupStart_of_head (h : cs.head? ≠ some '?')
    : groupStart (ahead props cs groups names) = some (.numbered (groups + 1), ahead props cs (groups + 1) names) := by
  have hmarks : ∀ mark : List Char, ¬('?' :: mark <+: cs) := by
    rintro mark ⟨tail, rfl⟩
    exact h rfl
  have hother : ∀ mark ∈ lookMarks ++ nameMarks, ¬mark <+: cs := by
    intro mark hmark
    simp only [lookMarks, nameMarks, List.cons_append, List.nil_append, List.mem_cons, List.not_mem_nil,
      or_false] at hmark
    obtain rfl | rfl | rfl | rfl | rfl | rfl := hmark
    all_goals exact hmarks _
  rw [groupStart_unnamed hother]
  show (skip? ['?'] (ahead props cs groups names)).bind _ = _
  rw [skip?_of_not_begins (hmarks [])]
  rfl

/-- Where this stands behind an opening parenthesis, no flags are set. -/
def KeepsFlags (cs : List Char) : Prop :=
  ∀ d ds, cs = '?' :: d :: ds → d = ':' ∨ d = 'P' ∨ d = '<'

theorem keepsFlags_cons {d : Char} (h : d = ':' ∨ d = 'P' ∨ d = '<') : KeepsFlags ('?' :: d :: cs) := by
  intro e ds hcs
  cases hcs
  exact h

theorem keepsFlags_of_head (h : cs.head? ≠ some '?') : KeepsFlags cs := by
  rintro d ds rfl
  exact absurd rfl h

theorem keepsFlags_mark {mark : List Char} (hmark : mark ∈ nameMarks) : KeepsFlags (mark ++ cs) := by
  simp only [nameMarks, List.mem_cons, List.not_mem_nil, or_false] at hmark
  obtain rfl | rfl := hmark
  . exact keepsFlags_cons (.inr (.inl rfl))
  . exact keepsFlags_cons (.inr (.inr rfl))

theorem groupStart_cases {start : GroupStart} {s : State}
    (hflags : KeepsFlags cs)
    (h : groupStart (ahead props cs groups names) = some (start, s))
    : (∃ ds, cs = '?' :: ':' :: ds ∧ start = .unnumbered ∧ s = ahead props ds groups names)
        ∨ (∃ mark ∈ nameMarks, ∃ name ds, cs = mark ++ (name ++ '>' :: ds) ∧ '>' ∉ name
          ∧ start = .numbered (groups + 1)
          ∧ s = ahead props ds (groups + 1) ((String.ofList name, groups + 1) :: names))
        ∨ (cs.head? ≠ some '?' ∧ start = .numbered (groups + 1) ∧ s = ahead props cs (groups + 1) names) := by
  by_cases hhead : cs.head? = some '?'
  . obtain ⟨ds, rfl⟩ := List.head?_eq_some_iff.mp hhead
    cases ds with
    | nil => cases h
    | cons d ds =>
      obtain rfl | rfl | rfl := hflags d ds rfl
      . cases h
        exact .inl ⟨ds, rfl, rfl, rfl⟩
      . by_cases hname : ds.head? = some '<'
        . obtain ⟨es, rfl⟩ := List.head?_eq_some_iff.mp hname
          have hmark : ['?', 'P', '<'] ∈ nameMarks := by simp [nameMarks]
          obtain ⟨name, tail, rfl, hname, -, hstart⟩ := exists_of_mark hmark h
          exact .inr (.inl ⟨_, hmark, name, tail, rfl, hname, hstart⟩)
        -- A `P` is followed by an angle, or else no sign is known that begins so.
        . have hother : ∀ mark ∈ lookMarks ++ nameMarks, ¬mark <+: '?' :: 'P' :: ds := by
            intro mark hmark hbegin
            simp only [lookMarks, nameMarks, List.cons_append, List.nil_append, List.mem_cons, List.not_mem_nil,
              or_false] at hmark
            obtain ⟨tail, htail⟩ := hbegin
            obtain rfl | rfl | rfl | rfl | rfl | rfl := hmark
            all_goals cases htail
            exact hname rfl
          rw [groupStart_unnamed hother, unnamedStart_unknown] at h
          cases h
      . have hmark : ['?', '<'] ∈ nameMarks := by simp [nameMarks]
        obtain ⟨name, tail, rfl, hname, -, hstart⟩ := exists_of_mark hmark h
        exact .inr (.inl ⟨_, hmark, name, tail, rfl, hname, hstart⟩)
  . rw [groupStart_of_head hhead] at h
    cases h
    exact .inr (.inr ⟨hhead, rfl, rfl⟩)

theorem exists_of_expect {d : Char} {s s' : State} (h : expect d s = some ((), s'))
    : ∃ ds, s.rest = d :: ds ∧ s' = { s with rest := ds } := by
  obtain ⟨props, cs, f, g, ns⟩ := s
  cases cs with
  | nil => cases h
  | cons c cs =>
    replace h : (if c ≠ d then failure else pure () : Reader Unit) ⟨props, cs, f, g, ns⟩ = some ((), s') := h
    split at h
    . cases h
    . next hc =>
      cases h
      exact ⟨cs, by rw [not_ne_iff.mp hc], rfl⟩

theorem group_cases {e : Reader (Nested Node)} {i : Item} {s : State}
    (hflags : KeepsFlags cs)
    (h : group e (ahead props ('(' :: cs) groups names) = some (i, s))
    : ∃ start s₁ body s₂ ds, groupStart (ahead props cs groups names) = some (start, s₁) ∧ e s₁ = some (body, s₂)
        ∧ s₂.rest = ')' :: ds ∧ s = { s₂ with rest := ds, flags := caseless }
        ∧ (start = .unnumbered ∧ i = ⟨⟨body.value, body.depth + 1⟩, false⟩
          ∨ ∃ n, start = .numbered n ∧ i = ⟨⟨.group n body.value, body.depth + 1⟩, false⟩) := by
  obtain ⟨⟨⟩, s₀, hopen, h⟩ := exists_of_bind h
  cases hopen
  rw [flags_bind] at h
  obtain ⟨start, s₁, hstart, h⟩ := exists_of_bind h
  replace hstart : groupStart (ahead props cs groups names) = some (start, s₁) := hstart
  cases start with
  | settings =>
    obtain ⟨ds, -, hstart, -⟩ | ⟨mark, -, name, ds, -, -, hstart, -⟩ | ⟨-, hstart, -⟩ :=
      groupStart_cases hflags hstart
    . cases hstart
    . cases hstart
    . cases hstart
  | numbered n =>
    obtain ⟨body, s₂, hbody, h⟩ := exists_of_bind h
    obtain ⟨⟨⟩, s₃, hclose, h⟩ := exists_of_bind h
    obtain ⟨ds, hds, rfl⟩ := exists_of_expect hclose
    cases h
    exact ⟨.numbered n, s₁, body, s₂, ds, hstart, hbody, hds, rfl, .inr ⟨n, rfl, rfl⟩⟩
  | unnumbered =>
    obtain ⟨body, s₂, hbody, h⟩ := exists_of_bind h
    obtain ⟨⟨⟩, s₃, hclose, h⟩ := exists_of_bind h
    obtain ⟨ds, hds, rfl⟩ := exists_of_expect hclose
    cases h
    exact ⟨.unnumbered, s₁, body, s₂, ds, hstart, hbody, hds, rfl, .inl ⟨rfl, rfl⟩⟩

end Triword.Regex.Reader
