import Triword.Language.Bundled
import Triword.Proofs.Regex.Reader

/-!
The expressions of the bundled language, and how those of its operands and of whole lines are read: what
is read of a line is put together from its mnemonic and from what is read of each operand.
-/

namespace Triword

namespace Language

namespace Bundled

open Regex (Node CharSet Nested)
open Regex.Reader

/-! ### Expressions -/

def anyCase (c : Char) : Node :=
  .set (CharSet.foldCase (.single c))

def row (ranges : List (Nat × Nat)) : Node :=
  .rep (.set (CharSet.ofRanges ranges).foldCase) 1 none false

def optional (c : Char) : Node :=
  .rep (.literal [c]) 0 (some 1) false

def numeral : Node :=
  .alt [.cat [.literal ['0'], anyCase 'b', row [(0x30, 0x31)]],
    .cat [.literal ['0'], anyCase 'x', row [(0x30, 0x39), (0x61, 0x66)]],
    row [(0x30, 0x39)]]

def operandNode : OperandKind → Node
  | .absent => .empty
  | .immediate => .cat [optional '*', .literal ['$'], optional '-', numeral]
  | .register => .cat [optional '*', .literal ['%'], row [(0x61, 0x7A)]]
  | .memory => .cat [optional '*', .literal ['@'], numeral]
  | .label =>
    .cat [.set (CharSet.ofRanges [(0x5F, 0x5F), (0x61, 0x7A)]).foldCase,
      .rep (.set (CharSet.ofRanges [(0x30, 0x39), (0x5F, 0x5F), (0x61, 0x7A)]).foldCase) 0 none false]

def blanks (min : Nat) : Node :=
  .rep (.set .blank) min none false

def operandNodes : List OperandKind → List Node
  | [] => []
  | [k] => [blanks 1, .group 1 (operandNode k)]
  | k :: l :: _ =>
    [blanks 1, .group 1 (operandNode k), blanks 0, .literal [','], blanks 0, .group 2 (operandNode l)]

def lineNode (mnemonic : String) (kinds : List OperandKind) : Node :=
  .cat (.look .textStart :: (mnemonic.toList.map anyCase ++ operandNodes kinds ++ [.look .textEnd]))

def groupNames (names : List String) : List (String × Nat) :=
  (names.zipIdx 1).reverse

def comment : Regex.Expression where
  source := definition.commentFormat
  node := .cat [.literal [';'], .rep (.set (CharSet.single '\n').compl) 0 none false, .look .textEnd]
  names := []

def labelStart : Node :=
  .set (CharSet.ofRanges [(0x41, 0x5A), (0x5F, 0x5F), (0x61, 0x7A)])

def labelRest : Node :=
  .rep (.set (CharSet.ofRanges [(0x30, 0x39), (0x41, 0x5A), (0x5F, 0x5F), (0x61, 0x7A)])) 0 none false

def declaration : Regex.Expression where
  source := definition.labelFormats.declaration
  node := .cat [.look .textStart, .literal ['.'], .group 1 (.cat [labelStart, labelRest]), .literal [':'],
    .look .textEnd]
  names := []

def usage : Regex.Expression where
  source := whole definition.labelFormats.usage
  node := .cat [.look .textStart, labelStart, labelRest, .look .textEnd]
  names := []

def knownType (t : OperandType) (kind : OperandKind) : KnownType :=
  ⟨t.name, kind, t.regex⟩

def knownTypes : List KnownType :=
  [knownType immediate .immediate, knownType register .register, knownType memory .memory,
   knownType label .label]

/-! ### Sets in brackets -/

structure CharClass where
  chars : List Char
  items : List (Nat × Nat)
  ranges : List (Nat × Nat)

namespace CharClass

def set (r : CharClass) : CharSet :=
  (CharSet.ofRanges r.ranges).foldCase

def depth (r : CharClass) : Nat :=
  if r.items.length < 2 then 1 else 2

end CharClass

def binaryDigits : CharClass :=
  ⟨['0', '1', ']'], [(0x30, 0x30), (0x31, 0x31)], [(0x30, 0x31)]⟩

def digits : CharClass :=
  ⟨['0', '-', '9', ']'], [(0x30, 0x39)], [(0x30, 0x39)]⟩

def hexDigits : CharClass :=
  ⟨['0', '-', '9', 'a', '-', 'f', ']'], [(0x30, 0x39), (0x61, 0x66)], [(0x30, 0x39), (0x61, 0x66)]⟩

def nameStart : CharClass :=
  ⟨['a', '-', 'z', '_', ']'], [(0x61, 0x7A), (0x5F, 0x5F)], [(0x5F, 0x5F), (0x61, 0x7A)]⟩

def nameRest : CharClass :=
  ⟨['a', '-', 'z', '0', '-', '9', '_', ']'], [(0x61, 0x7A), (0x30, 0x39), (0x5F, 0x5F)],
    [(0x30, 0x39), (0x5F, 0x5F), (0x61, 0x7A)]⟩

def registerName : CharClass :=
  ⟨['a', '-', 'z', ']'], [(0x61, 0x7A)], [(0x61, 0x7A)]⟩

def classes : List CharClass :=
  [binaryDigits, digits, hexDigits, nameStart, nameRest, registerName]

/-! ### Items -/

variable {props : Regex.Properties} {fuel n depth groups : Nat} {names : List (String × Nat)} {c : Char}
variable {cs rest : List Char}
variable {e : Regex.Reader (Nested Node)} {before : List Item}

/-- The letters of mnemonics, and those behind the zero of a number. -/
def letters : List Char :=
  ['A', 'B', 'C', 'D', 'E', 'F', 'G', 'H', 'I', 'J', 'K', 'L', 'M', 'N', 'O', 'P', 'Q', 'R', 'S', 'T', 'U', 'V',
   'W', 'X', 'Y', 'Z', 'b', 'x']

def marks : List Char :=
  ['0', '*', '$', '-', '%', '@', ',']

theorem only?_foldCase
    : letters.all (fun c => (CharSet.single c).foldCase.only? == none)
        ∧ marks.all (fun c => (CharSet.single c).foldCase.only? == some c) := by
  decide +kernel

theorem only?_letter (hc : c ∈ letters) : (CharSet.single c).foldCase.only? = none :=
  eq_of_beq (List.all_eq_true.mp only?_foldCase.1 c hc)

theorem only?_mark (hc : c ∈ marks) : (CharSet.single c).foldCase.only? = some c :=
  eq_of_beq (List.all_eq_true.mp only?_foldCase.2 c hc)

theorem plain_letter (hc : c ∈ letters) : c ∉ notPlain ∧ c ∉ notFirst := by
  have hall : letters.all fun c => !notPlain.contains c && !notFirst.contains c := by decide
  simpa using List.all_eq_true.mp hall c hc

theorem item_letter (hc : c ∈ letters)
    : item fuel e (ahead props (c :: cs) groups names)
        =
      some (⟨⟨anyCase c, 0⟩, false⟩, ahead props cs groups names) := by
  rw [item_of_plain (plain_letter hc).1, Node.ofSet_eq_set (only?_letter hc)]
  rfl

theorem item_mark (hc : c ∈ marks) (hplain : c ∉ notPlain)
    : item fuel e (ahead props (c :: cs) groups names)
        =
      some (⟨⟨.literal [c], 0⟩, false⟩, ahead props cs groups names) := by
  rw [item_of_plain hplain, Node.ofSet_eq_literal (only?_mark hc)]

theorem item_escaped (hc : c = '*' ∨ c = '$')
    : item fuel e (ahead props ('\\' :: c :: cs) groups names)
        =
      some (⟨⟨.literal [c], 0⟩, false⟩, ahead props cs groups names) := by
  have honly : (CharSet.single c).foldCase.only? = some c := by
    obtain rfl | rfl := hc
    . exact only?_mark (by decide)
    . exact only?_mark (by decide)
  rw [← Node.ofSet_eq_literal honly]
  obtain rfl | rfl := hc
  . rfl
  . rfl

-- Letter case is regarded twice, once for the items and once for the brackets around them.
theorem foldCase_items : ∀ r ∈ classes,
    (CharSet.ofRanges r.items).foldCase.foldCase = r.set ∧ r.set.only? = none := by
  decide +kernel

theorem item_class {r : CharClass} (hr : r ∈ classes)
    : item (fuel + 7) e (ahead props ('[' :: (r.chars ++ rest)) groups names)
        =
      some (⟨⟨.set r.set, r.depth⟩, false⟩, ahead props rest groups names) := by
  obtain ⟨hfold, honly⟩ := foldCase_items r hr
  rw [← Node.ofSet_eq_set honly, ← hfold]
  simp only [classes, List.mem_cons, List.not_mem_nil, or_false] at hr
  obtain rfl | rfl | rfl | rfl | rfl | rfl := hr
  all_goals rfl

theorem sequence_class {r : CharClass} {min : Nat} (hr : r ∈ classes) (hc : (c, min, none) ∈ signs)
    (h : Unmarked rest)
    : sequence (item (fuel + 7) e) (n + 2) before (ahead props ('[' :: (r.chars ++ c :: rest)) groups names)
        =
      sequence (item (fuel + 7) e) n (⟨⟨.rep (.set r.set) min none false, r.depth + 1⟩, false⟩ :: before)
        (ahead props rest groups names) := by
  rw [sequence_of_item (by decide) (item_class hr), sequence_of_sign hc h, Node.repeated_set]

/-! ### Operands -/

theorem sequence_star (hc : c ≠ '?')
    : sequence (item fuel e) (n + 2) before (ahead props ('\\' :: '*' :: '?' :: c :: cs) groups names)
        =
      sequence (item fuel e) n (⟨⟨optional '*', 1⟩, false⟩ :: before) (ahead props (c :: cs) groups names) := by
  rw [sequence_of_item (by decide) (item_escaped (.inl rfl)),
    sequence_of_sign question_mem_signs (unmarked_cons hc)]
  rfl

def numeralChars : List Char :=
  ['(', '?', ':', '0', 'b', '['] ++ (binaryDigits.chars ++ ['+', '|', '0', 'x', '['] ++ (hexDigits.chars
    ++ ['+', '|', '['] ++ (digits.chars ++ ['+', ')'])))

theorem sequence_prefixed {r : CharClass} (hc : c ∈ letters) (hr : r ∈ classes)
    : sequence (item (fuel + 7) e) (n + 5) []
        (ahead props ('0' :: c :: '[' :: (r.chars ++ '+' :: '|' :: rest)) groups names)
        =
      some (combine Node.sequence
        [⟨.literal ['0'], 0⟩, ⟨anyCase c, 0⟩, ⟨.rep (.set r.set) 1 none false, r.depth + 1⟩],
        ahead props ('|' :: rest) groups names) := by
  rw [sequence_of_item (by decide) (item_mark (by decide) (by decide)),
    sequence_of_item (plain_letter hc).2 (item_letter hc),
    sequence_class hr plus_mem_signs (unmarked_cons (by decide)),
    sequence_of_ends ends_bar]
  rfl

theorem item_numeral
    : item (fuel + 7) (expression (fuel + 7) (depth + 1)) (ahead props (numeralChars ++ rest) groups names)
        =
      some (⟨⟨numeral, 6⟩, false⟩, ahead props rest groups names) := by
  apply item_unnumbered (a := ⟨numeral, 5⟩)
  show alternatives (sequence (item (fuel + 7) (expression (fuel + 7) depth)) (fuel + 7) []) (fuel + 7) [] _ = _
  have hbinary : 'b' ∈ letters ∧ binaryDigits ∈ classes := ⟨by decide, by simp [classes]⟩
  have hhex : 'x' ∈ letters ∧ hexDigits ∈ classes := ⟨by decide, by simp [classes]⟩
  have hdigits : digits ∈ classes := by simp [classes]
  refine (alternatives_of_bar (sequence_prefixed hbinary.1 hbinary.2)).trans ?_
  refine (alternatives_of_bar (sequence_prefixed hhex.1 hhex.2)).trans ?_
  apply alternatives_of_closes (a := ⟨.rep (.set digits.set) 1 none false, 2⟩) closes_cons
  refine (sequence_class hdigits plus_mem_signs (unmarked_cons (by decide))).trans ?_
  exact sequence_of_ends closes_cons.1

theorem expression_register (h : Closes rest)
    : expression (fuel + 7) (depth + 1)
        (ahead props (['\\', '*', '?', '%', '['] ++ (registerName.chars ++ '+' :: rest)) groups names)
        =
      some (⟨operandNode .register, 3⟩, ahead props rest groups names) := by
  apply expression_of_sequence h
  refine (sequence_star (by decide)).trans ?_
  refine (sequence_of_item (by decide) (item_mark (by decide) (by decide))).trans ?_
  refine (sequence_class (r := registerName) (by simp [classes]) plus_mem_signs h.1.unmarked).trans ?_
  exact sequence_of_ends h.1

theorem expression_label (h : Closes rest)
    : expression (fuel + 7) (depth + 1)
        (ahead props ('[' :: (nameStart.chars ++ '[' :: (nameRest.chars ++ '*' :: rest))) groups names)
        =
      some (⟨operandNode .label, 4⟩, ahead props rest groups names) := by
  apply expression_of_sequence h
  refine (sequence_of_item (by decide) (item_class (r := nameStart) (by simp [classes]))).trans ?_
  refine (sequence_class (r := nameRest) (by simp [classes]) star_mem_signs h.1.unmarked).trans ?_
  exact sequence_of_ends h.1

theorem expression_memory (h : Closes rest)
    : expression (fuel + 7) (depth + 2) (ahead props (['\\', '*', '?', '@'] ++ (numeralChars ++ rest)) groups names)
        =
      some (⟨operandNode .memory, 7⟩, ahead props rest groups names) := by
  apply expression_of_sequence h
  refine (sequence_star (by decide)).trans ?_
  refine (sequence_of_item (by decide) (item_mark (by decide) (by decide))).trans ?_
  refine (sequence_of_item (by decide) item_numeral).trans ?_
  exact sequence_of_ends h.1

theorem expression_immediate (h : Closes rest)
    : expression (fuel + 7) (depth + 2)
        (ahead props (['\\', '*', '?', '\\', '$', '-', '?'] ++ (numeralChars ++ rest)) groups names)
        =
      some (⟨operandNode .immediate, 7⟩, ahead props rest groups names) := by
  apply expression_of_sequence h
  refine (sequence_star (by decide)).trans ?_
  refine (sequence_of_item (by decide) (item_escaped (.inr rfl))).trans ?_
  refine (sequence_of_item (by decide) (item_mark (by decide) (by decide))).trans ?_
  refine (sequence_of_sign question_mem_signs (unmarked_cons (by decide)) _ _).trans ?_
  refine (sequence_of_item (by decide) item_numeral).trans ?_
  exact sequence_of_ends h.1

/-- How deep the written form of an operand is nested. -/
def nesting : OperandKind → Nat
  | .absent => 0
  | .immediate => 7
  | .register => 3
  | .memory => 7
  | .label => 4

theorem nesting_le (k : OperandKind) : nesting k ≤ 7 := by
  cases k
  all_goals decide

/-- The expression of a known type is read as that of its kind, at the end or before the end of a group. -/
theorem expression_operand {k : KnownType} (hk : k ∈ knownTypes) (h : Closes rest)
    : expression (fuel + 7) (depth + 2) (ahead props (k.regex.toList ++ rest) groups names)
        =
      some (⟨operandNode k.kind, nesting k.kind⟩, ahead props rest groups names) := by
  have himmediate : immediate.regex.toList = ['\\', '*', '?', '\\', '$', '-', '?'] ++ numeralChars := by
    simp [immediate, numeralChars, binaryDigits, hexDigits, digits]
  have hregister : register.regex.toList = ['\\', '*', '?', '%', '['] ++ (registerName.chars ++ ['+']) := by
    simp [register, registerName]
  have hmemory : memory.regex.toList = ['\\', '*', '?', '@'] ++ numeralChars := by
    simp [memory, numeralChars, binaryDigits, hexDigits, digits]
  have hlabel : label.regex.toList = '[' :: (nameStart.chars ++ '[' :: (nameRest.chars ++ ['*'])) := by
    simp [label, nameStart, nameRest]
  simp only [knownTypes, List.mem_cons, List.not_mem_nil, or_false] at hk
  obtain rfl | rfl | rfl | rfl := hk
  . show expression _ _ (ahead props (immediate.regex.toList ++ rest) _ _) = _
    rw [himmediate]
    exact expression_immediate h
  . show expression _ _ (ahead props (register.regex.toList ++ rest) _ _) = _
    rw [hregister]
    exact expression_register h
  . show expression _ _ (ahead props (memory.regex.toList ++ rest) _ _) = _
    rw [hmemory]
    exact expression_memory h
  . show expression _ _ (ahead props (label.regex.toList ++ rest) _ _) = _
    rw [hlabel]
    exact expression_label h

theorem le_length_regex {k : KnownType} (hk : k ∈ knownTypes) : 6 ≤ k.regex.toList.length := by
  simp only [knownTypes, List.mem_cons, List.not_mem_nil, or_false] at hk
  obtain rfl | rfl | rfl | rfl := hk
  all_goals simp [knownType, immediate, register, memory, label]

theorem read?_knownType {k : KnownType} (hk : k ∈ knownTypes)
    : Regex.read? props k.regex.toList true = some (operandNode k.kind, []) := by
  obtain ⟨fuel, hfuel⟩ := Nat.exists_eq_add_of_le' (le_length_regex hk)
  have hread : expression (fuel + 7) 251 (ahead props k.regex.toList 0 [])
      = some (⟨operandNode k.kind, nesting k.kind⟩, ahead props [] 0 []) := by
    rw [← List.append_nil k.regex.toList]
    exact expression_operand hk closes_nil
  have hdepth : nesting k.kind ≤ maxDepth := Nat.le_trans (nesting_le _) (by decide)
  show (expression _ 251 (ahead props k.regex.toList 0 [])).bind _ = _
  rw [hfuel, hread]
  exact if_pos ⟨rfl, hdepth⟩

/-! ### Lines -/

def letterItem (c : Char) : Item :=
  ⟨⟨anyCase c, 0⟩, false⟩

theorem sequence_letters (h : ∀ c ∈ cs, c ∈ letters)
    : sequence (item fuel e) (n + cs.length) before (ahead props (cs ++ rest) groups names)
        =
      sequence (item fuel e) n ((cs.map letterItem).reverse ++ before) (ahead props rest groups names) := by
  induction cs generalizing before with
  | nil => rfl
  | cons c cs ih =>
    obtain ⟨hc, hcs⟩ := List.forall_mem_cons.mp h
    refine (sequence_of_item (plain_letter hc).2 (item_letter hc)).trans ?_
    refine (ih hcs).trans ?_
    rw [List.map_cons, List.reverse_cons, List.append_assoc]
    rfl

theorem sequence_blanks {min : Nat} (hc : (c, min, none) ∈ signs) (h : Unmarked rest)
    : sequence (item fuel e) (n + 2) before (ahead props ('\\' :: 's' :: c :: rest) groups names)
        =
      sequence (item fuel e) n (⟨⟨blanks min, 1⟩, false⟩ :: before) (ahead props rest groups names) := by
  have hblank : item fuel e (ahead props ('\\' :: 's' :: c :: rest) groups names)
      = some (⟨⟨.set .blank, 0⟩, false⟩, ahead props (c :: rest) groups names) := rfl
  rw [sequence_of_item (by decide) hblank, sequence_of_sign hc h, Node.repeated_set]
  rfl

structure Readable (operands : List (String × KnownType)) : Prop where
  length : operands.length ≤ maxOperands
  names : ∀ o ∈ operands, canName o.1.toList
  nodup : (operands.map Prod.fst).Nodup
  known : ∀ o ∈ operands, o.2 ∈ knownTypes

def groupChars (o : String × KnownType) (rest : List Char) : List Char :=
  '(' :: '?' :: 'P' :: '<' :: (o.1.toList ++ '>' :: (o.2.regex.toList ++ ')' :: rest))

def operandChars (rest : List Char) : List (String × KnownType) → List Char
  | [] => rest
  | [o] => '\\' :: 's' :: '+' :: groupChars o rest
  | o :: p :: _ =>
    '\\' :: 's' :: '+' :: groupChars o ('\\' :: 's' :: '*' :: ',' :: '\\' :: 's' :: '*' :: groupChars p rest)

def groupItem (number : Nat) (k : OperandKind) : Item :=
  ⟨⟨.group number (operandNode k), nesting k + 1⟩, false⟩

theorem item_group {o : String × KnownType} (hname : canName o.1.toList) (hfresh : names.any (·.1 == o.1) = false)
    (hknown : o.2 ∈ knownTypes)
    : item (fuel + 7) (expression (fuel + 7) (depth + 2)) (ahead props (groupChars o rest) groups names)
        =
      some (groupItem (groups + 1) o.2.kind, ahead props rest (groups + 1) ((o.1, groups + 1) :: names)) := by
  exact item_named hname hfresh (expression_operand hknown closes_cons)

def operandItems : List OperandKind → List Item
  | [] => []
  | [k] => [⟨⟨blanks 1, 1⟩, false⟩, groupItem 1 k]
  | k :: l :: _ =>
    [⟨⟨blanks 1, 1⟩, false⟩, groupItem 1 k, ⟨⟨blanks 0, 1⟩, false⟩, ⟨⟨.literal [','], 0⟩, false⟩,
      ⟨⟨blanks 0, 1⟩, false⟩, groupItem 2 l]

/-- How many items and repetitions stand for some operands. -/
def steps : Nat → Nat
  | 0 => 0
  | 1 => 3
  | _ => 9

theorem sequence_operands {operands : List (String × KnownType)} (h : Readable operands) (hrest : Closes rest)
    : sequence (item (fuel + 7) (expression (fuel + 7) (depth + 2))) (n + steps operands.length + 1)
        before (ahead props (operandChars rest operands) 0 [])
        =
      some (combine Node.sequence ((before.reverse ++ operandItems (operands.map (·.2.kind))).map Item.node),
        ahead props rest operands.length (groupNames (operands.map Prod.fst))) := by
  have hcount := h.length
  match operands with
  | [] =>
    refine (sequence_of_ends hrest.1).trans ?_
    rw [List.map_nil, operandItems, List.append_nil]
    rfl
  | [o] =>
    refine (sequence_blanks plus_mem_signs (unmarked_cons (by decide))).trans ?_
    refine (sequence_of_item (by decide)
      (item_group (h.names o (by simp)) rfl (h.known o (by simp)))).trans ?_
    refine (sequence_of_ends hrest.1).trans ?_
    simp only [List.reverse_cons, List.append_assoc]
    rfl
  | [o, p] =>
    have hfresh : [(o.1, 1)].any (·.1 == p.1) = false := by
      simpa using h.nodup
    refine (sequence_blanks plus_mem_signs (unmarked_cons (by decide))).trans ?_
    refine (sequence_of_item (by decide)
      (item_group (h.names o (by simp)) rfl (h.known o (by simp)))).trans ?_
    refine (sequence_blanks star_mem_signs (unmarked_cons (by decide))).trans ?_
    refine (sequence_of_item (by decide) (item_mark (by decide) (by decide))).trans ?_
    refine (sequence_blanks star_mem_signs (unmarked_cons (by decide))).trans ?_
    refine (sequence_of_item (by decide)
      (item_group (h.names p (by simp)) hfresh (h.known p (by simp)))).trans ?_
    refine (sequence_of_ends hrest.1).trans ?_
    simp only [List.reverse_cons, List.append_assoc]
    rfl
  | _ :: _ :: _ :: _ => simp [maxOperands] at hcount

def parts (cs : List Char) (kinds : List OperandKind) : List Node :=
  cs.map anyCase ++ operandNodes kinds

/-- No two parts are joined, and none is a sequence. -/
theorem foldr_parts {put : Node → List Node → List Node} (hput : put = Node.push ∨ put = Node.join)
    (kinds : List OperandKind) (as : List Node) : (parts cs kinds).foldr put as = parts cs kinds ++ as := by
  unfold parts
  induction cs with
  | nil =>
    obtain rfl | rfl := hput
    all_goals
      match kinds with
      | [] => rfl
      | [_] => rfl
      | _ :: _ :: _ => rfl
  | cons c cs ih =>
    rw [List.map_cons, List.cons_append, List.foldr_cons, ih]
    obtain rfl | rfl := hput
    . rfl
    . rfl

theorem sequence_parts {kinds : List OperandKind} (hlength : 2 ≤ cs.length)
    : Node.sequence (parts cs kinds) = .cat (parts cs kinds) := by
  match cs with
  | c :: d :: cs =>
    unfold Node.sequence
    rw [foldr_parts (.inr rfl), List.append_nil]
    rfl

theorem sequence_line {mnemonic : String} {kinds : List OperandKind}
    : Node.sequence [.look .textStart, .cat (parts mnemonic.toList kinds), .look .textEnd]
        =
      lineNode mnemonic kinds := by
  have hends : [Node.look .textStart, .cat (parts mnemonic.toList kinds), .look .textEnd].foldr Node.join []
      = .look .textStart :: (parts mnemonic.toList kinds ++ [.look .textEnd]) := by
    show Node.push (.look .textStart) ((parts mnemonic.toList kinds).foldr Node.push [.look .textEnd]) = _
    rw [foldr_parts (.inl rfl)]
    rfl
  unfold Node.sequence
  rw [hends]
  split
  . next h => cases h
  . next h => simp at h
  . rfl

theorem map_value_items {kinds : List OperandKind}
    : ((cs.map letterItem ++ operandItems kinds).map Item.node).map Nested.value = parts cs kinds := by
  unfold parts
  rw [List.map_map, List.map_append, List.map_map]
  congr 1
  match kinds with
  | [] => rfl
  | [_] => rfl
  | _ :: _ :: _ => rfl

theorem depth_operandItems (kinds : List OperandKind) : ∀ i ∈ operandItems kinds, i.node.depth ≤ 8 := by
  have hgroup : ∀ number k, (groupItem number k).node.depth ≤ 8 :=
    fun _ k => Nat.succ_le_succ (nesting_le k)
  match kinds with
  | [] => nofun
  | [k] => simp [operandItems, hgroup]
  | k :: l :: _ => simp [operandItems, hgroup]

def body (mnemonic : String) (kinds : List OperandKind) : Nested Node :=
  combine Node.sequence ((mnemonic.toList.map letterItem ++ operandItems kinds).map Item.node)

theorem value_body {mnemonic : String} (kinds : List OperandKind) (hlength : 2 ≤ mnemonic.toList.length)
    : (body mnemonic kinds).value = .cat (parts mnemonic.toList kinds) := by
  unfold body
  rw [value_combine, map_value_items, sequence_parts hlength]
  rw [List.length_map, List.length_append, List.length_map]
  omega

theorem depth_body_le (mnemonic : String) (kinds : List OperandKind) : (body mnemonic kinds).depth ≤ 9 := by
  apply depth_combine_le
  intro a ha
  obtain ⟨i, hi, rfl⟩ := List.mem_map.mp ha
  obtain hi | hi := List.mem_append.mp hi
  . obtain ⟨c, -, rfl⟩ := List.mem_map.mp hi
    exact Nat.zero_le _
  . exact depth_operandItems kinds i hi

def lineChars (mnemonic : String) (operands : List (String × KnownType)) : List Char :=
  '^' :: '(' :: '?' :: ':' :: (mnemonic.toList ++ operandChars [')', '$'] operands)

theorem steps_le_length_operandChars (rest : List Char) (operands : List (String × KnownType))
    : steps operands.length + rest.length ≤ (operandChars rest operands).length := by
  match operands with
  | [] => simp [steps, operandChars]
  | [_] =>
    simp [steps, operandChars, groupChars]
    omega
  | _ :: _ :: _ =>
    simp [steps, operandChars, groupChars]
    omega

theorem item_textStart
    : item fuel e (ahead props ('^' :: cs) groups names)
        =
      some (⟨⟨.look .textStart, 0⟩, false⟩, ahead props cs groups names) := by
  rfl

theorem item_textEnd
    : item fuel e (ahead props ('$' :: cs) groups names)
        =
      some (⟨⟨.look .textEnd, 0⟩, false⟩, ahead props cs groups names) := by
  rfl

theorem reads_line {mnemonic : String} {operands : List (String × KnownType)}
    (hletters : ∀ c ∈ mnemonic.toList, c ∈ letters) (htwo : 2 ≤ mnemonic.toList.length)
    (h : Readable operands)
    : Regex.read? props (lineChars mnemonic operands) true
        =
      some (lineNode mnemonic (operands.map (·.2.kind)), groupNames (operands.map Prod.fst)) := by
  let kinds := operands.map (·.2.kind)
  let names := groupNames (operands.map Prod.fst)
  have hsteps := steps_le_length_operandChars [')', '$'] operands
  -- The fuel is written as what the parts of the line use up of it, and a rest.
  obtain ⟨m, hm⟩ : ∃ m, (lineChars mnemonic operands).length + 1
      = m + 6 + steps operands.length + 1 + mnemonic.toList.length := by
    refine ⟨(operandChars [')', '$'] operands).length - steps operands.length - 2, ?_⟩
    simp only [lineChars, List.length_cons, List.length_append, List.length_nil] at hsteps ⊢
    omega
  have hfuel : m + 6 + steps operands.length + 1 + mnemonic.toList.length
      = m + steps operands.length + mnemonic.toList.length + 7 := by omega
  have hbody : expression (m + 6 + steps operands.length + 1 + mnemonic.toList.length) 250
        (ahead props (mnemonic.toList ++ operandChars [')', '$'] operands) 0 [])
      = some (body mnemonic kinds, ahead props [')', '$'] operands.length names) := by
    rw [hfuel]
    apply expression_of_sequence closes_cons
    rw [← hfuel]
    refine (sequence_letters hletters).trans ?_
    rw [hfuel]
    refine (sequence_operands h closes_cons).trans ?_
    rw [List.append_nil, List.reverse_reverse]
    rfl
  let line : Nested Node := combine Node.sequence
    [⟨.look .textStart, 0⟩, ⟨(body mnemonic kinds).value, (body mnemonic kinds).depth + 1⟩, ⟨.look .textEnd, 0⟩]
  have hline : expression (m + 6 + steps operands.length + 1 + mnemonic.toList.length) 251
        (ahead props (lineChars mnemonic operands) 0 [])
      = some (line, ahead props [] operands.length names) := by
    rw [hfuel] at hbody ⊢
    apply expression_of_sequence closes_nil
    refine (sequence_of_item (by decide) item_textStart).trans ?_
    refine (sequence_of_item (by decide) (item_unnumbered hbody)).trans ?_
    refine (sequence_of_item (by decide) item_textEnd).trans ?_
    exact sequence_of_ends trivial
  have hdepth : line.depth ≤ maxDepth := by
    have hparts : (body mnemonic kinds).depth + 1 ≤ 10 := Nat.succ_le_succ (depth_body_le mnemonic kinds)
    refine Nat.le_trans (depth_combine_le (d := 10) ?_) (by decide)
    simpa using hparts
  have hvalue : line.value = lineNode mnemonic kinds := by
    rw [value_combine (by simp), ← sequence_line, ← value_body kinds htwo]
    rfl
  show (expression _ 251 (ahead props (lineChars mnemonic operands) 0 [])).bind _ = _
  rw [hm, hline]
  show (if ([] : List Char).isEmpty ∧ line.depth ≤ maxDepth then some (line.value, names) else none) = _
  rw [if_pos ⟨rfl, hdepth⟩, hvalue]

end Bundled

end Language

end Triword
