import Triword.Regex.Basic
import Triword.Regex.Properties

/-!
Reading regular expressions. The written form has literals and escapes, sets in brackets, properties of
characters from a given table, groups with or without a number or a name, alternatives, repetitions and the
conditions on places. Conditions on what follows or comes before, references to groups, unknown escapes and
properties, and parts that are nested too deep are refused.
-/

namespace Triword.Regex

structure Flags where
  ignoreCase : Bool
  multiLine : Bool
  dotAll : Bool
  /-- Greedy and lazy repetitions change places. -/
  swapGreed : Bool
  /-- Carriage returns break lines too. -/
  returns : Bool
  /-- Sets with escapes or names, word boundaries and letter case regard ASCII only. -/
  ascii : Bool
  /-- Blanks and comments stand for nothing. -/
  verbose : Bool

/-- Something read, with how deep the parts of its written form are nested. -/
structure Nested (α : Type) where
  value : α
  depth : Nat

namespace Reader

structure State where
  /-- The properties that sets of characters may be named by. -/
  properties : Properties
  rest : List Char
  flags : Flags
  groups : Nat
  names : List (String × Nat)

end Reader

abbrev Reader := StateT Reader.State Option

namespace Reader

/-! ### Characters -/

def rest : Reader (List Char) :=
  State.rest <$> get

def setRest (cs : List Char) : Reader Unit :=
  modify fun s => { s with rest := cs }

def flags : Reader Flags :=
  State.flags <$> get

def properties : Reader Properties :=
  State.properties <$> get

def setFlags (f : Flags) : Reader Unit :=
  modify fun s => { s with flags := f }

def next : Reader Char := do
  match ← rest with
  | c :: cs => setRest cs; return c
  | [] => failure

def skip? (cs : List Char) : Reader Bool := do
  let all ← rest
  if cs.isPrefixOf all then
    setRest (all.drop cs.length)
    return true
  else return false

def expect (c : Char) : Reader Unit := do
  if (← next) ≠ c then failure

/-- Leaves out blanks and comments at the start. A comment goes from `#` to the end of its line. -/
def dropSpace : (inComment : Bool) → List Char → List Char
  | _, [] => []
  | true, c :: cs => dropSpace (c != '\n') cs
  | false, c :: cs =>
    if Text.isBlank c then dropSpace false cs
    else if c = '#' then dropSpace true cs
    else c :: cs

def skipSpace : Reader Unit := do
  if (← flags).verbose then setRest (dropSpace false (← rest))

def spaced? (p : Char → Bool) : Reader (Option Char) := do
  match ← rest with
  | c :: cs =>
    if p c then
      setRest cs
      skipSpace
      return some c
    else return none
  | [] => return none

def spacedUpTo (p : Char → Bool) : (n : Nat) → Reader (List Char)
  | 0 => return []
  | n + 1 => do
    match ← spaced? p with
    | some c => return c :: (← spacedUpTo p n)
    | none => return []

/-- The characters at the start as far as `p` admits them, without the space among them, and what is left. -/
def spanSpaced (p : Char → Bool) (verbose : Bool) : (inComment : Bool) → List Char → List Char × List Char
  | _, [] => ([], [])
  | true, c :: cs => spanSpaced p verbose (c != '\n') cs
  | false, c :: cs =>
    if p c then (spanSpaced p verbose false cs).map (c :: ·) id
    else if verbose && Text.isBlank c then spanSpaced p verbose false cs
    else if verbose && c == '#' then spanSpaced p verbose true cs
    else ([], c :: cs)

def spacedWhile (p : Char → Bool) : Reader (List Char) := do
  let (found, cs) := spanSpaced p (← flags).verbose false (← rest)
  setRest cs
  return found

/-! ### Numbers -/

def numberOf (base : Nat) (digits : List Char) : Nat :=
  digits.foldl (fun n c => n * base + digit c) 0
where
  digit (c : Char) : Nat :=
    if c.isDigit then c.toNat - '0'.toNat else c.toLower.toNat - 'a'.toNat + 10

def skipBlanks : Reader Unit := do
  setRest ((← rest).dropWhile Text.isBlank)

def decimal : Reader Nat := do
  skipBlanks
  let digits ← spacedWhile Char.isDigit
  skipBlanks
  let n := numberOf 10 digits
  if digits.isEmpty ∨ 0x100000000 ≤ n then failure
  return n

def isHexDigit (c : Char) : Bool :=
  c.isDigit || ('a' ≤ c.toLower && c.toLower ≤ 'f')

def charOfHex (digits : List Char) : Reader Char := do
  let n := numberOf 16 digits
  if digits.isEmpty then failure
  if n < 0xD800 ∨ 0xDFFF < n ∧ n < 0x110000 then return Char.ofNat n else failure

/-- A number in braces, or of just `width` digits; `bare` says which characters the latter may name. -/
def hexEscape (width : Nat) (bare : Char → Bool) : Reader Char := do
  skipSpace
  match ← spaced? (· = '\x7b') with
  | some _ =>
    let digits ← spacedWhile isHexDigit
    expect '\x7d'
    skipSpace
    charOfHex digits
  | none =>
    let digits ← spacedUpTo isHexDigit width
    let c ← charOfHex digits
    if digits.length = width ∧ bare c then return c else failure

/-! ### Sets and case -/

def isAscii (c : Char) : Bool :=
  decide (c.toNat < 0x80)

def inCase (s : CharSet) : Reader CharSet := do
  let f ← flags
  return if !f.ignoreCase then s else if f.ascii then s.foldAsciiCase else s.foldCase

/-- The other characters, which cannot be had among those of ASCII alone. -/
def negated (s : CharSet) : Reader CharSet := do
  if (← flags).ascii then failure else return s.compl

def known (s : CharSet) : Reader CharSet := do
  return if (← flags).ascii then s.inter (.range 0 0x7F) else s

/-! ### Escapes -/

inductive Escape where
  | literal (c : Char)
  | set (s : CharSet)
  | look (l : Look)

def word (edge : WordEdge) : Reader Escape := do
  return .look (.word edge (← flags).ascii)

/-- A boundary may be narrowed to one side by a name in braces, where no name begins with a digit. -/
def boundary : Reader WordEdge := do
  let all ← rest
  let isNameChar (c : Char) : Bool := c.isAlpha || c == '-'
  if (← spaced? (· = '\x7b')).isNone then return .boundary
  let name ← spacedWhile isNameChar
  if name.isEmpty then
    setRest all
    return .boundary
  expect '\x7d'
  match names.lookup (String.ofList name) with
  | some edge => return edge
  | none => failure
where
  names : List (String × WordEdge) :=
    [("start", .start), ("end", .stop), ("start-half", .startHalf), ("end-half", .stopHalf)]

/-- A single letter, or what comes in braces without the space in it. -/
def propertyName : Reader Property := do
  skipSpace
  match ← next with
  | '\x7b' =>
    let f ← flags
    let isSpace (c : Char) : Bool := f.verbose && (Text.isBlank c || c == '#')
    let name ← spacedWhile fun c => c != '\x7d' && !isSpace c
    expect '\x7d'
    return .ofText name
  | '\\' => failure
  | c => return .named c.toString

def property : Reader CharSet := do
  let name ← propertyName
  if (← flags).ascii then failure
  match (← properties) name with
  | some s => inCase s
  | none => failure

def escape : Reader Escape := do
  let c ← next
  match c with
  | 'd' => return .set (← known .digit)
  | 'D' => return .set (← negated .digit)
  | 's' => return .set (← known .blank)
  | 'S' => return .set (← negated .blank)
  | 'w' => return .set (← known .word)
  | 'W' => return .set (← negated .word)
  | 'p' => return .set (← property)
  | 'P' => return .set (← negated (← property))
  | 'x' =>
    let f ← flags
    return .literal (← hexEscape 2 fun c => !f.ascii || isAscii c)
  | 'u' => return .literal (← hexEscape 4 fun _ => true)
  | 'U' => return .literal (← hexEscape 8 fun _ => true)
  | 'a' => return .literal '\x07'
  | 'f' => return .literal '\x0c'
  | 't' => return .literal '\t'
  | 'n' => return .literal '\n'
  | 'r' => return .literal '\r'
  | 'v' => return .literal '\x0b'
  | 'A' => return .look .textStart
  | 'z' => return .look .textEnd
  | 'b' => word (← boundary)
  | 'B' => word .noBoundary
  | '<' => word .start
  | '>' => word .stop
  | c => if isAscii c && !c.isAlphanum then return .literal c else failure

/-! ### Sets in brackets -/

inductive SetOp where
  | inter
  | diff
  | symmDiff

def SetOp.apply : SetOp → CharSet → CharSet → CharSet
  | inter => .inter
  | diff => .diff
  | symmDiff => .symmDiff

/-- The set so far: what stands before the last operator, with it, and what stands after it. -/
structure Brackets where
  before : Option (Nested CharSet × SetOp)
  items : CharSet
  count : Nat
  depth : Nat

namespace Brackets

def add (b : Brackets) (s : Nested CharSet) : Brackets :=
  { b with items := b.items.union s.value, count := b.count + 1, depth := Nat.max b.depth s.depth }

def addSet (b : Brackets) (s : CharSet) : Brackets :=
  b.add ⟨s, 0⟩

def value (b : Brackets) : Reader (Nested CharSet) := do
  let items ← inCase b.items
  let depth := if b.count < 2 then b.depth else b.depth + 1
  return match b.before with
  | none => ⟨items, depth⟩
  | some (s, op) => ⟨op.apply s.value items, Nat.max s.depth depth + 1⟩

def operator (b : Brackets) (op : SetOp) : Reader Brackets := do
  return ⟨some (← b.value, op), .empty, 0, 0⟩

end Brackets

def setItem : Reader (Char ⊕ CharSet) := do
  let literal (c : Char) : Reader (Char ⊕ CharSet) := do
    if (← flags).ascii && !isAscii c then failure else return .inl c
  match ← next with
  | '\\' =>
    match ← escape with
    | .literal c => literal c
    | .set s => return .inr s
    | .look _ => failure
  | c => literal c

/-- The character after a dash, where blanks, and a sign of a comment, may come in between. -/
def afterDash (cs : List Char) : Reader (Option Char) := do
  if !(← flags).verbose then return cs.head?
  let cs := cs.dropWhile Text.isBlank
  return (if cs.head? = some '#' then cs.tail.dropWhile Text.isBlank else cs).head?

def setRange : Reader CharSet := do
  let first ← setItem
  skipSpace
  match ← rest with
  | [] => failure
  | '-' :: cs =>
    let after ← afterDash cs
    -- Before the end, or before another dash, a dash is no sign of a range.
    if after = some ']' ∨ after = some '-' then return single first
    setRest cs
    skipSpace
    match first, ← setItem with
    | .inl low, .inl high => if low ≤ high then return .range low.toNat high.toNat else failure
    | _, _ => failure
  | _ => return single first
where
  single : Char ⊕ CharSet → CharSet
    | .inl c => .single c
    | .inr s => s

def namedSet? : Reader (Option CharSet) := do
  let all ← rest
  if !(← skip? ['[', ':']) then return none
  let isNegated ← skip? ['^']
  let cs ← rest
  let name := cs.takeWhile (· ≠ ':')
  setRest (cs.drop name.length)
  if ← skip? [':', ']'] then
    if let some s := CharSet.named? (String.ofList name) then
      let s ← inCase s
      return some (← if isNegated then negated s else pure s)
  -- What has no such name may be a set in brackets, which is read from the start.
  setRest all
  return none

/-- Dashes, or else a closing bracket, stand for themselves at the start. -/
def leadingItems : Reader Brackets := do
  let b : Brackets := ⟨none, .empty, 0, 0⟩
  let dashes ← spacedWhile (· = '-')
  if !dashes.isEmpty then return dashes.foldl (fun b c => b.addSet (.single c)) b
  match ← spaced? (· = ']') with
  | some c => return b.addSet (.single c)
  | none => return b

def bracketItems (nested : Reader (Nested CharSet)) : (fuel : Nat) → Brackets → Reader (Nested CharSet)
  | 0, _ => failure
  | fuel + 1, b => do
    skipSpace
    match ← rest with
    | [] => failure
    | '[' :: _ =>
      match ← namedSet? with
      | some s => bracketItems nested fuel (b.addSet s)
      | none => bracketItems nested fuel (b.add (← nested))
    | ']' :: cs =>
      setRest cs
      b.value
    | '&' :: '&' :: cs =>
      setRest cs
      bracketItems nested fuel (← b.operator .inter)
    | '-' :: '-' :: cs =>
      setRest cs
      bracketItems nested fuel (← b.operator .diff)
    | '~' :: '~' :: cs =>
      setRest cs
      bracketItems nested fuel (← b.operator .symmDiff)
    | _ => bracketItems nested fuel (b.addSet (← setRange))

/-- A set in brackets, which comes next and has at most `depth` brackets one in the other. -/
def brackets (fuel : Nat) : (depth : Nat) → Reader (Nested CharSet)
  | 0 => failure
  | depth + 1 => do
    expect '['
    skipSpace
    let isNegated ← spaced? (· = '^')
    let s ← bracketItems (brackets fuel depth) fuel (← leadingItems)
    let set ← inCase s.value
    return ⟨← if isNegated.isSome then negated set else pure set, s.depth + 1⟩

/-! ### Repetitions -/

structure Bounds where
  min : Nat
  max : Option Nat
  lazy : Bool

/-- A repetition that may be marked as lazy, or as greedy where lazy ones are the rule. -/
def marked (min : Nat) (max : Option Nat) : Reader Bounds := do
  let isMarked ← skip? ['?']
  return ⟨min, max, isMarked != (← flags).swapGreed⟩

def countedBounds : Reader Bounds := do
  skipSpace
  let min ← decimal
  let max ← match ← spaced? (· = ',') with
    | none => pure (some min)
    | some _ => if (← rest).head? = some '\x7d' then pure none else pure (some (← decimal))
  expect '\x7d'
  skipSpace
  if max.any (· < min) then failure
  marked min max

def bounds? : Reader (Option Bounds) := do
  match ← rest with
  | '*' :: cs => setRest cs; return some (← marked 0 none)
  | '+' :: cs => setRest cs; return some (← marked 1 none)
  | '?' :: cs => setRest cs; return some (← marked 0 (some 1))
  | '\x7b' :: cs => setRest cs; return some (← countedBounds)
  | _ => return none

/-! ### Groups -/

inductive GroupStart where
  | numbered (number : Nat)
  | unnumbered
  /-- There is no group: the flags hold for the rest of the one around it. -/
  | settings

def newNumber : Reader Nat := do
  let n := (← get).groups + 1
  modify fun s => { s with groups := n }
  return n

def isNameStart (c : Char) : Bool :=
  c == '_' || Text.isLetter c

def isNamePart (c : Char) : Bool :=
  isNameStart c || Text.isNumeric c || c == '.' || c == '[' || c == ']'

def groupName (number : Nat) : Reader Unit := do
  let cs ← rest
  let chars := cs.takeWhile (· ≠ '>')
  setRest (cs.drop chars.length)
  expect '>'
  let name := String.ofList chars
  let names := (← get).names
  if !(chars.head?.any isNameStart) || !chars.all isNamePart || names.any (·.1 == name) then failure
  modify fun s => { s with names := (name, number) :: names }

def setFlag (c : Char) (value : Bool) : Reader Unit := do
  let f ← flags
  match c with
  | 'i' => setFlags { f with ignoreCase := value }
  | 'm' => setFlags { f with multiLine := value }
  | 's' => setFlags { f with dotAll := value }
  | 'U' => setFlags { f with swapGreed := value }
  | 'R' => setFlags { f with returns := value }
  | 'u' => setFlags { f with ascii := !value }
  | 'x' => setFlags { f with verbose := value }
  | _ => failure

/-- Sets flags and, after a dash, clears flags; no flag is named twice. -/
def flagLetters (letters : List Char) : Reader Unit := do
  let on := letters.takeWhile (· ≠ '-')
  let off := letters.drop (on.length + 1)
  if on.length < letters.length ∧ off.isEmpty then failure
  if !(on ++ off).Nodup then failure
  on.forM (setFlag · true)
  off.forM (setFlag · false)

def groupStart : Reader GroupStart := do
  skipSpace
  -- Conditions on what follows or comes before are not supported.
  if ← skip? "?=".toList <||> skip? "?!".toList then failure
  if ← skip? "?<=".toList <||> skip? "?<!".toList then failure
  if ← skip? "?P<".toList <||> skip? "?<".toList then
    let n ← newNumber
    groupName n
    return .numbered n
  if ← skip? ['?'] then
    let cs ← rest
    let letters := cs.takeWhile fun c => c ≠ ':' ∧ c ≠ ')'
    setRest (cs.drop letters.length)
    flagLetters letters
    match ← next with
    | ')' => if letters.isEmpty then failure else return .settings
    | _ => return .unnumbered
  return .numbered (← newNumber)

/-! ### Items -/

structure Item where
  node : Nested Node
  isSetting : Bool

def literal (c : Char) : Reader Node := do
  return .ofSet (← inCase (.single c))

def dot : Reader Node := do
  let f ← flags
  let breaks : CharSet :=
    if f.dotAll then .empty
    else if f.returns then .ofRanges [(0x0A, 0x0A), (0x0D, 0x0D)]
    else .single '\n'
  return .ofSet (← negated breaks)

def simpleItem : Reader Node := do
  let f ← flags
  match ← next with
  | '\\' =>
    match ← escape with
    | .literal c => literal c
    | .set s => return .ofSet s
    | .look l => return .look l
  | '.' => dot
  | '^' =>
    return .look (if !f.multiLine then .textStart else if f.returns then .lineStartCR else .lineStart)
  | '$' =>
    return .look (if !f.multiLine then .textEnd else if f.returns then .lineEndCR else .lineEnd)
  | c => literal c

def group (expression : Reader (Nested Node)) : Reader Item := do
  expect '('
  let f ← flags
  match ← groupStart with
  | .settings => return ⟨⟨.empty, 0⟩, true⟩
  | start =>
    let body ← expression
    expect ')'
    -- What was set inside the group does not hold behind it.
    setFlags f
    match start with
    | .numbered n => return ⟨⟨.group n body.value, body.depth + 1⟩, false⟩
    | _ => return ⟨⟨body.value, body.depth + 1⟩, false⟩

def maxDepth : Nat := 250

def item (fuel : Nat) (expression : Reader (Nested Node)) : Reader Item := do
  match ← rest with
  | '(' :: _ => group expression
  | '[' :: _ =>
    let s ← brackets fuel maxDepth
    return ⟨⟨.ofSet s.value, s.depth⟩, false⟩
  | _ => return ⟨⟨← simpleItem, 0⟩, false⟩

/-! ### Expressions -/

/-- Parts that are put together; a single one is not nested any deeper. -/
def combine (build : List Node → Node) (parts : List (Nested Node)) : Nested Node :=
  match parts with
  | [a] => a
  | parts =>
    let depth := parts.foldl (fun d a => Nat.max d a.depth) 0
    ⟨build (parts.map Nested.value), if parts.isEmpty then 0 else depth + 1⟩

/-- Items, up to the end of the alternative, behind those before them, the last of which is first. -/
def sequence (item : Reader Item) : (fuel : Nat) → (before : List Item) → Reader (Nested Node)
  | 0, _ => failure
  | fuel + 1, before => do
    skipSpace
    match ← bounds?, before with
    | some _, [] => failure
    | some b, last :: before =>
      if last.isSetting then failure
      let node := last.node.value.repeated b.min b.max b.lazy
      sequence item fuel (⟨⟨node, last.node.depth + 1⟩, false⟩ :: before)
    | none, before =>
      match ← rest with
      | [] | '|' :: _ | ')' :: _ => return combine Node.sequence (before.reverse.map Item.node)
      | _ => sequence item fuel ((← item) :: before)

def alternatives (branch : Reader (Nested Node)) :
    (fuel : Nat) → (before : List (Nested Node)) → Reader (Nested Node)
  | 0, _ => failure
  | fuel + 1, before => do
    let a ← branch
    if ← skip? ['|'] then alternatives branch fuel (a :: before)
    else return combine Node.alternation (a :: before).reverse

/-- An expression with at most `depth` groups around each other; `fuel` bounds the number of items. -/
def expression (fuel : Nat) : (depth : Nat) → Reader (Nested Node)
  | 0 => failure
  | depth + 1 => alternatives (sequence (item fuel (expression fuel depth)) fuel []) fuel []

end Reader

def read? (properties : Properties) (source : List Char) (ignoreCase : Bool) :
    Option (Node × List (String × Nat)) := do
  let start : Reader.State := ⟨properties, source, ⟨ignoreCase, false, false, false, false, false, false⟩, 0, []⟩
  let (node, s) ← (Reader.expression (source.length + 1) (Reader.maxDepth + 1)).run start
  if s.rest.isEmpty ∧ node.depth ≤ Reader.maxDepth then return (node.value, s.names) else failure

end Triword.Regex
