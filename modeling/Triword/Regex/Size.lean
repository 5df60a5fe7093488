import Std.Data.TreeMap
import Triword.Regex.Basic
import Triword.Text.Utf8
import Triword.Text.Utf8Ranges

/-!
The room that an expression takes as an automaton on the bytes of UTF-8, one that goes forward and one
that goes backward from the end of a match. Nothing is built: the states are counted only, with what they
keep. An expression is refused if one of its automata takes too much.
-/

namespace Triword.Regex

structure Room where
  states : Nat
  extra : Nat

def Room.bytes (r : Room) : Nat :=
  32 * r.states + r.extra

def Room.limit : Nat := 10 * 1024 * 1024

abbrev Builder := StateT Room Option

namespace Builder

def spend (states extra : Nat) : Builder Unit := do
  modify fun r => ⟨r.states + states, r.extra + extra⟩
  if Room.limit < (← get).bytes then failure

/-- Joins the last state of a part to what comes next, which a state with several ways on takes note of. -/
def link (branches : Bool) : Builder Unit :=
  if branches then spend 0 4 else pure ()

/-! ### Sets -/

structure Known where
  key : List Nat
  number : Nat

/--
States by the hash of what they do. The table has a certain number of slots, and of two states in one slot
the later one stays.
-/
structure Table where
  slots : Nat
  states : Std.TreeMap Nat Known

abbrev Sharing := StateT Table Builder

def hash (key : List Nat) : UInt64 :=
  -- FNV-1a, with a number at a time in the place of a byte.
  key.foldl (fun h n => (h ^^^ n.toUInt64) * 1099511628211) 14695981039346656037

def share (key : List Nat) (extra : Nat) : Sharing Nat := do
  let slot := (hash key).toNat % (← get).slots
  match (← get).states[slot]? with
  | some known => if known.key = key then return known.number
  | none => pure ()
  let number := (← getThe Room).states
  spend 1 extra
  modify fun table => { table with states := table.states.insert slot ⟨key, number⟩ }
  return number

def byFirst : List Text.ByteRanges → List ((Nat × Nat) × List Text.ByteRanges)
  | [] => []
  | [] :: parts => byFirst parts
  | (r :: rest) :: parts =>
    match byFirst parts with
    | (s, rests) :: others => if r = s then (r, rest :: rests) :: others else (r, [rest]) :: (s, rests) :: others
    | [] => [(r, [rest])]

/-- The state from which the encodings of some parts, of at most `n` bytes, lead to `target`. -/
def forwardState (target : Nat) : (n : Nat) → List Text.ByteRanges → Sharing Nat
  | 0, _ => return target
  | n + 1, parts => do
    if parts.head? = some [] then return target
    let ways ← (byFirst parts).mapM fun ((low, high), rests) => do
      return [low, high, ← forwardState target n rests]
    share ways.flatten (8 * ways.length)

/-- The states that lead from the end of an encoding backward to its start, beginning with the latter. -/
def backwardStates (target : Nat) (part : Text.ByteRanges) : Sharing Unit := do
  discard <| part.foldlM (fun after (low, high) => share [after, low, high] 0) target
  spend 0 4

def set (backward : Bool) (s : CharSet) : Builder Unit := do
  let ranges := s.toRanges
  -- Other sets are made of the encodings of their characters, byte by byte.
  if s.isAscii then spend 2 (8 * ranges.length)
  else
    let parts := ranges.flatMap fun (low, high) => Text.utf8Ranges low high
    if backward then
      let target := (← get).states + 1
      spend 2 0
      discard <| (parts.forM (backwardStates target)).run ⟨1000, ∅⟩
    else
      let target := (← get).states
      spend 1 0
      discard <| (forwardState target 4 parts).run ⟨10000, ∅⟩

/-! ### Alternatives of characters -/

def cutAtEmpty : List (List Byte) → List (List (List Byte))
  | [] => [[]]
  | [] :: words => [] :: cutAtEmpty words
  | w :: words =>
    match cutAtEmpty words with
    | first :: others => (w :: first) :: others
    | [] => [[w]]

def byFirstByte (words : List (List Byte)) : List (List (List Byte)) :=
  (words.filterMap List.head?).eraseDups.map fun b =>
    words.filterMap fun w => if w.head? = some b then some w.tail else none

/-- The states of a tree for words of at most `n` bytes. Words that end in a leaf take no state there. -/
def tree : (n : Nat) → List (List Byte) → Builder Unit
  | 0, _ => pure ()
  | n + 1, words => do
    if words.all List.isEmpty then return
    let runs := cutAtEmpty words
    let runs := if words.head? = some [] then [] :: runs.dropWhile List.isEmpty else runs
    for run in runs do
      let nexts := byFirstByte run
      if !run.isEmpty then spend 1 (4 + if nexts.length = 1 then 0 else 8 * nexts.length)
      nexts.forM (tree n)
    spend 1 (4 * (runs.length - 1))

def words (backward : Bool) (ws : List (List Char)) : Builder Unit := do
  let bytes := ws.map fun w => Text.utf8 (String.ofList w)
  let bytes := if backward then bytes.map List.reverse else bytes
  spend 1 0
  tree ((bytes.map List.length).foldl Nat.max 0 + 1) bytes

/-! ### Repetitions -/

/-- `n` times more, after what ends in a state that `branches`, each time behind some room of its own. -/
def more (body : Builder Bool) (states extra : Nat) : (n : Nat) → (branches : Bool) → Builder Bool
  | 0, branches => return branches
  | n + 1, branches => do
    spend states extra
    link branches
    more body states extra n (← body)

def exactly (body : Builder Bool) : (n : Nat) → Builder Bool
  | 0 => do spend 1 0; return false
  | n + 1 => do more body 0 0 n (← body)

def repeated (min : Nat) (max : Option Nat) (takesUp : Bool) (body : Builder Bool) : Builder Bool := do
  match max, min with
  | some max, min =>
    if max = 1 ∧ min = 0 then
      spend 1 8
      link (← body)
      spend 1 0
      return false
    else if min = max then exactly body min
    else
      let branches ← exactly body min
      spend 1 0
      link (← more body 1 8 (max - min) branches)
      return false
  | none, 0 =>
    if takesUp then
      spend 1 4
      link (← body)
      return true
    else
      link (← body)
      spend 3 16
      return false
  | none, n + 1 =>
    let branches ← if n = 0 then pure false else exactly body n
    link branches
    link (← body)
    spend 1 4
    return true

end Builder

namespace Node

open Builder

def word? : Node → Option (List Char)
  | literal cs => some cs
  | _ => none

mutual

/-- Takes the room for an expression, and tells whether its last state has several ways on. -/
def build (backward : Bool) : Node → Builder Bool
  | empty | look _ => do spend 1 0; return false
  | literal cs => do spend (String.ofList cs).utf8ByteSize 0; return false
  | set s => do Builder.set backward s; return false
  | rep a min max _ => Builder.repeated min max a.takesUp (a.build backward)
  | group _ a =>
    if backward then a.build backward
    else do
      spend 1 0
      link (← a.build backward)
      spend 1 0
      return false
  | cat as => buildAll backward as
  | alt as =>
    match as.mapM word? with
    | some ws => do words backward ws; return false
    | none => do
      buildEach backward 0 as
      return false

def buildAll (backward : Bool) : List Node → Builder Bool
  | [] => return false
  | [a] => a.build backward
  | a :: b :: as => do
    if backward then
      link (← buildAll backward (b :: as))
      a.build backward
    else
      link (← a.build backward)
      buildAll backward (b :: as)

/-- Alternatives, `before` of which have been built. The first two of them go before the states around them. -/
def buildEach (backward : Bool) (before : Nat) : List Node → Builder Unit
  | [] => pure ()
  | a :: as => do
    link (← a.build backward)
    spend (if before = 1 then 2 else 0) 4
    buildEach backward (before + 1) as

end

mutual

def startsText : Node → Bool
  | look .textStart => true
  | rep a min _ _ => min != 0 && a.startsText
  | group _ a => a.startsText
  | cat as => someStartsText as
  | alt as => allStartText as
  | _ => false

def someStartsText : List Node → Bool
  | [] => false
  | a :: as => a.startsText || a.maxLength? == some 0 && someStartsText as

def allStartText : List Node → Bool
  | [] => true
  | a :: as => a.startsText && allStartText as

end

mutual

def endsText : Node → Bool
  | look .textEnd => true
  | rep a min _ _ => min != 0 && a.endsText
  | group _ a => a.endsText
  | cat as => someEndsText as
  | alt as => allEndText as
  | _ => false

def someEndsText : List Node → Bool
  | [] => false
  | a :: as => someEndsText as || (a.endsText && as.all fun b => b.maxLength? == some 0)

def allEndText : List Node → Bool
  | [] => true
  | a :: as => a.endsText && allEndText as

end

/-- Takes the room for a whole automaton, which may set out at any place unless it is held at one end. -/
def buildWhole (backward : Bool) (a : Node) : Builder Unit := do
  let isHeld := if backward then a.endsText else a.startsText
  if isHeld then spend 1 0 else spend 3 16
  let a := if backward then a else group 0 a
  link (← a.build backward)
  spend 1 0

def fits (a : Node) : Bool :=
  ((a.buildWhole false).run ⟨0, 0⟩).isSome && ((a.buildWhole true).run ⟨0, 0⟩).isSome

end Node

end Triword.Regex
