import Triword.Regex.Code

/-!
Matches of regular expressions in a text. All ways to match are followed side by side, one character after
the other, in the order in which they are preferred; where two ways come to the same step at one place,
only the preferred one is followed further. The match at the first place counts, and of the matches there
the preferred one.
-/

namespace Triword.Regex

structure Place where
  pos : Nat
  before : Option Char
  rest : List Char

namespace Place

def start (text : List Char) : Place :=
  ⟨0, none, text⟩

def step (p : Place) (c : Char) (rest : List Char) : Place :=
  ⟨p.pos + 1, some c, rest⟩

def advance (p : Place) : Nat → Place
  | 0 => p
  | n + 1 =>
    match p.rest with
    | [] => p
    | c :: rest => (p.step c rest).advance n

def isWordChar (ascii : Bool) (c : Char) : Bool :=
  if ascii then c.isAlphanum || c == '_' else Text.isWordChar c

def satisfiesWord (p : Place) (edge : WordEdge) (ascii : Bool) : Bool :=
  let before := p.before.any (isWordChar ascii)
  let after := p.rest.head?.any (isWordChar ascii)
  match edge with
  | .boundary => before != after
  | .noBoundary => before == after
  | .start => !before && after
  | .stop => before && !after
  | .startHalf => !before
  | .stopHalf => !after

def satisfies (p : Place) : Look → Bool
  | .textStart => p.before.isNone
  | .textEnd => p.rest.isEmpty
  | .lineStart => p.before.all (· == '\n')
  | .lineEnd => p.rest.head?.all (· == '\n')
  | .lineStartCR =>
    p.before.all (· == '\n') || p.before == some '\r' && p.rest.head? != some '\n'
  | .lineEndCR =>
    p.rest.head?.all (· == '\r') || p.rest.head? == some '\n' && p.before != some '\r'
  | .word edge ascii => p.satisfiesWord edge ascii

end Place

structure Mark where
  group : Nat
  isOpen : Bool
  pos : Nat

structure Way where
  step : Nat
  start : Nat
  /-- Where groups begin and end, the last mark first. -/
  marks : List Mark

namespace Way

def go (w : Way) (distance : Int) : Way :=
  { w with step := ((w.step : Int) + distance).toNat }

def mark (w : Way) (m : Mark) : Way :=
  { w with step := w.step + 1, marks := m :: w.marks }

end Way

namespace Search

def isDone (code : Array Step) (w : Way) : Bool :=
  decide (code.size ≤ w.step)

/--
Follows ways, of which `todo` holds those to come in their order, until each has come to its end or to a
character. `seen` holds, for every step, the place after the last one at which it has come up; `fuel`
bounds the number of ways to come.
-/
def settle (code : Array Step) (p : Place) :
    (fuel : Nat) → (todo settled : List Way) → (seen : Array Nat) → List Way × Array Nat
  | 0, _, settled, seen => (settled.reverse, seen)
  | _, [], settled, seen => (settled.reverse, seen)
  | fuel + 1, w :: todo, settled, seen =>
    -- Stamps are one more than the place, so that zero stands for no place at all.
    if seen[w.step]? = some (p.pos + 1) then settle code p fuel todo settled seen
    else
      let seen := seen.setIfInBounds w.step (p.pos + 1)
      match code[w.step]? with
      | none | some (.take _) => settle code p fuel todo (w :: settled) seen
      | some (.look l) =>
        settle code p fuel (if p.satisfies l then w.go 1 :: todo else todo) settled seen
      | some (.openGroup n) => settle code p fuel (w.mark ⟨n, true, p.pos⟩ :: todo) settled seen
      | some (.closeGroup n) => settle code p fuel (w.mark ⟨n, false, p.pos⟩ :: todo) settled seen
      | some (.fork first second) => settle code p fuel (w.go first :: w.go second :: todo) settled seen
      | some (.jump distance) => settle code p fuel (w.go distance :: todo) settled seen

/-- All ways that settle at a place. Every step is followed once at most, and leads to two others. -/
def settleAll (code : Array Step) (p : Place) (ways : List Way) (seen : Array Nat) :
    List Way × Array Nat :=
  settle code p (2 * code.size + ways.length + 2) ways [] seen

def pass? (code : Array Step) (c : Char) (w : Way) : Option Way :=
  match code[w.step]? with
  | some (.take s) => if s.contains c then some (w.go 1) else none
  | _ => none

end Search

structure Match where
  start : Nat
  stop : Nat
  marks : List Mark

namespace Search

def begin (p : Place) : Way :=
  ⟨0, p.pos, []⟩

/--
Goes through the characters after a place. `ways` are those that have settled there, and `best` is the
preferred match so far; where there is none yet, one may begin at every place.
-/
def search (code : Array Step) (pos : Nat) (rest : List Char) (ways : List Way) (seen : Array Nat)
    (best : Option Match) : Option Match :=
  let best :=
    match ways.find? (isDone code) with
    | some w => some ⟨w.start, pos, w.marks⟩
    | none => best
  let ways := ways.takeWhile fun w => !isDone code w
  match rest with
  | [] => best
  | c :: rest =>
    if ways.isEmpty && best.isSome then best
    else
      let next : Place := ⟨pos + 1, some c, rest⟩
      let passed := ways.filterMap (pass? code c)
      -- The ways that are left beside a match are preferred to it, and none begins any more.
      let ways := if best.isSome then passed else passed ++ [begin next]
      let (ways, seen) := settleAll code next ways seen
      search code (pos + 1) rest ways seen best
termination_by structural rest

def first? (code : Array Step) (p : Place) : Option Match :=
  let (ways, seen) := settleAll code p [begin p] (Array.replicate (code.size + 1) 0)
  search code p.pos p.rest ways seen none

/--
All matches from a place on, none of which begins before the end of the one before it. One that takes up
no character does not count at `stop`, where the match before it has ended.
-/
def matchesFrom (code : Array Step) : (fuel : Nat) → (stop : Option Nat) → Place → List Match
  | 0, _, _ => []
  | fuel + 1, stop, p =>
    match first? code p with
    | none => []
    | some m =>
      if m.start = m.stop ∧ stop = some m.stop then
        if p.rest.isEmpty then [] else matchesFrom code fuel stop (p.advance 1)
      else m :: matchesFrom code fuel (some m.stop) (p.advance (m.stop - p.pos))

def all (code : Array Step) (text : List Char) : List Match :=
  matchesFrom code (2 * text.length + 2) none (Place.start text)

def without (pos : Nat) (text : List Char) : List Match → List Char
  | [] => text
  | m :: ms => text.take (m.start - pos) ++ without m.stop (text.drop (m.stop - pos)) ms

end Search

end Triword.Regex
