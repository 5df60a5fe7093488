import Triword.Regex.CharSet

/-!
Regular expressions in a normal form. The functions that build expressions join what stands side by side
and leave out what says nothing, so that each expression is put together from its parts by them alone.
-/

namespace Triword.Regex

/-- The conditions on a place that regard words, by what comes before the place and after it. -/
inductive WordEdge where
  | boundary
  | noBoundary
  | start
  | stop
  | startHalf
  | stopHalf
  deriving DecidableEq

inductive Look where
  | textStart
  | textEnd
  | lineStart
  | lineEnd
  /-- A line begins here, where carriage returns and both characters in order end lines too. -/
  | lineStartCR
  | lineEndCR
  | word (edge : WordEdge) (ascii : Bool)
  deriving DecidableEq

inductive Node where
  | empty
  | literal (cs : List Char)
  | set (s : CharSet)
  | look (l : Look)
  /-- At least `min` times `a` and at most `max` times, if there is a most. -/
  | rep (a : Node) (min : Nat) (max : Option Nat) (lazy : Bool)
  | group (number : Nat) (a : Node)
  | cat (as : List Node)
  /-- Two or more alternatives, the earlier ones of which are preferred. -/
  | alt (as : List Node)

namespace Node

mutual

def same : Node → Node → Bool
  | empty, empty => true
  | literal cs, literal ds => cs == ds
  | set s, set t => s == t
  | look l, look k => l == k
  | rep a min max lazy, rep b min' max' lazy' =>
    min == min' && max == max' && lazy == lazy' && a.same b
  | group m a, group n b => m == n && a.same b
  | cat as, cat bs => sameAll as bs
  | alt as, alt bs => sameAll as bs
  | _, _ => false

def sameAll : List Node → List Node → Bool
  | [], [] => true
  | a :: as, b :: bs => a.same b && sameAll as bs
  | _, _ => false

end

mutual

def minLength? : Node → Option Nat
  | empty | look _ => some 0
  | literal cs => some cs.length
  | set s => if s.edges.isEmpty then none else some 1
  | rep a min _ _ => a.minLength?.map (min * ·)
  | group _ a => a.minLength?
  | cat as => (minLengths? as).map List.sum
  | alt as => (minLengths? as).bind List.min?

def minLengths? : List Node → Option (List Nat)
  | [] => some []
  | a :: as => do return (← a.minLength?) :: (← minLengths? as)

end

mutual

def maxLength? : Node → Option Nat
  | empty | look _ => some 0
  | literal cs => some cs.length
  | set s => if s.edges.isEmpty then none else some 1
  | rep a _ max _ => do return (← max) * (← a.maxLength?)
  | group _ a => a.maxLength?
  | cat as => (maxLengths? as).map List.sum
  | alt as => (maxLengths? as).bind List.max?

def maxLengths? : List Node → Option (List Nat)
  | [] => some []
  | a :: as => do return (← a.maxLength?) :: (← maxLengths? as)

end

def takesUp (a : Node) : Bool :=
  a.minLength?.any (0 < ·)

def ofSet (s : CharSet) : Node :=
  match s.only? with
  | some c => literal [c]
  | none => set s

/-- A repetition, of which what takes up no characters is in need at most once. -/
def repeated (a : Node) (min : Nat) (max : Option Nat) (lazy : Bool) : Node :=
  let once := a.maxLength? = some 0
  let min := if once then Nat.min min 1 else min
  let max := if once then some (Nat.min (max.getD 1) 1) else max
  match min, max with
  | 0, some 0 => empty
  | 1, some 1 => a
  | _, _ => rep a min max lazy

def push : Node → List Node → List Node
  | empty, as => as
  | literal cs, literal ds :: as => literal (cs ++ ds) :: as
  | a, as => a :: as

def join : Node → List Node → List Node
  | cat as, bs => as.foldr push bs
  | a, bs => push a bs

def sequence (as : List Node) : Node :=
  match as.foldr join [] with
  | [] => empty
  | [a] => a
  | as => cat as

def alternatives : Node → List Node
  | alt as => as
  | a => [a]

def char? : Node → Option Char
  | literal [c] => some c
  | _ => none

def set? : Node → Option CharSet
  | set s => some s
  | _ => none

/-- One of some expressions, which is a set if all of them are characters or all are sets. -/
def choice (as : List Node) : Node :=
  match as.flatMap alternatives with
  | [] => set .empty
  | [a] => a
  | as =>
    match as.mapM char?, as.mapM set? with
    | some cs, _ => ofSet (CharSet.ofRanges (cs.map fun c => (c.toNat, c.toNat)))
    | none, some sets => ofSet (sets.foldl CharSet.union .empty)
    | none, none => alt as

def parts? : Node → Option (List Node)
  | cat as => some as
  | _ => none

def commonPrefix : List Node → List Node → List Node
  | a :: as, b :: bs => if a.same b then a :: commonPrefix as bs else []
  | _, _ => []

/-- Alternatives, where those that all begin with the same parts have these parts in front of them once. -/
def alternation (as : List Node) : Node :=
  match choice as with
  | alt as =>
    match as.mapM parts? with
    | some (first :: others) =>
      let common := others.foldl commonPrefix first
      if common.isEmpty then alt as
      else
        let ends := (first :: others).map fun as => sequence (as.drop common.length)
        sequence (common ++ [choice ends])
    | _ => alt as
  | a => a

end Node

end Triword.Regex
