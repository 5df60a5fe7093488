import Triword.Text.CaseFold
import Triword.Text.Class

/-!
Sets of characters, as regular expressions name them. A set is the ascending list of the numbers at which
membership changes, so that there is one list for each set, and the operations go along these lists.
-/

namespace Triword.Regex

structure CharSet where
  /-- The first edge is the least number in the set, the second one the next that is not in it, and so on. -/
  edges : List Nat
  deriving DecidableEq

namespace CharSet

def empty : CharSet :=
  ⟨[]⟩

def limit : Nat := 0x110000

def range (low high : Nat) : CharSet :=
  if high + 1 < limit then ⟨[low, high + 1]⟩ else ⟨[low]⟩

def single (c : Char) : CharSet :=
  range c.toNat c.toNat

def ofTable (ranges : List (Nat × Nat)) : CharSet :=
  ⟨ranges.flatMap fun (low, high) => [low, high + 1]⟩

/-- Whether `n` is in, where `inside` says so for the numbers before the edges. -/
def holds (n : Nat) (inside : Bool) : List Nat → Bool
  | [] => inside
  | e :: edges => if n < e then inside else holds n (!inside) edges

def contains (s : CharSet) (c : Char) : Bool :=
  holds c.toNat false s.edges

def rangesOf : List Nat → List (Nat × Nat)
  | low :: next :: edges => (low, next - 1) :: rangesOf edges
  | [low] => [(low, limit - 1)]
  | [] => []

def toRanges (s : CharSet) : List (Nat × Nat) :=
  rangesOf s.edges

def only? (s : CharSet) : Option Char :=
  match s.toRanges with
  | [(low, high)] => if low = high then some (Char.ofNat low) else none
  | _ => none

def isAscii (s : CharSet) : Bool :=
  s.toRanges.all fun (_, high) => decide (high < 0x80)

def edgeAt (n : Nat) (before after : Bool) (edges : List Nat) : List Nat :=
  if before = after then edges else n :: edges

/-- The edges at those of the second set, where `x` tells membership in the first one. -/
def secondEdges (op : Bool → Bool → Bool) (x y : Bool) : List Nat → List Nat
  | [] => []
  | f :: fs => edgeAt f (op x y) (op x (!y)) (secondEdges op x (!y) fs)

def edgesTo (op : Bool → Bool → Bool) (x : Bool) (e : Nat) (next : Bool → List Nat → List Nat) (y : Bool) :
    List Nat → List Nat
  | [] => edgeAt e (op x y) (op (!x) y) (next y [])
  | f :: fs =>
    if e < f then edgeAt e (op x y) (op (!x) y) (next y (f :: fs))
    else if f < e then edgeAt f (op x y) (op x (!y)) (edgesTo op x e next (!y) fs)
    else edgeAt e (op x y) (op (!x) (!y)) (next (!y) fs)

/-- The edges of a set whose members are told from membership in two others, as `x` and `y` say so far. -/
def zipEdges (op : Bool → Bool → Bool) (x : Bool) : List Nat → (y : Bool) → List Nat → List Nat
  | [], y, fs => secondEdges op x y fs
  | e :: es, y, fs => edgesTo op x e (zipEdges op (!x) es) y fs

def zip (op : Bool → Bool → Bool) (s t : CharSet) : CharSet :=
  ⟨zipEdges op false s.edges false t.edges⟩

def union (s t : CharSet) : CharSet :=
  zip (· || ·) s t

def inter (s t : CharSet) : CharSet :=
  zip (· && ·) s t

def diff (s t : CharSet) : CharSet :=
  zip (fun x y => x && !y) s t

def symmDiff (s t : CharSet) : CharSet :=
  zip (· != ·) s t

def compl (s : CharSet) : CharSet :=
  match s.edges with
  | 0 :: edges => ⟨edges⟩
  | edges => ⟨0 :: edges⟩

def ofRanges (ranges : List (Nat × Nat)) : CharSet :=
  ranges.foldl (fun s (low, high) => s.union (range low high)) empty

def skipTo (n : Nat) (inside : Bool) : List Nat → Bool × List Nat
  | [] => (inside, [])
  | e :: edges => if n < e then (inside, e :: edges) else skipTo n (!inside) edges

/-- The second parts of the pairs whose first parts, which ascend, are in. -/
def imagesOf : List (Nat × Nat) → (inside : Bool) → List Nat → List Nat
  | [], _, _ => []
  | (n, m) :: pairs, inside, edges =>
    match skipTo n inside edges with
    | (false, []) => []
    | (true, edges) => m :: imagesOf pairs true edges
    | (false, edges) => imagesOf pairs false edges

def insertSorted (n : Nat) : List Nat → List Nat
  | [] => [n]
  | m :: ms => if n ≤ m then n :: m :: ms else m :: insertSorted n ms

def edgesOf : List Nat → List Nat
  | [] => []
  | n :: ns =>
    match edgesOf ns with
    | e :: edges =>
      if e = n then e :: edges
      else if e = n + 1 then n :: edges
      else n :: (n + 1) :: e :: edges
    | [] => [n, n + 1]

def withImages (pairs : List (Nat × Nat)) (s : CharSet) : CharSet :=
  s.union ⟨edgesOf ((imagesOf pairs false s.edges).foldr insertSorted [])⟩

def foldCase (s : CharSet) : CharSet :=
  s.withImages Text.caseVariants

def foldAsciiCase (s : CharSet) : CharSet :=
  s.withImages Text.asciiCaseVariants

def digit : CharSet :=
  ofTable ((0x30, 0x39) :: Text.digitRanges)

def blank : CharSet :=
  ofTable Text.blankRanges

def word : CharSet :=
  ofTable ((0x30, 0x39) :: (0x41, 0x5A) :: (0x5F, 0x5F) :: (0x61, 0x7A) :: Text.wordRanges)

def named? (name : String) : Option CharSet :=
  (table.lookup name).map ofRanges
where
  table : List (String × List (Nat × Nat)) :=
    [("alnum", [(0x30, 0x39), (0x41, 0x5A), (0x61, 0x7A)]),
     ("alpha", [(0x41, 0x5A), (0x61, 0x7A)]),
     ("ascii", [(0x00, 0x7F)]),
     ("blank", [(0x09, 0x09), (0x20, 0x20)]),
     ("cntrl", [(0x00, 0x1F), (0x7F, 0x7F)]),
     ("digit", [(0x30, 0x39)]),
     ("graph", [(0x21, 0x7E)]),
     ("lower", [(0x61, 0x7A)]),
     ("print", [(0x20, 0x7E)]),
     ("punct", [(0x21, 0x2F), (0x3A, 0x40), (0x5B, 0x60), (0x7B, 0x7E)]),
     ("space", [(0x09, 0x0D), (0x20, 0x20)]),
     ("upper", [(0x41, 0x5A)]),
     ("word", [(0x30, 0x39), (0x41, 0x5A), (0x5F, 0x5F), (0x61, 0x7A)]),
     ("xdigit", [(0x30, 0x39), (0x41, 0x46), (0x61, 0x66)])]

end CharSet

end Triword.Regex
