import Triword.Regex.Basic

/-!
Regular expressions as lists of steps. A step goes on with the one after it or with others that it names
by their distance, so the steps of a part are the same wherever the part stands, and they end by going on
behind their last one.
-/

namespace Triword.Regex

inductive Step where
  | take (s : CharSet)
  | look (l : Look)
  | openGroup (number : Nat)
  | closeGroup (number : Nat)
  /-- Goes on at two distances, the first of which is preferred. -/
  | fork (first second : Int)
  | jump (distance : Int)

abbrev Code := List Step

namespace Code

/-- Goes on with the next step or at the given distance; a lazy repetition prefers the latter. -/
def choose (lazy : Bool) (distance : Int) : Step :=
  if lazy then .fork distance 1 else .fork 1 distance

def times (n : Nat) (body : Code) : Code :=
  (List.replicate n body).flatten

def upTo (n : Nat) (lazy : Bool) (body : Code) : Code :=
  (List.range n).flatMap fun i => choose lazy ((n - i) * (body.length + 1) : Nat) :: body

def plus (lazy : Bool) (body : Code) : Code :=
  body ++ [if lazy then .fork 1 (-body.length) else .fork (-body.length) 1]

/-- Any number of times, each of which takes up a character. -/
def star (lazy : Bool) (body : Code) : Code :=
  choose lazy (body.length + 2 : Nat) :: body ++ [.jump (-(body.length + 1 : Nat))]

def repeated (min : Nat) (max : Option Nat) (lazy takesUp : Bool) (body : Code) : Code :=
  match max, min with
  | some max, min => times min body ++ upTo (max - min) lazy body
  | none, 0 => if takesUp then star lazy body else upTo 1 lazy (plus lazy body)
  | none, n + 1 => times n body ++ plus lazy body

def alternatives : List Code → Code
  | [] => []
  | [a] => a
  | a :: as =>
    let rest := alternatives as
    .fork 1 (a.length + 2 : Nat) :: a ++ .jump (rest.length + 1 : Nat) :: rest

end Code

namespace Node

mutual

def code : Node → Code
  | empty => []
  | literal cs => cs.map fun c => .take (.single c)
  | set s => [.take s]
  | look l => [.look l]
  | rep a min max lazy => Code.repeated min max lazy a.takesUp a.code
  | group number a => .openGroup number :: a.code ++ [.closeGroup number]
  | cat as => (codes as).flatten
  | alt as => Code.alternatives (codes as)

def codes : List Node → List Code
  | [] => []
  | a :: as => a.code :: codes as

end

end Node

end Triword.Regex
