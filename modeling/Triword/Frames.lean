import Triword.Address

/-!
The calls that have not returned. Their number is always known; what is known of each of them is kept
on demand.
-/

namespace Triword

inductive FrameKind where
  | subroutine
  | interrupt
  | systemCall
  deriving DecidableEq

structure Frame where
  caller : VirtualAddress
  callee : VirtualAddress
  vector : Option Word
  kind : FrameKind
  /-- The stack pointer once the return address was pushed. -/
  stackPointer : VirtualAddress
  deriving DecidableEq

structure FrameStack where
  depth : Nat
  /-- The calls, innermost first, if they are kept. -/
  frames : Option (List Frame)
  deriving DecidableEq

namespace FrameStack

def empty (keepFrames : Bool) : FrameStack :=
  ⟨0, if keepFrames then some [] else none⟩

def push (s : FrameStack) (f : Frame) : FrameStack :=
  ⟨s.depth + 1, s.frames.map (f :: ·)⟩

/-- Drops the innermost call; a return without a call leaves the stack empty. -/
def pop (s : FrameStack) : FrameStack :=
  ⟨s.depth - 1, s.frames.map List.tail⟩

def toList? (s : FrameStack) : Option (List Frame) :=
  s.frames.map List.reverse

end FrameStack

end Triword
