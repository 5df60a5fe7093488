import Triword.AccessLog
import Triword.Memory
import Triword.Paging.Context
import Triword.Paging.Entry

/-!
The memory-management unit. It finds the places of addresses, through page tables when paging is on, and
logs every byte that it reads or writes for a program. A page table is a row of entries in memory, one
for each page number; walking it is not logged. A write marks the entries that it went through as changed.
-/

namespace Triword

structure Mmu where
  memory : Memory
  paging : Bool
  log : AccessLog

namespace Mmu

def ofMemory (memory : Memory) : Mmu :=
  ⟨memory, false, .empty⟩

def offsetBits : Nat := 12

def pageSize : Nat := Bits.bound offsetBits

abbrev Action := EStateM Trap Mmu

def onMemory {α : Type} (action : Memory.Action α) : Action α := fun mmu =>
  match action mmu.memory with
  | .ok a memory => .ok a { mmu with memory }
  | .error e memory => .error (.beyondMemory e) { mmu with memory }

def ofMemoryRead {α : Type} (r : Except BeyondMemory α) : Except Trap α :=
  r.mapError .beyondMemory

def entry (mmu : Mmu) (a : PhysicalAddress) : Except Trap PageTableEntry :=
  (ofMemoryRead (mmu.memory.readWord a)).map .mk

def setEntry (a : PhysicalAddress) (e : PageTableEntry) : Action Unit :=
  onMemory (Memory.writeWord a e.word)

def entryAddress (table : PhysicalAddress) (a : VirtualAddress) : PhysicalAddress :=
  table.offset ((Bits.field a.word 0 20).setWidth 32 <<< 2)

def denies (e : PageTableEntry) (ctx : AccessContext) : Bool :=
  ctx.privilege = .user && e.has .kernelOnly
    || ctx.access = .write && !e.has .writable
    || ctx.access = .execute && !e.has .executable

/--
Goes through one table. Beside the place this gives the entry that a write has still to mark as
changed, if there is one.
-/
def walk (mmu : Mmu) (table : PhysicalAddress) (a : VirtualAddress) (ctx : AccessContext)
    (stage : Stage) : Except Trap (PhysicalAddress × List PhysicalAddress) := do
  let at_ := entryAddress table a
  let e ← mmu.entry at_
  if !e.has .present then
    throw (.pageFault ⟨e.flags, at_, a, stage⟩)
  if denies e ctx then
    throw .privilegeViolation
  let place : PhysicalAddress := ⟨e.frame ++ Bits.field a.word 20 12⟩
  let unmarked := ctx.access = .write && !e.has .changed
  return (place, if unmarked then [at_] else [])

/-- Changes nothing. The entries still to be marked come in the order of the walk. -/
def resolve (mmu : Mmu) (a : VirtualAddress) (ctx : AccessContext) :
    Except Trap (PhysicalAddress × List PhysicalAddress) :=
  if !mmu.paging then .ok (a.identity, [])
  else
    match ctx.tables with
    | .single table => mmu.walk table a ctx .single
    | .nested guest host => do
      let (middle, guestEntries) ← mmu.walk guest a ctx .guest
      let (place, hostEntries) ← mmu.walk host ⟨middle.word⟩ ctx .host
      return (place, guestEntries ++ hostEntries)

/--
The places of the four bytes of a word, with the entries to be marked. Resolving once serves for all
of them unless paging is on and the word goes beyond its page.
-/
def resolveWord (mmu : Mmu) (a : VirtualAddress) (ctx : AccessContext) :
    Except Trap (List PhysicalAddress × List PhysicalAddress) := do
  if !mmu.paging || a.toNat % pageSize ≤ pageSize - 4 then
    let (place, entries) ← mmu.resolve a ctx
    return (Memory.wordPlaces place, entries)
  else
    let resolved ← [a, a.add 1, a.add 2, a.add 3].mapM (mmu.resolve · ctx)
    return (resolved.map Prod.fst, resolved.flatMap Prod.snd)

/-- Marks entries as changed, but for those that have been marked meanwhile. -/
def markChanged (entries : List PhysicalAddress) : Action Unit :=
  entries.forM fun a => do
    let e ← ofExcept ((← get).entry a)
    if !e.has .changed then
      setEntry a (e.put .changed true)

def translate (a : VirtualAddress) (ctx : AccessContext) : Action PhysicalAddress := do
  let (place, entries) ← ofExcept ((← get).resolve a ctx)
  markChanged entries
  return place

def observe (a : PhysicalAddress) (s : AccessSet) : Action Unit :=
  modify fun mmu => { mmu with log := mmu.log.add a s }

def writePlace (a : PhysicalAddress) (b : Byte) : Action Unit := do
  -- A byte that stays the same has been written but not modified.
  let old ← ofExcept (ofMemoryRead ((← get).memory.readByte a))
  onMemory (Memory.writeByte a b)
  observe a (if old = b then .writing else AccessSet.writing.union .modifying)

def readByte (a : VirtualAddress) (ctx : AccessContext) : Action Byte := do
  let place ← translate a ctx
  let b ← ofExcept (ofMemoryRead ((← get).memory.readByte place))
  observe place .reading
  return b

def writeByte (a : VirtualAddress) (b : Byte) (ctx : AccessContext) : Action Unit := do
  let (place, entries) ← ofExcept ((← get).resolve a ctx)
  ofExcept (ofMemoryRead ((← get).memory.check place))
  markChanged entries
  writePlace place b

/-- Every byte is resolved and read before an entry is marked. -/
def readWord (a : VirtualAddress) (ctx : AccessContext) : Action Word := do
  let (places, entries) ← ofExcept ((← get).resolveWord a ctx)
  let bytes ← ofExcept (ofMemoryRead (places.mapM (← get).memory.readByte))
  markChanged entries
  places.forM (observe · .reading)
  return Bits.ofBytes bytes

/-- Every byte is resolved and its place checked before an entry is marked or a byte is written. -/
def writeWord (a : VirtualAddress) (w : Word) (ctx : AccessContext) : Action Unit := do
  let (places, entries) ← ofExcept ((← get).resolveWord a ctx)
  ofExcept (ofMemoryRead (places.forM (← get).memory.check))
  markChanged entries
  (places.zip (Bits.bytes w)).forM fun (a, b) => writePlace a b

end Mmu

end Triword
