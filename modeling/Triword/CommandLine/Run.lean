import Triword.Assembly.Encode
import Triword.CommandLine.Arguments
import Triword.CommandLine.Files
import Triword.Cpu.Run
import Triword.Object.Binary
import Triword.Object.Listing

/-!
Carrying out the commands. A command reads files, writes at most one, and prints a report; if it fails,
it says why.
-/

namespace Triword.CommandLine

structure Failure where
  message : String
  hint : Option String
  deriving DecidableEq

namespace Failure

def ofFile (path : String) (e : FileError) : Failure :=
  ⟨s!"{path}: {e.message}", none⟩

def ofDefinition (e : Language.DefinitionError) : Failure :=
  ⟨e.message, e.hint⟩

def ofAssembly (e : Assembly.Error) : Failure :=
  ⟨e.message, e.hint⟩

def ofTrap (e : Trap) : Failure :=
  ⟨e.message, e.hint⟩

def unfinished (executed : Nat) : Failure :=
  ⟨s!"stopped after {executed} instructions without halting", none⟩

end Failure

def writeObject (format : Format) (p : Program) : List Byte :=
  match format with
  | .binary => Object.Binary.write p
  | .text => Text.utf8 (Object.Listing.write p)

def readObject? (content : List Byte) : Option Program :=
  Object.Binary.read? content <|> (Text.ofUtf8? content).bind Object.Listing.read?

/-- The path with `obj` for what stands after the last dot of its name, unless that dot comes first. -/
def objectPath (path : String) : String :=
  let cs := path.toList
  let name := (cs.reverse.takeWhile (· ≠ '/')).reverse
  let ending := name.reverse.takeWhile (· ≠ '.')
  let stem := if ending.length + 1 < name.length then cs.take (cs.length - ending.length - 1) else cs
  String.ofList (stem ++ ".obj".toList)

def padded (width : Nat) (s : String) : String :=
  s ++ String.ofList (List.replicate (width - s.length) ' ')

def registerLine (cpu : Cpu) (r : Register) : String :=
  let w := cpu.regs.read r
  s!"{padded 8 r.display} 0x{Text.upperHex 8 w.toNat}  {w.toInt}"

def report (cpu : Cpu) : String :=
  let lines := Register.all.map (registerLine cpu)
    ++ [cpu.regs.eflags.describe, s!"instructions run: {cpu.executed.toNat}"]
  String.ofList (lines.flatMap fun line => line.toList ++ ['\n'])

/-- More cycles than any run can take in practice. -/
def patience : Nat := Bits.bound 64

def settings (o : RunOptions) : Settings :=
  { Settings.standard with
    capacity := o.capacity.getD Settings.standard.capacity
    userMode := o.userMode
    fill := (o.seed.map Fill.seeded).getD Settings.standard.fill }

def simulate (p : Program) (maxCycles : Option Nat) : Cpu.Action Unit := do
  discard (Cpu.load p)
  match maxCycles with
  | some n => Cpu.runWithLimit n
  | none => Cpu.run patience

/-- A task prints as it goes on, and keeps what it has printed when it fails. -/
abbrev Task (m : Type → Type) := ExceptT Failure (StateT String m)

section

variable {m : Type → Type} [Monad m]

def print (text : String) : Task m Unit :=
  modify (· ++ text)

def readFile (fs : FileSystem m) (path : String) : Task m (List Byte) := do
  match ← fs.read path with
  | .ok content => return content
  | .error e => throw (.ofFile path e)

def decodeText (path : String) (content : List Byte) : Task m String :=
  match Text.ofUtf8? content with
  | some text => return text
  | none => throw (.ofFile path .notText)

def loadLanguage (fs : FileSystem m) : Option String → Task m Language
  | none => return .bundled
  | some path => do
    match Language.read (← decodeText path (← readFile fs path)) with
    | .ok l => return l
    | .error e => throw (.ofDefinition e)

def assembleContent (fs : FileSystem m) (path : String) (content : List Byte) (language : Option String)
    (origin : VirtualAddress) : Task m Program := do
  let source ← decodeText path content
  match assemble (← loadLanguage fs language) origin source with
  | .ok p => return p
  | .error e => throw (.ofAssembly e)

def assembleCommand (fs : FileSystem m) (o : AssembleOptions) : Task m Unit := do
  let p ← assembleContent fs o.source (← readFile fs o.source) o.language o.origin
  let out := o.out.getD (objectPath o.source)
  match ← fs.write out (writeObject o.format p) with
  | .ok () => return
  | .error e => throw (.ofFile out e)

/-- The program of a file, which is taken for a source if it is no object file. -/
def loadInput (fs : FileSystem m) (path : String) (language : Option String) : Task m Program := do
  -- Files are taken to stay as they are while a command runs: a source is not read again to assemble it.
  let content ← readFile fs path
  match readObject? content with
  | some p => return p
  | none => assembleContent fs path content language .zero

def runCommand (fs : FileSystem m) (o : RunOptions) : Task m Unit := do
  let p ← loadInput fs o.input o.language
  match simulate p o.maxCycles (Cpu.initial (settings o)) with
  | .error e _ => throw (.ofTrap e)
  | .ok () cpu =>
    print (report cpu)
    if cpu.pause ≠ some .halt then throw (.unfinished cpu.executed.toNat)

def Command.execute (fs : FileSystem m) (c : Command) : m (String × Option Failure) := do
  let task : Task m Unit := match c with
    | .assemble o => assembleCommand fs o
    | .run o => runCommand fs o
  let (result, output) ← (task.run).run ""
  return match result with
    | .ok () => (output, none)
    | .error failure => (output, some failure)

end

end Triword.CommandLine
