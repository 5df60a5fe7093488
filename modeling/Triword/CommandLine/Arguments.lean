import Triword.Address
import Triword.Text.Numeral

/-!
The arguments of the command line. They are read from left to right, and the first of them that is wrong,
or that asks for help or for the version, ends the reading.
-/

namespace Triword.CommandLine

inductive Format where
  | binary
  | text
  deriving DecidableEq

structure AssembleOptions where
  source : String
  out : Option String
  format : Format
  origin : VirtualAddress
  language : Option String
  deriving DecidableEq

structure RunOptions where
  input : String
  maxCycles : Option Nat
  userMode : Bool
  /-- The highest address of memory. -/
  capacity : Option PhysicalAddress
  seed : Option (BitVec 64)
  language : Option String
  deriving DecidableEq

inductive Command where
  | assemble (options : AssembleOptions)
  | run (options : RunOptions)
  deriving DecidableEq

inductive Ending where
  | help
  | version
  | misuse
  deriving DecidableEq

/-! ### Values -/

def path? (s : String) : Option String :=
  if s.isEmpty then none else some s

def format? (s : String) : Option Format :=
  if s = "binary" then some .binary else if s = "text" then some .text else none

def word? (s : String) : Option Word :=
  let n? := match s.toList with
    | '0' :: 'x' :: digits | '0' :: 'X' :: digits => Text.readSigned? 16 (Bits.bound 32) digits
    | digits => Text.readSigned? 10 (Bits.bound 32) digits
  n?.map (BitVec.ofNat 32)

def count? (s : String) : Option Nat :=
  Text.readSigned? 10 (Bits.bound 64) s.toList

def fill {α : Type} (place value : Option α) : Option (Option α) :=
  match place with
  | some _ => none
  | none => value.map some

def raise (flag : Bool) : Option Bool :=
  if flag then none else some true

/-! ### Options -/

inductive Effect (σ : Type) where
  | flag (set : σ → Option σ)
  | value (set : String → σ → Option σ)

structure OptionRule (σ : Type) where
  name : String
  letter : Option Char
  effect : Effect σ

def longOption? (arg : String) : Option (String × Option String) :=
  match arg.toList with
  | '-' :: '-' :: cs =>
    let name := cs.takeWhile (· ≠ '=')
    let value? := match cs.drop name.length with
      | [] => none
      | _ :: value => some (String.ofList value)
    some (String.ofList name, value?)
  | _ => none

def shortOption? (arg : String) : Option (Char × List Char) :=
  match arg.toList with
  | '-' :: c :: cs => some (c, cs)
  | _ => none

def isValue (arg : String) : Bool :=
  arg == "-" || arg.toList.head? != some '-'

inductive Need (σ : Type) where
  | nothing (s : σ)
  | value (set : String → σ → Option σ)

def readLong {σ : Type} (rules : List (OptionRule σ)) (s : σ) (name : String) (value? : Option String) :
    Except Ending (Need σ) :=
  if name = "help" then .error (if value?.isSome then .misuse else .help)
  else
    match rules.find? fun r => r.name == name with
    | none => .error .misuse
    | some rule =>
      match rule.effect, value? with
      | .flag set, none => (set s).elim (.error .misuse) fun s => .ok (.nothing s)
      | .flag _, some _ => .error .misuse
      | .value set, none => .ok (.value set)
      | .value set, some v => (set v s).elim (.error .misuse) fun s => .ok (.nothing s)

/-- The options that are named by letters behind one dash; the text behind the last one is its value. -/
def readShort {σ : Type} (rules : List (OptionRule σ)) (s : σ) : List Char → Except Ending (Need σ)
  | [] => .ok (.nothing s)
  | c :: cs =>
    if c = 'h' then .error .help
    else
      match rules.find? fun r => r.letter == some c with
      | none => .error .misuse
      | some rule =>
        match rule.effect, cs with
        | .flag set, cs => (set s).elim (.error .misuse) fun s => readShort rules s cs
        | .value set, [] => .ok (.value set)
        | .value set, cs =>
          let value := if cs.head? = some '=' then cs.drop 1 else cs
          (set (String.ofList value) s).elim (.error .misuse) fun s => .ok (.nothing s)

/--
Reads the arguments of a command. After two dashes alone there are no more options.
-/
def readArguments {σ : Type} (rules : List (OptionRule σ)) (place : String → σ → Option σ) (s : σ) :
    List String → Except Ending σ
  | [] => .ok s
  | arg :: rest =>
    if arg = "--" then (rest.foldlM (fun s a => place a s) s).elim (.error .misuse) .ok
    else
      let need := match longOption? arg, shortOption? arg with
        | some (name, value?), _ => readLong rules s name value?
        | none, some (c, cs) => readShort rules s (c :: cs)
        | none, none => (place arg s).elim (.error .misuse) fun s => .ok (.nothing s)
      match need with
      | .error e => .error e
      | .ok (.nothing s) => readArguments rules place s rest
      | .ok (.value set) =>
        match rest with
        | [] => .error .misuse
        | v :: rest =>
          if isValue v then
            match set v s with
            | some s => readArguments rules place s rest
            | none => .error .misuse
          else .error .misuse

/-! ### Commands -/

structure AssembleDraft where
  source : Option String
  out : Option String
  format : Option Format
  origin : Option Word
  language : Option String
  trace : Bool

def assembleRules : List (OptionRule AssembleDraft) :=
  [⟨"out", some 'o', .value fun v d => do return { d with out := ← fill d.out (path? v) }⟩,
   ⟨"format", none, .value fun v d => do return { d with format := ← fill d.format (format? v) }⟩,
   ⟨"origin", none, .value fun v d => do return { d with origin := ← fill d.origin (word? v) }⟩,
   ⟨"lang", none, .value fun v d => do return { d with language := ← fill d.language (path? v) }⟩,
   ⟨"trace", none, .flag fun d => do return { d with trace := ← raise d.trace }⟩]

def readAssemble (args : List String) : Except Ending Command := do
  let place (v : String) (d : AssembleDraft) : Option AssembleDraft := do
    return { d with source := ← fill d.source (path? v) }
  let d ← readArguments assembleRules place ⟨none, none, none, none, none, false⟩ args
  let some source := d.source | throw .misuse
  return .assemble ⟨source, d.out, d.format.getD .binary, ⟨d.origin.getD 0⟩, d.language⟩

structure RunDraft where
  input : Option String
  maxCycles : Option Nat
  userMode : Bool
  capacity : Option Word
  seed : Option Nat
  language : Option String
  trace : Bool

def runRules : List (OptionRule RunDraft) :=
  [⟨"max-cycles", none, .value fun v d => do return { d with maxCycles := ← fill d.maxCycles (count? v) }⟩,
   ⟨"user", none, .flag fun d => do return { d with userMode := ← raise d.userMode }⟩,
   ⟨"ram-capacity", none, .value fun v d => do return { d with capacity := ← fill d.capacity (word? v) }⟩,
   ⟨"seed", none, .value fun v d => do return { d with seed := ← fill d.seed (count? v) }⟩,
   ⟨"lang", none, .value fun v d => do return { d with language := ← fill d.language (path? v) }⟩,
   ⟨"trace", none, .flag fun d => do return { d with trace := ← raise d.trace }⟩]

def readRun (args : List String) : Except Ending Command := do
  let place (v : String) (d : RunDraft) : Option RunDraft := do
    return { d with input := ← fill d.input (path? v) }
  let d ← readArguments runRules place ⟨none, none, false, none, none, none, false⟩ args
  let some input := d.input | throw .misuse
  return .run ⟨input, d.maxCycles, d.userMode, d.capacity.map .mk, d.seed.map (BitVec.ofNat 64), d.language⟩

def readHelp : List String → Ending
  | [] => .help
  | [command] => if ["assemble", "run", "help"].contains command then .help else .misuse
  | _ => .misuse

def readCommand (trace : Bool) : List String → Except Ending Command
  | [] => .error .misuse
  | arg :: rest =>
    if arg = "assemble" then readAssemble rest
    else if arg = "run" then readRun rest
    else if arg = "help" then .error (readHelp rest)
    else if arg = "--trace" then if trace then .error .misuse else readCommand true rest
    else if arg = "--help" then .error .help
    else if arg = "--version" then .error .version
    else
      match shortOption? arg with
      | some ('h', _) => .error .help
      | some ('V', _) => .error .version
      | _ => .error .misuse

/-- Reads all arguments. The log that `--trace` asks for is no part of what a command does. -/
def Command.ofArguments (args : List String) : Except Ending Command :=
  readCommand false args

namespace Ending

def exitCode : Ending → Nat
  | help | version => 0
  | misuse => 2

end Ending

end Triword.CommandLine
