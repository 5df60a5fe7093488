import Triword.CommandLine.Run

/-!
The command line, with the files of the machine that it runs on.
-/

namespace Triword.CommandLine

def tryFile {α : Type} (action : IO α) : IO (Except FileError α) := do
  try
    return .ok (← action)
  catch e =>
    return .error (match e with
      | .noFileOrDirectory _ _ _ | .noSuchThing _ _ _ => .notFound
      | e => .other (toString e))

def diskFiles : FileSystem IO where
  read path := tryFile do
    return (← IO.FS.readBinFile path).data.toList.map UInt8.toBitVec
  write path content := tryFile do
    IO.FS.writeBinFile path ⟨(content.map UInt8.ofBitVec).toArray⟩

def usage : String :=
  "usage: triword assemble SRC [-o OUT] [--format binary|text] [--origin N] [--lang FILE]\n"
    ++ "       triword run INPUT [--max-cycles N] [--user] [--ram-capacity N] [--seed N] [--lang FILE]"

def announce (ending : Ending) : IO Unit :=
  match ending with
  | .help => IO.println usage
  | .version => IO.println "triword 0.1.0"
  | .misuse => IO.eprintln usage

def printFailure (failure : Failure) : IO Unit := do
  IO.eprintln s!"error: {failure.message}"
  if let some hint := failure.hint then
    IO.eprintln s!"help: {hint}"

end Triword.CommandLine

open Triword.CommandLine in
def main (args : List String) : IO UInt32 := do
  match Command.ofArguments args with
  | .error ending =>
    announce ending
    return ending.exitCode.toUInt32
  | .ok command =>
    let (output, failure) ← command.execute diskFiles
    IO.print output
    match failure with
    | none => return 0
    | some failure =>
      printFailure failure
      return 1
