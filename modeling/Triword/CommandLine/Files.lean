import Std.Data.ExtTreeMap
import Triword.Bits

/-!
Reading and writing files, in any monad; and directories, in which files can be read and written without
any effect on the outside.
-/

namespace Triword.CommandLine

inductive FileError where
  | notFound
  | notDirectory
  | isDirectory
  | notText
  | other (reason : String)
  deriving DecidableEq

namespace FileError

def message : FileError → String
  | notFound => "No such file or directory (os error 2)"
  | notDirectory => "Not a directory (os error 20)"
  | isDirectory => "Is a directory (os error 21)"
  | notText => "stream did not contain valid UTF-8"
  | other reason => reason

end FileError

structure FileSystem (m : Type → Type) where
  read (path : String) : m (Except FileError (List Byte))
  write (path : String) (content : List Byte) : m (Except FileError Unit)

/-- A directory: the files in it and below it, by their paths from it. No directory in it is empty. -/
structure Directory where
  files : Std.ExtTreeMap String (List Byte)

namespace Directory

def ofList (files : List (String × List Byte)) : Directory :=
  ⟨Std.ExtTreeMap.ofList files⟩

def toList (d : Directory) : List (String × List Byte) :=
  d.files.toList

def holdsDirectory (d : Directory) (path : String) : Bool :=
  d.toList.any fun (file, _) => (path ++ "/").toList.isPrefixOf file.toList

/-- Goes from the directory at `above` to the file, there or not, that the parts of a path name. -/
def descend (d : Directory) (above : String) : List String → Except FileError String
  | [] => .error .isDirectory
  | [name] =>
    let file := above ++ name
    if name = ".." || d.holdsDirectory file then .error .isDirectory else .ok file
  | name :: below =>
    let directory := above ++ name
    if d.files.contains directory then .error .notDirectory
    else if d.holdsDirectory directory then d.descend (directory ++ "/") below
    else .error .notFound

/-- The file, there or not, to which a path leads. A path that ends with a slash leads to no file. -/
def resolve (d : Directory) (path : String) : Except FileError String := do
  let parts := path.splitOn "/"
  let names := parts.filter fun part => part ≠ "" ∧ part ≠ "."
  if parts.head? = some "" then throw .notFound
  let file ← d.descend "" names
  if parts.getLast? ≠ names.getLast? then
    throw (if d.files.contains file then .notDirectory else .notFound)
  return file

def read (d : Directory) (path : String) : Except FileError (List Byte) := do
  match d.files[← d.resolve path]? with
  | some content => return content
  | none => throw .notFound

def write (d : Directory) (path : String) (content : List Byte) : Except FileError Directory := do
  return ⟨d.files.insert (← d.resolve path) content⟩

def fileSystem : FileSystem (StateM Directory) where
  read path := return (← get).read path
  write path content := do
    match (← get).write path content with
    | .ok d => set d; return .ok ()
    | .error e => return .error e

end Directory

end Triword.CommandLine
