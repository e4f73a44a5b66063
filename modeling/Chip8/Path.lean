import Chip8.Text.Quoted

/-!
# Paths and files

Paths as sequences of names between slashes, and a directory of plain files to
look them up in.

- `Path.normalize`: a path without its superfluous parts.
- `Directory.read`: the contents of a file.
- `FileError.message`: what is said about a file that cannot be read.
-/

namespace Chip8

/-- Why a file is not read. -/
inductive FileError where
  | notFound (path : String)
  | notDirectory (path : String)
  | isDirectory (path : String)
  /-- The bytes are no text. -/
  | notText (path : String)
  deriving DecidableEq, Repr

/-- What is said about each cause. -/
def FileError.message : FileError → String
  | notFound path => "[Errno 2] No such file or directory: " ++ Quoted.ofString path
  | notDirectory path => "[Errno 20] Not a directory: " ++ Quoted.ofString path
  | isDirectory path => "[Errno 21] Is a directory: " ++ Quoted.ofString path
  | notText path => "Not a text: " ++ Quoted.ofString path

namespace Path

/-- The names between slashes; two slashes have an empty name between them. -/
def names (path : String) : List (List Char) :=
  path.toList.foldr
    (fun c ns => if c = '/' then [] :: ns else
      match ns with
      | [] => [[c]]
      | n :: ns => (c :: n) :: ns)
    [[]]

/-- The slashes in front: two are kept, any other number counts as one. -/
def root (path : String) : List Char :=
  match (path.toList.takeWhile (· = '/')).length with
  | 0 => []
  | 2 => ['/', '/']
  | _ => ['/']

/-- A path without empty names and names for the same directory; a path without names is that
directory. -/
def normalize (path : String) : String :=
  let kept := (names path).filter (fun n => n ≠ [] ∧ n ≠ ['.'])
  match root path, kept with
  | [], [] => "."
  | r, kept => String.ofList (r ++ (kept.intersperse ['/']).flatten)

end Path

/-- The plain files of a directory, by name. -/
abbrev Directory := List (String × List UInt8)

namespace Directory

/-- Where a walk along a path has come to: the directory itself, another directory, or a file. -/
inductive Spot where
  | here
  | elsewhere
  | file (data : List UInt8)

/-- Walks along the names of `path`. Nothing is known of other directories but that they lead to
their parents. -/
def walk (d : Directory) (path : String) : Spot → List (List Char) → Except FileError Spot
  | spot, [] => .ok spot
  | .file _, _ :: _ => .error (.notDirectory path)
  | .elsewhere, n :: ns =>
    if n = [] ∨ n = ['.'] ∨ n = ['.', '.'] then walk d path .elsewhere ns
    else .error (.notFound path)
  | .here, n :: ns =>
    if n = [] ∨ n = ['.'] then walk d path .here ns
    else if n = ['.', '.'] then walk d path .elsewhere ns
    else
      match d.find? (·.1.toList = n) with
      | some (_, data) => walk d path (.file data) ns
      | none => .error (.notFound path)

/-- The contents of a file. The empty path is no file. -/
def read (d : Directory) (path : String) : Except FileError (List UInt8) :=
  if path.isEmpty then .error (.notFound path)
  else
    match d.walk path (if (Path.root path).isEmpty then .here else .elsewhere) (Path.names path) with
    | .ok (.file data) => .ok data
    | .ok _ => .error (.isDirectory path)
    | .error e => .error e

end Directory

end Chip8
