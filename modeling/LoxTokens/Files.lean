import LoxTokens.Text.Lines
import LoxTokens.Text.Basic

/-! # Files

A `FileTree` holds files and directories below one starting directory; a directory is there when
it was made or when something lies in it.  Paths are followed component by component: each
component that has another one after it, even an empty one, must be a directory.  Nothing is
known about places outside the tree but that they can be passed through with `..`. -/

namespace LoxTokens

/-- Why a path leads to no readable or writable file. -/
inductive FileError where
  | notFound
  | notDirectory
  | isDirectory
  | nameTooLong
  | nulInPath
  /-- The content is no text. -/
  | notUtf8
  /-- The system has a reason of its own. -/
  | other (reason : Text)
deriving DecidableEq, Repr

def FileError.message : FileError → Text
  | notFound => "No such file or directory (os error 2)".toList
  | notDirectory => "Not a directory (os error 20)".toList
  | isDirectory => "Is a directory (os error 21)".toList
  | nameTooLong => "File name too long (os error 36)".toList
  | nulInPath => "file name contained an unexpected NUL byte".toList
  | notUtf8 => "stream did not contain valid UTF-8".toList
  | other reason => reason

/-- What a program needs to know about the files around it. -/
structure Files where
  /-- The bytes of the file at a path. -/
  read : Text → Except FileError (List UInt8)
  /-- Whether a path leads to anything. -/
  present : Text → Bool
  /-- Why the file at a path cannot be written, if it cannot. -/
  writeError : Text → Option FileError

/-- The text of the file at a path. -/
def Files.readText (f : Files) (path : Text) : Except FileError Text :=
  match f.read path with
  | .error e => .error e
  | .ok bytes =>
    match Text.ofUtf8? bytes with
    | some t => .ok t
    | none => .error .notUtf8

/-- The names on the way to a place. -/
abbrev Place := List Text

structure FileTree where
  files : List (Place × List UInt8)
  directories : List Place
deriving DecidableEq, Repr

namespace FileTree

def empty : FileTree := ⟨[], []⟩

inductive Entry where
  | file (bytes : List UInt8)
  | directory
  | missing
deriving DecidableEq, Repr

/-- What stands at a place. -/
def at? (t : FileTree) (p : Place) : Entry :=
  match t.files.lookup p with
  | some bytes => .file bytes
  | none =>
    if p = [] || t.directories.any (p.isPrefixOf ·) || t.files.any (fun f => p.isPrefixOf f.1) then
      .directory
    else .missing

/-- Where a path leads; `none` stands for a directory outside the tree. -/
def follow (t : FileTree) : Option Place → List Text → Except FileError (Option Place)
  | at_, [] => .ok at_
  | at_, name :: names =>
    match at_.map t.at? with
    | some .missing => .error .notFound
    | some (.file _) => .error .notDirectory
    | _ =>
      if name = [] || name = ['.'] then follow t at_ names
      else if name = ['.', '.'] then
        follow t (at_.bind fun p => if p = [] then none else some p.dropLast) names
      else if 255 < Text.byteSize name then .error .nameTooLong
      else match at_ with
        | none => .error .notFound
        | some p => follow t (some (p ++ [name])) names

/-- Where following a path begins, unless the path is none at all. -/
def start (path : Text) : Except FileError (Option Place) :=
  if path.contains (Char.ofNat 0) then .error .nulInPath
  else if path = [] then .error .notFound
  else if 4096 ≤ Text.byteSize path then .error .nameTooLong
  else .ok (if path.head? = some '/' then none else some [])

/-- Where a path leads from the starting directory. -/
def resolve (t : FileTree) (path : Text) : Except FileError (Option Place) := do
  follow t (← start path) (cutAt '/' path)

def read (t : FileTree) (path : Text) : Except FileError (List UInt8) := do
  match (← resolve t path).map t.at? with
  | some (.file bytes) => .ok bytes
  | some .missing => .error .notFound
  | _ => .error .isDirectory

def present (t : FileTree) (path : Text) : Bool :=
  match resolve t path with
  | .ok (some p) => t.at? p != .missing
  | .ok none => true
  | .error _ => false

/-- The names of a path before its last one, and the last one; slashes after it are left out. -/
def splitLast (path : Text) : List Text × Text :=
  match (cutAt '/' path).reverse.dropWhile (· = []) with
  | [] => ([], [])
  | last :: before => (before.reverse, last)

/-- The place that writing to a path fills.  The directory that is to hold the file comes first;
then a name that can only be a directory's is refused, whether or not anything has it. -/
def target (t : FileTree) (path : Text) : Except FileError Place := do
  let start ← start path
  let (before, last) := splitLast path
  let directory ← follow t start (before ++ [[]])
  if last = [] || last = ['.'] || last = ['.', '.'] || path.getLast? = some '/' then
    .error .isDirectory
  else match ← follow t directory [last] with
    | none => .error .isDirectory
    | some p => if t.at? p = .directory then .error .isDirectory else .ok p

def writeError (t : FileTree) (path : Text) : Option FileError :=
  match t.target path with
  | .ok _ => none
  | .error e => some e

/-- The tree with new content for the file at a place. -/
def put (t : FileTree) (p : Place) (bytes : List UInt8) : FileTree :=
  { t with files := (p, bytes) :: t.files.filter (·.1 != p) }

/-- The tree with new content for the file at a path. -/
def write (t : FileTree) (path : Text) (bytes : List UInt8) : FileTree :=
  match t.target path with
  | .ok p => t.put p bytes
  | .error _ => t

/-- The tree with a directory at a place, unless a file is in the way. -/
def makeDirectory? (t : FileTree) (p : Place) : Option FileTree :=
  if t.files.any (fun f => f.1.isPrefixOf p) then none
  else some { t with directories := p :: t.directories }

/-- The tree with a directory at a place where nothing was.  What is there already stays, even if it
is a file. -/
def ensureDirectory? (t : FileTree) (p : Place) : Option FileTree :=
  if t.at? p = .missing then t.makeDirectory? p else some t

/-- The tree with new content for a file in a directory, if the directory is one and the file is
none. -/
def store (t : FileTree) (directory : Place) (name : Text) (bytes : List UInt8) :
    Except FileError FileTree :=
  if t.at? directory != .directory then .error .notDirectory
  else if t.at? (directory ++ [name]) = .directory then .error .isDirectory
  else .ok (t.put (directory ++ [name]) bytes)

/-- The tree as a program sees it. -/
def view (t : FileTree) : Files := ⟨t.read, t.present, t.writeError⟩

end FileTree
end LoxTokens
