import LoxTokens.Toml.Scalars

/-! # Reading TOML documents

A document is a byte order mark, if it has one, and lines: blank ones, comments, headers and
assignments.  Values may span lines.  Arrays and inline tables nest, and keys have parts, only
up to `maxNesting`. -/

namespace LoxTokens.Toml

/-- How deep values nest, and how many parts a key has, at most. -/
def maxNesting : Nat := 79

def skipSpace (t : Text) : Text := t.dropWhile isSpace

/-! ### Keys -/

/-- A character of a key that stands without quotes. -/
def isBare (c : Char) : Bool := c.isAlphanum || c == '_' || c == '-'

/-- One part of a key. -/
def keyPart? (t : Text) : Option (Text × Text) :=
  match t with
  | '"' :: r => basicBody r
  | '\'' :: r => literalBody r
  | _ =>
    if t.takeWhile isBare = [] then none else some (t.takeWhile isBare, t.dropWhile isBare)

/-- Up to `n` parts of a key with points between them, and the blanks around them. -/
def keyParts? : Nat → Text → Option (List Text × Text)
  | 0, _ => none
  | n + 1, t => do
    let (part, t) ← keyPart? (skipSpace t)
    match skipSpace t with
    | '.' :: t =>
      let (parts, t) ← keyParts? n t
      some (part :: parts, t)
    | t => some ([part], t)

def key? (t : Text) : Option (KeyPath × Text) := do
  let (parts, t) ← keyParts? maxNesting t
  let path ← KeyPath.ofParts? parts
  some (path, t)

/-! ### Values -/

/-- Skips blanks, line ends and comments, the last only when a line end follows them. -/
def skipComments : (inComment : Bool) → Text → Option Text
  | _, [] => some []
  | _, '\n' :: t => skipComments false t
  | _, '\r' :: '\n' :: t => skipComments false t
  | true, c :: t => if isPlain c then skipComments true t else none
  | false, c :: t =>
    if isSpace c then skipComments false t
    else if c = '#' then skipComments true t
    else some (c :: t)

/-- The items of an array up to its closing bracket, read by `value?`.  Every item takes a
character at least, so there are no more items than characters in `room`, which is the text
after the opening bracket or a longer one. -/
def arrayItems? (value? : Text → Option (Value × Text)) :
    (room t : Text) → Option (List Value × Text)
  | [], t => do
    match ← skipComments false t with
    | ']' :: t => some ([], t)
    | _ => none
  | _ :: room, t => do
    match ← skipComments false t with
    | ']' :: t => some ([], t)
    | t =>
      let (v, t) ← value? t
      match ← skipComments false t with
      | ']' :: t => some ([v], t)
      | ',' :: t =>
        let (vs, t) ← arrayItems? value? room t
        some (v :: vs, t)
      | _ => none

/-- A key, an equals sign and a value. -/
def assignment? (value? : Text → Option (Value × Text)) (t : Text) :
    Option ((KeyPath × Value) × Text) := do
  let (path, t) ← key? t
  match t with
  | '=' :: t =>
    let (v, t) ← value? (skipSpace t)
    some ((path, v), t)
  | _ => none

/-- The assignments of an inline table up to its closing brace; `room` bounds their number. -/
def inlineAssignments? (value? : Text → Option (Value × Text)) :
    (room t : Text) → Option (List (KeyPath × Value) × Text)
  | [], _ => none
  | _ :: room, t => do
    let (a, t) ← assignment? value? t
    match skipSpace t with
    | '}' :: t => some ([a], t)
    | ',' :: t =>
      let (as, t) ← inlineAssignments? value? room t
      some (a :: as, t)
    | _ => none

/-- An inline table after its opening brace. -/
def inlineTable? (value? : Text → Option (Value × Text)) (t : Text) : Option (Value × Text) := do
  let (assignments, t) ← match skipSpace t with
    | '}' :: t => some ([], t)
    | _ => inlineAssignments? value? t t
  let entries ← Entries.assignAll [] assignments
  some (.table (entryValues entries), t)

/-- A value that nests others up to `n` levels deep. -/
def value? : Nat → Text → Option (Value × Text)
  | n + 1, '[' :: t => (arrayItems? (value? n) t t).map fun (vs, t) => (.array vs, t)
  | n + 1, '{' :: t => inlineTable? (value? n) t
  | _, t => scalarValue? t

/-! ### Lines -/

/-- The end of a line: blanks, a comment, and a line end or the end of the document. -/
def lineEnd? (t : Text) : Option Text :=
  let t := match skipSpace t with
    | '#' :: r => r.dropWhile isPlain
    | t => t
  if t = [] then some [] else afterNewline? t

inductive Statement where
  | assignment (key : KeyPath) (v : Value)
  | header (isElement : Bool) (path : KeyPath)

/-- A header after its first bracket. -/
def header? (t : Text) : Option (Statement × Text) :=
  match t with
  | '[' :: t => do
    let (path, t) ← key? t
    match t with
    | ']' :: ']' :: t => some (.header true path, t)
    | _ => none
  | t => do
    let (path, t) ← key? t
    match t with
    | ']' :: t => some (.header false path, t)
    | _ => none

/-- A header or an assignment. -/
def statement? (t : Text) : Option (Statement × Text) :=
  match t with
  | '[' :: t => header? t
  | t => (assignment? (value? maxNesting) t).map fun (a, t) => (.assignment a.1 a.2, t)

/-- The statements of a document; `room` bounds the number of lines. -/
def statements? : (room t : Text) → Option (List Statement)
  | room, t =>
    match skipSpace t, room with
    | [], _ => some []
    | _, [] => none
    | c :: r, _ :: room =>
      if c = '#' || c = '\n' || c = '\r' then do
        let t ← lineEnd? (c :: r)
        statements? room t
      else do
        let (s, t) ← statement? (c :: r)
        let t ← lineEnd? t
        let ss ← statements? room t
        some (s :: ss)

/-- The assignments before the first header, and the sections. -/
def outline : List Statement → List (KeyPath × Value) × List Section
  | [] => ([], [])
  | .assignment key v :: ss =>
    let (top, sections) := outline ss
    ((key, v) :: top, sections)
  | .header isElement path :: ss =>
    let (own, sections) := outline ss
    ([], ⟨isElement, path, own⟩ :: sections)

/-- The entries of a document. -/
def parse? (t : Text) : Option (List (Text × Value)) := do
  let t := match t with
    | c :: r => if c.toNat = 0xFEFF then r else c :: r
    | [] => []
  let ss ← statements? t t
  let (top, sections) := outline ss
  assemble top sections

end LoxTokens.Toml
