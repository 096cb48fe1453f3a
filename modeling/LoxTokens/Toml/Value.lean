import LoxTokens.Number.Decimal

/-! # TOML values and documents

A document is built from assignments in order.  While it is built, every table remembers how it
came to be: by its own header, because a longer header passed through it, or because a dotted
key did.  A table has one header at most, dotted keys do not reach into tables with headers,
and tables that dotted keys made get no header later.  `Node` holds these marks and
`Node.value` forgets them. -/

namespace LoxTokens.Toml

inductive Value where
  | string (s : Text)
  | integer (n : Int)
  | float (x : Binary64)
  | boolean (b : Bool)
  | dateTime (t : Text)
  | array (items : List Value)
  | table (entries : List (Text × Value))

/-- How a table came to be. -/
inductive Origin where
  | header
  | passed
  | dotted
deriving DecidableEq, Repr

/-- A part of a document under construction. -/
inductive Node where
  | leaf (v : Value)
  | table (origin : Origin) (entries : List (Text × Node))
  /-- The tables that one kind of array header collects, in order. -/
  | elements (tables : List (List (Text × Node)))

abbrev Entries := List (Text × Node)

mutual

/-- The value of a node. -/
def Node.value : Node → Value
  | .leaf v => v
  | .table _ entries => .table (entryValues entries)
  | .elements tables => .array (tableValues tables)

def entryValues : List (Text × Node) → List (Text × Value)
  | [] => []
  | (k, n) :: es => (k, n.value) :: entryValues es

def tableValues : List (List (Text × Node)) → List Value
  | [] => []
  | es :: ts => .table (entryValues es) :: tableValues ts

end

/-- A key with the tables it leads through. -/
structure KeyPath where
  parents : List Text
  last : Text
deriving DecidableEq, Repr

/-- The path with these parts, if there are any. -/
def KeyPath.ofParts? (parts : List Text) : Option KeyPath :=
  parts.getLast?.map fun last => ⟨parts.dropLast, last⟩

namespace Entries

/-- The entries with `k` standing for `n`; a new key comes last. -/
def put (k : Text) (n : Node) : Entries → Entries
  | [] => [(k, n)]
  | (k', n') :: es => if k' = k then (k, n) :: es else (k', n') :: put k n es

/-- Applies `f` to the table that `path` leads to, making the tables that are missing.  An array
of tables is entered at its last element; a value is not entered. -/
def descend (dotted : Bool) (f : Origin → Entries → Option Entries) :
    List Text → Origin → Entries → Option Entries
  | [], origin, es => f origin es
  | k :: path, _, es =>
    match es.lookup k with
    | none =>
      let origin := if dotted then .dotted else .passed
      (descend dotted f path origin []).map fun inner => put k (.table origin inner) es
    | some (.leaf _) => none
    | some (.table origin inner) =>
      if dotted && origin = .header then none
      else (descend dotted f path origin inner).map fun inner => put k (.table origin inner) es
    | some (.elements tables) =>
      (descend dotted f path .header (tables.getLast?.getD [])).map fun inner =>
        put k (.elements (tables.dropLast ++ [inner])) es

/-- The entries of a table after one more assignment.  The key is new, and dotted keys end in
tables that dotted keys made. -/
def assign (es : Entries) (key : KeyPath) (v : Value) : Option Entries :=
  descend true (fun origin es =>
    if (origin == .dotted) == key.parents.isEmpty || (es.lookup key.last).isSome then none
    else some (es ++ [(key.last, .leaf v)])) key.parents .header es

/-- The entries of a table after assignments in order. -/
def assignAll (es : Entries) (assignments : List (KeyPath × Value)) : Option Entries :=
  assignments.foldlM (fun es a => assign es a.1 a.2) es

end Entries

/-- A header or an array header with the assignments under it. -/
structure Section where
  /-- Whether the header adds a table to an array. -/
  isElement : Bool
  path : KeyPath
  assignments : List (KeyPath × Value)

namespace Entries

/-- The entries of a document after one more section. -/
def addSection (root : Entries) (s : Section) : Option Entries :=
  descend false (fun _ es =>
    match s.isElement, es.lookup s.path.last with
    | true, none => do
      let inner ← assignAll [] s.assignments
      some (put s.path.last (.elements [inner]) es)
    | true, some (.elements tables) => do
      let inner ← assignAll [] s.assignments
      some (put s.path.last (.elements (tables ++ [inner])) es)
    | false, none => do
      let inner ← assignAll [] s.assignments
      some (put s.path.last (.table .header inner) es)
    | false, some (.table .passed old) => do
      let inner ← assignAll old s.assignments
      some (put s.path.last (.table .header inner) es)
    | _, _ => none) s.path.parents .header root

end Entries

/-- The entries of a document with top assignments and sections. -/
def assemble (top : List (KeyPath × Value)) (sections : List Section) :
    Option (List (Text × Value)) := do
  let root ← Entries.assignAll [] top
  let root ← sections.foldlM Entries.addSection root
  some (entryValues root)

end LoxTokens.Toml
