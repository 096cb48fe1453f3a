import LoxTokens.Text.Clusters
import LoxTokens.Text.Lines
import LoxTokens.Text.Basic

/-! # Lines as they are typed

A backspace in a line takes away the last cluster typed before it, if one is left: as many bytes
off the end as the cluster has.  Of that size only the lowest eight bits are kept, so a cluster of
256 bytes or more leaves characters behind, and the next backspace takes its bytes off those.
`Draft.finish?` gives the line that comes out; it fails when a backspace would cut through a
character.  A line without backspaces comes out as it is (`finish?_of_notMem`). -/

namespace LoxTokens

/-- A line in the making. -/
structure Draft where
  /-- The characters kept so far, the last one first. -/
  typed : Text
  /-- How many bytes the next backspaces take, the next one first. -/
  sizes : List Nat
deriving DecidableEq, Repr

namespace Draft

def empty : Draft := ⟨[], []⟩

/-- The draft with a cluster added. -/
def add (d : Draft) (cluster : Text) : Draft :=
  ⟨cluster.reverse ++ d.typed, Text.byteSize cluster % 256 :: d.sizes⟩

/-- The draft with a text added that has no backspaces. -/
def type (d : Draft) (t : Text) : Draft := (Text.clusters t).foldl add d

/-- The draft after a backspace, unless it would cut through a character. -/
def erase? (d : Draft) : Option Draft :=
  match d.sizes with
  | [] => some d
  | size :: sizes => (Text.dropBytes size d.typed).map (⟨·, sizes⟩)

/-- The draft after texts with a backspace before each. -/
def retype? (d : Draft) : List Text → Option Draft
  | [] => some d
  | t :: ts => d.erase?.bind fun d => (d.type t).retype? ts

/-- The line that comes out of what is typed. -/
def finish? (line : Text) : Option Text :=
  match cutAt '\x08' line with
  | [] => some []
  | [t] => some t
  | t :: ts => ((empty.type t).retype? ts).map (·.typed.reverse)

theorem finish?_of_notMem (line : Text) (h : '\x08' ∉ line) : finish? line = some line := by
  simp [finish?, cutAt_of_notMem h]

end Draft
end LoxTokens
