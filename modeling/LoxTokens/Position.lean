import LoxTokens.Number.Digits

/-! # Positions and spans

A position names a place between two characters of a text: its line and column, both counted
from one and the column in characters, and its offset in bytes.  `Position.after` moves a
position over a text, so the place after any prefix of a source is
`Position.origin.after` of that prefix. -/

namespace LoxTokens

structure Position where
  line : Nat
  column : Nat
  offset : Nat
deriving DecidableEq, Repr

namespace Position

/-- The place before the first character. -/
def origin : Position := ⟨1, 1, 0⟩

/-- No place of any text: all counters are zero. -/
def unset : Position := ⟨0, 0, 0⟩

instance : Inhabited Position := ⟨unset⟩

/-- The place after one more character. -/
def step (p : Position) (c : Char) : Position :=
  if c = '\n' then ⟨p.line + 1, 1, p.offset + c.utf8Size⟩
  else ⟨p.line, p.column + 1, p.offset + c.utf8Size⟩

/-- The place after a text that begins at `p`. -/
def after (p : Position) (t : Text) : Position := t.foldl step p

/-- `line:column`. -/
def text (p : Position) : Text := Text.ofNat p.line ++ ':' :: Text.ofNat p.column

@[simp] theorem after_nil (p : Position) : p.after [] = p := rfl

@[simp] theorem after_cons (p : Position) (c : Char) (t : Text) :
    p.after (c :: t) = (p.step c).after t := rfl

theorem after_append (p : Position) (s t : Text) : p.after (s ++ t) = (p.after s).after t := by
  simp [after]

theorem offset_step (p : Position) (c : Char) : (p.step c).offset = p.offset + c.utf8Size := by
  unfold step; split <;> rfl

/-- Offsets count bytes. -/
theorem offset_after (p : Position) (t : Text) :
    (p.after t).offset = p.offset + Text.byteSize t := by
  induction t generalizing p with
  | nil => simp
  | cons c t ih => rw [after_cons, ih, offset_step, Text.byteSize_cons]; omega

theorem line_step (p : Position) (c : Char) :
    (p.step c).line = p.line + [c].count '\n' := by
  unfold step; split <;> simp_all

/-- Lines count line feeds. -/
theorem line_after (p : Position) (t : Text) :
    (p.after t).line = p.line + t.count '\n' := by
  induction t generalizing p with
  | nil => simp
  | cons c t ih =>
    rw [after_cons, ih, line_step, ← List.singleton_append (x := c) (l := t), List.count_append]
    omega

end Position

/-- A stretch of a text, from one place to another. -/
structure Span where
  start : Position
  stop : Position
deriving DecidableEq, Repr, Inhabited

namespace Span

/-- The empty stretch at a place. -/
def point (p : Position) : Span := ⟨p, p⟩

/-- Number of bytes covered; zero when the ends are in the wrong order. -/
def size (s : Span) : Nat := s.stop.offset - s.start.offset

def isEmpty (s : Span) : Bool := s.start.offset == s.stop.offset

/-- `[line:column - line:column]`. -/
def text (s : Span) : Text :=
  "[".toList ++ s.start.text ++ " - ".toList ++ s.stop.text ++ "]".toList

end Span
end LoxTokens
