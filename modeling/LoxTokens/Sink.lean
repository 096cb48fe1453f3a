import LoxTokens.Text.Basic

/-! # Byte sinks

A sink keeps the bytes written to it and takes only so many of them, or any number.  The write
that exceeds the room is cut short and fails, and so does every write after it that has bytes
to write. -/

namespace LoxTokens

structure Sink where
  written : Array UInt8
  /-- How many more bytes are taken; `none` means any number. -/
  room : Option Nat
deriving DecidableEq, Repr

namespace Sink

/-- An empty sink that takes `limit` bytes. -/
def limited (limit : Option Nat) : Sink := ⟨#[], limit⟩

/-- The sink after a write, and whether the write was taken whole. -/
def write (s : Sink) (t : Text) : Sink × Bool :=
  let bytes := Text.utf8 t
  match s.room with
  | none => (⟨s.written ++ bytes, none⟩, true)
  | some n => (⟨s.written ++ bytes.take n, some (n - bytes.length)⟩, bytes.length ≤ n)

/-- What is said of a write that was not taken whole. -/
def refusal : Text := "failed to write whole buffer".toList

end Sink
end LoxTokens
