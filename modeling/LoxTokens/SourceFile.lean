import LoxTokens.Position
import LoxTokens.Text.Lines

/-! # Source files

A source with a name and a table of the offsets, in bytes, at which its lines begin.  A line is
looked up by the table and cut out of the content from its own offset up to the line feed before
the next one.  A final line feed opens an empty last line. -/

namespace LoxTokens

/-- The offsets just after the line feeds among bytes, the first of which has offset `n`. -/
def offsetsAfterFeeds (n : Nat) (bytes : List UInt8) : List Nat :=
  ((bytes.zipIdx n).filter (·.1 = 10)).map (·.2 + 1)

structure SourceFile where
  name : Text
  content : Text
  /-- Where each line begins. -/
  lineOffsets : Array Nat := (0 :: offsetsAfterFeeds 0 (Text.utf8 content)).toArray
  lineOffsets_eq : lineOffsets = (0 :: offsetsAfterFeeds 0 (Text.utf8 content)).toArray := by rfl

namespace SourceFile

/-- The source file with a name and a content. -/
def new (name content : Text) : SourceFile := { name, content }

def lineCount (f : SourceFile) : Nat := f.lineOffsets.size

/-- Where the line before entry `n` of the table ends: at the line feed before that entry, or with
the content when there is no such entry.  Only the first entry is zero. -/
def lineStop (f : SourceFile) (n : Nat) : Nat :=
  match f.lineOffsets[n]? with
  | some next => next - 1
  | none => Text.byteSize f.content

/-- Line `n`, counted from one, without a carriage return at its end. -/
def lineText? (f : SourceFile) : Nat → Option Text
  | 0 => none
  | n + 1 => do
    let start ← f.lineOffsets[n]?
    (Text.sliceBytes start (f.lineStop (n + 1)) f.content).map (dropFinal '\r')

/-- The text a span covers, if its ends are in order and between characters. -/
def spanText? (f : SourceFile) (s : Span) : Option Text :=
  Text.sliceBytes s.start.offset s.stop.offset f.content

end SourceFile
end LoxTokens
