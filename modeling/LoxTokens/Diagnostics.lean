import LoxTokens.OutputFormat
import LoxTokens.SourceFile

/-! # Diagnostics

Errors for readers: the report line, followed by the line of source it is about where that line
is known.  Errors for programs: a JSON array, on one line or indented. -/

namespace LoxTokens

structure TextDiagnostics where
  showSource : Bool
  showLineNumbers : Bool
deriving DecidableEq, Repr

namespace TextDiagnostics

/-- Source lines are shown with their numbers. -/
def full : TextDiagnostics := ⟨true, true⟩

/-- A source line under its report. -/
def sourceLine (d : TextDiagnostics) (n : Nat) (t : Text) : Text :=
  if d.showLineNumbers then
    Text.line (Text.padLeft 5 (Text.ofNat n) ++ " | ".toList ++ t)
  else Text.line (' ' :: ' ' :: t)

def render (d : TextDiagnostics) (file : Option SourceFile) (e : LexError) : Text :=
  Text.line e.reportLine ++
    if d.showSource then
      match file.bind (·.lineText? e.line) with
      | some t => d.sourceLine e.line t
      | none => []
    else []

def renderAll (d : TextDiagnostics) (file : Option SourceFile) (errors : List LexError) : Text :=
  errors.flatMap (d.render file)

end TextDiagnostics

/-- The errors as a JSON array. -/
def errorsJson (errors : List LexError) : Json := .array (errors.map LexError.json)

end LoxTokens
