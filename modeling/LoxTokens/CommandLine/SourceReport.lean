import LoxTokens.Diagnostics
import LoxTokens.Log.Notice

/-! # Reports on whole sources

What scanning a named source comes to: its tokens for the output, its errors for the error
stream, in one format, and whether there are errors at all. -/

namespace LoxTokens

structure SourceReport where
  out : Text
  err : Text
  hadError : Bool
deriving DecidableEq, Repr

namespace SourceReport

/-- Errors in a format.  As text each is followed by the line of source it is about. -/
def errorText (name source : Text) (errors : List LexError) : OutputFormat → Text
  | .text => TextDiagnostics.full.renderAll (some (.new name source)) errors
  | .json => if errors = [] then [] else Text.line (errorsJson errors).compact

def ofSource (name source : Text) (format : OutputFormat) : SourceReport :=
  let s := Scanned.ofSource source
  ⟨renderTokens s.tokens format, errorText name source s.errors format, s.hasErrors⟩

/-- What there is to say of a source, in order: the log of its scan, the sums, its errors. -/
def notices (name source : Text) (format : OutputFormat) : List Notice :=
  scanNotices source [] ++
    [.log .debug (name ++ ": ".toList ++ (Scanned.ofSource source).summary),
      .text (ofSource name source format).err]

end SourceReport
end LoxTokens
