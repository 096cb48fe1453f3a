import LoxTokens.Lexer
import LoxTokens.Diagnostics

/-! # Evaluating single lines

A `LineEvaluator` scans each line as a source of its own and writes tokens and errors to two
sinks.  In text format every error is written when it is met, before any token of the line, and
a full error sink goes unnoticed; in JSON format the errors follow the tokens as one array, and
a line fails as soon as either sink does not take its part. -/

namespace LoxTokens

structure LineEvaluator where
  format : OutputFormat
  out : Sink
  errors : ErrorWriter
deriving DecidableEq, Repr

namespace LineEvaluator

def new (format : OutputFormat) (out err : Sink) : LineEvaluator := ⟨format, out, .onto err⟩

/-- An evaluator that has written nothing yet, onto sinks that take everything. -/
def unlimited (format : OutputFormat) : LineEvaluator :=
  new format (.limited none) (.limited none)

/-- What evaluating a line came to. -/
inductive Outcome where
  /-- Everything was written; `hadError` tells whether the line has errors. -/
  | done (hadError : Bool)
  /-- A sink refused its part. -/
  | refused
deriving DecidableEq, Repr

/-- The evaluator after a line, and how it went. -/
def evalLine (ev : LineEvaluator) (line : Text) : LineEvaluator × Outcome :=
  let errors := ev.errors.reset
  match ev.format with
  | .text =>
    let (tokens, errors) := scan line errors
    let (out, taken) := ev.out.write (renderTokens tokens .text)
    (⟨.text, out, errors⟩, if taken then .done errors.hadError else .refused)
  | .json =>
    let (tokens, log) := scan line ErrorLog.empty
    let (out, taken) := ev.out.write (renderTokens tokens .json)
    if !taken then (⟨.json, out, errors⟩, .refused)
    else if !log.hasErrors then (⟨.json, out, errors⟩, .done false)
    else
      let (err, taken) := errors.sink.write (Text.line (errorsJson log.errors.toList).compact)
      (⟨.json, out, { errors with sink := err }⟩, if taken then .done true else .refused)

end LineEvaluator
end LoxTokens
