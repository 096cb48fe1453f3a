import LoxTokens.CommandLine.SourceReport
import LoxTokens.Proofs.ErrorLines
import LoxTokens.Proofs.LineRuns

/-! # One source, reported or evaluated

A source can be reported as a whole or evaluated like a line.  Where the sinks of the evaluator take
everything, both write the same tokens and agree on whether there are errors
(`report_eq_evaluation`).  As text they show errors differently: a report puts the line of source
under each error, so that its odd lines are what the evaluator writes (`oddLines_renderAll_full`). -/

namespace LoxTokens

/-! ### Every other line -/

/-- The first element of a list, the third, and so on. -/
def everyOther {α : Type} : List α → List α
  | [] => []
  | [a] => [a]
  | a :: _ :: l => a :: everyOther l

theorem everyOther_flatMap_append {α β : Type} (f g : α → β) (l : List α) (m : List β) :
    everyOther (l.flatMap (fun a => [f a, g a]) ++ m) = l.map f ++ everyOther m := by
  induction l with
  | nil => rfl
  | cons a l ih => exact congrArg (f a :: ·) ih

/-- A text without its second line, its fourth, and so on. -/
def Text.oddLines (t : Text) : Text := List.intercalate ['\n'] (everyOther (cutAt '\n' t))

/-- Pieces put together at line feeds, with an empty one last, are lines. -/
theorem intercalate_newline (ts : List Text) :
    List.intercalate ['\n'] (ts ++ [[]]) = ts.flatMap Text.line := by
  induction ts with
  | nil => rfl
  | cons t ts ih =>
      have hne : ts ++ [[]] ≠ [] := List.append_ne_nil_of_right_ne_nil ts (List.cons_ne_nil [] [])
      obtain ⟨u, us, hu⟩ := List.exists_cons_of_ne_nil hne
      rw [List.cons_append, hu, List.intercalate_cons_cons, ← hu, ih, List.flatMap_cons, Text.line]

namespace TextDiagnostics

variable (d : TextDiagnostics) (errors : List LexError)

theorem renderAll_none : d.renderAll none errors = reportLines errors := by
  refine List.flatMap_congr fun e _ => ?_
  simp [render]

theorem renderAll_hidden (numbers : Bool) (file : Option SourceFile) :
    (⟨false, numbers⟩ : TextDiagnostics).renderAll file errors = reportLines errors := by
  refine List.flatMap_congr fun e _ => ?_
  simp [render]

end TextDiagnostics

open Segment SourceFile

/-- Without the lines of source a report is its report lines. -/
theorem oddLines_renderAll_full (name source : Text) :
    (TextDiagnostics.full.renderAll (some (new name source))
        (Scanned.ofSource source).errors).oddLines =
      reportLines (Scanned.ofSource source).errors := by
  rw [Text.oddLines, cutAt_renderAll_full, everyOther_flatMap_append]
  refine (intercalate_newline _).trans ?_
  rw [List.flatMap_map]
  rfl

namespace LineEvaluator

open Sink

variable (format : OutputFormat) (source : Text)

theorem evalLine_unlimited :
    ((unlimited format).evalLine source).1.out.written.toList =
        Text.utf8 (renderTokens (Scanned.ofSource source).tokens format) ∧
      ((unlimited format).evalLine source).1.errors.sink.written.toList =
        Text.utf8 (errorOutput format none [source]) ∧
      ((unlimited format).evalLine source).2 = .done (Scanned.ofSource source).hasErrors := by
  obtain ⟨m, h⟩ := evalLine_afterLines format none none [] source 0
  rw [← new_eq] at h
  rw [unlimited, h]
  refine ⟨?_, rfl, ?_⟩
  · simp [afterLines, given, holding, admitted, tokenText]
  · cases format <;> simp [outcomeAfter, exceeds]

theorem errorOutput_text : errorOutput .text none [source] =
    reportLines (Scanned.ofSource source).errors := by
  simp [errorOutput, errorText]

theorem errorOutput_json (name : Text) : errorOutput .json none [source] =
    (SourceReport.ofSource name source .json).err := by
  have harray : errorOutput .json none [source] = errorArray source := by
    simp [errorOutput, errorArrays, exceeds]
  rw [harray, errorArray, Scanned.hasErrors, SourceReport.ofSource, SourceReport.errorText]
  cases (Scanned.ofSource source).errors <;> simp

end LineEvaluator

open LineEvaluator

/-- **A source comes to the same whether it is reported or evaluated.**  Both write the same tokens,
and both tell whether there are errors.  As JSON they write the same errors too.  As text the
evaluator writes what is shown of the errors without a source file, or with source lines turned off,
and that is what the report shows without every second line, the line of source. -/
theorem report_eq_evaluation (name source : Text) :
    (∀ format,
      ((unlimited format).evalLine source).1.out.written.toList =
          Text.utf8 (SourceReport.ofSource name source format).out ∧
        ((unlimited format).evalLine source).2 =
          .done (SourceReport.ofSource name source format).hadError) ∧
    ((unlimited .json).evalLine source).1.errors.sink.written.toList =
      Text.utf8 (SourceReport.ofSource name source .json).err ∧
    ∃ err, ((unlimited .text).evalLine source).1.errors.sink.written.toList = Text.utf8 err ∧
      err = TextDiagnostics.full.renderAll none (Scanned.ofSource source).errors ∧
      (∀ numbers file, err = (⟨false, numbers⟩ : TextDiagnostics).renderAll (some file)
        (Scanned.ofSource source).errors) ∧
      err = (SourceReport.ofSource name source .text).err.oddLines := by
  refine ⟨fun format => ?_, ?_, reportLines (Scanned.ofSource source).errors, ?_, ?_, ?_, ?_⟩
  · obtain ⟨hout, -, houtcome⟩ := evalLine_unlimited format source
    exact ⟨hout, houtcome⟩
  · rw [(evalLine_unlimited .json source).2.1, errorOutput_json source name]
  · rw [(evalLine_unlimited .text source).2.1, errorOutput_text]
  · exact (TextDiagnostics.renderAll_none _ _).symm
  · exact fun numbers file => (TextDiagnostics.renderAll_hidden _ numbers (some file)).symm
  · exact (oddLines_renderAll_full name source).symm

end LoxTokens
