import Mathlib.Data.List.DropRight
import LoxTokens.Proofs.Reporters
import LoxTokens.Proofs.Sinks

/-! # A log and a writer side by side

A log and a writer go through the same steps: they are told of an error, they are on loan for the
scan of a source, or they are cleared.  Clearing takes the errors from the log and the count from
the writer, and leaves what is written.  So the steps since the last clear decide what the log holds
and what the writer counts, and all steps together what its sink was given: `logAfter` and
`writerAfter` are what steps lead to.  One more step leads to the next of them (`apply_logAfter`,
`apply_writerAfter`), for both at once too (`step_after`), and so do steps one after the other
(`foldl_step_after`). -/

namespace LoxTokens

/-- What a reporter goes through. -/
inductive ReportStep where
  | report (e : LexError)
  /-- The reporter is on loan while a source is scanned. -/
  | scan (source : Text)
  | clear
deriving DecidableEq, Repr

namespace ReportStep

/-- The errors that a step reports. -/
def errors : ReportStep → List LexError
  | report e => [e]
  | scan source => (Scanned.ofSource source).errors
  | clear => []

/-- The errors that steps report, in order. -/
def told (steps : List ReportStep) : List LexError := steps.flatMap errors

/-- The steps after the last clear. -/
def sinceClear (steps : List ReportStep) : List ReportStep := steps.rtakeWhile (· != clear)

variable {ρ : Type} [Reporter ρ] {s : ReportStep}

/-- A reporter after a step; `forget` is what clears it. -/
def apply (forget : ρ → ρ) (r : ρ) : ReportStep → ρ
  | report e => Reporter.report r e
  | scan source => (LoxTokens.scan source (⟨r⟩ : Held ρ)).2.reporter
  | clear => forget r

theorem told_concat (steps : List ReportStep) (s : ReportStep) :
    told (steps ++ [s]) = told steps ++ s.errors := by
  rw [told, List.flatMap_append, List.flatMap_singleton, told]

theorem told_clear (steps : List ReportStep) : told (steps ++ [clear]) = told steps := by
  rw [told_concat, errors, List.append_nil]

theorem sinceClear_clear (steps : List ReportStep) : sinceClear (steps ++ [clear]) = [] :=
  List.rtakeWhile_concat_neg _ _ _ (by decide)

theorem sinceClear_concat (steps : List ReportStep) (h : s ≠ clear) :
    sinceClear (steps ++ [s]) = sinceClear steps ++ [s] :=
  List.rtakeWhile_concat_pos _ _ _ (bne_iff_ne.2 h)

/-- A step that does not clear a reporter tells it of the errors of the step. -/
theorem apply_eq_reportAll (forget : ρ → ρ) (r : ρ) (h : s ≠ clear) :
    s.apply forget r = reportAll r s.errors := by
  cases s with
  | report e => rfl
  | scan source => rw [apply, scan_eq, reportAll_held, errors]
  | clear => exact absurd rfl h

end ReportStep

open ReportStep Sink

/-! ### After some steps -/

/-- The log that steps lead to. -/
def logAfter (steps : List ReportStep) : ErrorLog := ⟨(told (sinceClear steps)).toArray⟩

/-- The writer that steps lead to, over a sink with a limit. -/
def writerAfter (limit : Option Nat) (steps : List ReportStep) : ErrorWriter :=
  ⟨.holding limit (Text.utf8 (reportLines (told steps))), (told (sinceClear steps)).length⟩

variable (limit : Option Nat) (steps : List ReportStep)

theorem apply_logAfter (s : ReportStep) :
    s.apply ErrorLog.clear (logAfter steps) = logAfter (steps ++ [s]) := by
  by_cases hs : s = clear
  · rw [hs, logAfter, logAfter, sinceClear_clear]
    rfl
  · rw [apply_eq_reportAll _ _ hs, reportAll_errorLog, logAfter, logAfter, sinceClear_concat _ hs,
      told_concat, List.toArray_appendList]

/-- Report lines go on in the sink where those of the steps before ended, also after a clear. -/
theorem apply_writerAfter (s : ReportStep) :
    s.apply ErrorWriter.reset (writerAfter limit steps) = writerAfter limit (steps ++ [s]) := by
  by_cases hs : s = clear
  · rw [hs, writerAfter, writerAfter, sinceClear_clear, told_clear]
    rfl
  · have hlines : reportLines (told steps ++ s.errors) =
        reportLines (told steps) ++ reportLines s.errors := List.flatMap_append
    rw [apply_eq_reportAll _ _ hs, writerAfter, reportAll_holding, writerAfter,
      sinceClear_concat _ hs, told_concat, told_concat, hlines, Text.utf8_append,
      List.length_append]

theorem hadError_writerAfter : (writerAfter limit steps).hadError = (logAfter steps).hasErrors := by
  rw [ErrorWriter.hadError, ErrorLog.hasErrors, writerAfter, logAfter]
  cases told (sinceClear steps) with
  | nil => rfl
  | cons e errors => rfl

/-! ### Both at once -/

/-- A log and a writer that go through the same steps. -/
structure ReporterPair where
  log : ErrorLog
  writer : ErrorWriter
deriving DecidableEq, Repr

namespace ReporterPair

/-- An empty log, and a writer onto an empty sink with a limit. -/
def fresh (limit : Option Nat) : ReporterPair := ⟨.empty, .onto (.limited limit)⟩

def step (p : ReporterPair) (s : ReportStep) : ReporterPair :=
  ⟨s.apply ErrorLog.clear p.log, s.apply ErrorWriter.reset p.writer⟩

/-- The pair before the first of some steps and after each of them. -/
def states (p : ReporterPair) (steps : List ReportStep) : List ReporterPair := steps.scanl step p

def after (limit : Option Nat) (steps : List ReportStep) : ReporterPair :=
  ⟨logAfter steps, writerAfter limit steps⟩

theorem fresh_eq : fresh limit = after limit [] := by
  rw [fresh, limited_eq]
  rfl

theorem step_after (s : ReportStep) : (after limit steps).step s = after limit (steps ++ [s]) := by
  rw [step, after, apply_logAfter, apply_writerAfter, after]

theorem foldl_step_after (more : List ReportStep) :
    more.foldl step (after limit steps) = after limit (steps ++ more) := by
  induction more generalizing steps with
  | nil => rw [List.append_nil, List.foldl_nil]
  | cons s more ih =>
      rw [List.foldl_cons, step_after, ih, List.append_assoc, List.singleton_append]

theorem getElem?_states (rest : List ReportStep) :
    ((fresh limit).states (steps ++ rest))[steps.length]? = some (after limit steps) := by
  have hle : steps.length ≤ (steps ++ rest).length := by simp
  rw [states, List.getElem?_scanl, if_pos hle, List.take_left, fresh_eq, foldl_step_after,
    List.nil_append]

/-- **A log and a writer agree.**  After any steps, and whatever steps follow, the log holds the
errors reported since it was last cleared, in order.  The writer counts as many and tells whether
there are any as the log does, whatever its sink took; the sink keeps as much of the report lines of
all errors so far as its limit allows, and clearing leaves it as it is. -/
theorem log_and_writer_agree (rest : List ReportStep) :
    ∃ p, ((fresh limit).states (steps ++ rest))[steps.length]? = some p ∧
      p.log.errors.toList = told (sinceClear steps) ∧
      p.writer.count = p.log.errors.size ∧
      p.writer.hadError = p.log.hasErrors ∧
      LongestWithin limit (Text.utf8 (reportLines (told steps))) p.writer.sink.written.toList ∧
      (p.step clear).writer.sink = p.writer.sink := by
  refine ⟨after limit steps, getElem?_states limit steps rest, rfl, ?_, ?_, ?_, rfl⟩
  · exact List.size_toArray.symm
  · exact hadError_writerAfter limit steps
  · exact longestWithin_admitted _ _

/-- Fifty bytes are room for one report line and the beginning of another.  The clear between them
leaves the first one there, and the errors of the scan count although their lines are not taken. -/
example :
    let p := [.report (.unexpectedCharacter 1 '@'), .clear, .scan "#\n\"".toList].foldl step
      (fresh (some 50))
    p.log.errors = #[.unexpectedCharacter 1 '#', .unterminatedString 2] ∧ p.writer.count = 2 ∧
      p.writer.sink.written.toList =
        Text.utf8 "[line 1] Error : Unexpected character: '@'\n[line 1".toList := by
  decide +kernel

end ReporterPair
end LoxTokens
