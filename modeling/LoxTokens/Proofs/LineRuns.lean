import LoxTokens.Proofs.Sinks

/-! # Runs of lines

Lines are evaluated one after the other, each as a source of its own, whatever became of the lines
before.  What is written after any lines is decided by the lines and the limits of the two sinks:
the state after them is `afterLines`, evaluating one more line leads to the next such state
(`evalLine_afterLines`), and so does a whole run (`evalAll_afterLines`). -/

namespace LoxTokens

namespace LineEvaluator

open Sink

/-- The evaluator after lines in order, and how each of them went. -/
def evalAll (ev : LineEvaluator) : List Text → LineEvaluator × List Outcome
  | [] => (ev, [])
  | line :: lines =>
    let (ev, outcome) := ev.evalLine line
    let (ev, outcomes) := evalAll ev lines
    (ev, outcome :: outcomes)

/-! ### What lines write -/

/-- The tokens of lines as they are written out. -/
def tokenText (format : OutputFormat) (lines : List Text) : Text :=
  lines.flatMap fun line => renderTokens (Scanned.ofSource line).tokens format

/-- The errors of lines, each on a line of its own. -/
def errorText (lines : List Text) : Text :=
  lines.flatMap fun line => reportLines (Scanned.ofSource line).errors

/-- The errors of a line as an array, if it has any. -/
def errorArray (line : Text) : Text :=
  if (Scanned.ofSource line).hasErrors then
    Text.line (errorsJson (Scanned.ofSource line).errors).compact
  else []

/-- The error arrays of `lines`, after the lines `before`, without those of lines whose tokens were
not all within the limit. -/
def errorArrays (limit : Option Nat) : (before lines : List Text) → Text
  | _, [] => []
  | before, line :: lines =>
    (if exceeds limit (Text.utf8 (tokenText .json (before ++ [line]))) then []
      else errorArray line) ++ errorArrays limit (before ++ [line]) lines

/-- What lines write to the error sink. -/
def errorOutput (format : OutputFormat) (limit : Option Nat) (lines : List Text) : Text :=
  match format with
  | .text => errorText lines
  | .json => errorArrays limit [] lines

/-- How a line goes after the lines `before`. -/
def outcomeAfter (format : OutputFormat) (outLimit errLimit : Option Nat) (before : List Text)
    (line : Text) : Outcome :=
  let hasErrors := (Scanned.ofSource line).hasErrors
  if exceeds outLimit (Text.utf8 (tokenText format (before ++ [line]))) then .refused
  else match format with
    | .text => .done hasErrors
    | .json =>
      if hasErrors && exceeds errLimit (Text.utf8 (errorArrays outLimit [] (before ++ [line])))
      then .refused else .done hasErrors

/-- An evaluator over limited sinks that were given these bytes so far, after `n` errors. -/
def given (format : OutputFormat) (outLimit errLimit : Option Nat) (out err : List UInt8)
    (n : Nat) : LineEvaluator :=
  ⟨format, .holding outLimit out, ⟨.holding errLimit err, n⟩⟩

/-- The evaluator after these lines, the last of which had `n` errors written as text. -/
def afterLines (format : OutputFormat) (outLimit errLimit : Option Nat) (lines : List Text)
    (n : Nat) : LineEvaluator :=
  given format outLimit errLimit (Text.utf8 (tokenText format lines))
    (Text.utf8 (errorOutput format outLimit lines)) n

variable {format : OutputFormat} {outLimit errLimit : Option Nat} {before lines : List Text}
  {line : Text} {out err : List UInt8} {n : Nat}

theorem new_eq : new format (limited outLimit) (limited errLimit) =
    afterLines format outLimit errLimit [] 0 := by
  rw [limited_eq, limited_eq]
  cases format <;> rfl

theorem tokenText_concat :
    tokenText format (before ++ [line]) =
      tokenText format before ++ renderTokens (Scanned.ofSource line).tokens format := by
  simp [tokenText]

theorem errorText_concat :
    errorText (before ++ [line]) = errorText before ++ reportLines (Scanned.ofSource line).errors := by
  simp [errorText]

theorem errorArrays_append (limit : Option Nat) (start before lines : List Text) :
    errorArrays limit start (before ++ lines) =
      errorArrays limit start before ++ errorArrays limit (start ++ before) lines := by
  induction before generalizing start with
  | nil => simp [errorArrays]
  | cons line before ih => simp [errorArrays, ih]

theorem errorArrays_concat (limit : Option Nat) (before : List Text) (line : Text) :
    errorArrays limit [] (before ++ [line]) =
      errorArrays limit [] before ++
        if exceeds limit (Text.utf8 (tokenText .json (before ++ [line]))) then []
        else errorArray line := by
  simp [errorArrays_append, errorArrays]

theorem renderTokens_ne_nil (source : Text) (format : OutputFormat) :
    renderTokens (Scanned.ofSource source).tokens format ≠ [] := by
  cases format with
  | text => simp [Scanned.ofSource_tokens, renderTokens, Text.line]
  | json => simp [renderTokens, Text.line]

/-! ### One line -/

theorem write_tokens (out : List UInt8) (line : Text) :
    (holding outLimit out).write (renderTokens (Scanned.ofSource line).tokens format) =
      (holding outLimit (out ++ Text.utf8 (renderTokens (Scanned.ofSource line).tokens format)),
        !exceeds outLimit
          (out ++ Text.utf8 (renderTokens (Scanned.ofSource line).tokens format))) :=
  Prod.ext (write_holding _ _ _) (taken_holding _ _ _ (renderTokens_ne_nil line format))

theorem hadError_eq (s : Sink) (line : Text) :
    (⟨s, 0 + (Scanned.ofSource line).errors.length⟩ : ErrorWriter).hadError =
      (Scanned.ofSource line).hasErrors := by
  rw [ErrorWriter.hadError, Scanned.hasErrors]
  cases (Scanned.ofSource line).errors <;> simp

/-- As text the errors of a line are given to the sink whatever becomes of its tokens. -/
theorem evalLine_text :
    (given .text outLimit errLimit out err n).evalLine line =
      (given .text outLimit errLimit
          (out ++ Text.utf8 (renderTokens (Scanned.ofSource line).tokens .text))
          (err ++ Text.utf8 (reportLines (Scanned.ofSource line).errors))
          (0 + (Scanned.ofSource line).errors.length),
        if exceeds outLimit (out ++ Text.utf8 (renderTokens (Scanned.ofSource line).tokens .text))
        then .refused else .done (Scanned.ofSource line).hasErrors) := by
  have hscan : scan line (⟨holding errLimit err, 0⟩ : ErrorWriter) =
      ((Scanned.ofSource line).tokens,
        ⟨holding errLimit (err ++ Text.utf8 (reportLines (Scanned.ofSource line).errors)),
          0 + (Scanned.ofSource line).errors.length⟩) := by
    rw [scan_eq, reportAll_holding]
  simp only [evalLine, given, ErrorWriter.reset, hscan, write_tokens, hadError_eq]
  refine Prod.ext rfl ?_
  cases exceeds outLimit _ <;> rfl

/-- As JSON the errors of a line are given to the sink if its tokens were written whole. -/
theorem evalLine_json :
    (given .json outLimit errLimit out err n).evalLine line =
      if exceeds outLimit (out ++ Text.utf8 (renderTokens (Scanned.ofSource line).tokens .json)) then
        (given .json outLimit errLimit
          (out ++ Text.utf8 (renderTokens (Scanned.ofSource line).tokens .json)) err 0, .refused)
      else
        (given .json outLimit errLimit
            (out ++ Text.utf8 (renderTokens (Scanned.ofSource line).tokens .json))
            (err ++ Text.utf8 (errorArray line)) 0,
          if (Scanned.ofSource line).hasErrors &&
              exceeds errLimit (err ++ Text.utf8 (errorArray line))
          then .refused else .done (Scanned.ofSource line).hasErrors) := by
  have hscan : scan line ErrorLog.empty =
      ((Scanned.ofSource line).tokens, ⟨(Scanned.ofSource line).errors.toArray⟩) := by
    rw [scan_eq, reportAll_errorLog]
    simp [ErrorLog.empty]
  have hlog : (⟨(Scanned.ofSource line).errors.toArray⟩ : ErrorLog).hasErrors =
      (Scanned.ofSource line).hasErrors := by
    rw [ErrorLog.hasErrors, Scanned.hasErrors, List.isEmpty_toArray]
  simp only [evalLine, given, ErrorWriter.reset, hscan, hlog, write_tokens]
  cases exceeds outLimit (out ++ Text.utf8 (renderTokens (Scanned.ofSource line).tokens .json)) with
  | true => rfl
  | false =>
      cases herrors : (Scanned.ofSource line).hasErrors with
      | false =>
          have harray : errorArray line = [] := by
            rw [errorArray, herrors, if_neg Bool.false_ne_true]
          rw [harray, Text.utf8_nil, List.append_nil]
          rfl
      | true =>
          have harray : errorArray line =
              Text.line (errorsJson (Scanned.ofSource line).errors).compact := by
            rw [errorArray, herrors, if_pos rfl]
          have hwrite : (holding errLimit err).write (errorArray line) =
              (holding errLimit (err ++ Text.utf8 (errorArray line)),
                !exceeds errLimit (err ++ Text.utf8 (errorArray line))) :=
            Prod.ext (write_holding _ _ _)
              (taken_holding _ _ _ (by simp [harray, Text.line]))
          rw [harray] at hwrite
          simp only [hwrite, harray, Bool.not_false, Bool.not_true, Bool.false_eq_true, if_false,
            Bool.true_and]
          cases exceeds errLimit _ <;> rfl

theorem evalLine_afterLines (format : OutputFormat) (outLimit errLimit : Option Nat)
    (before : List Text) (line : Text) (n : Nat) :
    ∃ m, (afterLines format outLimit errLimit before n).evalLine line =
      (afterLines format outLimit errLimit (before ++ [line]) m,
        outcomeAfter format outLimit errLimit before line) := by
  cases format with
  | text =>
      refine ⟨0 + (Scanned.ofSource line).errors.length, evalLine_text.trans ?_⟩
      rw [← Text.utf8_append, ← Text.utf8_append, ← tokenText_concat, errorOutput,
        ← errorText_concat]
      rfl
  | json =>
      have harrays := errorArrays_concat outLimit before line
      refine ⟨0, evalLine_json.trans ?_⟩
      rw [← Text.utf8_append, ← Text.utf8_append, ← tokenText_concat]
      simp only [afterLines, errorOutput, outcomeAfter, harrays]
      split
      · rw [List.append_nil]
      · rfl

/-! ### All lines -/

/-- How lines go after the lines `before`. -/
def outcomesAfter (format : OutputFormat) (outLimit errLimit : Option Nat) :
    (before lines : List Text) → List Outcome
  | _, [] => []
  | before, line :: lines =>
    outcomeAfter format outLimit errLimit before line ::
      outcomesAfter format outLimit errLimit (before ++ [line]) lines

theorem evalAll_afterLines (format : OutputFormat) (before lines : List Text) (n : Nat) :
    ∃ m, evalAll (afterLines format outLimit errLimit before n) lines =
      (afterLines format outLimit errLimit (before ++ lines) m,
        outcomesAfter format outLimit errLimit before lines) := by
  induction lines generalizing before n with
  | nil => exact ⟨n, by rw [List.append_nil]; rfl⟩
  | cons line lines ih =>
      obtain ⟨m, hline⟩ := evalLine_afterLines format outLimit errLimit before line n
      obtain ⟨k, hlines⟩ := ih (before ++ [line]) m
      refine ⟨k, ?_⟩
      rw [evalAll, hline]
      simp only [hlines, List.append_assoc, List.singleton_append]
      rfl

theorem getElem?_outcomesAfter (start before after : List Text) (line : Text) :
    (outcomesAfter format outLimit errLimit start (before ++ line :: after))[before.length]? =
      some (outcomeAfter format outLimit errLimit (start ++ before) line) := by
  induction before generalizing start with
  | nil => simp [outcomesAfter]
  | cons b before ih => simpa [outcomesAfter] using ih (start ++ [b])

/-- **Lines with limited sinks.**  The tokens of all lines, in order, are what the first sink is
given; it keeps as much of them as its limit allows.  As text, the errors of all lines are what the
other sink is given, and a line is refused when the tokens up to it exceed the first limit.  As JSON,
the other sink is given one array for each line that has errors and whose tokens were written whole,
and a line is also refused when it has errors and the arrays up to it exceed the second limit.  A
line that is not refused tells whether it has errors. -/
theorem evalAll_limited (lines : List Text) (outLimit errLimit : Option Nat) :
    (∀ format, LongestWithin outLimit (Text.utf8 (tokenText format lines))
      (evalAll (new format (limited outLimit) (limited errLimit)) lines).1.out.written.toList) ∧
    LongestWithin errLimit (Text.utf8 (errorText lines))
      (evalAll (new .text (limited outLimit) (limited errLimit)) lines).1.errors.sink.written.toList ∧
    LongestWithin errLimit (Text.utf8 (errorArrays outLimit [] lines))
      (evalAll (new .json (limited outLimit) (limited errLimit)) lines).1.errors.sink.written.toList ∧
    ∀ before line after, lines = before ++ line :: after →
      (evalAll (new .text (limited outLimit) (limited errLimit)) lines).2[before.length]? =
        some (if exceeds outLimit (Text.utf8 (tokenText .text (before ++ [line]))) then .refused
          else .done (Scanned.ofSource line).hasErrors) ∧
      (evalAll (new .json (limited outLimit) (limited errLimit)) lines).2[before.length]? =
        some (if exceeds outLimit (Text.utf8 (tokenText .json (before ++ [line]))) ||
            (Scanned.ofSource line).hasErrors &&
              exceeds errLimit (Text.utf8 (errorArrays outLimit [] (before ++ [line])))
          then .refused else .done (Scanned.ofSource line).hasErrors) := by
  have hrun : ∀ format, ∃ m, evalAll (new format (limited outLimit) (limited errLimit)) lines =
      (afterLines format outLimit errLimit lines m,
        outcomesAfter format outLimit errLimit [] lines) := by
    intro format
    rw [new_eq]
    exact evalAll_afterLines format [] lines 0
  obtain ⟨m, htext⟩ := hrun .text
  obtain ⟨k, hjson⟩ := hrun .json
  refine ⟨fun format => ?_, ?_, ?_, ?_⟩
  · obtain ⟨m, h⟩ := hrun format
    rw [h]
    exact longestWithin_admitted _ _
  · rw [htext]
    exact longestWithin_admitted _ _
  · rw [hjson]
    exact longestWithin_admitted _ _
  · rintro before line after rfl
    rw [htext, hjson, getElem?_outcomesAfter, getElem?_outcomesAfter, List.nil_append]
    refine ⟨rfl, ?_⟩
    rw [outcomeAfter]
    cases exceeds outLimit (Text.utf8 (tokenText .json (before ++ [line]))) <;> rfl

/-- The tokens of the first line fit into thirty bytes and those of the second no more, but its error
is written as far as there is room. -/
theorem evalAll_limited_second_line :
    ["@ a".toList, "#".toList] = ["@ a".toList] ++ "#".toList :: [] ∧
    (evalAll (new .text (limited (some 30)) (limited (some 50))) ["@ a".toList, "#".toList]).2[1]? =
      some .refused ∧
    LongestWithin (some 50) (Text.utf8 (errorText ["@ a".toList, "#".toList]))
      (evalAll (new .text (limited (some 30)) (limited (some 50)))
        ["@ a".toList, "#".toList]).1.errors.sink.written.toList ∧
    errorText ["@ a".toList, "#".toList] =
      ("[line 1] Error : Unexpected character: '@'\n" ++
        "[line 1] Error : Unexpected character: '#'\n").toList := by
  obtain ⟨-, htext, -, houtcome⟩ :=
    evalAll_limited ["@ a".toList, "#".toList] (some 30) (some 50)
  have hrefused := (houtcome ["@ a".toList] "#".toList [] rfl).1
  have hexceeds : exceeds (some 30) (Text.utf8 (tokenText .text (["@ a".toList] ++ ["#".toList]))) =
      true := by decide +kernel
  rw [if_pos hexceeds] at hrefused
  exact ⟨rfl, hrefused, htext, by decide +kernel⟩

end LineEvaluator
end LoxTokens
