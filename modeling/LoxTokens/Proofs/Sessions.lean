import LoxTokens.CommandLine.Program
import LoxTokens.Proofs.ErrorLines
import LoxTokens.Proofs.InputLines
import LoxTokens.Proofs.SourceReports
import LoxTokens.Proofs.StoredFiles

/-! # Sessions of the line prompt

A session gives each line of its input a share of the output and of the error stream that depends on
the line alone, in the order of the lines (`session_shares`).  At the level `error` nothing but these
shares gets to the error stream: what is logged around them is `Quiet`. -/

namespace LoxTokens

/-! ### What the level `error` hides -/

namespace Notice

/-- Notices that the level `error` hides. -/
def Quiet (notices : List Notice) : Prop :=
  ∀ n ∈ notices, ∃ level message, n = .log level message ∧ LogLevel.error.shows level = false

variable {notices notices' : List Notice}

theorem shownAll_append (threshold : LogLevel) (notices notices' : List Notice) :
    shownAll threshold (notices ++ notices') =
      shownAll threshold notices ++ shownAll threshold notices' := List.flatMap_append

theorem shownAll_of_quiet (h : Quiet notices) : shownAll .error notices = [] := by
  apply List.flatMap_eq_nil_iff.2
  intro n hn
  obtain ⟨level, message, rfl, hlevel⟩ := h n hn
  rw [shown, hlevel]
  rfl

theorem quiet_nil : Quiet [] := fun _ h => nomatch h

theorem quiet_log {level : LogLevel} (h : LogLevel.error.shows level = false) (message : Text) :
    Quiet [.log level message] := by
  intro n hn
  obtain rfl := List.mem_singleton.1 hn
  exact ⟨level, message, rfl, h⟩

theorem Quiet.append (h : Quiet notices) (h' : Quiet notices') : Quiet (notices ++ notices') := by
  intro n hn
  rcases List.mem_append.1 hn with hn | hn
  · exact h n hn
  · exact h' n hn

end Notice

open Notice

theorem shownAll_map_text (threshold : LogLevel) (written : List Text) :
    shownAll threshold (written.map .text) = written.flatten := by
  rw [shownAll, List.flatMap_map]
  exact List.flatMap_id

/-- Of events the level `error` shows what was written meanwhile. -/
theorem shownAll_eventNotices (es : List Event) (written : List Text) :
    shownAll .error (eventNotices es written) = written.flatten := by
  induction es generalizing written with
  | nil => exact shownAll_map_text .error written
  | cons event es ih =>
      cases event with
      | token t => exact ih written
      | error e =>
          have hnotices : shownAll .error (eventNotices (.error e :: es) written) =
              shownAll .error
                ((written.take 1).map .text ++ eventNotices es (written.drop 1)) := rfl
          rw [hnotices, shownAll_append, shownAll_map_text, ih, ← List.flatten_append,
            List.take_append_drop]

theorem shownAll_scanNotices (source : Text) (written : List Text) :
    shownAll .error (scanNotices source written) = written.flatten := by
  unfold scanNotices
  rw [shownAll_append, shownAll_of_quiet (quiet_log rfl _), List.append_nil]
  exact shownAll_eventNotices (events source) written

namespace Session

/-- What a line of a session adds to the error stream. -/
def errorShare (format : OutputFormat) (line : Text) : Text :=
  match format with
  | .text => reportLines (Scanned.ofSource line).errors
  | .json => LineEvaluator.errorArray line

/-- What lines of a session add to the error stream. -/
def errorShares (format : OutputFormat) (lines : List Text) : Text :=
  lines.flatMap (errorShare format)

/-- What lines of a session add to the output, each with the prompt before it. -/
def outputShares (format : OutputFormat) (prompt : Text) (lines : List Text) : Text :=
  lines.flatMap fun line => prompt ++ renderTokens (Scanned.ofSource line).tokens format

variable {format : OutputFormat} {t : Text}

theorem errorShares_append (format : OutputFormat) (lines lines' : List Text) :
    errorShares format (lines ++ lines') = errorShares format lines ++ errorShares format lines' :=
  List.flatMap_append

theorem outputShares_append (format : OutputFormat) (prompt : Text) (lines lines' : List Text) :
    outputShares format prompt (lines ++ lines') =
      outputShares format prompt lines ++ outputShares format prompt lines' :=
  List.flatMap_append

theorem shownAll_lineNotices (format : OutputFormat) (line written : Text) :
    shownAll .error (lineNotices format line written) = written := by
  cases format with
  | text => rw [lineNotices, shownAll_scanNotices, flatten_cutBehind]
  | json =>
      -- nothing is written during the scan, the array comes after it
      rw [lineNotices, shownAll_append, shownAll_scanNotices]
      split
      · rename_i hnone
        rw [hnone]
        rfl
      · exact List.append_nil written

/-- The output of a session. -/
def display (format : OutputFormat) (prompt : Text) (lines : List Text) : Text :=
  Text.line "Welcome to Lox Repl".toList ++ outputShares format prompt lines ++ prompt

/-- What a session has to say of its lines. -/
def remarks (format : OutputFormat) (lines : List Text) : List Notice :=
  (lines.flatMap fun line => asking :: lineNotices format line (errorShare format line)) ++ [asking]

theorem quiet_asking : Quiet [asking] := quiet_log rfl _

theorem shownAll_remarks (format : OutputFormat) (lines : List Text) :
    shownAll .error (remarks format lines) = errorShares format lines := by
  rw [remarks, shownAll_append, shownAll_of_quiet quiet_asking, List.append_nil, shownAll,
    List.flatMap_assoc]
  exact List.flatMap_congr fun line _ => shownAll_lineNotices format line _

theorem quiet_historyWarning (action file : Text) (e : FileError) :
    Quiet [historyWarning action file e] := quiet_log rfl _

theorem quiet_openHistory (config : Config) (files : Files) :
    Quiet (openHistory config files).2 := by
  unfold openHistory
  cases config.historyFile with
  | none => exact quiet_nil
  | some file =>
      dsimp only
      split
      · exact quiet_nil
      · -- a file that is there cannot be read, or has odd lines and perhaps one that is no text
        split
        · exact quiet_historyWarning _ _ _
        · apply Quiet.append
          · intro n hn
            obtain ⟨line, -, rfl⟩ := List.mem_map.1 hn
            exact ⟨_, _, rfl, rfl⟩
          · split
            · exact quiet_nil
            · exact quiet_historyWarning _ _ _

theorem quiet_closeHistory (config : Config) (files : Files) (h : History) :
    Quiet (closeHistory config files h).2 := by
  unfold closeHistory
  cases config.historyFile with
  | none => exact quiet_nil
  | some file =>
      dsimp only
      split
      · exact quiet_nil
      · split
        · exact quiet_historyWarning _ _ _
        · exact quiet_nil

/-! ### Lines that are read -/

/-- Every line of an input comes out of the editing as it stands. -/
def ReadAsTyped (t : Text) : Prop := ∀ line ∈ t.inputLines, Draft.finish? line = some line

theorem readAsTyped_of_notMem (h : '\x08' ∉ t) : ReadAsTyped t := by
  intro line hline
  apply Draft.finish?_of_notMem
  intro hmem
  exact h (Text.subset_of_mem_inputLines hline hmem)

/-! ### Line by line -/

/-- On sinks that take everything a line is evaluated to its tokens and its share of the errors. -/
theorem evalLine_given_none (format : OutputFormat) (out err : Text) (n : Nat) (line : Text) :
    ∃ m, (LineEvaluator.given format none none (Text.utf8 out) (Text.utf8 err) n).evalLine line =
      (.given format none none
          (Text.utf8 (out ++ renderTokens (Scanned.ofSource line).tokens format))
          (Text.utf8 (err ++ errorShare format line)) m,
        .done (Scanned.ofSource line).hasErrors) := by
  cases format with
  | text =>
      refine ⟨0 + (Scanned.ofSource line).errors.length, LineEvaluator.evalLine_text.trans ?_⟩
      rw [← Text.utf8_append, ← Text.utf8_append]
      rfl
  | json =>
      refine ⟨0, LineEvaluator.evalLine_json.trans ?_⟩
      rw [← Text.utf8_append, ← Text.utf8_append]
      simp only [Sink.exceeds, Bool.and_false, Bool.false_eq_true, if_false]
      rfl

namespace State

/-- The state of a session on streams that take everything, after these texts were written to
them. -/
def holding (format : OutputFormat) (out err : Text) (n : Nat) (history : History)
    (notices : List Notice) : State :=
  ⟨.given format none none (Text.utf8 out) (Text.utf8 err) n, history, notices⟩

variable (format : OutputFormat) (out err t : Text) (n : Nat) (history : History)
  (notices : List Notice)

theorem ofUtf8?_holding :
    Text.ofUtf8? (holding format out err n history notices).evaluator.out.written.toList =
      some out :=
  Text.ofUtf8?_utf8 out

theorem write_holding : (holding format out err n history notices).write t =
    (holding format (out ++ t) err n history notices, true) := by
  have hwrite : (Sink.holding none (Text.utf8 out)).write t =
      (.holding none (Text.utf8 (out ++ t)), true) := by
    rw [Text.utf8_append, ← Sink.write_holding]
    rfl
  rw [write, holding, LineEvaluator.given]
  simp only [hwrite]
  rfl

theorem ask_holding (prompt : Text) : (holding format out err n history notices).ask prompt =
    (holding format (out ++ prompt) err n history (notices ++ [asking]), true) :=
  write_holding format out err prompt n history (notices ++ [asking])

/-- A line is written out whole, and its share of the errors gets among the notices. -/
theorem take_holding (line : Text) :
    ∃ m, (holding format out err n history notices).take line =
      (holding format (out ++ renderTokens (Scanned.ofSource line).tokens format)
          (err ++ errorShare format line) m (remember history line)
          (notices ++ lineNotices format line (errorShare format line)),
        .done (Scanned.ofSource line).hasErrors) := by
  obtain ⟨m, hline⟩ := evalLine_given_none format out err n line
  have hadded : Text.ofUtf8? ((Text.utf8 (err ++ errorShare format line)).drop
      (Text.utf8 err).length) = some (errorShare format line) := by
    rw [Text.utf8_append, List.drop_left, Text.ofUtf8?_utf8]
  refine ⟨m, ?_⟩
  rw [take, holding, hline]
  simp only [LineEvaluator.given, Sink.holding, Sink.admitted, List.size_toArray, hadded]
  rfl

end State

/-- The lines of a session, each after a prompt and as typed, on streams that take everything. -/
theorem readLines_holding {lines : List Text} (h : ∀ line ∈ lines, Draft.finish? line = some line)
    (format : OutputFormat) (prompt out err : Text) (n : Nat) (history : History)
    (notices : List Notice) :
    ∃ m, readLines prompt (.holding format out err n history notices) (lines.map Text.utf8) =
      (.holding format (out ++ (outputShares format prompt lines ++ prompt))
          (err ++ errorShares format lines) m (lines.foldl remember history)
          (notices ++ remarks format lines), .finished) := by
  induction lines generalizing out err n history notices with
  | nil =>
      refine ⟨n, ?_⟩
      rw [List.map_nil, readLines, State.ask_holding]
      simp [remarks, errorShares, outputShares]
  | cons line lines ih =>
      rw [List.forall_mem_cons] at h
      obtain ⟨m, htake⟩ := State.take_holding format (out ++ prompt) err n history
        (notices ++ [asking]) line
      obtain ⟨k, hlines⟩ := ih h.2
        (out ++ prompt ++ renderTokens (Scanned.ofSource line).tokens format)
        (err ++ errorShare format line) m (remember history line)
        (notices ++ [asking] ++ lineNotices format line (errorShare format line))
      refine ⟨k, ?_⟩
      rw [List.map_cons, readLines, State.ask_holding]
      simp only [Text.ofUtf8?_utf8, h.1, htake, hlines]
      simp [remarks, errorShares, outputShares]

theorem welcome_holding {lines : List Text} (h : ∀ line ∈ lines, Draft.finish? line = some line)
    (format : OutputFormat) (prompt : Text) (history : History) (notices : List Notice) :
    ∃ m, welcome prompt (.holding format [] [] 0 history notices) (lines.map Text.utf8) =
      (.holding format (display format prompt lines) (errorShares format lines) m
          (lines.foldl remember history) (notices ++ remarks format lines), .finished) := by
  obtain ⟨m, hlines⟩ := readLines_holding h format prompt
    (Text.line "Welcome to Lox Repl".toList) [] 0 history notices
  refine ⟨m, ?_⟩
  rw [welcome, State.write_holding]
  dsimp only
  rw [List.nil_append, hlines, display, List.append_assoc]
  rfl

theorem run_utf8 (config : Config) (format : OutputFormat) (files : Files) (h : ReadAsTyped t) :
    ∃ opening closing saved, Quiet opening ∧ Quiet closing ∧
      Session.run config (.unlimited format) files (Text.utf8 t) =
        ⟨display format config.prompt t.inputLines,
          opening ++ remarks format t.inputLines ++ closing, .finished, saved⟩ := by
  let opened := openHistory config files
  let history := t.inputLines.foldl remember opened.1
  have hnew : (⟨.unlimited format, opened.1, opened.2⟩ : State) =
      .holding format [] [] 0 opened.1 opened.2 := by
    rw [State.holding, Text.utf8_nil, LineEvaluator.unlimited, LineEvaluator.new,
      Sink.limited_eq]
    rfl
  obtain ⟨m, hlines⟩ := welcome_holding h format config.prompt opened.1 opened.2
  refine ⟨opened.2, (closeHistory config files history).2, (closeHistory config files history).1,
    quiet_openHistory config files, quiet_closeHistory config files history, ?_⟩
  unfold Session.run
  dsimp only
  rw [hnew, Text.byteLines_utf8, hlines]
  dsimp only
  rw [if_pos rfl, State.ofUtf8?_holding]
  rfl

theorem line_of_mem_errors {line : Text} {e : LexError} (hline : line ∈ t.inputLines)
    (he : e ∈ (Scanned.ofSource line).errors) : e.line = 1 := by
  have hnewline : line.count '\n' = 0 :=
    List.count_eq_zero.2 (Text.newline_notMem_of_mem_inputLines hline)
  rw [Scanned.ofSource_errors] at he
  obtain ⟨hfirst, hlast⟩ := Segment.line_of_mem_errorsFrom he
  rw [Segment.flatMap_text_ofText, Position.line_origin_after, hnewline] at hlast
  exact le_antisymm hlast hfirst

end Session

/-! ### One evaluator for all lines -/

namespace LineEvaluator

open Session

theorem errorArrays_none (before lines : List Text) :
    errorArrays none before lines = lines.flatMap errorArray := by
  induction lines generalizing before with
  | nil => rfl
  | cons line lines ih =>
      rw [errorArrays, ih, Sink.exceeds, if_neg Bool.false_ne_true, List.flatMap_cons]

theorem errorOutput_none (format : OutputFormat) (lines : List Text) :
    errorOutput format none lines = errorShares format lines := by
  cases format with
  | text => rfl
  | json => exact errorArrays_none [] lines

theorem outcomesAfter_none (format : OutputFormat) (before lines : List Text) :
    outcomesAfter format none none before lines =
      lines.map fun line => .done (Scanned.ofSource line).hasErrors := by
  induction lines generalizing before with
  | nil => rfl
  | cons line lines ih =>
      rw [outcomesAfter, ih, List.map_cons]
      cases format with
      | text => rfl
      | json => simp [outcomeAfter, Sink.exceeds]

/-- Lines onto sinks that take everything: no line is refused, and what is written are their
shares. -/
theorem evalAll_unlimited (format : OutputFormat) (lines : List Text) :
    (evalAll (unlimited format) lines).2 =
        lines.map (fun line => .done (Scanned.ofSource line).hasErrors) ∧
      (evalAll (unlimited format) lines).1.out.written.toList =
        Text.utf8 (outputShares format [] lines) ∧
      (evalAll (unlimited format) lines).1.errors.sink.written.toList =
        Text.utf8 (errorShares format lines) := by
  obtain ⟨m, hall⟩ := evalAll_afterLines format [] lines 0
  rw [← new_eq] at hall
  rw [unlimited, hall, outcomesAfter_none, ← errorOutput_none]
  exact ⟨rfl, rfl, rfl⟩

end LineEvaluator

namespace Program

open Session LineEvaluator

variable {args : List Text} {i : Invocation} {s : Surroundings} {t : Text}

theorem quiet_openingNotices (worded : ConfigError → Text) (s : Surroundings) :
    Quiet (openingNotices worded s) := by
  unfold openingNotices
  cases s.config with
  | ok config => exact quiet_nil
  | error e => exact quiet_log rfl _

theorem run_repl (worded : ConfigError → Text) (hargs : Request.ofArguments args = .invoke i)
    (hrepl : i.command = .repl) (hinput : s.input = Text.utf8 t) (hread : ReadAsTyped t) :
    (run args s worded).code = 0 ∧
      (run args s worded).out = Text.line "Welcome to Lox Repl".toList ++
        outputShares (effectiveFormat i s) (effectiveConfig s).prompt t.inputLines ++
          (effectiveConfig s).prompt ∧
      (effectiveLevel i s = .error →
        (run args s worded).err = errorShares (effectiveFormat i s) t.inputLines) := by
  obtain ⟨opening, closing, saved, hopening, hclosing, hsession⟩ :=
    Session.run_utf8 (effectiveConfig s) (effectiveFormat i s) s.files hread
  have hrun : run args s worded =
      ⟨0, display (effectiveFormat i s) (effectiveConfig s).prompt t.inputLines,
        shownAll (effectiveLevel i s) (openingNotices worded s ++
          (opening ++ remarks (effectiveFormat i s) t.inputLines ++ closing)), saved⟩ := by
    rw [run, hargs]
    simp only [invoke, perform, hrepl, hinput, hsession]
  rw [hrun]
  refine ⟨rfl, rfl, ?_⟩
  intro hlevel
  dsimp only
  rw [hlevel, shownAll_append, shownAll_append, shownAll_append,
    shownAll_of_quiet (quiet_openingNotices worded s), shownAll_of_quiet hopening,
    shownAll_of_quiet hclosing, shownAll_remarks, List.nil_append, List.nil_append, List.append_nil]

/-- **Every line of a session has its own share of the streams.**  A session over a text ends well
whatever errors its lines have.  The output is the welcome, for each line in order the prompt and the
tokens of the line, and the prompt once more; at the level `error` the error stream is the errors of
each line in order, and every error is on line one, that of its own line.  One evaluator for all the
lines writes the same and refuses no line.  So where two inputs agree on some lines at the beginning
and some at the end, what these lines are given is the same in both sessions. -/
theorem session_shares (worded : ConfigError → Text) (hargs : Request.ofArguments args = .invoke i)
    (hrepl : i.command = .repl) (hinput : s.input = Text.utf8 t) (hread : ReadAsTyped t) :
    let format := effectiveFormat i s
    let prompt := (effectiveConfig s).prompt
    let result := run args s worded
    result.code = 0 ∧
    result.out = Text.line "Welcome to Lox Repl".toList ++
      outputShares format prompt t.inputLines ++ prompt ∧
    (effectiveLevel i s = .error → result.err = errorShares format t.inputLines) ∧
    (∀ line ∈ t.inputLines, ∀ e ∈ (Scanned.ofSource line).errors, e.line = 1) ∧
    (let evaluated := evalAll (unlimited format) t.inputLines
     evaluated.2 = t.inputLines.map (fun line => .done (Scanned.ofSource line).hasErrors) ∧
      evaluated.1.out.written.toList = Text.utf8 (outputShares format [] t.inputLines) ∧
      evaluated.1.errors.sink.written.toList = Text.utf8 (errorShares format t.inputLines)) ∧
    ∀ (t' : Text) (before changed changed' after : List Text), ReadAsTyped t' →
      t.inputLines = before ++ changed ++ after → t'.inputLines = before ++ changed' ++ after →
      let result' := run args { s with input := Text.utf8 t' } worded
      let out (lines : List Text) := Text.line "Welcome to Lox Repl".toList ++
        (outputShares format prompt before ++ outputShares format prompt lines ++
          outputShares format prompt after) ++ prompt
      let err (lines : List Text) := errorShares format before ++ errorShares format lines ++
        errorShares format after
      result.out = out changed ∧ result'.out = out changed' ∧
      (effectiveLevel i s = .error → result.err = err changed ∧ result'.err = err changed') := by
  intro format prompt result
  obtain ⟨hcode, hout, herr⟩ := run_repl worded hargs hrepl hinput hread
  refine ⟨hcode, hout, herr, ?_, evalAll_unlimited format t.inputLines, ?_⟩
  · intro line hline e he
    exact line_of_mem_errors hline he
  · intro t' before changed changed' after hread' hlines hlines' result' out err
    obtain ⟨-, hout', herr'⟩ :=
      run_repl (s := { s with input := Text.utf8 t' }) worded hargs hrepl rfl hread'
    rw [hlines, outputShares_append, outputShares_append] at hout
    rw [hlines', outputShares_append, outputShares_append] at hout'
    refine ⟨hout, hout', ?_⟩
    intro hlevel
    have herr := herr hlevel
    have herr' := herr' hlevel
    rw [hlines, errorShares_append, errorShares_append] at herr
    rw [hlines', errorShares_append, errorShares_append] at herr'
    exact ⟨herr, herr'⟩

/-- A line with an open string before two others, and the others alone: they are given the same in
both sessions. -/
theorem session_shares_open_string :
    let s : Surroundings := ⟨.ok .standard, some "error".toList, FileTree.view ⟨[], []⟩,
      Text.utf8 "\"a\r\n@ b\nx".toList⟩
    let result := run ["repl".toList] s
    let shorter := run ["repl".toList] { s with input := Text.utf8 "@ b\nx".toList }
    result.code = 0 ∧
    result.out = "Welcome to Lox Repl\n>> EOF  null\n>> IDENTIFIER b null\nEOF  null\n".toList ++
      ">> IDENTIFIER x null\nEOF  null\n>> ".toList ∧
    result.err = "[line 1] Error : Unterminated string.\n".toList ++
      "[line 1] Error : Unexpected character: '@'\n".toList ∧
    shorter.out = "Welcome to Lox Repl\n>> IDENTIFIER b null\nEOF  null\n".toList ++
      ">> IDENTIFIER x null\nEOF  null\n>> ".toList ∧
    shorter.err = "[line 1] Error : Unexpected character: '@'\n".toList := by
  intro s result shorter
  have hargs : Request.ofArguments ["repl".toList] = .invoke ⟨.repl, false, none⟩ := by
    decide +kernel
  have hlevel : effectiveLevel ⟨.repl, false, none⟩ s = .error := by decide +kernel
  have hread : ReadAsTyped "\"a\r\n@ b\nx".toList := readAsTyped_of_notMem (by decide)
  have hread' : ReadAsTyped "@ b\nx".toList := readAsTyped_of_notMem (by decide)
  have hlines : Text.inputLines "\"a\r\n@ b\nx".toList =
      [] ++ ["\"a".toList] ++ ["@ b".toList, "x".toList] := by decide
  have hlines' : Text.inputLines "@ b\nx".toList = [] ++ [] ++ ["@ b".toList, "x".toList] := by
    decide
  obtain ⟨hcode, -, -, -, -, hshares⟩ :=
    session_shares (s := s) ConfigError.brief hargs rfl rfl hread
  obtain ⟨hout, hout', herr⟩ := hshares _ _ _ _ _ hread' hlines hlines'
  obtain ⟨herr, herr'⟩ := herr hlevel
  refine ⟨hcode, hout.trans ?_, herr.trans ?_, hout'.trans ?_, herr'.trans ?_⟩
  all_goals decide +kernel

end Program
end LoxTokens
