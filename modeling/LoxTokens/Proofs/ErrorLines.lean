import LoxTokens.Proofs.LineOffsets
import LoxTokens.Proofs.Tokens

/-! # The lines of errors

Errors do not carry their place, only a line.  That line is one of the source, and later errors are
on the same line or a later one.  Every report of a character stands for an occurrence of its own on
its line (`count_errorsFrom_le`), and an open string is reported last, on the last line
(`unterminated_errorsFrom`).  So a report can be shown over the line of source it is about
(`errors_on_source_lines`). -/

namespace LoxTokens

/-- Whether an error is the report of a character. -/
def LexError.isUnexpectedCharacter : LexError → Bool
  | unexpectedCharacter _ _ => true
  | unterminatedString _ => false

namespace Segment

variable {s : Segment} {ss : List Segment} {t : Text} {c : Char} {e : LexError} {p : Position}

theorem ne_of_not_opens (h : ¬ Opens c) : c ≠ '\n' ∧ c ≠ '\r' := by
  refine ⟨?_, ?_⟩
  · rintro rfl
    exact h (.inl rfl)
  · rintro rfl
    exact h (.inl rfl)

theorem error?_cases (s : Segment) (n : Nat) :
    s.error? n = none ∨ (∃ c, s = stray c ∧ s.error? n = some (.unexpectedCharacter n c)) ∨
      ∃ body, s = unterminated body ∧ s.error? n = some (.unterminatedString n) := by
  cases s with
  | stray c => exact .inr (.inl ⟨c, rfl, rfl⟩)
  | unterminated body => exact .inr (.inr ⟨body, rfl, rfl⟩)
  | _ => exact .inl rfl

theorem line_of_error? {n : Nat} (h : s.error? n = some e) : e.line = n := by
  rcases s.error?_cases n with hs | ⟨c, -, hs⟩ | ⟨body, -, hs⟩
  · rw [hs] at h
    cases h
  · rw [hs] at h
    obtain rfl := Option.some.inj h
    rfl
  · rw [hs] at h
    obtain rfl := Option.some.inj h
    rfl

/-- Errors lie between the line their segments begin on and the one they end on. -/
theorem line_of_mem_errorsFrom (h : e ∈ errorsFrom p ss) :
    p.line ≤ e.line ∧ e.line ≤ (p.after (ss.flatMap text)).line := by
  induction ss generalizing p with
  | nil => cases h
  | cons s ss ih =>
      have hline : (p.after s.text).line = p.line + s.text.count '\n' :=
        Position.line_after p s.text
      rw [errorsFrom_cons] at h
      rw [List.flatMap_cons, Position.after_append]
      rcases List.mem_append.1 h with h | h
      · have he := line_of_error? (Option.mem_toList.1 h)
        have hafter := Position.line_after (p.after s.text) (ss.flatMap text)
        omega
      · have hrest := ih h
        omega

theorem pairwise_line_errorsFrom (p : Position) (ss : List Segment) :
    ((errorsFrom p ss).map LexError.line).Pairwise (· ≤ ·) := by
  induction ss generalizing p with
  | nil => exact List.Pairwise.nil
  | cons s ss ih =>
      rw [errorsFrom_cons, List.map_append, List.pairwise_append]
      refine ⟨?_, ih _, ?_⟩
      · cases s.error? (p.after s.text).line with
        | none => exact List.Pairwise.nil
        | some e => exact List.pairwise_singleton _ _
      · intro m hm n hn
        obtain ⟨e, he, rfl⟩ := List.mem_map.1 hm
        obtain ⟨e', he', rfl⟩ := List.mem_map.1 hn
        rw [line_of_error? (Option.mem_toList.1 he)]
        exact (line_of_mem_errorsFrom he').1

theorem not_opens_of_mem_errorsFrom (hss : ∀ s ∈ ss, s.WellFormed) {n : Nat}
    (h : .unexpectedCharacter n c ∈ errorsFrom p ss) : ¬ Opens c := by
  induction ss generalizing p with
  | nil => cases h
  | cons s ss ih =>
      rw [List.forall_mem_cons] at hss
      rw [errorsFrom_cons] at h
      rcases List.mem_append.1 h with h | h
      · have he := Option.mem_toList.1 h
        rcases s.error?_cases (p.after s.text).line with hs | ⟨d, rfl, hs⟩ | ⟨body, -, hs⟩
        · rw [hs] at he
          cases he
        · rw [hs] at he
          obtain ⟨-, rfl⟩ := LexError.unexpectedCharacter.inj (Option.some.inj he)
          exact hss.1
        · rw [hs] at he
          cases he
      · exact ih hss.2 h

theorem count_errorsFrom_eq_zero {n : Nat} (h : n < p.line) (c : Char) :
    (errorsFrom p ss).count (.unexpectedCharacter n c) = 0 := by
  rw [List.count_eq_zero]
  intro hmem
  have hline := (line_of_mem_errorsFrom hmem).1
  exact Nat.not_le.2 h hline

/-- Every report of a character stands for an occurrence of its own on its line. -/
theorem count_errorsFrom_le (hss : ∀ s ∈ ss, s.WellFormed) (p : Position) (n : Nat) (c : Char) :
    (errorsFrom p ss).count (.unexpectedCharacter (p.line + n) c) ≤
      countAt '\n' c n (ss.flatMap text) := by
  induction ss generalizing p n with
  | nil => exact Nat.zero_le _
  | cons s ss ih =>
      rw [List.forall_mem_cons] at hss
      have hline : (p.after s.text).line = p.line + s.text.count '\n' :=
        Position.line_after p s.text
      -- a segment that reports no character takes none from the lines of the segments after it
      have hother : (s.error? (p.after s.text).line).toList.count
            (.unexpectedCharacter (p.line + n) c) = 0 →
          (errorsFrom p (s :: ss)).count (.unexpectedCharacter (p.line + n) c) ≤
            countAt '\n' c n ((s :: ss).flatMap text) := by
        intro hnone
        rw [errorsFrom_cons, List.count_append, hnone, Nat.zero_add, List.flatMap_cons]
        by_cases hn : n < s.text.count '\n'
        · rw [count_errorsFrom_eq_zero (by omega)]
          exact Nat.zero_le _
        · obtain ⟨m, rfl⟩ : ∃ m, n = s.text.count '\n' + m := ⟨n - s.text.count '\n', by omega⟩
          have hrest := ih hss.2 (p.after s.text) m
          rw [hline, Nat.add_assoc] at hrest
          exact hrest.trans (countAt_append m s.text (ss.flatMap text))
      rcases s.error?_cases (p.after s.text).line with hs | ⟨d, rfl, hs⟩ | ⟨body, -, hs⟩
      · exact hother (by rw [hs]; rfl)
      · have hd : d ≠ '\n' := (ne_of_not_opens hss.1).1
        have hd' : (p.after (stray d).text).line = p.line := by
          rw [hline, text, List.count_singleton, if_neg (by simpa using hd)]
          rfl
        have hrest := ih hss.2 (p.after (stray d).text) n
        rw [hd'] at hs hrest
        have hcount : [LexError.unexpectedCharacter p.line d].count
            (.unexpectedCharacter (p.line + n) c) = if n = 0 ∧ d = c then 1 else 0 := by
          rw [List.count_singleton]
          by_cases hn : n = 0 <;> by_cases hc : d = c <;> simp [hn, hc]
        have hflat : (stray d :: ss).flatMap text = d :: ss.flatMap text := rfl
        rw [errorsFrom_cons, List.count_append, hd', hs, hflat, countAt_cons_of_ne hd]
        exact Nat.add_le_add (Nat.le_of_eq hcount) hrest
      · exact hother (by rw [hs]; rfl)

/-- An open string is reported last, on the last line. -/
theorem unterminated_errorsFrom (h : Cutting ss t) {before after : List LexError} {n : Nat}
    (he : errorsFrom p ss = before ++ .unterminatedString n :: after) :
    after = [] ∧ n = (p.after t).line := by
  induction h generalizing p before with
  | nil => simp at he
  | @cons s ss rest hs hss ih =>
      rw [errorsFrom_cons] at he
      rcases s.error?_cases (p.after s.text).line with hnone | ⟨c, -, hc⟩ | ⟨body, rfl, hbody⟩
      · rw [hnone] at he
        rw [Position.after_append]
        exact ih he
      · rw [hc] at he
        rw [Position.after_append]
        cases before with
        | nil => cases (List.cons.inj he).1
        | cons e before => exact ih (List.cons.inj he).2
      · -- nothing stands after an open string
        obtain rfl : rest = [] := hs.complete
        obtain rfl : ss = [] := by rw [← cutting_iff.1 hss, ofText_nil]
        rw [hbody] at he
        cases before with
        | nil =>
            obtain ⟨hn, hafter⟩ := List.cons.inj he
            rw [List.append_nil]
            exact ⟨hafter.symm, (LexError.unterminatedString.inj hn).symm⟩
        | cons e before => simp at he

end Segment

namespace SourceFile

variable (name content : Text) (n : Nat)

theorem newline_notMem_lineText? {t : Text} (h : (new name content).lineText? n = some t) :
    '\n' ∉ t := by
  cases n with
  | zero => cases h
  | succ n =>
      rw [lineText?_succ] at h
      obtain ⟨m, hm, rfl⟩ := Option.map_eq_some_iff.1 h
      have hline : '\n' ∉ m := sep_notMem_of_mem_cutAt (List.mem_of_getElem? hm)
      unfold dropFinal
      split
      · exact fun hmem => hline (List.dropLast_subset m hmem)
      · exact hline

/-- What stands under the report of an error: the number of its line, aligned, and the line. -/
def shownLine (file : SourceFile) (e : LexError) : Text :=
  Text.padLeft 5 (Text.ofNat e.line) ++ " | ".toList ++ (file.lineText? e.line).getD []

end SourceFile

open Segment SourceFile

theorem newline_notMem_ofNat (n : Nat) : '\n' ∉ Text.ofNat n := by
  intro h
  have hdigit := isDigit_of_mem_ofNat n _ h
  cases hdigit

theorem newline_notMem_reportLine {e : LexError} (h : ∀ n, e ≠ .unexpectedCharacter n '\n') :
    '\n' ∉ e.reportLine := by
  have hmessage : '\n' ∉ e.message := by
    cases e with
    | unterminatedString n =>
        have htext : '\n' ∉ "Unterminated string.".toList := by simp
        exact htext
    | unexpectedCharacter n c =>
        have hc : '\n' ≠ c := fun hc => h n (by rw [hc])
        have htext : '\n' ∉ "Unexpected character: '".toList ++ [c, '\''] := by simp [hc]
        exact htext
  have hline : '\n' ∉ "[line ".toList ++ Text.ofNat e.line ++ "] Error : ".toList ++ e.message := by
    simp [newline_notMem_ofNat, hmessage]
  exact hline

theorem newline_notMem_shownLine (name content : Text) (e : LexError) :
    '\n' ∉ (new name content).shownLine e := by
  have htext : '\n' ∉ ((new name content).lineText? e.line).getD [] := by
    cases h : (new name content).lineText? e.line with
    | none => exact List.not_mem_nil
    | some t => exact newline_notMem_lineText? name content e.line h
  simp [shownLine, Text.padLeft, newline_notMem_ofNat, htext]

theorem render_full {file : SourceFile} {e : LexError} (h : (file.lineText? e.line).isSome) :
    TextDiagnostics.full.render (some file) e =
      [e.reportLine, file.shownLine e].flatMap Text.line := by
  obtain ⟨t, ht⟩ := Option.isSome_iff_exists.1 h
  simp [TextDiagnostics.render, TextDiagnostics.full, TextDiagnostics.sourceLine, shownLine, ht]

theorem isSome_lineText?_of_mem_errors {e : LexError} (name : Text) {source : Text}
    (he : e ∈ (Scanned.ofSource source).errors) :
    ((new name source).lineText? e.line).isSome := by
  rw [Scanned.ofSource_errors] at he
  have hline := line_of_mem_errorsFrom he
  rw [flatMap_text_ofText, Position.line_origin_after, ← lineCount_new name] at hline
  exact (isSome_lineText?_iff name source e.line).2 hline

/-- The lines of a report are in turn a report line and the line of source it is about. -/
theorem cutAt_renderAll_full (name source : Text) :
    cutAt '\n' (TextDiagnostics.full.renderAll (some (new name source))
        (Scanned.ofSource source).errors) =
      (Scanned.ofSource source).errors.flatMap
        (fun e => [e.reportLine, (new name source).shownLine e]) ++ [[]] := by
  have hrender : TextDiagnostics.full.renderAll (some (new name source))
        (Scanned.ofSource source).errors =
      ((Scanned.ofSource source).errors.flatMap
        fun e => [e.reportLine, (new name source).shownLine e]).flatMap Text.line := by
    rw [TextDiagnostics.renderAll, List.flatMap_assoc]
    exact List.flatMap_congr fun e he => render_full (isSome_lineText?_of_mem_errors name he)
  rw [hrender]
  refine cutAt_flatMap_line fun t ht => ?_
  obtain ⟨e, he, ht⟩ := List.mem_flatMap.1 ht
  rcases List.mem_cons.1 ht with rfl | ht
  · refine newline_notMem_reportLine ?_
    rintro n rfl
    have hcutting := cutting_ofText source
    rw [Scanned.ofSource_errors] at he
    have hopens := not_opens_of_mem_errorsFrom (fun s hs => hcutting.wellFormed hs) he
    exact (ne_of_not_opens hopens).1 rfl
  · obtain rfl := List.mem_singleton.1 ht
    exact newline_notMem_shownLine name source e

/-- **Errors are shown over the lines they are about.**  The lines of the errors of a source do not
decrease.  An open string is reported last, on the last line of the source, where the end token
stands.  Every error is on a line of the source, which holds a reported character as often as it is
reported there.  What is printed are two lines for each error: its report, and the line of source
with its number. -/
theorem errors_on_source_lines (name source : Text) :
    ((Scanned.ofSource source).errors.map LexError.line).Pairwise (· ≤ ·) ∧
    (∀ before n after, (Scanned.ofSource source).errors = before ++ .unterminatedString n :: after →
      after = [] ∧ n = (new name source).lineCount ∧
        ∃ t, (Scanned.ofSource source).tokens.getLast? = some t ∧ t.isEof = true ∧ t.line = n) ∧
    (∀ e ∈ (Scanned.ofSource source).errors, ((new name source).lineText? e.line).isSome) ∧
    (∀ n c, (Scanned.ofSource source).errors.count (.unexpectedCharacter n c) ≤
      (((new name source).lineText? n).getD []).count c) ∧
    cutAt '\n' (TextDiagnostics.full.renderAll (some (new name source))
        (Scanned.ofSource source).errors) =
      (Scanned.ofSource source).errors.flatMap
        (fun e => [e.reportLine, (new name source).shownLine e]) ++ [[]] := by
  have hcutting := cutting_ofText source
  have hwell : ∀ s ∈ ofText source, s.WellFormed := fun s hs => hcutting.wellFormed hs
  have hlast : (Position.origin.after source).line = (new name source).lineCount := by
    rw [Position.line_origin_after, lineCount_new]
  refine ⟨?_, ?_, fun e he => isSome_lineText?_of_mem_errors name he, ?_,
    cutAt_renderAll_full name source⟩
  · rw [Scanned.ofSource_errors]
    exact pairwise_line_errorsFrom .origin (ofText source)
  · intro before n after he
    rw [Scanned.ofSource_errors] at he
    obtain ⟨hafter, hn⟩ := unterminated_errorsFrom hcutting he
    refine ⟨hafter, hn.trans hlast, .eof (Position.origin.after source), ?_, rfl, hn.symm⟩
    rw [Scanned.ofSource_tokens, List.getLast?_concat]
  · intro n c
    rw [Scanned.ofSource_errors]
    by_cases hmem : .unexpectedCharacter n c ∈ errorsFrom .origin (ofText source)
    · have hreturn : c ≠ '\r' := (ne_of_not_opens (not_opens_of_mem_errorsFrom hwell hmem)).2
      obtain ⟨m, rfl⟩ : ∃ m, n = m + 1 := ⟨n - 1, by
        have hline := (line_of_mem_errorsFrom hmem).1
        simp only [Position.origin, LexError.line] at hline
        omega⟩
      have hcount := count_errorsFrom_le hwell .origin m c
      rw [flatMap_text_ofText, Nat.add_comm] at hcount
      refine hcount.trans (Nat.le_of_eq ?_)
      rw [lineText?_succ, countAt]
      cases (cutAt '\n' source)[m]? with
      | none => rfl
      | some line => exact (count_dropFinal hreturn line).symm
    · rw [List.count_eq_zero.2 hmem]
      exact Nat.zero_le _

/-- Two stray characters on a line that ends in a carriage return, and a string that stays open over
two more lines. -/
theorem errors_on_source_lines_open_string :
    (Scanned.ofSource "@ é\r\n\"x\n".toList).errors =
        [.unexpectedCharacter 1 '@', .unexpectedCharacter 1 'é'] ++ .unterminatedString 3 :: [] ∧
      3 = (new [] "@ é\r\n\"x\n".toList).lineCount ∧
      .unexpectedCharacter 1 'é' ∈ (Scanned.ofSource "@ é\r\n\"x\n".toList).errors ∧
      ((new [] "@ é\r\n\"x\n".toList).lineText? 1).isSome ∧
      cutAt '\n' (TextDiagnostics.full.renderAll (some (new [] "@ é\r\n\"x\n".toList))
          (Scanned.ofSource "@ é\r\n\"x\n".toList).errors) =
        ["[line 1] Error : Unexpected character: '@'".toList, "    1 | @ é".toList,
          "[line 1] Error : Unexpected character: 'é'".toList, "    1 | @ é".toList,
          "[line 3] Error : Unterminated string.".toList, "    3 | ".toList, []] := by
  have herrors : (Scanned.ofSource "@ é\r\n\"x\n".toList).errors =
      [.unexpectedCharacter 1 '@', .unexpectedCharacter 1 'é'] ++ .unterminatedString 3 :: [] := by
    decide +kernel
  obtain ⟨-, hopen, hsome, -, hlines⟩ := errors_on_source_lines [] "@ é\r\n\"x\n".toList
  have hmem : .unexpectedCharacter 1 'é' ∈ (Scanned.ofSource "@ é\r\n\"x\n".toList).errors := by
    rw [herrors]
    decide
  refine ⟨herrors, (hopen _ _ _ herrors).2.1, hmem, hsome _ hmem, ?_⟩
  rw [hlines, herrors]
  decide +kernel

end LoxTokens
