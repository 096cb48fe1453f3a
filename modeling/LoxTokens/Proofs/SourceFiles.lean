import LoxTokens.Proofs.ErrorLines
import LoxTokens.Proofs.LexerPlaces
import Mathlib.Data.List.Forall2

/-! # Looking things up in a source file

Lines are looked up by number and stretches by their offsets in bytes.  The lines of a file are its
pieces between line feeds, each without a carriage return at its end (`map_lineText?_range'`).  A
stretch is there exactly when its ends are in order and stand between characters
(`isSome_sliceBytes_iff`), and then it is what the file has between them
(`sliceBytes_eq_some_iff`).  The spans of tokens are such stretches (`source_file_lookups`). -/

namespace LoxTokens

/-! ### Stretches of a text -/

namespace Text

variable {s t u : Text} {i j n : Nat}

/-- The offset of a place between two characters, or of an end of the text. -/
def IsBoundary (n : Nat) (t : Text) : Prop := ∃ before after, before ++ after = t ∧ byteSize before = n

theorem byteSize_eq_zero_iff : byteSize t = 0 ↔ t = [] := by
  cases t with
  | nil => simp
  | cons c t =>
      have hpos := c.utf8Size_pos
      simp only [byteSize_cons, reduceCtorEq, iff_false]
      omega

theorem dropBytes_eq_some_iff : dropBytes n t = some u ↔ ∃ s, s ++ u = t ∧ byteSize s = n := by
  constructor
  · intro h
    fun_induction dropBytes n t with
    | case1 t => exact ⟨[], Option.some.inj h.symm, rfl⟩
    | case2 n => cases h
    | case3 n c t hle ih =>
        obtain ⟨s, rfl, hs⟩ := ih h
        refine ⟨c :: s, rfl, ?_⟩
        rw [byteSize_cons]
        omega
    | case4 n c t hle => cases h
  · rintro ⟨s, rfl, rfl⟩
    exact dropBytes_byteSize_append s u

theorem takeBytes_eq_some_iff : takeBytes n t = some s ↔ ∃ u, s ++ u = t ∧ byteSize s = n := by
  constructor
  · intro h
    fun_induction takeBytes n t generalizing s with
    | case1 t =>
        obtain rfl := Option.some.inj h
        exact ⟨t, rfl, rfl⟩
    | case2 n => cases h
    | case3 n c t hle ih =>
        obtain ⟨s, hs, rfl⟩ := Option.map_eq_some_iff.1 h
        obtain ⟨u, rfl, hsize⟩ := ih hs
        refine ⟨u, rfl, ?_⟩
        rw [byteSize_cons]
        omega
    | case4 n c t hle => cases h
  · rintro ⟨u, rfl, rfl⟩
    exact takeBytes_byteSize_append s u

theorem sliceBytes_eq_some_iff : sliceBytes i j t = some u ↔
    ∃ before after, before ++ u ++ after = t ∧ byteSize before = i ∧ byteSize (before ++ u) = j := by
  constructor
  · intro h
    unfold sliceBytes at h
    split at h
    · obtain ⟨rest, hdrop, htake⟩ := Option.bind_eq_some_iff.1 h
      obtain ⟨before, rfl, hbefore⟩ := dropBytes_eq_some_iff.1 hdrop
      obtain ⟨after, rfl, hsize⟩ := takeBytes_eq_some_iff.1 htake
      refine ⟨before, after, by simp, hbefore, ?_⟩
      rw [byteSize_append]
      omega
    · cases h
  · rintro ⟨before, after, rfl, rfl, rfl⟩
    exact sliceBytes_byteSize_append before u after

theorem prefix_of_byteSize_le (hs : s <+: u) (ht : t <+: u) (hle : byteSize s ≤ byteSize t) :
    s <+: t := by
  obtain hprefix | ⟨w, rfl⟩ := List.prefix_or_prefix_of_prefix hs ht
  · exact hprefix
  · rw [byteSize_append] at hle
    have hw : w = [] := byteSize_eq_zero_iff.1 (by omega)
    simp [hw]

/-- There is a stretch between two offsets that are in order and stand between characters. -/
theorem isSome_sliceBytes_iff : (sliceBytes i j t).isSome ↔
    i ≤ j ∧ j ≤ byteSize t ∧ IsBoundary i t ∧ IsBoundary j t := by
  constructor
  · intro h
    obtain ⟨u, hu⟩ := Option.isSome_iff_exists.1 h
    obtain ⟨before, after, rfl, rfl, rfl⟩ := sliceBytes_eq_some_iff.1 hu
    refine ⟨?_, ?_, ⟨before, u ++ after, by simp, rfl⟩, ⟨before ++ u, after, rfl, rfl⟩⟩
    · rw [byteSize_append]
      omega
    · rw [byteSize_append _ after]
      omega
  · rintro ⟨hle, -, ⟨before, rest, hbefore, rfl⟩, ⟨through, after, hthrough, rfl⟩⟩
    have hprefix : before <+: through :=
      prefix_of_byteSize_le ⟨rest, hbefore⟩ ⟨after, hthrough⟩ hle
    obtain ⟨u, rfl⟩ := hprefix
    rw [sliceBytes_eq_some_iff.2 ⟨before, after, hthrough, rfl, rfl⟩]
    rfl

end Text

/-! ### Lines -/

theorem cutAt_eq_splitOn {α : Type} [DecidableEq α] (sep : α) (l : List α) :
    cutAt sep l = l.splitOn sep := by
  have hsplit := List.splitOn_intercalate sep (fun m hm => sep_notMem_of_mem_cutAt hm)
    (cutAt_ne_nil sep l)
  rw [intercalate_cutAt] at hsplit
  exact hsplit.symm

/-- The line is the piece without a carriage return at its end, if there is one there. -/
inductive WithoutReturn : (piece line : Text) → Prop
  | dropped (line : Text) : WithoutReturn (line ++ ['\r']) line
  | kept {piece : Text} : piece.getLast? ≠ some '\r' → WithoutReturn piece piece

theorem withoutReturn_dropFinal (piece : Text) : WithoutReturn piece (dropFinal '\r' piece) := by
  unfold dropFinal
  split
  · rename_i hlast
    obtain ⟨line, rfl⟩ := List.getLast?_eq_some_iff.1 hlast
    rw [List.dropLast_concat]
    exact .dropped line
  · rename_i hlast
    exact .kept hlast

namespace SourceFile

variable (name content : Text)

/-- The lines of a file by their numbers. -/
theorem map_lineText?_range' :
    (List.range' 1 (new name content).lineCount).map (new name content).lineText? =
      ((content.splitOn '\n').map (dropFinal '\r')).map some := by
  rw [← cutAt_eq_splitOn]
  apply List.ext_getElem
  · simp [lineCount_new, length_cutAt]
  · intro i hi hi'
    simp only [List.length_map] at hi'
    simp [Nat.add_comm 1 i, lineText?_succ, List.getElem?_eq_getElem hi']

theorem lineText?_eq_none_iff (n : Nat) :
    (new name content).lineText? n = none ↔ n = 0 ∨ (new name content).lineCount < n := by
  rw [← Option.not_isSome_iff_eq_none, isSome_lineText?_iff]
  omega

theorem byteSize_spanText? {span : Span} {t : Text}
    (h : (new name content).spanText? span = some t) : Text.byteSize t = span.size := by
  obtain ⟨before, after, -, hstart, hstop⟩ := Text.sliceBytes_eq_some_iff.1 h
  rw [Text.byteSize_append] at hstop
  unfold Span.size
  omega

theorem spanText?_eq_nil_iff {span : Span} {t : Text}
    (h : (new name content).spanText? span = some t) : t = [] ↔ span.isEmpty = true := by
  obtain ⟨before, after, -, hstart, hstop⟩ := Text.sliceBytes_eq_some_iff.1 h
  rw [Text.byteSize_append] at hstop
  rw [← Text.byteSize_eq_zero_iff, Span.isEmpty, beq_iff_eq]
  omega

theorem spanText?_of_mem_tokens {t : Token} (ht : t ∈ (Scanned.ofSource content).tokens) :
    (new name content).spanText? t.span = some t.lexeme := by
  have hadvances := (Lexer.within_new content ErrorLog.empty).advances_drain
  have hdrain : (Lexer.new content ErrorLog.empty).drain.1 = (Scanned.ofSource content).tokens :=
    congrArg Prod.fst (scan_eq content ErrorLog.empty)
  rw [← hdrain] at ht
  exact (hadvances.standsIn t ht).lexeme

end SourceFile

open SourceFile

/-- **What is found in a source file.**  Its lines are the pieces of the content between line feeds,
each without one carriage return at its end, numbered from one, and no other number has a line.  A
span has a text exactly when its offsets are in order, in the content and between characters; the
text is what stands between them, with as many bytes as the span.  The text of a token's span is its
lexeme. -/
theorem source_file_lookups (name content : Text) :
    (new name content).lineCount = content.count '\n' + 1 ∧
    (∃ lines : List Text,
      (List.range' 1 (new name content).lineCount).map (new name content).lineText? =
        lines.map some ∧
      List.Forall₂ WithoutReturn (content.splitOn '\n') lines) ∧
    (∀ n, (new name content).lineText? n = none ↔ n = 0 ∨ (new name content).lineCount < n) ∧
    (∀ span : Span, ((new name content).spanText? span).isSome ↔
      span.start.offset ≤ span.stop.offset ∧ span.stop.offset ≤ Text.byteSize content ∧
        Text.IsBoundary span.start.offset content ∧ Text.IsBoundary span.stop.offset content) ∧
    (∀ (span : Span) (t : Text), (new name content).spanText? span = some t ↔
      ∃ before after, before ++ t ++ after = content ∧ Text.byteSize before = span.start.offset ∧
        Text.byteSize (before ++ t) = span.stop.offset) ∧
    (∀ (span : Span) (t : Text), (new name content).spanText? span = some t →
      Text.byteSize t = span.size ∧ (t = [] ↔ span.isEmpty = true)) ∧
    ∀ t ∈ (Scanned.ofSource content).tokens,
      (new name content).spanText? t.span = some t.lexeme := by
  refine ⟨lineCount_new name content, ⟨_, map_lineText?_range' name content, ?_⟩,
    lineText?_eq_none_iff name content, fun span => Text.isSome_sliceBytes_iff,
    fun span t => Text.sliceBytes_eq_some_iff, ?_, ?_⟩
  · rw [List.forall₂_map_right_iff, List.forall₂_same]
    intro piece _
    exact withoutReturn_dropFinal piece
  · intro span t h
    exact ⟨byteSize_spanText? name content h, spanText?_eq_nil_iff name content h⟩
  · intro t ht
    exact spanText?_of_mem_tokens name content ht

/-- A line with two carriage returns at its end, a character of two bytes before a token, and a last
line that is empty. -/
theorem source_file_lookups_two_returns :
    (List.range' 1 (new [] "é(\r\r\n\n".toList).lineCount).map
        (new [] "é(\r\r\n\n".toList).lineText? =
      [some "é(\r".toList, some [], some []] ∧
    (new [] "é(\r\r\n\n".toList).lineText? 4 = none ∧
    ¬ ((new [] "é(\r\r\n\n".toList).spanText? ⟨.origin, ⟨1, 1, 1⟩⟩).isSome ∧
    Text.byteSize "é(".toList = Span.size ⟨.origin, ⟨1, 3, 3⟩⟩ ∧
    ∃ t ∈ (Scanned.ofSource "é(\r\r\n\n".toList).tokens, t.lexeme = ['('] ∧
      (new [] "é(\r\r\n\n".toList).spanText? t.span = some t.lexeme := by
  obtain ⟨hcount, -, hnone, hsome, htext, hsize, htokens⟩ :=
    source_file_lookups [] "é(\r\r\n\n".toList
  have hcount' : (new [] "é(\r\r\n\n".toList).lineCount = 3 := hcount
  have hspan : (new [] "é(\r\r\n\n".toList).spanText? ⟨.origin, ⟨1, 3, 3⟩⟩ = some "é(".toList :=
    (htext ⟨.origin, ⟨1, 3, 3⟩⟩ "é(".toList).2 ⟨[], "\r\r\n\n".toList, rfl, rfl, rfl⟩
  have hinside : ¬ Text.IsBoundary 1 "é(\r\r\n\n".toList := by
    rintro ⟨before, after, happend, hbytes⟩
    have hdrop := Text.dropBytes_eq_some_iff.2 ⟨before, happend, hbytes⟩
    cases hdrop
  have hmem : (⟨.operator .leftParen, ['('], .none, 1, ⟨⟨1, 2, 2⟩, ⟨1, 3, 3⟩⟩⟩ : Token) ∈
      (Scanned.ofSource "é(\r\r\n\n".toList).tokens := by
    decide +kernel
  refine ⟨by decide +kernel, (hnone 4).2 (.inr (by omega)), ?_, (hsize _ _ hspan).1, _, hmem, rfl,
    htokens _ hmem⟩
  intro h
  exact hinside ((hsome _).1 h).2.2.2

end LoxTokens
