import LoxTokens.Proofs.Pulling

/-! # Sources and their segments

A source has one cutting, and a scan of the source follows it: each lexeme of the cutting gives
one token and each stray character or open string one error, in order. -/

namespace LoxTokens

open Segment

/-- **A scan follows the one cutting of its source.**  There is one way to cut a source into
well-formed segments that are complete where they stand.  Its segments make up the source, none is
empty and none could be longer.  Strings, numbers, words and operators give one token each, in
order, whose lexeme is the text of the segment and whose span is its place, and the end token
follows; stray characters and open strings give one error each, in order. -/
theorem source_cutting (source : Text) :
    ∃ ss : List Segment, Cutting ss source ∧ (∀ ss', Cutting ss' source → ss' = ss) ∧
      ss.flatMap text = source ∧ (∀ s ∈ ss, s.text ≠ []) ∧
      (∀ before s after, ss = before ++ s :: after → s.Longest (after.flatMap text)) ∧
      (Scanned.ofSource source).beforeEnd.map Token.lexeme = (ss.filter isLexeme).map text ∧
      (Scanned.ofSource source).tokens =
        tokensFrom .origin ss ++ [.eof (Position.origin.after source)] ∧
      (Scanned.ofSource source).errors = errorsFrom .origin ss ∧
      scan source ErrorLog.empty =
        ((Scanned.ofSource source).tokens, ⟨(Scanned.ofSource source).errors.toArray⟩) := by
  have hcutting := cutting_ofText source
  refine ⟨ofText source, hcutting, fun ss' h => (cutting_iff.1 h).symm, hcutting.flatMap_text,
    hcutting.text_ne_nil, ?_, ?_, Scanned.ofSource_tokens source, Scanned.ofSource_errors source,
    ?_⟩
  · intro before s after h
    rw [h] at hcutting
    exact hcutting.fits.longest
  · rw [Scanned.beforeEnd_ofSource, map_lexeme_tokensFrom]
  · rw [scan_eq, reportAll_errorLog]
    simp [ErrorLog.empty]

/-- A point, an operator that could be longer, a quote in a comment, a character of no segment and
an open string, each next to the other. -/
theorem source_cutting_mixed :
    ∃ ss, Cutting ss "1.!==//\"\n@\"x".toList ∧
      ss = [.number ['1'] [], .operator .dot, .operator .bangEqual, .operator .equal,
        .comment ['"'], .blank '\n', .stray '@', .unterminated ['x']] ∧
      (Scanned.ofSource "1.!==//\"\n@\"x".toList).beforeEnd.map Token.lexeme =
        [['1'], ['.'], ['!', '='], ['=']] := by
  obtain ⟨ss, hss, hunique, -, -, -, hlexemes, -⟩ := source_cutting "1.!==//\"\n@\"x".toList
  have hlist : Cutting [.number ['1'] [], .operator .dot, .operator .bangEqual, .operator .equal,
      .comment ['"'], .blank '\n', .stray '@', .unterminated ['x']]
      "1.!==//\"\n@\"x".toList := cutting_iff.2 (by decide +kernel)
  have heq := hunique _ hlist
  refine ⟨ss, hss, heq.symm, ?_⟩
  rw [hlexemes, ← heq]
  decide

end LoxTokens
