import LoxTokens.Proofs.Places
import LoxTokens.Proofs.Tokens

/-! # Scanning across a line feed

No lexeme but a string goes on after a line feed.  So a line feed between two sources cuts a scan:
what comes before it is scanned as if it stood alone, and what comes after it too, except that its
places are shifted (`ofSource_append_newline`). -/

namespace LoxTokens

/-- The place of a text that stands after `lines` whole lines of `bytes` bytes. -/
def Position.shift (lines bytes : Nat) (p : Position) : Position :=
  ⟨p.line + lines, p.column, p.offset + bytes⟩

def Span.shift (lines bytes : Nat) (s : Span) : Span :=
  ⟨s.start.shift lines bytes, s.stop.shift lines bytes⟩

/-- The token, further down its source. -/
def Token.shift (lines bytes : Nat) (t : Token) : Token :=
  { t with line := t.line + lines, span := t.span.shift lines bytes }

/-- The error, further down its source. -/
def LexError.shift (lines : Nat) : LexError → LexError
  | unterminatedString n => unterminatedString (n + lines)
  | unexpectedCharacter n c => unexpectedCharacter (n + lines) c

variable {lines bytes : Nat}

namespace Position

theorem step_shift (p : Position) (c : Char) :
    (p.shift lines bytes).step c = (p.step c).shift lines bytes := by
  unfold step shift
  split
  · simp only [mk.injEq, true_and]
    omega
  · simp only [mk.injEq, true_and]
    omega

theorem after_shift (p : Position) (t : Text) :
    (p.shift lines bytes).after t = (p.after t).shift lines bytes := by
  induction t generalizing p with
  | nil => rfl
  | cons c t ih => rw [after_cons, step_shift, ih, after_cons]

theorem after_newline (t : Text) :
    origin.after (t ++ ['\n']) = origin.shift (t.count '\n' + 1) (Text.byteSize t + 1) := by
  rw [after_append, after_cons, after_nil, step, if_pos rfl, line_origin_after,
    offset_origin_after]
  simp only [shift, origin, mk.injEq, true_and]
  constructor
  · omega
  · rw [Nat.zero_add]
    rfl

end Position

namespace Segment

variable {s : Segment} {ss ss' : List Segment} {t u : Text}

theorem tokensFrom_shift (p : Position) (ss : List Segment) :
    tokensFrom (p.shift lines bytes) ss = (tokensFrom p ss).map (Token.shift lines bytes) := by
  induction ss generalizing p with
  | nil => rfl
  | cons s ss ih =>
      rw [tokensFrom_cons, tokensFrom_cons, List.map_append, Position.after_shift, ih]
      congr 1
      cases s <;> rfl

theorem errorsFrom_shift (p : Position) (ss : List Segment) :
    errorsFrom (p.shift lines bytes) ss = (errorsFrom p ss).map (LexError.shift lines) := by
  induction ss generalizing p with
  | nil => rfl
  | cons s ss ih =>
      rw [errorsFrom_cons, errorsFrom_cons, List.map_append, Position.after_shift, ih]
      congr 1
      cases s <;> rfl

/-- Without an open string, a cutting can be continued after a line feed. -/
theorem Cutting.append_newline (h : Cutting ss t) (hopen : ∀ body, unterminated body ∉ ss)
    (h' : Cutting ss' u) : Cutting (ss ++ blank '\n' :: ss') (t ++ '\n' :: u) := by
  induction h with
  | nil => exact .cons ⟨rfl, trivial⟩ h'
  | @cons s ss rest hs hss ih =>
      rw [List.append_assoc]
      have hrest := ih fun body hmem => hopen body (List.mem_cons_of_mem _ hmem)
      refine .cons ⟨hs.wellFormed, ?_⟩ hrest
      refine hs.complete.append_separates rfl (fun _ _ => rfl) ?_ u
      rintro body rfl
      exact hopen body List.mem_cons_self

theorem exists_unterminatedString_mem (p : Position) {body : Text}
    (h : unterminated body ∈ ss) : ∃ n, .unterminatedString n ∈ errorsFrom p ss := by
  induction ss generalizing p with
  | nil => simp at h
  | cons s ss ih =>
      rw [errorsFrom_cons]
      rcases List.mem_cons.1 h with rfl | h
      · exact ⟨_, List.mem_append_left _ (List.mem_singleton.2 rfl)⟩
      · obtain ⟨n, hn⟩ := ih (p.after s.text) h
        exact ⟨n, List.mem_append_right _ hn⟩

end Segment

open Segment

/-- **Scanning is compositional across a line feed.**  Where the first source leaves no string
open, the tokens and errors of two sources with a line feed between them are those of the first,
unchanged, and then those of the second, shifted down by the lines and bytes before it. -/
theorem ofSource_append_newline (s t : Text)
    (h : ∀ n, .unterminatedString n ∉ (Scanned.ofSource s).errors) :
    (Scanned.ofSource (s ++ '\n' :: t)).tokens =
        (Scanned.ofSource s).beforeEnd ++
          (Scanned.ofSource t).tokens.map (.shift (s.count '\n' + 1) (Text.byteSize s + 1)) ∧
      (Scanned.ofSource (s ++ '\n' :: t)).errors =
        (Scanned.ofSource s).errors ++
          (Scanned.ofSource t).errors.map (.shift (s.count '\n' + 1)) := by
  have hopen : ∀ body, unterminated body ∉ ofText s := by
    intro body hmem
    obtain ⟨n, hn⟩ := exists_unterminatedString_mem .origin hmem
    rw [← Scanned.ofSource_errors] at hn
    exact h n hn
  have hcut : ofText (s ++ '\n' :: t) = ofText s ++ blank '\n' :: ofText t :=
    cutting_iff.1 ((cutting_ofText s).append_newline hopen (cutting_ofText t))
  have hplace : (Position.origin.after s).after (blank '\n').text =
      Position.origin.shift (s.count '\n' + 1) (Text.byteSize s + 1) := by
    rw [← Position.after_append]
    exact Position.after_newline s
  constructor
  · have hend : Position.origin.after (s ++ '\n' :: t) =
        (Position.origin.after t).shift (s.count '\n' + 1) (Text.byteSize s + 1) := by
      rw [← Position.after_shift, ← hplace, ← Position.after_append, ← Position.after_append]
      rfl
    rw [Scanned.ofSource_tokens, Scanned.beforeEnd_ofSource, Scanned.ofSource_tokens, hcut,
      tokensFrom_append, tokensFrom_cons, flatMap_text_ofText, hplace, hend, tokensFrom_shift,
      List.map_append, List.append_assoc]
    rfl
  · rw [Scanned.ofSource_errors, Scanned.ofSource_errors, Scanned.ofSource_errors, hcut,
      errorsFrom_append, errorsFrom_cons, flatMap_text_ofText, hplace, errorsFrom_shift]
    rfl

/-- A number that ends in a point and an open comment stop at the line feed, and the operator after
it is one of its own. -/
theorem ofSource_append_newline_comment :
    (∀ n, .unterminatedString n ∉ (Scanned.ofSource "é 1.//\"".toList).errors) ∧
      (Scanned.ofSource "é 1.//\"\n=\"".toList).tokens =
        (Scanned.ofSource "é 1.//\"".toList).beforeEnd ++
          [⟨.operator .equal, ['='], .none, 2, ⟨⟨2, 1, 9⟩, ⟨2, 2, 10⟩⟩⟩, .eof ⟨2, 3, 11⟩] ∧
      (Scanned.ofSource "é 1.//\"\n=\"".toList).errors =
        [.unexpectedCharacter 1 'é', .unterminatedString 2] := by
  have herrors : (Scanned.ofSource "é 1.//\"".toList).errors = [.unexpectedCharacter 1 'é'] := by
    decide +kernel
  have hopen : ∀ n, .unterminatedString n ∉ (Scanned.ofSource "é 1.//\"".toList).errors := by
    intro n hn
    rw [herrors] at hn
    cases List.mem_singleton.1 hn
  obtain ⟨htokens, herrors'⟩ := ofSource_append_newline "é 1.//\"".toList "=\"".toList hopen
  have hscan : (Scanned.ofSource "=\"".toList).tokens =
        [⟨.operator .equal, ['='], .none, 1, ⟨⟨1, 1, 0⟩, ⟨1, 2, 1⟩⟩⟩, .eof ⟨1, 3, 2⟩] ∧
      (Scanned.ofSource "=\"".toList).errors = [.unterminatedString 1] := by
    decide +kernel
  refine ⟨hopen, ?_, ?_⟩
  · refine htokens.trans ?_
    rw [hscan.1]
    congr 1
  · refine herrors'.trans ?_
    rw [herrors, hscan.2]
    rfl

end LoxTokens
