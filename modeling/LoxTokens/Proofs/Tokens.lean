import LoxTokens.Lexer
import LoxTokens.Proofs.Cutting

/-! # Tokens of a cutting

`Segment.content?` tells which segments are lexemes of tokens, and of which.  The tokens of a
source are those of its segments, each over its own span, and the end token (`ofSource_tokens`);
its errors are those of its segments (`ofSource_errors`). -/

namespace LoxTokens

/-- What a token is, apart from its place. -/
def Token.content (t : Token) : TokenKind × Text × Literal := (t.kind, t.lexeme, t.literal)

/-- Tokens before the end token. -/
def Scanned.beforeEnd (s : Scanned) : List Token := s.tokens.filter fun t => !t.isEof

namespace Segment

/-- Kind, lexeme and literal of the token that a segment gives.  Blanks, comments, stray characters
and open strings give none. -/
def content? (s : Segment) : Option (TokenKind × Text × Literal) :=
  match s with
  | string body => some (.string, s.text, .string body)
  | number whole fraction =>
    some (.number, s.text, .number (.ofMagnitude false (Decimal.ofParts whole fraction).round))
  | word letters => some (.ofWord letters, s.text, .none)
  | operator o => some (.operator o, s.text, .none)
  | blank _ | comment _ | stray _ | unterminated _ => none

/-- Strings, numbers, words and operators are the lexemes of tokens. -/
def isLexeme : Segment → Bool
  | string _ | number _ _ | word _ | operator _ => true
  | blank _ | comment _ | stray _ | unterminated _ => false

/-- The token that a segment over a span gives. -/
def token? (s : Segment) (span : Span) : Option Token :=
  s.content?.map fun (kind, lexeme, literal) => ⟨kind, lexeme, literal, span.stop.line, span⟩

/-- The error that a segment which ends on a line gives. -/
def error? (s : Segment) (line : Nat) : Option LexError :=
  match s with
  | stray c => some (.unexpectedCharacter line c)
  | unterminated _ => some (.unterminatedString line)
  | _ => none

/-- The tokens of segments that begin at `p`. -/
def tokensFrom (p : Position) (ss : List Segment) : List Token :=
  (located p ss).filterMap fun x => x.1.token? x.2

/-- The errors of segments that begin at `p`. -/
def errorsFrom (p : Position) (ss : List Segment) : List LexError :=
  (located p ss).filterMap fun x => x.1.error? x.2.stop.line

variable {s : Segment} {ss ss' : List Segment} {p : Position} {span : Span}

/-- A segment gives a token, an error or nothing. -/
theorem event?_cases (s : Segment) (span : Span) :
    (∃ t, s.event? span = some (.token t) ∧ s.token? span = some t ∧
        s.error? span.stop.line = none) ∨
      (∃ e, s.event? span = some (.error e) ∧ s.token? span = none ∧
        s.error? span.stop.line = some e) ∨
      (s.event? span = none ∧ s.token? span = none ∧ s.error? span.stop.line = none) := by
  cases s with
  | string body => exact .inl ⟨_, rfl, rfl, rfl⟩
  | number whole fraction => exact .inl ⟨_, rfl, rfl, rfl⟩
  | word letters => exact .inl ⟨_, rfl, rfl, rfl⟩
  | operator o => exact .inl ⟨_, rfl, rfl, rfl⟩
  | stray c => exact .inr (.inl ⟨_, rfl, rfl, rfl⟩)
  | unterminated body => exact .inr (.inl ⟨_, rfl, rfl, rfl⟩)
  | blank c => exact .inr (.inr ⟨rfl, rfl, rfl⟩)
  | comment body => exact .inr (.inr ⟨rfl, rfl, rfl⟩)

theorem token?_event? (s : Segment) (span : Span) :
    (s.event? span).bind Event.token? = s.token? span := by
  rcases s.event?_cases span with ⟨t, h, ht, -⟩ | ⟨e, h, ht, -⟩ | ⟨h, ht, -⟩ <;> rw [h, ht] <;> rfl

theorem error?_event? (s : Segment) (span : Span) :
    (s.event? span).bind Event.error? = s.error? span.stop.line := by
  rcases s.event?_cases span with ⟨t, h, -, he⟩ | ⟨e, h, -, he⟩ | ⟨h, -, he⟩ <;> rw [h, he] <;> rfl

@[simp] theorem tokensFrom_nil (p : Position) : tokensFrom p [] = [] := rfl

@[simp] theorem errorsFrom_nil (p : Position) : errorsFrom p [] = [] := rfl

theorem tokensFrom_cons (p : Position) (s : Segment) (ss : List Segment) :
    tokensFrom p (s :: ss) =
      (s.token? ⟨p, p.after s.text⟩).toList ++ tokensFrom (p.after s.text) ss := by
  cases h : s.token? ⟨p, p.after s.text⟩ <;> simp [tokensFrom, located, h]

theorem errorsFrom_cons (p : Position) (s : Segment) (ss : List Segment) :
    errorsFrom p (s :: ss) =
      (s.error? (p.after s.text).line).toList ++ errorsFrom (p.after s.text) ss := by
  cases h : s.error? (p.after s.text).line <;> simp [errorsFrom, located, h]

theorem tokensFrom_append (p : Position) (ss ss' : List Segment) :
    tokensFrom p (ss ++ ss') = tokensFrom p ss ++ tokensFrom (p.after (ss.flatMap text)) ss' := by
  induction ss generalizing p with
  | nil => simp
  | cons s ss ih =>
      rw [List.cons_append, tokensFrom_cons, tokensFrom_cons, ih, List.flatMap_cons,
        Position.after_append, List.append_assoc]

theorem errorsFrom_append (p : Position) (ss ss' : List Segment) :
    errorsFrom p (ss ++ ss') = errorsFrom p ss ++ errorsFrom (p.after (ss.flatMap text)) ss' := by
  induction ss generalizing p with
  | nil => simp
  | cons s ss ih =>
      rw [List.cons_append, errorsFrom_cons, errorsFrom_cons, ih, List.flatMap_cons,
        Position.after_append, List.append_assoc]

/-- What tokens are does not depend on where the segments begin. -/
theorem map_content_tokensFrom (p : Position) (ss : List Segment) :
    (tokensFrom p ss).map Token.content = ss.filterMap content? := by
  induction ss generalizing p with
  | nil => rfl
  | cons s ss ih =>
      rw [tokensFrom_cons, List.map_append, ih]
      cases h : s.content? <;> simp [token?, Token.content, h]

theorem map_lexeme_tokensFrom (p : Position) (ss : List Segment) :
    (tokensFrom p ss).map Token.lexeme = (ss.filter isLexeme).map text := by
  induction ss generalizing p with
  | nil => rfl
  | cons s ss ih =>
      rw [tokensFrom_cons, List.map_append, ih]
      cases s <;> rfl

theorem isEof_of_mem_tokensFrom {t : Token} (h : t ∈ tokensFrom p ss) : t.isEof = false := by
  have hc := List.mem_map_of_mem (f := Token.content) h
  rw [map_content_tokensFrom, List.mem_filterMap] at hc
  obtain ⟨s, -, hs⟩ := hc
  have hkind : ∀ {x}, s.content? = some x → x.1 ≠ .eof := by
    intro x hx
    cases s with
    | word letters =>
        obtain rfl := Option.some.inj hx
        unfold TokenKind.ofWord
        split <;> simp
    | _ => cases hx <;> simp
  simpa [Token.isEof, Token.content] using hkind hs

end Segment

namespace Scanned

open Segment

theorem ofSource_tokens (source : Text) :
    (ofSource source).tokens =
      tokensFrom .origin (ofText source) ++ [.eof (Position.origin.after source)] := by
  simp only [ofSource, events, List.filterMap_append, List.filterMap_filterMap, token?_event?,
    tokensFrom]
  rfl

/-- What a token of a source is, is what a well-formed segment gives, or the end. -/
theorem content_of_mem_tokens {source : Text} {x : TokenKind × Text × Literal}
    (hx : x ∈ (ofSource source).tokens.map Token.content) :
    (∃ s : Segment, s.WellFormed ∧ s.content? = some x) ∨ x = (.eof, [], .none) := by
  rw [ofSource_tokens, List.map_append, map_content_tokensFrom, List.mem_append] at hx
  rcases hx with hx | hx
  · obtain ⟨s, hs, hcontent⟩ := List.mem_filterMap.1 hx
    exact .inl ⟨s, (cutting_ofText source).wellFormed hs, hcontent⟩
  · exact .inr (List.mem_singleton.1 hx)

theorem ofSource_errors (source : Text) :
    (ofSource source).errors = errorsFrom .origin (ofText source) := by
  simp only [ofSource, events, List.filterMap_append, List.filterMap_filterMap, error?_event?,
    errorsFrom]
  exact List.append_nil _

theorem beforeEnd_ofSource (source : Text) :
    (ofSource source).beforeEnd = tokensFrom .origin (ofText source) := by
  have h : (tokensFrom .origin (ofText source)).filter (fun t => !t.isEof) =
      tokensFrom .origin (ofText source) := by
    rw [List.filter_eq_self]
    intro t ht
    rw [isEof_of_mem_tokensFrom ht]
    rfl
  rw [beforeEnd, ofSource_tokens, List.filter_append, h]
  exact List.append_nil _

end Scanned
end LoxTokens
