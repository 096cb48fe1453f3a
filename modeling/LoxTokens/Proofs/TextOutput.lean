import LoxTokens.OutputFormat
import LoxTokens.Proofs.SourceLines
import LoxTokens.Proofs.Tokens

/-! # Reading the text output

Tokens are written as text without any escapes, and a string may go on over lines that look like
other tokens.  Still each token can be told from what is written: kinds and lexemes other than
strings end at the next space, a string ends at its second quote, and what a token is determines its
literal (`recordText_append_inj`).  So the text of a whole scan determines its tokens, places apart
(`renderTokens_text_eq_iff`). -/

namespace LoxTokens

/-- What comes before the first separator, and what after it. -/
theorem append_sep_inj {α : Type} [DecidableEq α] {sep : α} {l l' m m' : List α} (hl : sep ∉ l)
    (hl' : sep ∉ l') (h : l ++ sep :: m = l' ++ sep :: m') : l = l' ∧ m = m' := by
  have hpieces := congrArg (cutAt sep) h
  rw [cutAt_append_cons hl, cutAt_append_cons hl'] at hpieces
  obtain rfl := (List.cons.inj hpieces).1
  exact ⟨rfl, (List.cons.inj (List.append_cancel_left h)).2⟩

namespace TokenKind

theorem space_notMem_name (k : TokenKind) : ' ' ∉ k.name := by
  have hall : ∀ k ∈ all, ' ' ∉ k.name := by decide +kernel
  exact hall k (mem_all k)

theorem name_inj {k k' : TokenKind} (h : k.name = k'.name) : k = k' := by
  have hall : ∀ k ∈ all, ∀ k' ∈ all, k.name = k'.name → k = k' := by decide +kernel
  exact hall k (mem_all k) k' (mem_all k') h

end TokenKind

/-- The line, or lines, that a token of this content is written as. -/
def recordText : TokenKind × Text × Literal → Text
  | (kind, lexeme, literal) => kind.name ++ ' ' :: (lexeme ++ ' ' :: (literal.text ++ ['\n']))

theorem renderTokens_text (tokens : List Token) :
    renderTokens tokens .text = (tokens.map Token.content).flatMap recordText := by
  rw [renderTokens, List.flatMap_map]
  refine List.flatMap_congr fun t _ => ?_
  simp [Text.line, Token.text, Token.content, recordText]

/-- The literal of a token that is no string. -/
def literalOf (kind : TokenKind) (lexeme : Text) : Literal :=
  match kind with
  | .number => .number (.ofMagnitude false (Decimal.ofParts (lexeme.takeWhile Char.isDigit)
      ((lexeme.dropWhile Char.isDigit).drop 1)).round)
  | _ => .none

/-- What makes the content of a token legible: a string has two quotes, at its ends, and its value
between them; every other lexeme has no space and determines its literal. -/
def Legible : TokenKind × Text × Literal → Prop
  | (.string, lexeme, literal) =>
    ∃ body, '"' ∉ body ∧ lexeme = '"' :: (body ++ ['"']) ∧ literal = .string body
  | (kind, lexeme, literal) => ' ' ∉ lexeme ∧ literal = literalOf kind lexeme

/-- A record of legible content is told from the text it begins. -/
theorem recordText_append_inj {x y : TokenKind × Text × Literal} {u v : Text} (hx : Legible x)
    (hy : Legible y) (h : recordText x ++ u = recordText y ++ v) : x = y ∧ u = v := by
  obtain ⟨kind, lexeme, literal⟩ := x
  obtain ⟨kind', lexeme', literal'⟩ := y
  simp only [recordText, List.append_assoc, List.cons_append, List.nil_append] at h
  obtain ⟨hname, hrest⟩ := append_sep_inj kind.space_notMem_name kind'.space_notMem_name h
  obtain rfl := TokenKind.name_inj hname
  by_cases hstring : kind = .string
  · subst hstring
    obtain ⟨body, hbody, rfl, rfl⟩ := hx
    obtain ⟨body', hbody', rfl, rfl⟩ := hy
    simp only [List.append_assoc, List.cons_append, List.nil_append, List.cons.injEq,
      true_and] at hrest
    obtain ⟨rfl, hvalue⟩ := append_sep_inj hbody hbody' hrest
    have hend := List.append_cancel_left (List.cons.inj hvalue).2
    exact ⟨rfl, (List.cons.inj hend).2⟩
  · have hlegible : ∀ {lexeme literal}, Legible (kind, lexeme, literal) →
        ' ' ∉ lexeme ∧ literal = literalOf kind lexeme := by
      intro lexeme literal h
      cases kind <;> first | exact h | exact (hstring rfl).elim
    obtain ⟨hspace, rfl⟩ := hlegible hx
    obtain ⟨hspace', rfl⟩ := hlegible hy
    obtain ⟨rfl, hliteral⟩ := append_sep_inj hspace hspace' hrest
    have hend := List.append_cancel_left hliteral
    exact ⟨rfl, (List.cons.inj hend).2⟩

/-- Records of legible contents, one after the other, tell their contents. -/
theorem flatMap_recordText_inj {xs ys : List (TokenKind × Text × Literal)}
    (hxs : ∀ x ∈ xs, Legible x) (hys : ∀ y ∈ ys, Legible y)
    (h : xs.flatMap recordText = ys.flatMap recordText) : xs = ys := by
  have hne : ∀ x u, recordText x ++ u ≠ [] := by simp [recordText]
  induction xs generalizing ys with
  | nil =>
      cases ys with
      | nil => rfl
      | cons y ys => exact (hne _ _ h.symm).elim
  | cons x xs ih =>
      cases ys with
      | nil => exact (hne _ _ h).elim
      | cons y ys =>
          rw [List.forall_mem_cons] at hxs hys
          obtain ⟨rfl, hrest⟩ := recordText_append_inj hxs.1 hys.1 h
          rw [ih hxs.2 hys.2 hrest]

namespace Segment

theorem legible_of_content? {s : Segment} {x : TokenKind × Text × Literal} (hs : s.WellFormed)
    (hx : s.content? = some x) : Legible x := by
  cases s with
  | blank | comment | stray | unterminated => cases hx
  | string body =>
      obtain rfl := Option.some.inj hx
      exact ⟨body, hs, rfl, rfl⟩
  | operator o =>
      obtain rfl := Option.some.inj hx
      have hspace : ' ' ∉ o.text := by cases o <;> decide
      exact ⟨hspace, rfl⟩
  | word letters =>
      obtain rfl := Option.some.inj hx
      have hspace : ' ' ∉ letters := by
        cases letters with
        | nil => exact hs.elim
        | cons c t =>
            intro hmem
            rcases List.mem_cons.1 hmem with rfl | hmem
            · cases hs.1
            · cases hs.2 _ hmem
      unfold TokenKind.ofWord
      split <;> exact ⟨hspace, rfl⟩
  | number whole fraction =>
      obtain rfl := Option.some.inj hx
      obtain ⟨-, hwhole, hfraction⟩ := hs
      have hdigit : ∀ {ds : Text}, (∀ d ∈ ds, d.isDigit = true) → ' ' ∉ ds := by
        intro ds hds hmem
        cases hds _ hmem
      cases fraction with
      | nil =>
          have htake : whole.takeWhile Char.isDigit = whole :=
            List.takeWhile_eq_self_iff.2 hwhole
          have hdrop : whole.dropWhile Char.isDigit = [] := List.dropWhile_eq_nil_iff.2 hwhole
          refine ⟨hdigit hwhole, ?_⟩
          simp only [literalOf, text, htake, hdrop, List.drop_nil]
      | cons d ds =>
          have hstop : StopsAt Char.isDigit ('.' :: d :: ds) := stopsAt_cons.2 rfl
          refine ⟨?_, ?_⟩
          · have hpoint : ' ' ≠ '.' := by decide
            simp only [text, List.mem_append, List.mem_cons, not_or]
            exact ⟨hdigit hwhole, hpoint, by simpa using hdigit hfraction⟩
          · simp only [literalOf, text, takeWhile_append_of_stopsAt hwhole hstop,
              dropWhile_append_of_stopsAt hwhole hstop, List.drop_one, List.tail_cons]

end Segment

theorem legible_of_mem_tokens {source : Text} :
    ∀ x ∈ (Scanned.ofSource source).tokens.map Token.content, Legible x := by
  intro x hx
  rcases Scanned.content_of_mem_tokens hx with ⟨s, hs, hcontent⟩ | rfl
  · exact Segment.legible_of_content? hs hcontent
  · exact ⟨List.not_mem_nil, rfl⟩

/-- **The text output tells the tokens.**  Two sources have the same text output exactly when their
tokens are as many and agree, one by one, in kind, lexeme and literal. -/
theorem renderTokens_text_eq_iff (s t : Text) :
    renderTokens (Scanned.ofSource s).tokens .text =
        renderTokens (Scanned.ofSource t).tokens .text ↔
      (Scanned.ofSource s).tokens.map Token.content =
        (Scanned.ofSource t).tokens.map Token.content := by
  rw [renderTokens_text, renderTokens_text]
  constructor
  · exact flatMap_recordText_inj legible_of_mem_tokens legible_of_mem_tokens
  · exact congrArg _

end LoxTokens
