import LoxTokens.Proofs.ErrorLines

/-! # Sources that go on

What a segment is depends on the two characters after it at most, and on two only where the first
is a point.  So a segment that more text follows, and not just one point, is a segment of every
longer source too (`Complete.append`, `ofText_append`).  A longer source therefore keeps all tokens
that two characters follow and all reports of characters (`bounded_lookahead`). -/

namespace LoxTokens

/-- What follows a token in its source. -/
def Token.following? (t : Token) (source : Text) : Option Text :=
  Text.dropBytes t.span.stop.offset source

theorem StopsAt.append_of_ne_nil {p : Char → Bool} {rest : Text} (h : StopsAt p rest)
    (hne : rest ≠ []) (t : Text) : StopsAt p (rest ++ t) := by
  obtain ⟨c, r, rfl⟩ := List.exists_cons_of_ne_nil hne
  rw [stopsAt_cons] at h
  exact stopsAt_cons.2 h

namespace Segment

variable {s : Segment} {ss ss' : List Segment} {rest source : Text} {p : Position}

/-! ### Segments -/

/-- A segment stays complete when the text after it goes on, unless that was empty or one point. -/
theorem Complete.append (h : s.Complete rest) (hne : rest ≠ []) (hpoint : rest ≠ ['.']) (t : Text) :
    s.Complete (rest ++ t) := by
  cases s with
  | blank | string | stray => trivial
  | comment body => exact StopsAt.append_of_ne_nil h hne t
  | word letters => exact StopsAt.append_of_ne_nil h hne t
  | unterminated body => exact absurd h hne
  | operator o =>
      obtain ⟨c, r, rfl⟩ := List.exists_cons_of_ne_nil hne
      exact h
  | number whole fraction =>
      cases fraction with
      | cons d ds => exact StopsAt.append_of_ne_nil h hne t
      | nil =>
          obtain ⟨hstop, hdigit⟩ := h
          refine ⟨hstop.append_of_ne_nil hne t, ?_⟩
          -- a point with a character after it is followed by the same character still
          intro d r e
          obtain ⟨c, u, rfl⟩ := List.exists_cons_of_ne_nil hne
          obtain ⟨rfl, hu⟩ := List.cons.inj e
          cases u with
          | nil => exact absurd rfl hpoint
          | cons d' u =>
              obtain rfl := (List.cons.inj hu).1
              exact hdigit d' u rfl

theorem Fits.append (h : s.Fits rest) (hne : rest ≠ []) (hpoint : rest ≠ ['.']) (t : Text) :
    s.Fits (rest ++ t) :=
  ⟨h.wellFormed, h.complete.append hne hpoint t⟩

theorem ofText_cons (h : s.Fits rest) : ofText (s.text ++ rest) = s :: ofText rest :=
  ofText_of_cut (cut_append_of_fits h)

/-- The segments before a text of two characters or more are segments of every longer source. -/
theorem ofText_append (h : Cutting (ss ++ ss') source) (hlength : 2 ≤ (ss'.flatMap text).length)
    (t : Text) : ofText (source ++ t) = ss ++ ofText (ss'.flatMap text ++ t) := by
  induction ss generalizing source with
  | nil => rw [← h.flatMap_text, List.nil_append, List.nil_append]
  | cons s ss ih =>
      cases h with
      | @cons _ _ rest hs hss =>
          have hrest : 2 ≤ rest.length := by
            have hsplit : (ss ++ ss').flatMap text = rest := hss.flatMap_text
            rw [← hsplit, List.flatMap_append, List.length_append]
            omega
          have hne : rest ≠ [] := by
            rintro rfl
            simp at hrest
          have hpoint : rest ≠ ['.'] := by
            rintro rfl
            simp at hrest
          rw [List.append_assoc, ofText_cons (hs.append hne hpoint t), ih hss, List.cons_append]

/-! ### Tokens -/

theorem exists_of_getElem?_tokensFrom {i : Nat} {token : Token}
    (h : (tokensFrom p ss)[i]? = some token) :
    ∃ before s after, ss = before ++ s :: after ∧ (tokensFrom p before).length = i ∧
      s.token? ⟨p.after (before.flatMap text), p.after ((before ++ [s]).flatMap text)⟩ =
        some token := by
  induction ss generalizing p i with
  | nil => cases h
  | cons s ss ih =>
      rw [tokensFrom_cons] at h
      cases htoken : s.token? ⟨p, p.after s.text⟩ with
      | none =>
          rw [htoken] at h
          obtain ⟨before, s', after, rfl, hlength, hs'⟩ := ih h
          refine ⟨s :: before, s', after, rfl, ?_, ?_⟩
          · rw [tokensFrom_cons, htoken]
            exact hlength
          · rw [List.flatMap_cons, List.cons_append, List.flatMap_cons, Position.after_append,
              Position.after_append]
            exact hs'
      | some first =>
          rw [htoken] at h
          cases i with
          | zero =>
              obtain rfl := Option.some.inj h
              refine ⟨[], s, ss, rfl, rfl, ?_⟩
              rw [List.nil_append, List.flatMap_singleton]
              exact htoken
          | succ i =>
              obtain ⟨before, s', after, rfl, hlength, hs'⟩ := ih h
              refine ⟨s :: before, s', after, rfl, ?_, ?_⟩
              · rw [tokensFrom_cons, htoken, List.length_append, hlength]
                exact Nat.add_comm 1 i
              · rw [List.flatMap_cons, List.cons_append, List.flatMap_cons, Position.after_append,
                  Position.after_append]
                exact hs'

theorem span_of_token? {span : Span} {token : Token} (h : s.token? span = some token) :
    token.span = span := by
  obtain ⟨_, -, rfl⟩ := Option.map_eq_some_iff.1 h
  rfl

theorem following?_of_split {before after : List Segment} {token : Token}
    (hsplit : ofText source = before ++ s :: after)
    (htoken : s.token? ⟨Position.origin.after (before.flatMap text),
      Position.origin.after ((before ++ [s]).flatMap text)⟩ = some token) :
    token.following? source = some (after.flatMap text) := by
  have hoffset : token.span.stop.offset = Text.byteSize ((before ++ [s]).flatMap text) := by
    rw [span_of_token? htoken]
    exact Position.offset_origin_after _
  have hsource : (before ++ [s]).flatMap text ++ after.flatMap text = source := by
    rw [← List.flatMap_append, List.append_assoc, List.singleton_append, ← hsplit]
    exact flatMap_text_ofText source
  rw [Token.following?, hoffset, ← hsource]
  exact Text.dropBytes_byteSize_append _ _

/-- A token that two characters follow is a token of every longer source, at the same index. -/
theorem getElem?_tokensFrom_append {i : Nat} {token : Token}
    (h : (tokensFrom .origin (ofText source))[i]? = some token)
    (hrest : token.following? source = some rest) (hlength : 2 ≤ rest.length) (t : Text) :
    (tokensFrom .origin (ofText (source ++ t)))[i]? = some token := by
  obtain ⟨before, s, after, hsplit, hbefore, htoken⟩ := exists_of_getElem?_tokensFrom h
  rw [following?_of_split hsplit htoken] at hrest
  obtain rfl := Option.some.inj hrest
  have hcutting : Cutting ((before ++ [s]) ++ after) source := by
    rw [List.append_assoc, List.singleton_append, ← hsplit]
    exact cutting_ofText source
  rw [ofText_append hcutting hlength, List.append_assoc, List.singleton_append, tokensFrom_append,
    List.getElem?_append_right (Nat.le_of_eq hbefore), hbefore, Nat.sub_self, tokensFrom_cons]
  rw [List.flatMap_append, List.flatMap_singleton, Position.after_append] at htoken
  rw [htoken]
  rfl

/-! ### Errors -/

/-- Nothing is reported of what a longer source may change: nothing at all or one point. -/
theorem errorsFrom_of_short (h : Cutting ss rest) (hrest : rest = [] ∨ rest = ['.'])
    (p : Position) : errorsFrom p ss = [] := by
  rw [← cutting_iff.1 h]
  rcases hrest with rfl | rfl
  · rw [ofText_nil]
    rfl
  · have hpoint : ofText ['.'] = [operator .dot] := by decide +kernel
    rw [hpoint]
    rfl

/-- The errors of a source are the reports of characters, which every longer source has too, and
then the report of an open string if there is one. -/
theorem exists_kept_errors (h : Cutting ss source) (p : Position) (t : Text) :
    ∃ kept lost, errorsFrom p ss = kept ++ lost ∧
      kept <+: errorsFrom p (ofText (source ++ t)) ∧
      (∀ e ∈ kept, e.isUnexpectedCharacter = true) ∧
      ∀ e ∈ lost, e.isUnexpectedCharacter = false := by
  induction h generalizing p with
  | nil => exact ⟨[], [], rfl, List.nil_prefix, by simp, by simp⟩
  | @cons s ss rest hs hss ih =>
      obtain ⟨kept, lost, herrors, hkept, hcharacters, hopen⟩ := ih (p.after s.text)
      rw [errorsFrom_cons, List.append_assoc]
      rcases s.error?_cases (p.after s.text).line with he | ⟨c, rfl, he⟩ | ⟨body, rfl, he⟩
      · rw [he]
        by_cases hrest : rest = [] ∨ rest = ['.']
        · rw [errorsFrom_of_short hss hrest]
          exact ⟨[], [], rfl, List.nil_prefix, by simp, by simp⟩
        · rw [not_or] at hrest
          rw [ofText_cons (hs.append hrest.1 hrest.2 t), errorsFrom_cons, he]
          exact ⟨kept, lost, herrors, hkept, hcharacters, hopen⟩
      · -- a character is reported whatever follows it
        rw [ofText_cons ⟨hs.wellFormed, trivial⟩, errorsFrom_cons, he, herrors]
        refine ⟨_ :: kept, lost, rfl, ?_, ?_, hopen⟩
        · exact List.prefix_cons_iff.2 (.inr ⟨kept, rfl, hkept⟩)
        · exact List.forall_mem_cons.2 ⟨rfl, hcharacters⟩
      · obtain rfl : rest = [] := hs.complete
        rw [he, errorsFrom_of_short hss (.inl rfl)]
        refine ⟨[], [.unterminatedString _], rfl, List.nil_prefix, by simp, ?_⟩
        exact List.forall_mem_singleton.2 rfl

end Segment

open Segment

namespace Scanned

variable {source : Text} {i : Nat} {token : Token}

theorem getElem?_tokens (source : Text) (heof : token.isEof = false) :
    (ofSource source).tokens[i]? = some token ↔
      (tokensFrom .origin (ofText source))[i]? = some token := by
  rw [ofSource_tokens, List.getElem?_append]
  split
  · exact Iff.rfl
  · rename_i hi
    constructor
    · intro h
      obtain rfl := List.mem_singleton.1 (List.mem_of_getElem? h)
      cases heof
    · intro h
      exact absurd (List.getElem?_eq_some_iff.1 h).1 hi

theorem exists_following (heof : token.isEof = false)
    (h : (ofSource source).tokens[i]? = some token) : ∃ rest, token.following? source = some rest := by
  obtain ⟨before, s, after, hsplit, -, htoken⟩ :=
    exists_of_getElem?_tokensFrom ((getElem?_tokens source heof).1 h)
  exact ⟨_, following?_of_split hsplit htoken⟩

end Scanned

open Scanned

/-- **Two characters settle a token.**  When a source goes on, every token that two characters
followed stays where it was, unchanged, and the reports of characters stay the first errors.  So only
the end token, tokens that at most one character followed and the report of an open string can
change. -/
theorem bounded_lookahead (source t : Text) :
    (∀ (i : Nat) (token : Token) (rest : Text), (ofSource source).tokens[i]? = some token →
      token.isEof = false → token.following? source = some rest → 2 ≤ rest.length →
        (ofSource (source ++ t)).tokens[i]? = some token) ∧
    (ofSource source).errors.filter LexError.isUnexpectedCharacter <+:
      (ofSource (source ++ t)).errors ∧
    (∀ (i : Nat) (token : Token), (ofSource source).tokens[i]? = some token →
      (ofSource (source ++ t)).tokens[i]? ≠ some token →
        token.isEof = true ∨ ∃ rest, token.following? source = some rest ∧ rest.length ≤ 1) ∧
    (∀ (i : Nat) (e : LexError), (ofSource source).errors[i]? = some e →
      (ofSource (source ++ t)).errors[i]? ≠ some e → ∃ n, e = .unterminatedString n) := by
  have hsettled : ∀ (i : Nat) (token : Token) (rest : Text),
      (ofSource source).tokens[i]? = some token → token.isEof = false →
        token.following? source = some rest → 2 ≤ rest.length →
          (ofSource (source ++ t)).tokens[i]? = some token := by
    intro i token rest h heof hrest hlength
    rw [getElem?_tokens _ heof] at h ⊢
    exact getElem?_tokensFrom_append h hrest hlength t
  obtain ⟨kept, lost, herrors, hkept, hcharacters, hopen⟩ :=
    exists_kept_errors (cutting_ofText source) .origin t
  rw [← ofSource_errors] at herrors hkept
  refine ⟨hsettled, ?_, ?_, ?_⟩
  · have hlost : lost.filter LexError.isUnexpectedCharacter = [] :=
      List.filter_eq_nil_iff.2 fun e he => by simp [hopen e he]
    rw [herrors, List.filter_append, List.filter_eq_self.2 hcharacters, hlost, List.append_nil]
    exact hkept
  · intro i token h hchanged
    cases heof : token.isEof with
    | true => exact .inl rfl
    | false =>
        obtain ⟨rest, hrest⟩ := exists_following heof h
        refine .inr ⟨rest, hrest, ?_⟩
        by_contra hlength
        exact hchanged (hsettled i token rest h heof hrest (by omega))
  · intro i e h hchanged
    rw [herrors, List.getElem?_append] at h
    split at h
    · rename_i hi
      obtain ⟨more, hmore⟩ := hkept
      rw [← hmore, List.getElem?_append_left hi] at hchanged
      exact absurd h hchanged
    · have he := hopen e (List.mem_of_getElem? h)
      cases e with
      | unterminatedString n => exact ⟨n, rfl⟩
      | unexpectedCharacter n c => cases he

/-- The word, which three characters follow, stays, and so does the report of the character before
it; the number before the point does not. -/
theorem bounded_lookahead_fraction :
    (ofSource "@a 1.".toList).tokens[0]? =
        some ⟨.identifier, ['a'], .none, 1, ⟨⟨1, 2, 1⟩, ⟨1, 3, 2⟩⟩⟩ ∧
      (ofSource "@a 1.5\"".toList).tokens[0]? =
        some ⟨.identifier, ['a'], .none, 1, ⟨⟨1, 2, 1⟩, ⟨1, 3, 2⟩⟩⟩ ∧
      [.unexpectedCharacter 1 '@'] <+: (ofSource "@a 1.5\"".toList).errors ∧
      (ofSource "@a 1.".toList).tokens[1]? ≠ (ofSource "@a 1.5\"".toList).tokens[1]? := by
  have hword : (ofSource "@a 1.".toList).tokens[0]? =
      some ⟨.identifier, ['a'], .none, 1, ⟨⟨1, 2, 1⟩, ⟨1, 3, 2⟩⟩⟩ := by decide +kernel
  have herrors : (ofSource "@a 1.".toList).errors = [.unexpectedCharacter 1 '@'] := by
    decide +kernel
  obtain ⟨hsettled, hreports, -, -⟩ := bounded_lookahead "@a 1.".toList "5\"".toList
  rw [herrors] at hreports
  refine ⟨hword, ?_, hreports, by decide +kernel⟩
  exact hsettled 0 _ " 1.".toList hword rfl rfl (by decide)

end LoxTokens
