import LoxTokens.Proofs.NumberTexts
import LoxTokens.Proofs.Tokens

/-! # What a lexeme determines

The first character of a lexeme tells whether it is a string, a number, a word or an operator, and
the lexeme then determines the kind and the literal of its token (`Classified`).  The lexemes of all
well-formed segments are classified so (`classified_of_content?`), and no lexeme in two ways
(`Classified.unique`); therefore tokens of one lexeme agree, whatever sources they stand in
(`lexemes_determine_tokens`). -/

namespace LoxTokens

variable {kind kind' : TokenKind} {lexeme : Text} {literal literal' : Literal} {c : Char}

/-! ### Words -/

namespace Keyword

theorem lower_name (k : Keyword) : Text.lower k.name = k.word := by
  have hall : ∀ k ∈ all, Text.lower k.name = k.word := by decide +kernel
  exact hall k (mem_all k)

end Keyword

namespace TokenKind

theorem isKeyword_iff {k : TokenKind} : k.isKeyword = true ↔ ∃ word, k = keyword word := by
  cases k <;> simp [isKeyword]

theorem lower_name_keyword (k : Keyword) : Text.lower (keyword k).name = k.word := k.lower_name

theorem ofWord_eq_keyword_iff {t : Text} {k : Keyword} : ofWord t = keyword k ↔ t = k.word := by
  rw [eq_comm (a := t), ← Keyword.ofWord?_eq_some_iff, ofWord]
  split
  next k' h => rw [h, keyword.injEq, Option.some.injEq]
  next h => simp [h]

theorem ofWord_eq_identifier_iff {t : Text} :
    ofWord t = identifier ↔ ∀ k : Keyword, t ≠ k.word := by
  constructor
  · intro h k hk
    rw [ofWord_eq_keyword_iff.2 hk] at h
    cases h
  · intro h
    rw [ofWord]
    split
    next k hk => exact (h k (Keyword.ofWord?_eq_some_iff.1 hk).symm).elim
    next => rfl

end TokenKind

/-! ### Classes of lexemes -/

/-- Kind and literal go with the lexeme. -/
structure Classified (kind : TokenKind) (lexeme : Text) (literal : Literal) : Prop where
  /-- The empty lexeme is that of the end token, and of no other. -/
  eof : lexeme = [] ↔ kind = .eof
  /-- After a quote comes a text without a quote, which is the literal, and another quote. -/
  string : lexeme.head? = some '"' →
    kind = .string ∧ ∃ body, '"' ∉ body ∧ lexeme = '"' :: (body ++ ['"']) ∧ literal = .string body
  /-- A lexeme that begins with a digit is read as a number, which is the literal. -/
  number : ∀ c ∈ lexeme.head?, c.isDigit = true →
    kind = .number ∧ ∃ x, numberValue? lexeme = some x ∧ literal = .number x
  /-- A lexeme that begins like a word is a keyword if it is the name of one in small letters, and
  else an identifier. -/
  word : ∀ c ∈ lexeme.head?, beginsWord c = true → literal = .none ∧
    (∀ k : TokenKind, k.isKeyword = true → (kind = k ↔ lexeme = Text.lower k.name)) ∧
    (kind = .identifier ↔ ∀ k : TokenKind, k.isKeyword = true → lexeme ≠ Text.lower k.name)
  /-- An operator is known by its spelling. -/
  operator : ∀ o : Operator, lexeme = o.text → kind = .operator o ∧ literal = .none
  /-- Strings and numbers have a literal, and no others do. -/
  valued : literal ≠ .none ↔ kind = .string ∨ kind = .number
  /-- There are no further lexemes. -/
  exhaustive : lexeme = [] ∨ ∃ c ∈ lexeme.head?, c = '"' ∨ c.isDigit = true ∨
    beginsWord c = true ∨ ∃ o : Operator, lexeme = o.text

theorem head?_ne_of_operator {o : Operator} (h : lexeme = o.text) (hc : c ∈ lexeme.head?) :
    c ≠ '"' ∧ c.isDigit = false ∧ beginsWord c = false := by
  rw [h] at hc
  exact (Operator.class_of_head? hc).2

theorem classified_eof : Classified .eof [] .none := by
  refine ⟨by simp, by simp, by simp, by simp, fun o ho => ?_, by simp, .inl rfl⟩
  obtain ⟨c, t, htext⟩ := o.exists_text_eq_cons
  rw [htext] at ho
  cases ho

theorem classified_string {body : Text} (hbody : '"' ∉ body) :
    Classified .string ('"' :: (body ++ ['"'])) (.string body) := by
  refine ⟨by simp, fun _ => ⟨rfl, body, hbody, rfl, rfl⟩, ?_, ?_, fun o ho => ?_, by simp,
    .inr ⟨'"', rfl, .inl rfl⟩⟩
  · rintro c ⟨rfl⟩ hc
    cases hc
  · rintro c ⟨rfl⟩ hc
    cases hc
  · exact ((head?_ne_of_operator ho rfl).1 rfl).elim

theorem classified_number {x : Binary64} (hc : c ∈ lexeme.head?) (hdigit : c.isDigit = true)
    (hread : numberValue? lexeme = some x) : Classified .number lexeme (.number x) := by
  have hhead : ∀ {d}, d ∈ lexeme.head? → d.isDigit = true := by
    intro d hd
    rwa [Option.mem_unique hd hc]
  refine ⟨?_, fun hquote => ?_, fun _ _ _ => ⟨rfl, x, hread, rfl⟩, fun d hd hword => ?_,
    fun o ho => ?_, by simp, .inr ⟨c, hc, .inr (.inl hdigit)⟩⟩
  · constructor
    · rintro rfl
      cases hc
    · rintro ⟨⟩
  · cases hhead hquote
  · have hdigit' := hhead hd
    rw [isDigit_of_beginsWord hword] at hdigit'
    cases hdigit'
  · rw [(head?_ne_of_operator ho hc).2.1] at hdigit
    cases hdigit

theorem classified_word (hc : c ∈ lexeme.head?) (hword : beginsWord c = true) :
    Classified (.ofWord lexeme) lexeme .none := by
  have hhead : ∀ {d}, d ∈ lexeme.head? → beginsWord d = true := by
    intro d hd
    rwa [Option.mem_unique hd hc]
  have hkind : (∃ k, TokenKind.ofWord lexeme = .keyword k) ∨
      TokenKind.ofWord lexeme = .identifier := by
    rw [TokenKind.ofWord]
    split
    · exact .inl ⟨_, rfl⟩
    · exact .inr rfl
  refine ⟨?_, fun hquote => ?_, fun d hd hdigit => ?_, fun _ _ _ => ⟨rfl, ?_, ?_⟩,
    fun o ho => ?_, ?_, .inr ⟨c, hc, .inr (.inr (.inl hword))⟩⟩
  · constructor
    · rintro rfl
      cases hc
    · intro heof
      rcases hkind with ⟨k, hk⟩ | hk <;> rw [heof] at hk <;> cases hk
  · cases hhead hquote
  · rw [isDigit_of_beginsWord (hhead hd)] at hdigit
    cases hdigit
  · intro k hk
    obtain ⟨word, rfl⟩ := TokenKind.isKeyword_iff.1 hk
    rw [TokenKind.ofWord_eq_keyword_iff, TokenKind.lower_name_keyword]
  · rw [TokenKind.ofWord_eq_identifier_iff]
    constructor
    · intro h k hk
      obtain ⟨word, rfl⟩ := TokenKind.isKeyword_iff.1 hk
      rw [TokenKind.lower_name_keyword]
      exact h word
    · intro h word
      have hne := h (.keyword word) rfl
      rwa [TokenKind.lower_name_keyword] at hne
  · rw [(head?_ne_of_operator ho hc).2.2] at hword
    cases hword
  · rcases hkind with ⟨k, hk⟩ | hk <;> simp [hk]

theorem classified_operator (o : Operator) : Classified (.operator o) o.text .none := by
  have hclass : ∀ {c}, c ∈ o.text.head? → c ≠ '"' ∧ c.isDigit = false ∧ beginsWord c = false :=
    fun hc => head?_ne_of_operator rfl hc
  refine ⟨?_, fun hquote => ((hclass hquote).1 rfl).elim, fun c hc hdigit => ?_,
    fun c hc hword => ?_, fun o' ho' => ⟨?_, rfl⟩, by simp, ?_⟩
  · obtain ⟨c, t, htext⟩ := o.exists_text_eq_cons
    simp [htext]
  · rw [(hclass hc).2.1] at hdigit
    cases hdigit
  · rw [(hclass hc).2.2] at hword
    cases hword
  · have hfound := Operator.ofText?_eq_some_iff.2 ho'.symm
    rw [Operator.ofText?_eq_some_iff.2 rfl] at hfound
    rw [Option.some.inj hfound]
  · obtain ⟨c, t, htext⟩ := o.exists_text_eq_cons
    exact .inr ⟨c, by rw [htext]; rfl, .inr (.inr (.inr ⟨o, rfl⟩))⟩

theorem classified_of_content? {s : Segment} (hs : s.WellFormed)
    (hcontent : s.content? = some (kind, lexeme, literal)) : Classified kind lexeme literal := by
  cases s with
  | blank | comment | stray | unterminated => cases hcontent
  | string body =>
      cases hcontent
      exact classified_string hs
  | operator o =>
      cases hcontent
      exact classified_operator o
  | word letters =>
      cases letters with
      | nil => exact hs.elim
      | cons c t =>
          cases hcontent
          exact classified_word rfl hs.1
  | number whole fraction =>
      have hread := numberValue?_number hs
      obtain ⟨c, ds, rfl⟩ := List.exists_cons_of_ne_nil hs.1
      have hc := hs.2.1 c List.mem_cons_self
      cases hcontent
      refine classified_number ?_ hc hread
      cases fraction <;> rfl

/-- A lexeme is classified in one way only. -/
theorem Classified.unique (h : Classified kind lexeme literal)
    (h' : Classified kind' lexeme literal') : kind = kind' ∧ literal = literal' := by
  rcases h.exhaustive with hnil | ⟨c, hc, rfl | hdigit | hword | ⟨o, ho⟩⟩
  · have heof := h.eof.1 hnil
    have heof' := h'.eof.1 hnil
    have hnone : ∀ {k : TokenKind} {v : Literal}, k = .eof →
        (v ≠ .none ↔ k = .string ∨ k = .number) → v = .none := by
      rintro k v rfl hv
      by_contra hne
      rcases hv.1 hne with h | h <;> cases h
    rw [hnone heof h.valued, hnone heof' h'.valued, heof, heof']
    exact ⟨rfl, rfl⟩
  · obtain ⟨hkind, body, -, hlexeme, rfl⟩ := h.string hc
    obtain ⟨hkind', body', -, hlexeme', rfl⟩ := h'.string hc
    rw [hlexeme] at hlexeme'
    have hbody := List.append_cancel_right (List.cons.inj hlexeme').2
    exact ⟨hkind.trans hkind'.symm, congrArg _ hbody⟩
  · obtain ⟨hkind, x, hread, rfl⟩ := h.number c hc hdigit
    obtain ⟨hkind', x', hread', rfl⟩ := h'.number c hc hdigit
    rw [hread] at hread'
    exact ⟨hkind.trans hkind'.symm, congrArg _ (Option.some.inj hread')⟩
  · obtain ⟨hliteral, hkeyword, hidentifier⟩ := h.word c hc hword
    obtain ⟨hliteral', hkeyword', hidentifier'⟩ := h'.word c hc hword
    refine ⟨?_, hliteral.trans hliteral'.symm⟩
    by_cases hname : ∃ k : TokenKind, k.isKeyword = true ∧ lexeme = Text.lower k.name
    · obtain ⟨k, hk, hlexeme⟩ := hname
      exact ((hkeyword k hk).2 hlexeme).trans ((hkeyword' k hk).2 hlexeme).symm
    · have hall : ∀ k : TokenKind, k.isKeyword = true → lexeme ≠ Text.lower k.name :=
        fun k hk hlexeme => hname ⟨k, hk, hlexeme⟩
      exact (hidentifier.2 hall).trans (hidentifier'.2 hall).symm
  · obtain ⟨hkind, hliteral⟩ := h.operator o ho
    obtain ⟨hkind', hliteral'⟩ := h'.operator o ho
    exact ⟨hkind.trans hkind'.symm, hliteral.trans hliteral'.symm⟩

theorem classified_of_mem_tokens {source : Text} {t : Token}
    (ht : t ∈ (Scanned.ofSource source).tokens) : Classified t.kind t.lexeme t.literal := by
  rcases Scanned.content_of_mem_tokens (List.mem_map_of_mem ht) with ⟨s, hs, hcontent⟩ | hend
  · exact classified_of_content? hs hcontent
  · obtain ⟨hkind, hrest⟩ := Prod.mk.inj hend
    obtain ⟨hlexeme, hliteral⟩ := Prod.mk.inj hrest
    rw [hkind, hlexeme, hliteral]
    exact classified_eof

/-- **A lexeme determines its token.**  Kind and literal of every token of a source go with its
lexeme, and tokens of one lexeme have the same kind and literal in whatever sources they stand. -/
theorem lexemes_determine_tokens (source : Text) :
    ∀ t ∈ (Scanned.ofSource source).tokens, Classified t.kind t.lexeme t.literal ∧
      ∀ (other : Text), ∀ u ∈ (Scanned.ofSource other).tokens, u.lexeme = t.lexeme →
        u.kind = t.kind ∧ u.literal = t.literal := by
  intro t ht
  refine ⟨classified_of_mem_tokens ht, fun other u hu hlexeme => ?_⟩
  have hclass := classified_of_mem_tokens hu
  rw [hlexeme] at hclass
  exact hclass.unique (classified_of_mem_tokens ht)

/-- A word that goes on after a keyword is an identifier, and so it is after a blank in another
source. -/
theorem lexemes_determine_tokens_longer_word :
    ∃ t ∈ (Scanned.ofSource "and andy".toList).tokens,
      ∃ u ∈ (Scanned.ofSource "\tandy".toList).tokens,
        t.lexeme = "andy".toList ∧ u.lexeme = t.lexeme ∧
          Classified t.kind t.lexeme t.literal ∧ t.kind = .identifier ∧ u.kind = t.kind ∧
            u.literal = t.literal := by
  have ht : (⟨.identifier, "andy".toList, .none, 1, ⟨⟨1, 5, 4⟩, ⟨1, 9, 8⟩⟩⟩ : Token) ∈
      (Scanned.ofSource "and andy".toList).tokens := by
    decide +kernel
  have hu : (⟨.identifier, "andy".toList, .none, 1, ⟨⟨1, 2, 1⟩, ⟨1, 6, 5⟩⟩⟩ : Token) ∈
      (Scanned.ofSource "\tandy".toList).tokens := by
    decide +kernel
  obtain ⟨hclass, hother⟩ := lexemes_determine_tokens _ _ ht
  obtain ⟨hkind, hliteral⟩ := hother _ _ hu rfl
  exact ⟨_, ht, _, hu, rfl, rfl, hclass, rfl, hkind, hliteral⟩

end LoxTokens
