import LoxTokens.Proofs.Tokens

/-! # Pulling tokens

One pull goes over the segments ahead: it reports the errors among them and stops at the first
token, or at the end of the source.  Draining a lexer therefore gives the tokens of all segments
ahead and the end token, and leaves it `spent` (`drain_eq`).  A whole scan gives the tokens of
`Scanned.ofSource` and reports its errors in order (`scan_eq`). -/

namespace LoxTokens

open Segment

namespace Lexer

variable {ρ : Type} [Reporter ρ] {l l' : Lexer ρ} {s : Segment} {rest : Text}

/-! ### One pull -/

theorem next_of_cut (h : cut l.rest = some (s, rest)) :
    l.next =
      match s.event? (l.begin s.text rest).span with
      | some (.token t) => (some t, l.begin s.text rest)
      | some (.error e) => ((l.begin s.text rest).report e).next
      | none => (l.begin s.text rest).next := by
  rw [next]
  split
  · rename_i hnone
    rw [hnone] at h
    cases h
  · rename_i s₀ rest₀ hsome
    rw [hsome] at h
    obtain ⟨rfl, rfl⟩ := Prod.mk.inj (Option.some.inj h)
    rfl

/-- A pull stops at the first segment ahead if that gives a token, and else goes on after it. -/
theorem next_cases (h : cut l.rest = some (s, rest)) :
    (∃ t, l.next = (some t, l.begin s.text rest) ∧
        s.token? (l.begin s.text rest).span = some t ∧
        s.error? (l.begin s.text rest).line = none) ∨
      (∃ e, l.next = ((l.begin s.text rest).report e).next ∧
        s.token? (l.begin s.text rest).span = none ∧
        s.error? (l.begin s.text rest).line = some e) ∨
      (l.next = (l.begin s.text rest).next ∧ s.token? (l.begin s.text rest).span = none ∧
        s.error? (l.begin s.text rest).line = none) := by
  have hnext := next_of_cut h
  rcases s.event?_cases (l.begin s.text rest).span with
    ⟨t, hev, ht, he⟩ | ⟨e, hev, ht, he⟩ | ⟨hev, ht, he⟩
  · rw [hev] at hnext
    exact .inl ⟨t, hnext, ht, he⟩
  · rw [hev] at hnext
    exact .inr (.inl ⟨e, hnext, ht, he⟩)
  · rw [hev] at hnext
    exact .inr (.inr ⟨hnext, ht, he⟩)

theorem next_of_rest_eq_nil (h : l.rest = []) :
    l.next =
      if l.ended then (none, l.begin [] [])
      else (some (.eof l.here), { l.begin [] [] with ended := true }) := by
  rw [next]
  split
  · rfl
  · rename_i hsome
    rw [h] at hsome
    cases hsome

/-! ### Several pulls -/

theorem take_succ_of_some {t : Token} (h : l.next = (some t, l')) (n : Nat) :
    take (n + 1) l = (t :: (take n l').1, (take n l').2) := by
  rw [take, h]

theorem take_succ_of_none (h : l.next = (none, l')) (n : Nat) : take (n + 1) l = ([], l') := by
  rw [take, h]

theorem take_succ_congr (h : l.next = l'.next) (n : Nat) : take (n + 1) l = take (n + 1) l' := by
  rw [take, take, h]

/-- The lexer after all that is ahead, its errors reported and its end token given. -/
def spent (l : Lexer ρ) : Lexer ρ where
  lexeme := []
  rest := []
  start := l.here.after l.rest
  here := l.here.after l.rest
  reporter := reportAll l.reporter (errorsFrom l.here (ofText l.rest))
  errorCount := l.errorCount + (errorsFrom l.here (ofText l.rest)).length
  ended := true

theorem after_of_cut {t : Text} (h : cut t = some (s, rest)) (p : Position) :
    p.after t = (p.after s.text).after rest := by
  rw [← text_append_of_cut h, Position.after_append]

theorem spent_of_error {e : LexError} (h : cut l.rest = some (s, rest))
    (he : s.error? (l.begin s.text rest).line = some e) :
    l.spent = ((l.begin s.text rest).report e).spent := by
  have herrors : errorsFrom l.here (ofText l.rest) =
      e :: errorsFrom (l.here.after s.text) (ofText rest) := by
    rw [ofText_of_cut h, errorsFrom_cons]
    exact congrArg (·.toList ++ _) he
  simp only [spent, herrors, after_of_cut h, begin, report, reportAll, List.foldl_cons,
    List.length_cons]
  simp only [Nat.add_assoc, Nat.add_comm]

theorem spent_of_not_error (h : cut l.rest = some (s, rest))
    (he : s.error? (l.begin s.text rest).line = none) :
    l.spent = (l.begin s.text rest).spent := by
  have herrors : errorsFrom l.here (ofText l.rest) =
      errorsFrom (l.here.after s.text) (ofText rest) := by
    rw [ofText_of_cut h, errorsFrom_cons]
    exact congrArg (·.toList ++ _) he
  simp only [spent, herrors, after_of_cut h, begin]

theorem take_spent (l : Lexer ρ) (n : Nat) : take n l.spent = ([], l.spent) := by
  cases n with
  | zero => rfl
  | succ n =>
      have hnext : l.spent.next = (none, l.spent) := next_of_rest_eq_nil rfl
      exact take_succ_of_none hnext n

/-- As many pulls as there are characters, and one for the end token, give all that is ahead. -/
theorem take_eq (n : Nat) (l : Lexer ρ) (hn : l.rest.length ≤ n) (hended : l.ended = false) :
    take (n + 1) l =
      (tokensFrom l.here (ofText l.rest) ++ [.eof (l.here.after l.rest)], l.spent) := by
  generalize ht : l.rest = t at hn
  induction t using ofText.induct generalizing l n with
  | case1 t h =>
      obtain rfl : t = [] := by cases t <;> simp_all [cut]
      have hspent : { l.begin [] [] with ended := true } = l.spent := by
        simp [spent, begin, ht, ofText_nil, reportAll]
      have hnext : l.next = (some (.eof l.here), l.spent) := by
        rw [next_of_rest_eq_nil ht, hended, ← hspent]
        rfl
      rw [take_succ_of_some hnext, take_spent, ofText_nil]
      rfl
  | case2 t s rest h hlt ih =>
      subst ht
      rw [ofText_of_cut h, tokensFrom_cons, after_of_cut h]
      rcases next_cases h with ⟨t, hnext, ht, he⟩ | ⟨e, hnext, ht, he⟩ | ⟨hnext, ht, he⟩
      · rw [take_succ_of_some hnext, spent_of_not_error h he]
        obtain ⟨m, rfl⟩ : ∃ m, n = m + 1 := ⟨n - 1, by omega⟩
        rw [ih m (l.begin s.text rest) hended rfl (by omega)]
        replace ht : s.token? ⟨l.here, l.here.after s.text⟩ = some t := ht
        rw [ht]
        rfl
      · rw [take_succ_congr hnext, spent_of_error h he]
        rw [ih n ((l.begin s.text rest).report e) hended rfl (by omega)]
        replace ht : s.token? ⟨l.here, l.here.after s.text⟩ = none := ht
        rw [ht]
        rfl
      · rw [take_succ_congr hnext, spent_of_not_error h he]
        rw [ih n (l.begin s.text rest) hended rfl (by omega)]
        replace ht : s.token? ⟨l.here, l.here.after s.text⟩ = none := ht
        rw [ht]
        rfl

theorem drain_eq (hended : l.ended = false) :
    l.drain = (tokensFrom l.here (ofText l.rest) ++ [.eof (l.here.after l.rest)], l.spent) :=
  take_eq (l.rest.length + 1) l (Nat.le_succ _) hended

end Lexer

/-- A scan gives the tokens of its source and reports the errors of its source, in order. -/
theorem scan_eq {ρ : Type} [Reporter ρ] (source : Text) (reporter : ρ) :
    scan source reporter =
      ((Scanned.ofSource source).tokens, reportAll reporter (Scanned.ofSource source).errors) := by
  have h := Lexer.drain_eq (l := Lexer.new source reporter) rfl
  rw [scan, h, Scanned.ofSource_tokens, Scanned.ofSource_errors]
  rfl

/-- What an error log holds after it was told of some errors. -/
theorem reportAll_errorLog (log : ErrorLog) (errors : List LexError) :
    reportAll log errors = ⟨log.errors ++ errors⟩ := by
  induction errors generalizing log with
  | nil => simp [reportAll]
  | cons e errors ih =>
      rw [reportAll, List.foldl_cons]
      refine (ih _).trans ?_
      simp [Reporter.report]

end LoxTokens
