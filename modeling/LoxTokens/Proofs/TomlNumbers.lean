import LoxTokens.Toml.Document
import Mathlib.Data.List.Basic

/-! # Reading written integers back

A natural number of 63 bits at the end of a line is read as that integer (`scalarValue?_ofNat`).
Strings, booleans, dates, times and floats are tried first; every one of them fails because what
is left of the number is still digits up to the line end (`DigitLine`), so that the mark that
each of them needs next is not there. -/

namespace LoxTokens.Toml

variable {c d : Char} {s t rest : Text} {n : Nat}

/-! ### Digits up to a line end -/

/-- Some digits, possibly none, and a line feed. -/
def DigitLine (t : Text) : Prop :=
  ∃ ds rest, (∀ c ∈ ds, c.isDigit = true) ∧ t = ds ++ '\n' :: rest

theorem digitLine_ofNat (n : Nat) (rest : Text) : DigitLine (Text.ofNat n ++ '\n' :: rest) :=
  ⟨_, _, isDigit_of_mem_ofNat n, rfl⟩

theorem DigitLine.newline (rest : Text) : DigitLine ('\n' :: rest) :=
  ⟨[], rest, by simp, rfl⟩

theorem DigitLine.cases (h : DigitLine t) :
    (∃ rest, t = '\n' :: rest) ∨ ∃ c rest, t = c :: rest ∧ c.isDigit = true ∧ DigitLine rest := by
  obtain ⟨ds, rest, hds, rfl⟩ := h
  cases ds with
  | nil => exact .inl ⟨rest, rfl⟩
  | cons c ds =>
      rw [List.forall_mem_cons] at hds
      exact .inr ⟨c, ds ++ '\n' :: rest, rfl, hds.1, ds, rest, hds.2, rfl⟩

theorem DigitLine.head?_ne (h : DigitLine t) (hc : c.isDigit = false) (hn : c ≠ '\n') :
    t.head? ≠ some c := by
  intro hhead
  obtain ⟨rest, rfl⟩ | ⟨d, rest, rfl, hd, -⟩ := h.cases
  · exact hn (Option.some.inj hhead).symm
  · rw [Option.some.inj hhead, hc] at hd
    cases hd

/-- Taking digits away leaves digits up to the line end. -/
theorem DigitLine.drop (h : DigitLine t) (n : Nat) (hlength : (t.take n).length = n)
    (hdigits : ∀ c ∈ t.take n, c.isDigit = true) : DigitLine (t.drop n) := by
  induction n generalizing t with
  | zero => exact h
  | succ n ih =>
      obtain ⟨rest, rfl⟩ | ⟨c, rest, rfl, -, hrest⟩ := h.cases
      · have : Char.isDigit '\n' = true := hdigits '\n' (by simp)
        cases this
      · refine ih hrest ?_ fun d hd => hdigits d ?_
        · simpa using hlength
        · exact List.mem_cons_of_mem c hd

/-! ### What fails on digits -/

theorem DigitLine.afterWord?_eq_none {word : Text} (h : DigitLine t) (hword : word.head? = some c)
    (hc : c.isDigit = false) (hn : c ≠ '\n') : afterWord? word t = none := by
  refine if_neg fun hprefix => ?_
  obtain ⟨u, rfl⟩ := List.isPrefixOf_iff_prefix.1 hprefix
  obtain ⟨word, rfl⟩ := List.head?_eq_some_iff.1 hword
  exact h.head?_ne hc hn rfl

theorem DigitLine.afterChar?_eq_none (h : DigitLine t) (hc : c.isDigit = false) (hn : c ≠ '\n') :
    afterChar? c t = none := by
  cases t with
  | nil => rfl
  | cons d t => exact if_neg fun hd => h.head?_ne hc hn (congrArg some hd)

/-- A number of the calendar or the clock takes digits only. -/
theorem DigitLine.of_clockPart? {low high v : Nat} (h : DigitLine t)
    (hpart : clockPart? n low high t = some (v, rest)) : DigitLine rest := by
  obtain ⟨hcond, hv⟩ := Option.ite_none_right_eq_some.1 hpart
  obtain ⟨-, rfl⟩ := Prod.mk.inj (Option.some.inj hv)
  simp only [Bool.and_eq_true, decide_eq_true_eq, List.all_eq_true] at hcond
  exact h.drop n hcond.1.1.1 hcond.1.1.2

theorem afterDate?_eq_none (h : DigitLine t) : afterDate? t = none := by
  rw [afterDate?]
  cases hyear : clockPart? 4 0 9999 t with
  | none => rfl
  | some p =>
      have hrest : DigitLine p.2 := h.of_clockPart? hyear
      have hmark : afterChar? '-' p.2 = none :=
        hrest.afterChar?_eq_none (by decide) (by decide)
      simp [hmark]

theorem afterTime?_eq_none (h : DigitLine t) : afterTime? t = none := by
  rw [afterTime?]
  cases hhour : clockPart? 2 0 23 t with
  | none => rfl
  | some p =>
      have hrest : DigitLine p.2 := h.of_clockPart? hhour
      have hmark : afterChar? ':' p.2 = none :=
        hrest.afterChar?_eq_none (by decide) (by decide)
      simp [hmark]

theorem dateTime?_eq_none (h : DigitLine t) : dateTime? t = none := by
  rw [dateTime?, afterDateTime?, afterDate?_eq_none h]
  simp only [afterTime?_eq_none h]
  rfl

theorem boolean?_eq_none (h : DigitLine t) : boolean? t = none := by
  have htrue : afterWord? "true".toList t = none :=
    h.afterWord?_eq_none (c := 't') (by decide) (by decide) (by decide)
  have hfalse : afterWord? "false".toList t = none :=
    h.afterWord?_eq_none (c := 'f') (by decide) (by decide) (by decide)
  rw [boolean?, htrue, hfalse]

theorem string?_eq_none (hq : t.head? ≠ some '"') (ha : t.head? ≠ some '\'') :
    string? t = none := by
  unfold string?
  split
  case h_5 => rfl
  case h_1 | h_2 => exact (hq rfl).elim
  case h_3 | h_4 => exact (ha rfl).elim

/-! ### Digits -/

theorem sign_eq (hplus : t.head? ≠ some '+') (hminus : t.head? ≠ some '-') :
    sign t = (false, t) := by
  unfold sign
  split
  · exact (hplus rfl).elim
  · exact (hminus rfl).elim
  · rfl

theorem digitRun_append {isDigit : Char → Bool} (hs : ∀ c ∈ s, isDigit c = true)
    (hunderscore : isDigit '_' = false) (hc : isDigit c = false) (hne : c ≠ '_') :
    digitRun isDigit (s ++ c :: rest) = (s, c :: rest) := by
  induction s with
  | nil => rw [List.nil_append, digitRun.eq_def]; simp [hc]
  | cons d s ih =>
      rw [List.forall_mem_cons] at hs
      have hnext : ∀ e r, s ++ c :: rest ≠ '_' :: e :: r := by
        intro e r h
        cases s with
        | nil => exact hne (List.cons.inj h).1
        | cons b s =>
            have hb : isDigit b = true := hs.2 b List.mem_cons_self
            rw [(List.cons.inj h).1, hunderscore] at hb
            cases hb
      rw [List.cons_append, digitRun.eq_def]
      simp only [hs.1, if_true, ih hs.2]

theorem digits?_append (hs : ∀ c ∈ s, c.isDigit = true) (hne : s ≠ []) :
    digits? Char.isDigit (s ++ '\n' :: rest) = some (s, '\n' :: rest) := by
  rw [digits?, digitRun_append hs (by decide) (by decide) (by decide)]
  split
  · rename_i h
    exact (hne (Prod.mk.inj h).1).elim
  · rename_i h
    rw [h]

theorem wholeDigits?_of_ne_zero (hs : ∀ c ∈ s, c.isDigit = true) (hne : s ≠ [])
    (hzero : s.head? ≠ some '0') :
    wholeDigits? (s ++ '\n' :: rest) = some (s, '\n' :: rest) := by
  have hdigits : digits? Char.isDigit (s ++ '\n' :: rest) = some (s, '\n' :: rest) :=
    digits?_append hs hne
  obtain ⟨c, s, rfl⟩ := List.exists_cons_of_ne_nil hne
  unfold wholeDigits?
  split
  · rename_i h
    exact (hzero (congrArg some (List.cons.inj h).1)).elim
  · exact hdigits

theorem wholeDigits?_newline (rest : Text) : wholeDigits? ('\n' :: rest) = none := by
  have hrun : digitRun Char.isDigit ('\n' :: rest) = ([], '\n' :: rest) :=
    digitRun_append (s := []) (by simp) (by decide) (by decide) (by decide)
  have hdigits : digits? Char.isDigit ('\n' :: rest) = none := by rw [digits?, hrun]
  exact hdigits

/-- The digits before a point leave digits up to the line end. -/
theorem DigitLine.wholeDigits? (h : DigitLine t) :
    wholeDigits? t = none ∨ ∃ ds rest, wholeDigits? t = some (ds, rest) ∧ DigitLine rest := by
  obtain ⟨ds, rest, hds, rfl⟩ := h
  by_cases hzero : ds.head? = some '0'
  · obtain ⟨ds, rfl⟩ := List.head?_eq_some_iff.1 hzero
    exact .inr ⟨['0'], _, rfl, ds, rest, (List.forall_mem_cons.1 hds).2, rfl⟩
  · by_cases hne : ds = []
    · subst hne
      exact .inl (wholeDigits?_newline rest)
    · exact .inr ⟨ds, _, wholeDigits?_of_ne_zero hds hne hzero, .newline rest⟩

theorem float?_eq_none (h : DigitLine t) : float? t = none := by
  have hsign : sign t = (false, t) :=
    sign_eq (h.head?_ne (by decide) (by decide)) (h.head?_ne (by decide) (by decide))
  have hdecimal : decimalFloat? t = none := by
    rw [decimalFloat?, hsign]
    obtain hwhole | ⟨ds, rest, hwhole, hrest⟩ := h.wholeDigits?
    · simp [hwhole]
    · have hfraction : fraction? rest = some ([], rest) := by
        unfold fraction?
        split
        · exact (hrest.head?_ne (c := '.') (by decide) (by decide) rfl).elim
        · rfl
      have hexponent : exponent? rest = some (none, rest) := by
        obtain ⟨u, rfl⟩ | ⟨c, u, rfl, hc, -⟩ := hrest.cases
        · rfl
        · have hmark : ¬(c = 'e' ∨ c = 'E') := by
            rintro (rfl | rfl)
            · cases hc
            · cases hc
          simp [exponent?, hmark]
      simp [hwhole, hfraction, hexponent]
  have hspecial : specialFloat? t = none := by
    have hinf : afterWord? "inf".toList t = none :=
      h.afterWord?_eq_none (c := 'i') (by decide) (by decide) (by decide)
    have hnan : afterWord? "nan".toList t = none :=
      h.afterWord?_eq_none (c := 'n') (by decide) (by decide) (by decide)
    rw [specialFloat?, hsign]
    simp only [hinf, hnan]
  rw [float?, hdecimal, hspecial]
  rfl

/-! ### Integers -/

theorem wholeDigits?_ofNat (n : Nat) (rest : Text) :
    wholeDigits? (Text.ofNat n ++ '\n' :: rest) = some (Text.ofNat n, '\n' :: rest) := by
  obtain rfl | hn := Nat.eq_zero_or_pos n
  · have hzero : Text.ofNat 0 = ['0'] := by rw [Text.ofNat]; rfl
    rw [hzero]
    rfl
  · exact wholeDigits?_of_ne_zero (isDigit_of_mem_ofNat n) (ofNat_ne_nil n) (head?_ofNat hn)

theorem int64?_of_lt (h : n < twoTo 63) : int64? false n = some (.integer n) := by
  have hbounds : -(twoTo 63 : Int) ≤ n ∧ (n : Int) < twoTo 63 := by omega
  simp [int64?, hbounds]

theorem integer?_ofNat (h : n < twoTo 63) (rest : Text) :
    integer? (Text.ofNat n ++ '\n' :: rest) = some (.integer n, '\n' :: rest) := by
  have hline := digitLine_ofNat n rest
  have hsign : sign (Text.ofNat n ++ '\n' :: rest) = (false, Text.ofNat n ++ '\n' :: rest) :=
    sign_eq (hline.head?_ne (by decide) (by decide)) (hline.head?_ne (by decide) (by decide))
  have hsecond : ∀ c t, c.isDigit = false → c ≠ '\n' →
      Text.ofNat n ++ '\n' :: rest ≠ '0' :: c :: t := by
    intro c t hc hn heq
    rw [heq] at hline
    obtain ⟨_, h⟩ | ⟨d, u, h, -, hu⟩ := hline.cases
    · cases h
    · obtain rfl := (List.cons.inj h).2
      exact hu.head?_ne hc hn rfl
  unfold integer?
  split
  · rename_i t heq
    exact (hsecond 'x' t (by decide) (by decide) heq).elim
  · rename_i t heq
    exact (hsecond 'o' t (by decide) (by decide) heq).elim
  · rename_i t heq
    exact (hsecond 'b' t (by decide) (by decide) heq).elim
  · rw [hsign]
    refine Option.bind_eq_some_iff.2 ⟨_, wholeDigits?_ofNat n rest, ?_⟩
    refine Option.bind_eq_some_iff.2 ⟨.integer n, ?_, rfl⟩
    rw [digitsValue_ofNat]
    exact int64?_of_lt h

/-- **A written natural number of 63 bits is read as that integer.** -/
theorem scalarValue?_ofNat (h : n < twoTo 63) (rest : Text) :
    scalarValue? (Text.ofNat n ++ '\n' :: rest) = some (.integer n, '\n' :: rest) := by
  have hline := digitLine_ofNat n rest
  have hstring := string?_eq_none (hline.head?_ne (c := '"') (by decide) (by decide))
    (hline.head?_ne (c := '\'') (by decide) (by decide))
  rw [scalarValue?, hstring]
  simp only [boolean?_eq_none hline, dateTime?_eq_none hline, float?_eq_none hline,
    integer?_ofNat h, Option.none_or]

end LoxTokens.Toml
