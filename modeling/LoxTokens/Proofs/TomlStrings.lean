import LoxTokens.Toml.Quoting
import LoxTokens.Toml.Strings
import Mathlib.Data.List.Basic

/-! # Reading quoted strings back

Every form of `quote` is read back as the string it was written for, whatever stands after it but a
further mark (`string?_quote`).  In escapes each character is read by itself (`escaped_cases`).  The
marks inside a tripled form are the hard part: they count as closing ones only when three stand
together, so the induction carries the marks that were met last, at most two of them
(`longBasicBody_escapes`, `longLiteralBody_append`). -/

namespace LoxTokens.Toml

variable {c d : Char} {s t u rest : Text} {run : Nat} {long : Bool}

/-! ### Characters -/

theorem isPlain_of_not_isControl (h : isControl c = false) (hc : c ≠ '\n') : isPlain c = true := by
  simp only [isControl, Bool.or_eq_false_iff, Bool.and_eq_false_iff, decide_eq_false_iff_not,
    bne_eq_false_iff_eq] at h
  simp only [isPlain, Bool.or_eq_true, Bool.and_eq_true, decide_eq_true_eq, beq_iff_eq,
    bne_iff_ne]
  obtain ⟨(h | h) | h, hdelete⟩ := h
  · exact .inr ⟨Nat.not_lt.1 h, hdelete⟩
  · exact .inl h
  · exact (hc h).elim

theorem ne_newline_of_isPlain (h : isPlain c = true) : c ≠ '\n' ∧ c ≠ '\r' := by
  refine ⟨?_, ?_⟩
  · rintro rfl
    cases h
  · rintro rfl
    cases h

theorem scalar?_hexCapital : ∀ n, n < 128 →
    scalar? ['0', '0', hexCapital (n / 16), hexCapital (n % 16)] = some (Char.ofNat n) := by
  decide +kernel

theorem toNat_lt_of_isControl (h : isControl c = true) : c.toNat < 128 := by
  simp only [isControl, Bool.or_eq_true, Bool.and_eq_true, decide_eq_true_eq] at h
  omega

/-- How a character is written: as it is if it may stand in a string, a line feed as it is in a long
string, and everything else as an escape that is read as the character. -/
theorem escaped_cases (long : Bool) (c : Char) :
    (escaped long c = [c] ∧ (isPlain c = true ∧ c ≠ '\\' ∨ long = true ∧ c = '\n')) ∨
      ∃ d e, escaped long c = '\\' :: d :: e ∧ isSpace d = false ∧ d ≠ '\n' ∧ d ≠ '\r' ∧
        ∀ t, escape? (d :: e ++ t) = some (c, t) := by
  have hchar : ∀ n, c.toNat = n → c = Char.ofNat n := fun n h => by rw [← h, Char.ofNat_toNat]
  unfold escaped
  split
  · rename_i h
    obtain rfl := hchar _ h
    exact .inr ⟨'b', [], rfl, by decide, by decide, by decide, fun t => rfl⟩
  split
  · rename_i h
    subst h
    exact .inr ⟨'t', [], rfl, by decide, by decide, by decide, fun t => rfl⟩
  split
  · rename_i h
    subst h
    cases long with
    | true => exact .inl ⟨rfl, .inr ⟨rfl, rfl⟩⟩
    | false => exact .inr ⟨'n', [], rfl, by decide, by decide, by decide, fun t => rfl⟩
  split
  · rename_i h
    obtain rfl := hchar _ h
    exact .inr ⟨'f', [], rfl, by decide, by decide, by decide, fun t => rfl⟩
  split
  · rename_i h
    subst h
    exact .inr ⟨'r', [], rfl, by decide, by decide, by decide, fun t => rfl⟩
  split
  · rename_i h
    subst h
    exact .inr ⟨'\\', [], rfl, by decide, by decide, by decide, fun t => rfl⟩
  split
  · rename_i h
    refine .inr ⟨'u', _, rfl, by decide, by decide, by decide, fun t => ?_⟩
    have hscalar := scalar?_hexCapital c.toNat (toNat_lt_of_isControl h)
    rw [Char.ofNat_toNat] at hscalar
    show (scalar? ['0', '0', _, _]).map (·, t) = _
    rw [hscalar]
    rfl
  · rename_i hnewline _ _ hslash hcontrol
    have hplain := isPlain_of_not_isControl (Bool.eq_false_iff.2 hcontrol) hnewline
    exact .inl ⟨rfl, .inl ⟨hplain, hslash⟩⟩

theorem escapes_cons_of_ne (h : c ≠ '"') (t : Text) :
    escapes long run (c :: t) = escaped long c ++ escapes long 0 t := by
  rw [escapes, if_neg h]

/-- Whatever a character is written as, only a quotation mark begins with one. -/
theorem head?_escaped (h : c ≠ '"') (t : Text) : (escaped long c ++ t).head? ≠ some '"' := by
  rcases escaped_cases long c with ⟨hc, -⟩ | ⟨d, e, hc, -⟩
  · rw [hc]
    exact fun e => h (Option.some.inj e)
  · rw [hc]
    exact fun e => absurd (Option.some.inj e) (by decide)

/-! ### Strings on one line -/

theorem basicBody_of_isPlain (h : isPlain c = true) (hq : c ≠ '"') (hb : c ≠ '\\') (t : Text) :
    basicBody (c :: t) = (basicBody t).map fun (s, rest) => (c :: s, rest) := by
  rw [basicBody]
  · rw [if_pos h]
  · exact hq
  · exact hb

theorem basicBody_of_escape? (h : escape? t = some (c, rest)) :
    basicBody ('\\' :: t) = (basicBody rest).map fun (s, rest) => (c :: s, rest) := by
  rw [basicBody]
  split
  · rename_i hnone
    rw [h] at hnone
    cases hnone
  · rename_i c' rest' hsome
    rw [h] at hsome
    obtain ⟨rfl, rfl⟩ := Prod.mk.inj (Option.some.inj hsome)
    rfl

theorem basicBody_escaped (hc : c ≠ '"') (t : Text) :
    basicBody (escaped false c ++ t) = (basicBody t).map fun (s, rest) => (c :: s, rest) := by
  rcases escaped_cases false c with ⟨he, hplain⟩ | ⟨d, e, he, -, -, -, hescape⟩
  · obtain ⟨hplain, hb⟩ := hplain.resolve_right (fun h => nomatch h.1)
    rw [he]
    exact basicBody_of_isPlain hplain hc hb t
  · rw [he]
    exact basicBody_of_escape? (hescape t)

theorem basicBody_escapes (s rest : Text) :
    basicBody (escapes false run s ++ '"' :: rest) = some (s, rest) := by
  induction s generalizing run with
  | nil => rw [escapes, List.nil_append, basicBody]
  | cons c s ih =>
      by_cases hc : c = '"'
      · subst hc
        have hescape : escape? ('"' :: (escapes false 0 s ++ '"' :: rest)) =
            some ('"', escapes false 0 s ++ '"' :: rest) := rfl
        rw [escapes, if_pos rfl]
        show basicBody ('\\' :: '"' :: (escapes false 0 s ++ '"' :: rest)) = _
        rw [basicBody_of_escape? hescape, ih]
        rfl
      · rw [escapes_cons_of_ne hc, List.append_assoc, basicBody_escaped hc, ih]
        rfl

theorem literalBody_append (h : ∀ c ∈ s, isPlain c = true) (hq : '\'' ∉ s) (rest : Text) :
    literalBody (s ++ '\'' :: rest) = some (s, rest) := by
  induction s with
  | nil => rfl
  | cons c s ih =>
      rw [List.forall_mem_cons] at h
      rw [List.mem_cons, not_or] at hq
      rw [List.cons_append, literalBody, if_pos h.1, ih h.2 hq.2]
      · rfl
      · exact fun e => hq.1 e.symm

/-! ### Tripled marks -/

/-- Up to two marks after the closing ones still belong to the string. -/
theorem closing_replicate (mark : Char) (hrun : run ≤ 2) (h : rest.head? ≠ some mark) :
    closing mark (List.replicate run mark ++ rest) = (List.replicate run mark, rest) := by
  have hne : ∀ c r, rest = c :: r → c ≠ mark := by
    rintro c r rfl rfl
    exact h rfl
  obtain rfl | rfl | rfl : run = 0 ∨ run = 1 ∨ run = 2 := by omega
  · rcases rest with _ | ⟨c, _ | ⟨d, r⟩⟩
    · rfl
    · simp [closing, hne c [] rfl]
    · simp [closing, hne c (d :: r) rfl]
  · rcases rest with _ | ⟨c, r⟩
    · simp [closing]
    · simp [closing, hne c r rfl]
  · simp [closing]

/-- The marks that were met last go together with the closing ones, and those come first. -/
theorem replicate_append_triple (mark : Char) (run : Nat) (rest : Text) :
    List.replicate run mark ++ mark :: mark :: mark :: rest =
      mark :: mark :: mark :: (List.replicate run mark ++ rest) := by
  induction run with
  | zero => rfl
  | succ run ih => rw [List.replicate_succ, List.cons_append, ih]; rfl

theorem append_cons_mark (mark : Char) (run : Nat) (t : Text) :
    List.replicate run mark ++ mark :: t = List.replicate (run + 1) mark ++ t := by
  rw [List.replicate_succ', List.append_assoc, List.singleton_append]

/-- Up to two marks that no third one follows are read as they are. -/
theorem body_replicate {mark : Char} {body : Text → Option (Text × Text)}
    (hbody : ∀ t, (∀ r, t ≠ mark :: mark :: r) →
      body (mark :: t) = (body t).map fun (s, rest) => (mark :: s, rest))
    (hrun : run ≤ 2) (h : u.head? ≠ some mark) :
    body (List.replicate run mark ++ u) =
      (body u).map fun (s, rest) => (List.replicate run mark ++ s, rest) := by
  have hone : body (mark :: u) = (body u).map fun (s, rest) => (mark :: s, rest) := by
    refine hbody u ?_
    rintro r rfl
    exact h rfl
  have htwo : body (mark :: mark :: u) =
      (body (mark :: u)).map fun (s, rest) => (mark :: s, rest) := by
    refine hbody (mark :: u) ?_
    intro r e
    rw [(List.cons.inj e).2] at h
    exact h rfl
  obtain rfl | rfl | rfl : run = 0 ∨ run = 1 ∨ run = 2 := by omega
  · simp
  · exact hone
  · show body (mark :: mark :: u) = _
    rw [htwo, hone, Option.map_map]
    rfl

/-! ### Tripled quotation marks -/

theorem longBasicBody_triple (t : Text) :
    longBasicBody ('"' :: '"' :: '"' :: t) = some (closing '"' t) := by
  rw [longBasicBody]

theorem longBasicBody_newline (t : Text) :
    longBasicBody ('\n' :: t) = (longBasicBody t).map fun (s, rest) => ('\n' :: s, rest) := by
  rw [longBasicBody]

theorem longBasicBody_of_isPlain (h : isPlain c = true) (hb : c ≠ '\\')
    (hq : ∀ r, c :: t ≠ '"' :: '"' :: '"' :: r) :
    longBasicBody (c :: t) = (longBasicBody t).map fun (s, rest) => (c :: s, rest) := by
  obtain ⟨hnewline, hreturn⟩ := ne_newline_of_isPlain h
  rw [longBasicBody]
  · rw [if_pos h]
  · rintro r rfl rfl
    exact hq r rfl
  · exact hnewline
  · exact fun _ hc _ => hreturn hc
  · exact hb

theorem longBasicBody_of_escape? (hnone : continued? t = none) (h : escape? t = some (c, rest)) :
    longBasicBody ('\\' :: t) = (longBasicBody rest).map fun (s, rest) => (c :: s, rest) := by
  rw [longBasicBody]
  split
  · rename_i hsome
    rw [hnone] at hsome
    cases hsome
  split
  · rename_i hnone
    rw [h] at hnone
    cases hnone
  · rename_i c' rest' hsome
    rw [h] at hsome
    obtain ⟨rfl, rfl⟩ := Prod.mk.inj (Option.some.inj hsome)
    rfl

theorem continued?_eq_none (hs : isSpace d = false) (hn : d ≠ '\n') (hr : d ≠ '\r') (t : Text) :
    continued? (d :: t) = none := by
  rw [continued?, List.dropWhile_cons_of_neg (by simp [hs]), Option.map_eq_none_iff]
  simp [afterNewline?, hn, hr]

theorem longBasicBody_replicate (hrun : run ≤ 2) (h : u.head? ≠ some '"') :
    longBasicBody (List.replicate run '"' ++ u) =
      (longBasicBody u).map fun (s, rest) => (List.replicate run '"' ++ s, rest) := by
  refine body_replicate ?_ hrun h
  intro t ht
  exact longBasicBody_of_isPlain rfl (by decide) fun r e => ht r (List.cons.inj e).2

theorem longBasicBody_escaped (hc : c ≠ '"') (t : Text) :
    longBasicBody (escaped true c ++ t) =
      (longBasicBody t).map fun (s, rest) => (c :: s, rest) := by
  rcases escaped_cases true c with ⟨he, ⟨hplain, hb⟩ | ⟨-, hnewline⟩⟩ |
    ⟨d, e, he, hspace, hn, hr, hescape⟩
  · rw [he]
    exact longBasicBody_of_isPlain hplain hb fun r e => hc (List.cons.inj e).1
  · subst hnewline
    rw [he]
    exact longBasicBody_newline t
  · have hnone : continued? (d :: e ++ t) = none := continued?_eq_none hspace hn hr (e ++ t)
    rw [he]
    exact longBasicBody_of_escape? hnone (hescape t)

/-- The escapes of a long string are read back; `run` marks stand before them. -/
theorem longBasicBody_escapes (hrun : run ≤ 2) (h : rest.head? ≠ some '"') (s : Text) :
    longBasicBody (List.replicate run '"' ++
        (escapes true run s ++ '"' :: '"' :: '"' :: rest)) =
      some (List.replicate run '"' ++ s, rest) := by
  induction s generalizing run with
  | nil =>
      rw [escapes, List.nil_append, replicate_append_triple, longBasicBody_triple,
        closing_replicate '"' hrun h, List.append_nil]
  | cons c s ih =>
      have hs : longBasicBody (escapes true 0 s ++ '"' :: '"' :: '"' :: rest) = some (s, rest) :=
        ih (Nat.zero_le 2)
      by_cases hc : c = '"'
      · subst hc
        rw [escapes, if_pos rfl]
        by_cases htwo : run < 2
        · have hlong : (true && decide (run < 2)) = true := by simpa using htwo
          rw [if_pos hlong, List.cons_append, append_cons_mark, append_cons_mark]
          exact ih (by omega)
        · -- after two marks the third has a backslash, and the count begins again
          have hlong : (true && decide (run < 2)) ≠ true := by simpa using htwo
          have hescape : ∀ t, escape? ('"' :: t) = some ('"', t) := fun t => rfl
          have hnone : ∀ t, continued? ('"' :: t) = none :=
            continued?_eq_none rfl (by decide) (by decide)
          rw [if_neg hlong, List.cons_append, longBasicBody_replicate hrun (by simp),
            List.cons_append, longBasicBody_of_escape? (hnone _) (hescape _), hs]
          rfl
      · rw [escapes_cons_of_ne hc, List.append_assoc,
          longBasicBody_replicate hrun (head?_escaped hc _), longBasicBody_escaped hc, hs]
        rfl

/-! ### Tripled apostrophes -/

theorem longLiteralBody_triple (t : Text) :
    longLiteralBody ('\'' :: '\'' :: '\'' :: t) = some (closing '\'' t) := by
  rw [longLiteralBody]

theorem longLiteralBody_cons (h : isPlain c = true ∨ c = '\n')
    (hq : ∀ r, c :: t ≠ '\'' :: '\'' :: '\'' :: r) :
    longLiteralBody (c :: t) = (longLiteralBody t).map fun (s, rest) => (c :: s, rest) := by
  rcases h with h | rfl
  · obtain ⟨hnewline, hreturn⟩ := ne_newline_of_isPlain h
    rw [longLiteralBody]
    · rw [if_pos h]
    · rintro r rfl rfl
      exact hq r rfl
    · exact hnewline
    · exact fun _ hc _ => hreturn hc
  · rw [longLiteralBody]

theorem longLiteralBody_replicate (hrun : run ≤ 2) (h : u.head? ≠ some '\'') :
    longLiteralBody (List.replicate run '\'' ++ u) =
      (longLiteralBody u).map fun (s, rest) => (List.replicate run '\'' ++ s, rest) := by
  refine body_replicate ?_ hrun h
  intro t ht
  exact longLiteralBody_cons (.inl rfl) fun r e => ht r (List.cons.inj e).2

theorem le_snd_foldl_runStep (c : Char) (run best : Nat) (t : Text) :
    best ≤ (t.foldl (runStep c) (run, best)).2 := by
  induction t generalizing run best with
  | nil => exact Nat.le_refl best
  | cons d t ih =>
      rw [List.foldl_cons, runStep]
      split
      · exact Nat.le_trans (Nat.le_max_left _ _) (ih _ _)
      · exact ih 0 best

/-- A text without long runs of the mark stands as it is between tripled ones; `run` marks stand
before it. -/
theorem longLiteralBody_append {best : Nat} (hs : ∀ c ∈ s, isPlain c = true ∨ c = '\n')
    (hruns : (s.foldl (runStep '\'') (run, best)).2 < 3) (hrun : run ≤ 2)
    (h : rest.head? ≠ some '\'') :
    longLiteralBody (List.replicate run '\'' ++ (s ++ '\'' :: '\'' :: '\'' :: rest)) =
      some (List.replicate run '\'' ++ s, rest) := by
  induction s generalizing run best with
  | nil =>
      rw [List.nil_append, replicate_append_triple, longLiteralBody_triple,
        closing_replicate '\'' hrun h, List.append_nil]
  | cons c s ih =>
      rw [List.forall_mem_cons] at hs
      rw [List.foldl_cons, runStep] at hruns
      by_cases hc : c = '\''
      · subst hc
        rw [if_pos rfl] at hruns
        have hbest := le_snd_foldl_runStep '\'' (run + 1) (max best (run + 1)) s
        rw [List.cons_append, append_cons_mark, append_cons_mark]
        exact ih hs.2 hruns (by omega)
      · rw [if_neg hc] at hruns
        have hrest := ih hs.2 hruns (Nat.zero_le 2)
        have hhead : (c :: (s ++ '\'' :: '\'' :: '\'' :: rest)).head? ≠ some '\'' :=
          fun e => hc (Option.some.inj e)
        rw [List.replicate_zero, List.nil_append, List.nil_append] at hrest
        rw [List.cons_append, longLiteralBody_replicate hrun hhead,
          longLiteralBody_cons hs.1 (fun r e => hc (List.cons.inj e).1), hrest]
        rfl

/-! ### All forms -/

theorem string?_quotationMark (h : ∀ r, t ≠ '"' :: '"' :: r) :
    string? ('"' :: t) = basicBody t := by
  rw [string?]
  exact h

theorem string?_apostrophe (h : ∀ r, t ≠ '\'' :: '\'' :: r) :
    string? ('\'' :: t) = literalBody t := by
  rw [string?]
  exact h

theorem string?_basic (h : rest.head? ≠ some '"') (s : Text) :
    string? ('"' :: escapes false 0 s ++ ['"'] ++ rest) = some (s, rest) := by
  have htext : '"' :: escapes false 0 s ++ ['"'] ++ rest =
      '"' :: (escapes false 0 s ++ '"' :: rest) := by simp
  have hhead : ∀ r, escapes false 0 s ++ '"' :: rest ≠ '"' :: '"' :: r := by
    intro r e
    cases s with
    | nil => exact h (by rw [(List.cons.inj e).2]; rfl)
    | cons c s =>
        by_cases hc : c = '"'
        · subst hc
          cases (List.cons.inj e).1
        · rw [escapes_cons_of_ne hc, List.append_assoc] at e
          exact head?_escaped hc _ (congrArg List.head? e)
  rw [htext, string?_quotationMark hhead, basicBody_escapes]

theorem string?_literal (hs : ∀ c ∈ s, isPlain c = true) (hq : '\'' ∉ s)
    (h : rest.head? ≠ some '\'') :
    string? ('\'' :: s ++ ['\''] ++ rest) = some (s, rest) := by
  have htext : '\'' :: s ++ ['\''] ++ rest = '\'' :: (s ++ '\'' :: rest) := by simp
  have hhead : ∀ r, s ++ '\'' :: rest ≠ '\'' :: '\'' :: r := by
    intro r e
    cases s with
    | nil => exact h (by rw [(List.cons.inj e).2]; rfl)
    | cons c s => exact hq (by rw [(List.cons.inj e).1]; exact List.mem_cons_self)
  rw [htext, string?_apostrophe hhead, literalBody_append hs hq]

theorem dropNewline_tripled (body : Text) (hbody : '\n' ∉ s → body.head? ≠ some '\n')
    (hreturn : body.head? ≠ some '\r') :
    dropNewline ((if s.contains '\n' then ['\n'] else []) ++ body) = body := by
  by_cases hs : '\n' ∈ s
  · rw [if_pos (List.contains_iff_mem.2 hs)]
    rfl
  · rw [if_neg (by simpa using hs), List.nil_append, dropNewline]
    have hnone : afterNewline? body = none := by
      cases body with
      | nil => rfl
      | cons c r =>
          have hc : c ≠ '\n' := fun e => hbody hs (by rw [e]; rfl)
          have hc' : c ≠ '\r' := fun e => hreturn (by rw [e]; rfl)
          simp [afterNewline?, hc, hc']
    rw [hnone]
    rfl

theorem string?_longBasic (h : rest.head? ≠ some '"') (s : Text) :
    string? (tripled '"' s (escapes true 0 s) ++ rest) = some (s, rest) := by
  have htext : tripled '"' s (escapes true 0 s) ++ rest =
      '"' :: '"' :: '"' :: ((if s.contains '\n' then ['\n'] else []) ++
        (escapes true 0 s ++ '"' :: '"' :: '"' :: rest)) := by simp [tripled]
  have hhead : ∀ c, (escapes true 0 s ++ '"' :: '"' :: '"' :: rest).head? = some c →
      c ≠ '\r' ∧ (c = '\n' → '\n' ∈ s) := by
    intro c e
    cases s with
    | nil =>
        obtain rfl := Option.some.inj e
        decide
    | cons d s =>
        by_cases hd : d = '"'
        · subst hd
          obtain rfl := Option.some.inj e
          simp
        · rw [escapes_cons_of_ne hd] at e
          rcases escaped_cases true d with ⟨he, hplain⟩ | ⟨d', e', he, -⟩
          · rw [he] at e
            obtain rfl := Option.some.inj e
            refine ⟨?_, fun hd => by rw [hd]; exact List.mem_cons_self⟩
            rcases hplain with ⟨hplain, -⟩ | ⟨-, hnewline⟩
            · exact (ne_newline_of_isPlain hplain).2
            · rw [hnewline]
              decide
          · rw [he] at e
            obtain rfl := Option.some.inj e
            simp
  have hdrop := dropNewline_tripled (s := s) (escapes true 0 s ++ '"' :: '"' :: '"' :: rest)
    (fun hs e => hs ((hhead _ e).2 rfl)) (fun e => (hhead _ e).1 rfl)
  rw [htext, string?, hdrop]
  exact longBasicBody_escapes (Nat.zero_le 2) h s

theorem string?_longLiteral (hs : ∀ c ∈ s, isPlain c = true ∨ c = '\n')
    (hruns : longestRun '\'' s < 3) (h : rest.head? ≠ some '\'') :
    string? (tripled '\'' s s ++ rest) = some (s, rest) := by
  have htext : tripled '\'' s s ++ rest =
      '\'' :: '\'' :: '\'' :: ((if s.contains '\n' then ['\n'] else []) ++
        (s ++ '\'' :: '\'' :: '\'' :: rest)) := by simp [tripled]
  have hhead : ∀ c, (s ++ '\'' :: '\'' :: '\'' :: rest).head? = some c →
      c ≠ '\r' ∧ (c = '\n' → '\n' ∈ s) := by
    intro c e
    cases s with
    | nil =>
        obtain rfl := Option.some.inj e
        decide
    | cons d s =>
        obtain rfl := Option.some.inj e
        refine ⟨?_, fun hd => by rw [hd]; exact List.mem_cons_self⟩
        rcases hs _ List.mem_cons_self with hplain | hnewline
        · exact (ne_newline_of_isPlain hplain).2
        · rw [hnewline]
          decide
  have hdrop := dropNewline_tripled (s := s) (s ++ '\'' :: '\'' :: '\'' :: rest)
    (fun hs e => hs ((hhead _ e).2 rfl)) (fun e => (hhead _ e).1 rfl)
  rw [htext, string?, hdrop]
  exact longLiteralBody_append hs hruns (Nat.zero_le 2) h

/-- **A quoted string is read back**, and what follows it is left, unless a mark follows it. -/
theorem string?_quote (s : Text) (hq : rest.head? ≠ some '"') (ha : rest.head? ≠ some '\'') :
    string? (quote s ++ rest) = some (s, rest) := by
  have hplain : (!s.any isControl) = true → ∀ c ∈ s, isPlain c = true ∨ c = '\n' := by
    intro hclean c hc
    by_cases hnewline : c = '\n'
    · exact .inr hnewline
    · have hcontrol : isControl c = false := by
        simp only [Bool.not_eq_true', List.any_eq_false] at hclean
        exact Bool.eq_false_iff.2 (hclean c hc)
      exact .inl (isPlain_of_not_isControl hcontrol hnewline)
  unfold quote
  dsimp only
  split
  · exact string?_basic hq s
  split
  · rename_i h
    simp only [Bool.and_eq_true] at h
    obtain ⟨⟨hclean, hmark⟩, hlines⟩ := h
    refine string?_literal ?_ (by simpa using hmark) ha
    intro c hc
    refine (hplain hclean c hc).resolve_right ?_
    rintro rfl
    simp [hc] at hlines
  split
  · exact string?_longBasic hq s
  split
  · rename_i h
    simp only [Bool.and_eq_true, decide_eq_true_eq] at h
    exact string?_longLiteral (hplain h.1) h.2 ha
  split
  · exact string?_longBasic hq s
  · exact string?_basic hq s

end LoxTokens.Toml
