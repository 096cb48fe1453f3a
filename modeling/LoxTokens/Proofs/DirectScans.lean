import LoxTokens.Proofs.NumberTexts
import LoxTokens.Proofs.Reporters

/-! # Direct scans and their failures

Scanning is put together here from its smallest parts, of which some can fail: a pull begins a
lexeme with one character and goes on by what that character is (`dispatch`), and where it is a
quote or a digit, the direct scans for strings and numbers go on.  The direct scans that pulls make
succeed, so that a call made of them answers as the call does (`pull?_eq`, `attempt_eq_reply`).
Called on their own they fail where the lexeme so far does not go with what is read: a string scan
where the lexeme has no room for two quotes, or begins with no character of one byte
(`scanString_eq_none_iff`), and a number scan where the lexeme is no number text
(`scanNumber_eq_none_iff`). -/

namespace LoxTokens

namespace Lexer

open Segment

variable {ρ : Type} [Reporter ρ] {l l' : Lexer ρ} {source : Text} {c : Char}
  {s : Segment} {t u text rest : Text} {o : Option Token}

/-! ### Pulls made of direct scans -/

/-- What a lexer does after the first character of a lexeme.  It gives a token, or none where the
lexeme is a blank, a comment or in error; it fails where a direct scan does. -/
def dispatch (l : Lexer ρ) (c : Char) : Option (Option Token × Lexer ρ) :=
  if separates c then some (none, l)
  else if c = '"' then l.scanString
  else if c.isDigit then l.scanNumber.map fun (t, l) => (some t, l)
  else if beginsWord c then
    let l := l.extend (l.rest.takeWhile continuesWord) (l.rest.dropWhile continuesWord)
    some (some (l.token (.ofWord l.lexeme) .none), l)
  else if c = '/' && l.rest.head? = some '/' then
    some (none, l.extend ('/' :: (l.rest.drop 1).takeWhile (· != '\n'))
      ((l.rest.drop 1).dropWhile (· != '\n')))
  else
    match Operator.ofText? (c :: l.rest.take 1) with
    | some o =>
      let l := l.extend (l.rest.take 1) (l.rest.drop 1)
      some (some (l.token (.operator o) .none), l)
    | none =>
      match Operator.ofText? [c] with
      | some o => some (some (l.token (.operator o) .none), l)
      | none => some (none, l.report (.unexpectedCharacter l.line c))

theorem length_scanString (h : l.scanString = some (o, l')) :
    l'.rest.length ≤ l.rest.length := by
  rw [scanString] at h
  split at h
  · obtain ⟨-, rfl⟩ := Prod.mk.inj (Option.some.inj h)
    exact Nat.zero_le _
  next quote rest hdrop =>
    obtain ⟨value, -, heq⟩ := Option.map_eq_some_iff.1 h
    obtain ⟨-, rfl⟩ := Prod.mk.inj heq
    have hsuffix := (List.dropWhile_suffix (· != '"') (l := l.rest)).length_le
    rw [hdrop, List.length_cons] at hsuffix
    exact (Nat.le_succ _).trans hsuffix

theorem length_dispatch (h : l.dispatch c = some (o, l')) : l'.rest.length ≤ l.rest.length := by
  unfold dispatch at h
  split at h
  · obtain ⟨-, rfl⟩ := Prod.mk.inj (Option.some.inj h)
    exact Nat.le_refl _
  split at h
  · exact length_scanString h
  split at h
  · obtain ⟨⟨t, l₁⟩, hscan, heq⟩ := Option.map_eq_some_iff.1 h
    obtain ⟨-, rfl⟩ := Prod.mk.inj heq
    obtain ⟨x, -, heq'⟩ := Option.map_eq_some_iff.1 hscan
    obtain ⟨-, rfl⟩ := Prod.mk.inj heq'
    have hlength := congrArg List.length (cutNumber_append l.rest)
    rw [List.length_append] at hlength
    show (cutNumber l.rest).2.length ≤ l.rest.length
    omega
  split at h
  · obtain ⟨-, rfl⟩ := Prod.mk.inj (Option.some.inj h)
    exact (List.dropWhile_suffix _).length_le
  split at h
  · obtain ⟨-, rfl⟩ := Prod.mk.inj (Option.some.inj h)
    exact ((List.dropWhile_suffix _).trans (List.drop_suffix 1 _)).length_le
  split at h
  · obtain ⟨-, rfl⟩ := Prod.mk.inj (Option.some.inj h)
    exact (List.drop_suffix 1 _).length_le
  split at h
  all_goals
    obtain ⟨-, rfl⟩ := Prod.mk.inj (Option.some.inj h)
    exact Nat.le_refl _

/-- A pull made of direct scans; `none` means that one of them fails. -/
def pull? (l : Lexer ρ) : Option (Option Token × Lexer ρ) :=
  match h : l.rest with
  | [] =>
    let l := l.begin [] []
    some (if l.ended then (none, l) else (some (.eof l.here), { l with ended := true }))
  | c :: rest =>
    match h' : (l.begin [c] rest).dispatch c with
    | none => none
    | some (some t, l') => some (some t, l')
    | some (none, l') =>
      have : l'.rest.length < l.rest.length := by
        have hle := length_dispatch h'
        have hlt : rest.length < l.rest.length := by
          rw [h]
          exact Nat.lt_succ_self _
        exact Nat.lt_of_le_of_lt hle hlt
      l'.pull?
termination_by l.rest.length

/-- At most `n` tokens by such pulls. -/
def takeBy? : Nat → Lexer ρ → Option (List Token × Lexer ρ)
  | 0, l => some ([], l)
  | n + 1, l =>
    match l.pull? with
    | none => none
    | some (none, l) => some ([], l)
    | some (some t, l) => (takeBy? n l).map fun (ts, l) => (t :: ts, l)

/-- A call by such pulls; `none` means that it fails. -/
def Call.attempt (l : Lexer ρ) : Call → Option (Answer × Lexer ρ)
  | next => l.pull?.map fun (t, l) => (.one t, l)
  | take n => (takeBy? n l).map fun (ts, l) => (.many ts, l)
  | drain => (takeBy? (l.rest.length + 2) l).map fun (ts, l) => (.many ts, l)
  | last => (takeBy? (l.rest.length + 2) l).map fun (ts, l) => (.one ts.getLast?, l)
  | count => (takeBy? (l.rest.length + 2) l).map fun (ts, l) => (.number ts.length, l)
  | scanString => l.scanString.map fun (t, l) => (.one t, l)
  | scanNumber => l.scanNumber.map fun (t, l) => (.one (some t), l)

/-! ### Direct scans of a lexeme that was just begun -/

/-- What a segment gives as the lexeme of a lexer. -/
def outcome (l : Lexer ρ) (s : Segment) : Option Token × Lexer ρ :=
  match s.event? l.span with
  | some (.token t) => (some t, l)
  | some (.error e) => (none, l.report e)
  | none => (none, l)

theorem outcome_operator (l : Lexer ρ) (o : Operator) (rest : Text) :
    (l.begin o.text rest).outcome (operator o) =
      (some ((l.begin o.text rest).token (.operator o) .none), l.begin o.text rest) := rfl

omit [Reporter ρ] in
theorem begin_extend (l : Lexer ρ) (t u v rest : Text) :
    (l.begin t v).extend u rest = l.begin (t ++ u) rest := by
  have hhere : (l.here.after t).after u = l.here.after (t ++ u) :=
    (Position.after_append l.here t u).symm
  simp only [Lexer.begin, Lexer.extend, hhere]

/-- The text after a first character of one byte and before a quote; a longer character is no place
to begin it. -/
theorem between_cons (c : Char) (t : Text) :
    between (c :: (t ++ ['"'])) = if c.utf8Size = 1 then some t else none := by
  have hquote : Text.byteSize ['"'] = 1 := rfl
  have hpos := c.utf8Size_pos
  have hsize : Text.byteSize (c :: (t ++ ['"'])) = c.utf8Size + (Text.byteSize t + 1) := by
    rw [Text.byteSize_cons, Text.byteSize_append, hquote]
  have hle : 1 ≤ Text.byteSize (c :: (t ++ ['"'])) - 1 := by omega
  rw [between, Text.sliceBytes, if_pos hle, Text.dropBytes]
  by_cases hc : c.utf8Size = 1
  · have hone : c.utf8Size ≤ 0 + 1 := by omega
    have hzero : 0 + 1 - c.utf8Size = 0 := by omega
    have hlength : Text.byteSize (c :: (t ++ ['"'])) - 1 - 1 = Text.byteSize t := by omega
    rw [if_pos hone, hzero, Text.dropBytes, if_pos hc, hlength]
    exact Text.takeBytes_byteSize_append t ['"']
  · have hmore : ¬ c.utf8Size ≤ 0 + 1 := by omega
    rw [if_neg hmore, if_neg hc]
    rfl

theorem between_quote : between ['"'] = none := rfl

theorem scanString_begin (l : Lexer ρ) (t : Text) :
    (l.begin ['"'] t).scanString =
      some ((l.begin (cutString t).1.text (cutString t).2).outcome (cutString t).1) := by
  have hrest : (l.begin ['"'] t).rest = t := rfl
  rw [scanString, cutString, hrest]
  have hquote : ∀ c r, t.dropWhile (· != '"') = c :: r → c = '"' := by
    intro c r hdrop
    have hstop := stopsAt_dropWhile (· != '"') t c (by rw [hdrop]; rfl)
    simpa using hstop
  cases hdrop : t.dropWhile (· != '"') with
  | nil =>
      simp only [begin_extend]
      rfl
  | cons c r =>
      obtain rfl := hquote c r hdrop
      simp only [begin_extend]
      have hone : '"'.utf8Size = 1 := rfl
      have hvalue := between_cons '"' (t.takeWhile (· != '"'))
      rw [if_pos hone] at hvalue
      have hlexeme : ∀ u v, (l.begin u v).lexeme = u := fun _ _ => rfl
      rw [hlexeme, List.singleton_append, hvalue]
      rfl

theorem cutNumber_cons (hc : c.isDigit = true) (t : Text) :
    ∃ whole fraction, cutNumber t = (number whole fraction, (cutNumber t).2) ∧
      cutNumber (c :: t) = (number (c :: whole) fraction, (cutNumber t).2) := by
  unfold cutNumber
  rw [List.dropWhile_cons_of_pos hc, List.takeWhile_cons_of_pos hc]
  split
  · split
    · exact ⟨_, _, rfl, rfl⟩
    · exact ⟨_, _, rfl, rfl⟩
  · exact ⟨_, _, rfl, rfl⟩

theorem scanNumber_begin (hc : c.isDigit = true) (l : Lexer ρ) (t : Text) :
    ((l.begin [c] t).scanNumber.map fun (t, l) => (some t, l)) =
      some ((l.begin (cutNumber (c :: t)).1.text (cutNumber (c :: t)).2).outcome
        (cutNumber (c :: t)).1) := by
  obtain ⟨whole, fraction, hcut, hcons⟩ := cutNumber_cons hc t
  have hrest : (l.begin [c] t).rest = t := rfl
  have htext : c :: (number whole fraction).text = (number (c :: whole) fraction).text := by
    cases fraction <;> rfl
  have hwell := (fits_cutNumber (t := t) hc).wellFormed
  rw [hcons] at hwell ⊢
  rw [scanNumber, hrest, hcut]
  simp only [begin_extend, List.singleton_append, htext]
  have hlexeme : ∀ u v, (l.begin u v).lexeme = u := fun _ _ => rfl
  rw [hlexeme, numberValue?_number hwell]
  rfl

/-- What is cut off a text as a segment, and given as that, is what a lexer finds that goes on from
the first character. -/
theorem dispatch_begin (h : cut (c :: t) = some (s, rest)) :
    (l.begin [c] t).dispatch c = some ((l.begin s.text rest).outcome s) := by
  have hrest : (l.begin [c] t).rest = t := rfl
  by_cases hs : separates c = true
  · rw [cut_of_separates hs] at h
    obtain ⟨rfl, rfl⟩ := Prod.mk.inj (Option.some.inj h)
    rw [dispatch, if_pos hs]
    rfl
  by_cases hq : c = '"'
  · subst hq
    rw [cut_quote] at h
    rw [dispatch, if_neg hs, if_pos rfl, scanString_begin, Option.some.inj h]
  by_cases hd : c.isDigit = true
  · rw [cut_of_isDigit hd] at h
    rw [dispatch, if_neg hs, if_neg hq, if_pos hd, scanNumber_begin hd, Option.some.inj h]
  by_cases hw : beginsWord c = true
  · rw [cut_of_beginsWord hw] at h
    obtain ⟨rfl, rfl⟩ := Prod.mk.inj (Option.some.inj h)
    rw [dispatch, if_neg hs, if_neg hq, if_neg hd, if_pos hw]
    simp only [begin_extend]
    rfl
  by_cases hc : c = '/' ∧ t.head? = some '/'
  · obtain ⟨rfl, hhead⟩ := hc
    obtain ⟨r, rfl⟩ := List.head?_eq_some_iff.1 hhead
    rw [cut_slashes] at h
    obtain ⟨rfl, rfl⟩ := Prod.mk.inj (Option.some.inj h)
    have hslashes : ('/' = '/' && (l.begin ['/'] ('/' :: r)).rest.head? = some '/') = true := rfl
    rw [dispatch, if_neg hs, if_neg hq, if_neg hd, if_neg hw, if_pos hslashes]
    simp only [begin_extend]
    rfl
  · rw [Bool.not_eq_true] at hs hd hw
    have hslash : (c = '/' && (l.begin [c] t).rest.head? = some '/') = false := by
      rw [Bool.and_eq_false_iff, decide_eq_false_iff_not, decide_eq_false_iff_not, hrest]
      exact Decidable.not_and_iff_or_not.1 hc
    rw [cut_of_not hs hq hd hw (fun h₁ h₂ => hc ⟨h₁, h₂⟩), cutOperator] at h
    rw [dispatch, if_neg (by simp [hs]), if_neg hq, if_neg (by simp [hd]), if_neg (by simp [hw]),
      if_neg (by simp [hslash]), hrest]
    cases htwo : Operator.ofText? (c :: t.take 1) with
    | some o =>
        rw [htwo] at h
        obtain ⟨rfl, rfl⟩ := Prod.mk.inj (Option.some.inj h)
        have htext := Operator.ofText?_eq_some_iff.1 htwo
        show _ = some ((l.begin o.text (t.drop 1)).outcome (operator o))
        rw [outcome_operator]
        simp only [begin_extend, htext]
        rfl
    | none =>
        rw [htwo] at h
        cases hone : Operator.ofText? [c] with
        | some o =>
            rw [hone] at h
            obtain ⟨rfl, rfl⟩ := Prod.mk.inj (Option.some.inj h)
            have htext := Operator.ofText?_eq_some_iff.1 hone
            show _ = some ((l.begin o.text t).outcome (operator o))
            rw [outcome_operator, htext]
        | none =>
            rw [hone] at h
            obtain ⟨rfl, rfl⟩ := Prod.mk.inj (Option.some.inj h)
            rfl

/-! ### Pulls -/

theorem pull?_nil (h : l.rest = []) : l.pull? = some l.next := by
  rw [next_of_rest_eq_nil h, pull?]
  split
  next => rfl
  next hcons =>
    rw [h] at hcons
    cases hcons

theorem pull?_of_dispatch_some {tok : Token} (h : l.rest = c :: t)
    (hdispatch : (l.begin [c] t).dispatch c = some (some tok, l')) :
    l.pull? = some (some tok, l') := by
  rw [pull?]
  split
  next hnil =>
    rw [h] at hnil
    cases hnil
  next c' t' hcons =>
    rw [h] at hcons
    obtain ⟨rfl, rfl⟩ := List.cons.inj hcons
    split
    all_goals simp_all

theorem pull?_of_dispatch_none (h : l.rest = c :: t)
    (hdispatch : (l.begin [c] t).dispatch c = some (none, l')) : l.pull? = l'.pull? := by
  rw [pull?]
  split
  next hnil =>
    rw [h] at hnil
    cases hnil
  next c' t' hcons =>
    rw [h] at hcons
    obtain ⟨rfl, rfl⟩ := List.cons.inj hcons
    split
    all_goals simp_all

/-- **A pull never fails**: the direct scans that it makes succeed, in whatever state it begins. -/
theorem pull?_eq (l : Lexer ρ) : l.pull? = some l.next := by
  generalize ht : l.rest = t
  induction t using ofText.induct generalizing l with
  | case1 t hcut =>
      obtain rfl : t = [] := by cases t <;> simp_all [cut]
      exact pull?_nil ht
  | case2 t s rest hcut hlt ih =>
      obtain ⟨c, t, rfl⟩ : ∃ c u, t = c :: u := by
        cases t with
        | nil => cases hcut
        | cons c u => exact ⟨c, u, rfl⟩
      have hdispatch := dispatch_begin (l := l) hcut
      rw [← ht] at hcut
      rw [next_of_cut hcut]
      rw [outcome] at hdispatch
      cases hevent : s.event? (l.begin s.text rest).span with
      | none =>
          rw [hevent] at hdispatch
          rw [pull?_of_dispatch_none ht hdispatch]
          exact ih (l.begin s.text rest) rfl
      | some event =>
          rw [hevent] at hdispatch
          cases event with
          | token tok => exact pull?_of_dispatch_some ht hdispatch
          | error e =>
              rw [pull?_of_dispatch_none ht hdispatch]
              exact ih ((l.begin s.text rest).report e) rfl

theorem takeBy?_eq (n : Nat) (l : Lexer ρ) : takeBy? n l = some (take n l) := by
  induction n generalizing l with
  | zero => rfl
  | succ n ih =>
      rw [takeBy?, pull?_eq]
      rcases hnext : l.next with ⟨_ | tok, l'⟩
      · rw [take_succ_of_none hnext]
      · rw [take_succ_of_some hnext]
        simp only [ih, Option.map_some]

theorem attempt_eq_reply (l : Lexer ρ) (c : Call) : c.attempt l = c.reply l := by
  cases c with
  | next => rw [Call.attempt, pull?_eq]; rfl
  | take | drain | last | count => rw [Call.attempt, takeBy?_eq]; rfl
  | scanString | scanNumber => rfl

/-! ### When direct scans fail -/

theorem between_eq_none_iff (u : Text) :
    between (u ++ ['"']) = none ↔
      Text.byteSize (u ++ ['"']) < 2 ∨ ∃ c ∈ (u ++ ['"']).head?, 1 < c.utf8Size := by
  have hquote : Text.byteSize ['"'] = 1 := rfl
  cases u with
  | nil => exact iff_of_true between_quote (.inl (by decide))
  | cons c u =>
      have hpos := c.utf8Size_pos
      have hsize : 2 ≤ Text.byteSize (c :: (u ++ ['"'])) := by
        rw [Text.byteSize_cons, Text.byteSize_append, hquote]
        omega
      rw [List.cons_append, between_cons]
      simp only [List.head?_cons, Option.mem_def, Option.some.injEq, exists_eq_left']
      split
      · exact iff_of_false (Option.some_ne_none u) (by omega)
      · exact iff_of_true rfl (by omega)

theorem scanString_of_quote {body : Text} (hbody : '"' ∉ body)
    (h : l.rest = body ++ '"' :: rest) :
    l.scanString =
      (between (l.lexeme ++ body ++ ['"'])).map fun value =>
        (some ((l.extend (body ++ ['"']) rest).token .string (.string value)),
          l.extend (body ++ ['"']) rest) := by
  have hstop : StopsAt (· != '"') ('"' :: rest) := stopsAt_cons.2 rfl
  have hlexeme : (l.extend (body ++ ['"']) rest).lexeme = l.lexeme ++ body ++ ['"'] :=
    (List.append_assoc _ _ _).symm
  rw [scanString, h, dropWhile_append_of_stopsAt (ne_of_notMem hbody) hstop,
    takeWhile_append_of_stopsAt (ne_of_notMem hbody) hstop]
  simp only [hlexeme]

theorem scanString_of_notMem (h : '"' ∉ l.rest) :
    l.scanString = some (none, (l.extend l.rest []).report
      (.unterminatedString (l.extend l.rest []).line)) := by
  have hdrop : l.rest.dropWhile (· != '"') = [] := List.dropWhile_eq_nil_iff.2 (ne_of_notMem h)
  rw [scanString, hdrop]

/-- A string scan fails only at a quote, and there where the lexeme is not long enough for two
quotes or does not begin with a character of one byte. -/
theorem scanString_eq_none_iff :
    l.scanString = none ↔
      ∃ body rest, '"' ∉ body ∧ l.rest = body ++ '"' :: rest ∧
        (Text.byteSize (l.lexeme ++ body ++ ['"']) < 2 ∨
          ∃ c ∈ (l.lexeme ++ body ++ ['"']).head?, 1 < c.utf8Size) := by
  constructor
  · intro h
    by_cases hquote : '"' ∈ l.rest
    · obtain ⟨body, rest, hrest, hbody⟩ := List.eq_append_cons_of_mem hquote
      rw [scanString_of_quote hbody hrest, Option.map_eq_none_iff, between_eq_none_iff] at h
      exact ⟨body, rest, hbody, hrest, h⟩
    · rw [scanString_of_notMem hquote] at h
      cases h
  · rintro ⟨body, rest, hbody, hrest, h⟩
    rw [scanString_of_quote hbody hrest, Option.map_eq_none_iff, between_eq_none_iff]
    exact h

omit [Reporter ρ] in
theorem scanNumber_eq_none_iff :
    l.scanNumber = none ↔ ¬ NumberText (l.lexeme ++ (cutNumber l.rest).1.text) := by
  rw [scanNumber, ← isSome_numberValue?_iff, Option.not_isSome_iff_eq_none, Option.map_eq_none_iff]
  rfl

theorem exists_cutNumber (t : Text) :
    ∃ whole fraction, (∀ c ∈ whole, c.isDigit = true) ∧ (∀ c ∈ fraction, c.isDigit = true) ∧
      cutNumber t = (number whole fraction, (cutNumber t).2) ∧
      (number whole fraction).Complete (cutNumber t).2 := by
  have hzero : ('0').isDigit = true := rfl
  obtain ⟨whole, fraction, hcut, hcons⟩ := cutNumber_cons hzero t
  have hfits := fits_cutNumber (t := t) hzero
  rw [hcons] at hfits
  obtain ⟨⟨-, hwhole, hfraction⟩, hcomplete⟩ := hfits
  refine ⟨whole, fraction, fun c hc => hwhole c (List.mem_cons_of_mem _ hc), hfraction, hcut, ?_⟩
  cases fraction <;> exact hcomplete

/-! ### Every lexer that steps lead to -/

/-- The lexers that calls lead to from the beginning of a source.  A direct scan that fails leaves a
lexer that has read on in its lexeme. -/
inductive Attempted (source : Text) (reporter : ρ) : Lexer ρ → Prop
  | new : Attempted source reporter (Lexer.new source reporter)
  | call {l l' : Lexer ρ} {c : Call} {a : Answer} :
      Attempted source reporter l → c.attempt l = some (a, l') → Attempted source reporter l'
  | readOn {l : Lexer ρ} {text rest : Text} :
      Attempted source reporter l → text ++ rest = l.rest →
      Attempted source reporter (l.extend text rest)

theorem exists_run_of_reply {c : Call} {a : Answer} (h : c.reply l = some (a, l')) :
    ∃ ts, c.run l = some (ts, l') := by
  cases c with
  | next | take | drain | last | count =>
      obtain ⟨-, rfl⟩ := Prod.mk.inj (Option.some.inj h)
      exact ⟨_, rfl⟩
  | scanString | scanNumber =>
      obtain ⟨⟨t, l₁⟩, hscan, heq⟩ := Option.map_eq_some_iff.1 h
      obtain ⟨-, rfl⟩ := Prod.mk.inj heq
      rw [Call.run, hscan]
      exact ⟨_, rfl⟩

theorem Attempted.within {reporter : ρ} (h : Attempted source reporter l) : l.Within source := by
  induction h with
  | new => exact within_new source reporter
  | readOn _ hr ih => exact ih.extend hr
  | call _ hcall ih =>
      rw [attempt_eq_reply] at hcall
      obtain ⟨ts, hrun⟩ := exists_run_of_reply hcall
      exact (ih.advances_run hrun).within

/-- **What fails, and what never does.**  In every state of a lexer the current lexeme is the source
from its start to the cursor.  A pull does not fail: it answers as the direct scans do that it
makes.  A string scan fails exactly where the next quote makes the lexeme shorter than two bytes, or
the lexeme begins with a character of more; without a quote ahead it reports the string as open,
gives no token and stands at the end.  A number scan fails exactly where the lexeme is no number
text when all digits ahead are read. -/
theorem attempt_fails_exactly {reporter : ρ} (h : Attempted source reporter l) :
    Text.sliceBytes l.start.offset l.here.offset source = some l.lexeme ∧
    Text.dropBytes l.here.offset source = some l.rest ∧
    (∀ c : Call, c.attempt l = c.reply l) ∧
    (∀ c : Call, c ≠ .scanString → c ≠ .scanNumber → (c.attempt l).isSome) ∧
    (Call.scanString.attempt l = none ↔
      ∃ body rest, '"' ∉ body ∧ l.rest = body ++ '"' :: rest ∧
        (Text.byteSize (l.lexeme ++ body ++ ['"']) < 2 ∨
          ∃ c ∈ (l.lexeme ++ body ++ ['"']).head?, 1 < c.utf8Size)) ∧
    ('"' ∉ l.rest →
      ∃ l', Call.scanString.attempt l = some (.one none, l') ∧ l'.rest = [] ∧
        l'.here = Position.origin.after source ∧
        l'.reporter = Reporter.report l.reporter (.unterminatedString l'.line) ∧
        l'.errorCount = l.errorCount + 1) ∧
    ∃ whole fraction rest, (∀ c ∈ whole, c.isDigit = true) ∧ (∀ c ∈ fraction, c.isDigit = true) ∧
      l.rest = (number whole fraction).text ++ rest ∧ (number whole fraction).Complete rest ∧
      (Call.scanNumber.attempt l = none ↔
        ¬ NumberText (l.lexeme ++ (number whole fraction).text)) := by
  have hwithin := h.within
  refine ⟨(hwithin.standsIn (covers_token l .eof .none)).lexeme, ?_, attempt_eq_reply l,
    ?_, ?_, ?_, ?_⟩
  · obtain ⟨before, hsource, -, hhere⟩ := hwithin
    rw [hhere, Position.offset_origin_after, ← hsource]
    exact Text.dropBytes_byteSize_append _ _
  · intro c hstring hnumber
    rw [attempt_eq_reply]
    cases c with
    | scanString => exact (hstring rfl).elim
    | scanNumber => exact (hnumber rfl).elim
    | next | take | drain | last | count => rfl
  · rw [Call.attempt, Option.map_eq_none_iff]
    exact scanString_eq_none_iff
  · intro hquote
    rw [Call.attempt, scanString_of_notMem hquote]
    refine ⟨_, rfl, rfl, ?_, rfl, rfl⟩
    obtain ⟨before, hsource, -, hhere⟩ := hwithin
    show l.here.after l.rest = Position.origin.after source
    rw [hhere, ← Position.after_append, hsource]
  · obtain ⟨whole, fraction, hwhole, hfraction, hcut, hcomplete⟩ := exists_cutNumber l.rest
    have happend := cutNumber_append l.rest
    have hfails := scanNumber_eq_none_iff (l := l)
    rw [hcut] at happend hfails
    refine ⟨whole, fraction, _, hwhole, hfraction, happend.symm, hcomplete, ?_⟩
    rw [Call.attempt, Option.map_eq_none_iff]
    exact hfails

/-- Before a character of two bytes and a quote both direct scans fail, while all tokens can be
pulled. -/
theorem attempt_fails_exactly_wide :
    ∃ l : Lexer ErrorLog, Attempted "é\"1".toList ErrorLog.empty l ∧
      Call.scanString.attempt l = none ∧ Call.scanNumber.attempt l = none ∧
      (Call.drain.attempt l).isSome := by
  have hnew : Attempted "é\"1".toList ErrorLog.empty
      (Lexer.new "é\"1".toList ErrorLog.empty) := .new
  obtain ⟨-, -, -, hpull, hstring, -⟩ := attempt_fails_exactly hnew
  refine ⟨_, hnew, ?_, ?_, hpull .drain (by decide) (by decide)⟩
  · exact hstring.2 ⟨['é'], ['1'], by decide, rfl, .inr ⟨'é', rfl, by decide⟩⟩
  · decide +kernel

end Lexer
end LoxTokens
