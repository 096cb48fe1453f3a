import LoxTokens.Proofs.Places
import LoxTokens.Proofs.Pulling

/-! # Places of a lexer

Whatever is called on a lexer, and in whatever order, its two positions are the places of its
source before and after its current lexeme.  `Within` is this invariant, `Advances` says what one
call does: it keeps the invariant, moves no position back and hands out tokens that stand in the
source (`Within.advances_run`).  `places_of_reachable` puts this together for all calls. -/

namespace LoxTokens

/-- A token of a source: its lexeme is the text its span covers, the ends of its span are places of
the source and its line is the one it ends on. -/
structure Token.StandsIn (t : Token) (source : Text) : Prop where
  lexeme : Text.sliceBytes t.span.start.offset t.span.stop.offset source = some t.lexeme
  start : t.span.start.IsPlaceIn source
  stop : t.span.stop.IsPlaceIn source
  line : t.line = t.span.stop.line

namespace Lexer

open Segment

variable {ρ : Type} {l l' l'' : Lexer ρ} {source text rest : Text}
  {ts ts' : List Token} {t : Token}

/-! ### The invariant -/

/-- What a lexer has passed, its current lexeme and what is ahead make up the source, and its
positions are the places before and after the lexeme. -/
def Within (source : Text) (l : Lexer ρ) : Prop :=
  ∃ before, before ++ l.lexeme ++ l.rest = source ∧ l.start = Position.origin.after before ∧
    l.here = Position.origin.after (before ++ l.lexeme)

/-- `t` is the token over the current lexeme. -/
def Covers (l : Lexer ρ) (t : Token) : Prop :=
  t.lexeme = l.lexeme ∧ t.span = l.span ∧ t.line = l.line

theorem within_new (source : Text) (reporter : ρ) : (Lexer.new source reporter).Within source :=
  ⟨[], rfl, rfl, rfl⟩

theorem Within.begin (h : l.Within source) (hr : text ++ rest = l.rest) :
    (l.begin text rest).Within source := by
  obtain ⟨before, hsource, -, hhere⟩ := h
  refine ⟨before ++ l.lexeme, ?_, hhere, ?_⟩
  · rw [← hsource, ← hr, List.append_assoc]
    rfl
  · rw [Position.after_append, ← hhere]
    rfl

theorem Within.extend (h : l.Within source) (hr : text ++ rest = l.rest) :
    (l.extend text rest).Within source := by
  obtain ⟨before, hsource, hstart, hhere⟩ := h
  refine ⟨before, ?_, hstart, ?_⟩
  · rw [← hsource, ← hr]
    simp [Lexer.extend]
  · show l.here.after text = _
    rw [hhere, ← Position.after_append, List.append_assoc]
    rfl

theorem Within.start_le (h : l.Within source) : l.start.offset ≤ l.here.offset := by
  obtain ⟨before, -, hstart, hhere⟩ := h
  rw [hstart, hhere, Position.after_append]
  exact Position.offset_le_offset_after _ _

theorem Within.standsIn (h : l.Within source) (ht : l.Covers t) : t.StandsIn source := by
  obtain ⟨before, hsource, hstart, hhere⟩ := h
  obtain ⟨hlexeme, hspan, hline⟩ := ht
  have hstart' : t.span.start = Position.origin.after before := by rw [hspan, ← hstart]; rfl
  have hstop' : t.span.stop = Position.origin.after (before ++ l.lexeme) := by
    rw [hspan, ← hhere]; rfl
  refine ⟨?_, ?_, ?_, ?_⟩
  · rw [hstart', hstop', Position.offset_origin_after, Position.offset_origin_after, hlexeme,
      ← hsource, Text.sliceBytes_byteSize_append]
  · rw [hstart', ← hsource, List.append_assoc]
    exact Position.isPlaceIn_after _ _
  · rw [hstop', ← hsource]
    exact Position.isPlaceIn_after _ _
  · rw [hline, hspan]
    rfl

/-- What one call does to a lexer of a source. -/
structure Advances (source : Text) (l : Lexer ρ) (ts : List Token) (l' : Lexer ρ) : Prop where
  within : l'.Within source
  start_le : l.start.offset ≤ l'.start.offset
  here_le : l.here.offset ≤ l'.here.offset
  standsIn : ∀ t ∈ ts, t.StandsIn source

theorem Within.advances (h : l.Within source) : Advances source l [] l :=
  ⟨h, Nat.le_refl _, Nat.le_refl _, by simp⟩

theorem Advances.trans (h : Advances source l ts l') (h' : Advances source l' ts' l'') :
    Advances source l (ts ++ ts') l'' := by
  refine ⟨h'.within, h.start_le.trans h'.start_le, h.here_le.trans h'.here_le, ?_⟩
  intro t ht
  rcases List.mem_append.1 ht with ht | ht
  · exact h.standsIn t ht
  · exact h'.standsIn t ht

theorem Advances.mono (h : Advances source l ts l') (hts : ts' ⊆ ts) :
    Advances source l ts' l' :=
  ⟨h.within, h.start_le, h.here_le, fun t ht => h.standsIn t (hts ht)⟩

theorem Within.advances_begin (h : l.Within source) (hr : text ++ rest = l.rest)
    (ht : ∀ t ∈ ts, (l.begin text rest).Covers t) : Advances source l ts (l.begin text rest) :=
  ⟨h.begin hr, h.start_le, Position.offset_le_offset_after _ _,
    fun t hmem => (h.begin hr).standsIn (ht t hmem)⟩

theorem Within.advances_extend (h : l.Within source) (hr : text ++ rest = l.rest)
    (ht : ∀ t ∈ ts, (l.extend text rest).Covers t) : Advances source l ts (l.extend text rest) :=
  ⟨h.extend hr, Nat.le_refl _, Position.offset_le_offset_after _ _,
    fun t hmem => (h.extend hr).standsIn (ht t hmem)⟩

/-- A token over the span of a lexeme that was just begun covers it. -/
theorem covers_of_token? {s : Segment} (h : s.token? (l.begin s.text rest).span = some t) :
    (l.begin s.text rest).Covers t := by
  obtain ⟨⟨kind, lexeme, literal⟩, hcontent, rfl⟩ := Option.map_eq_some_iff.1 h
  have hlexeme : lexeme = s.text := by cases s <;> cases hcontent <;> rfl
  exact ⟨hlexeme, rfl, rfl⟩

theorem covers_eof (l : Lexer ρ) : (l.begin [] []).Covers (.eof l.here) := ⟨rfl, rfl, rfl⟩

theorem covers_token (l : Lexer ρ) (kind : TokenKind) (literal : Literal) :
    l.Covers (l.token kind literal) :=
  ⟨rfl, rfl, rfl⟩

/-! ### Calls -/

variable [Reporter ρ]

/-- The ways to go on with a lexer. -/
inductive Call where
  | next
  | take (n : Nat)
  | drain
  | last
  | count
  | scanString
  | scanNumber
deriving DecidableEq, Repr

/-- The tokens that a call hands out, and the lexer after it; `none` means that the call fails. -/
def Call.run (l : Lexer ρ) : Call → Option (List Token × Lexer ρ)
  | next => some (l.next.1.toList, l.next.2)
  | take n => some (Lexer.take n l)
  | drain => some l.drain
  | last => some (l.last.1.toList, l.last.2)
  | count => some ([], l.count.2)
  | scanString => l.scanString.map fun (t, l) => (t.toList, l)
  | scanNumber => l.scanNumber.map fun (t, l) => ([t], l)

/-- The lexers that calls lead to from the beginning of a source. -/
inductive Reachable (source : Text) (reporter : ρ) : Lexer ρ → Prop
  | new : Reachable source reporter (Lexer.new source reporter)
  | call {l l' : Lexer ρ} {c : Call} {ts : List Token} :
      Reachable source reporter l → c.run l = some (ts, l') → Reachable source reporter l'

/-! ### What calls do -/

theorem Advances.report (h : Advances source l ts l') (e : LexError) :
    Advances source l ts (l'.report e) :=
  ⟨h.within, h.start_le, h.here_le, h.standsIn⟩

theorem Within.advances_next (h : l.Within source) :
    Advances source l l.next.1.toList l.next.2 := by
  generalize ht : l.rest = t
  induction t using ofText.induct generalizing l with
  | case1 t hcut =>
      obtain rfl : t = [] := by cases t <;> simp_all [cut]
      have hr : [] ++ [] = l.rest := ht.symm
      rw [next_of_rest_eq_nil ht]
      cases l.ended with
      | true => exact h.advances_begin hr (by simp)
      | false =>
          have hbegin := h.advances_begin hr (List.forall_mem_singleton.2 l.covers_eof)
          exact ⟨hbegin.within, hbegin.start_le, hbegin.here_le, hbegin.standsIn⟩
  | case2 t s rest hcut hlt ih =>
      subst ht
      have hr := text_append_of_cut hcut
      rcases next_cases hcut with ⟨t, hnext, ht, -⟩ | ⟨e, hnext, -, -⟩ | ⟨hnext, -, -⟩
      · rw [hnext]
        exact h.advances_begin hr (by simpa using covers_of_token? ht)
      · have hbegin : Advances source l [] (l.begin s.text rest) := h.advances_begin hr (by simp)
        have hreport := hbegin.report e
        rw [hnext]
        exact hreport.trans (ih hreport.within rfl)
      · have hbegin : Advances source l [] (l.begin s.text rest) := h.advances_begin hr (by simp)
        rw [hnext]
        exact hbegin.trans (ih hbegin.within rfl)

theorem Within.advances_take (h : l.Within source) (n : Nat) :
    Advances source l (take n l).1 (take n l).2 := by
  induction n generalizing l with
  | zero => exact h.advances
  | succ n ih =>
      have hnext := h.advances_next
      rw [take]
      split
      · rename_i l' hl'
        rw [hl'] at hnext
        exact hnext
      · rename_i t l' hl'
        rw [hl'] at hnext
        exact hnext.trans (ih hnext.within)

theorem Within.advances_drain (h : l.Within source) : Advances source l l.drain.1 l.drain.2 :=
  h.advances_take _

theorem Within.advances_scanString (h : l.Within source) {o : Option Token}
    (hscan : l.scanString = some (o, l')) : Advances source l o.toList l' := by
  rw [Lexer.scanString] at hscan
  split at hscan
  · obtain ⟨rfl, rfl⟩ := Prod.mk.inj (Option.some.inj hscan)
    exact (h.advances_extend (List.append_nil _) (by simp)).report _
  · rename_i quote rest hdrop
    obtain ⟨value, -, heq⟩ := Option.map_eq_some_iff.1 hscan
    obtain ⟨rfl, rfl⟩ := Prod.mk.inj heq
    have hr : l.rest.takeWhile (· != '"') ++ [quote] ++ rest = l.rest := by
      rw [List.append_assoc, List.singleton_append, ← hdrop, List.takeWhile_append_dropWhile]
    exact h.advances_extend hr (List.forall_mem_singleton.2 (covers_token _ _ _))

omit [Reporter ρ] in
theorem Within.advances_scanNumber (h : l.Within source) (hscan : l.scanNumber = some (t, l')) :
    Advances source l [t] l' := by
  obtain ⟨x, -, heq⟩ := Option.map_eq_some_iff.1 hscan
  obtain ⟨rfl, rfl⟩ := Prod.mk.inj heq
  exact h.advances_extend (cutNumber_append l.rest)
    (List.forall_mem_singleton.2 (covers_token _ _ _))

/-- Whatever is called on a lexer of a source, the lexer stays in the source, goes forward only and
hands out tokens of the source. -/
theorem Within.advances_run (h : l.Within source) {c : Call} (hrun : c.run l = some (ts, l')) :
    Advances source l ts l' := by
  cases c with
  | next =>
      obtain ⟨rfl, rfl⟩ := Prod.mk.inj (Option.some.inj hrun)
      exact h.advances_next
  | take n =>
      have htake := h.advances_take n
      rwa [Option.some.inj hrun] at htake
  | drain =>
      have hdrain := h.advances_drain
      rwa [Option.some.inj hrun] at hdrain
  | last =>
      obtain ⟨rfl, rfl⟩ := Prod.mk.inj (Option.some.inj hrun)
      refine h.advances_drain.mono ?_
      intro t ht
      exact List.mem_of_getLast? (Option.mem_toList.1 ht)
  | count =>
      obtain ⟨rfl, rfl⟩ := Prod.mk.inj (Option.some.inj hrun)
      exact h.advances_drain.mono (List.nil_subset _)
  | scanString =>
      obtain ⟨⟨o, l₁⟩, hscan, heq⟩ := Option.map_eq_some_iff.1 hrun
      obtain ⟨rfl, rfl⟩ := Prod.mk.inj heq
      exact h.advances_scanString hscan
  | scanNumber =>
      obtain ⟨⟨t, l₁⟩, hscan, heq⟩ := Option.map_eq_some_iff.1 hrun
      obtain ⟨rfl, rfl⟩ := Prod.mk.inj heq
      exact h.advances_scanNumber hscan

theorem Reachable.within {reporter : ρ} (h : Reachable source reporter l) : l.Within source := by
  induction h with
  | new => exact within_new source reporter
  | call _ hrun ih => exact (ih.advances_run hrun).within

/-- **Places of every lexer that calls lead to.**  Its two positions are places of the source, in
order, and the current lexeme is the text between them.  A further call moves neither back, and the
tokens it hands out stand in the source. -/
theorem places_of_reachable {reporter : ρ} (h : Reachable source reporter l) :
    l.start.offset ≤ l.here.offset ∧ l.here.offset ≤ Text.byteSize source ∧
      l.start.IsPlaceIn source ∧ l.here.IsPlaceIn source ∧
      Text.sliceBytes l.start.offset l.here.offset source = some l.lexeme ∧
      ∀ (c : Call) (ts : List Token) (l' : Lexer ρ), c.run l = some (ts, l') →
        l.start.offset ≤ l'.start.offset ∧ l.here.offset ≤ l'.here.offset ∧
          ∀ t ∈ ts, t.StandsIn source := by
  have hwithin := h.within
  have hstands := hwithin.standsIn (covers_token l .eof .none)
  refine ⟨hwithin.start_le, ?_, hstands.start, hstands.stop, hstands.lexeme, ?_⟩
  · obtain ⟨before, hsource, -, hhere⟩ := hwithin
    rw [hhere, Position.offset_origin_after, ← hsource, Text.byteSize_append _ l.rest]
    omega
  · intro c ts l' hrun
    have hadvances := hwithin.advances_run hrun
    exact ⟨hadvances.start_le, hadvances.here_le, hadvances.standsIn⟩

/-- A string over two lines with a character of two bytes is pulled, and then a direct scan for a
string goes on from its end: the token covers both. -/
theorem places_of_reachable_scanString :
    ∃ (l l' : Lexer ErrorLog) (t : Token), Reachable "\"é\n\"x\"".toList ErrorLog.empty l ∧
      l.here = ⟨2, 2, 5⟩ ∧ l.here.IsPlaceIn "\"é\n\"x\"".toList ∧
      Call.run l .scanString = some ([t], l') ∧ t.literal = .string "é\n\"x".toList ∧
      t.span = ⟨⟨1, 1, 0⟩, ⟨2, 4, 7⟩⟩ ∧ t.StandsIn "\"é\n\"x\"".toList := by
  have hrun : Call.run (Lexer.new "\"é\n\"x\"".toList ErrorLog.empty) .next =
      some ([⟨.string, "\"é\n\"".toList, .string "é\n".toList, 2, ⟨.origin, ⟨2, 2, 5⟩⟩⟩],
        ⟨"\"é\n\"".toList, "x\"".toList, .origin, ⟨2, 2, 5⟩, ErrorLog.empty, 0, false⟩) := by
    decide +kernel
  have hnext := Reachable.new.call hrun
  have hscan : Call.run
      ⟨"\"é\n\"".toList, "x\"".toList, .origin, ⟨2, 2, 5⟩, ErrorLog.empty, 0, false⟩ .scanString =
      some ([⟨.string, "\"é\n\"x\"".toList, .string "é\n\"x".toList, 2, ⟨.origin, ⟨2, 4, 7⟩⟩⟩],
        ⟨"\"é\n\"x\"".toList, [], .origin, ⟨2, 4, 7⟩, ErrorLog.empty, 0, false⟩) := by
    decide +kernel
  obtain ⟨-, -, -, hplace, -, hcall⟩ := places_of_reachable hnext
  obtain ⟨-, -, hstands⟩ := hcall _ _ _ hscan
  exact ⟨_, _, _, hnext, rfl, hplace, hscan, rfl, rfl, hstands _ List.mem_cons_self⟩

end Lexer
end LoxTokens
