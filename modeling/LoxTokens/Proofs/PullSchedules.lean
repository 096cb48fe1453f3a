import LoxTokens.Proofs.Places
import LoxTokens.Proofs.Pulling

/-! # Schedules of pulls

Tokens may be pulled one by one, some at a time or all at once, and in any order of such pulls.
What is ahead of a lexer, `tokensAhead` and `errorsAhead`, decides what they give: every pull
takes tokens off the front of the one and reports errors off the front of the other
(`consumes_pull`), and so does a whole schedule (`consumes_pulls`).  So the answers of a schedule are
those of a list from whose front the tokens are taken (`runs_eq`).  After the end token nothing is
ahead, and a pull changes nothing (`run_of_ended`). -/

namespace LoxTokens

namespace Lexer

open Segment

variable {ρ : Type} {l l' l'' : Lexer ρ} {ts us : List Token} {es fs : List LexError}

/-! ### What is ahead -/

/-- The tokens that are still to be given. -/
def tokensAhead (l : Lexer ρ) : List Token :=
  if l.ended then [] else tokensFrom l.here (ofText l.rest) ++ [.eof (l.here.after l.rest)]

/-- The errors that are still to be reported. -/
def errorsAhead (l : Lexer ρ) : List LexError := errorsFrom l.here (ofText l.rest)

/-- A lexer that gave its end token stands still at the end of its source. -/
def Settled (l : Lexer ρ) : Prop :=
  l.ended = true → l.lexeme = [] ∧ l.rest = [] ∧ l.start = l.here

theorem settled_of_not_ended (h : l.ended = false) : l.Settled := by
  intro hended
  rw [h] at hended
  cases hended

theorem Settled.begin_nil (h : l.Settled) (hended : l.ended = true) : l.begin [] [] = l := by
  obtain ⟨lexeme, rest, start, here, reporter, errorCount, ended⟩ := l
  obtain ⟨hlexeme, hrest, hstart⟩ : lexeme = [] ∧ rest = [] ∧ start = here := h hended
  rw [hlexeme, hrest, hstart]
  rfl

theorem errorsAhead_of_rest_eq_nil (h : l.rest = []) : l.errorsAhead = [] := by
  rw [errorsAhead, h, ofText_nil]
  rfl

theorem Settled.ahead_of_ended (h : l.Settled) (hended : l.ended = true) :
    l.tokensAhead = [] ∧ l.errorsAhead = [] :=
  ⟨if_pos hended, errorsAhead_of_rest_eq_nil (h hended).2.1⟩

theorem tokensAhead_new (source : Text) (reporter : ρ) :
    (Lexer.new source reporter).tokensAhead = (Scanned.ofSource source).tokens := by
  rw [Scanned.ofSource_tokens]
  rfl

theorem errorsAhead_new (source : Text) (reporter : ρ) :
    (Lexer.new source reporter).errorsAhead = (Scanned.ofSource source).errors := by
  rw [Scanned.ofSource_errors]
  rfl

section

variable {s : Segment} {rest : Text}

theorem tokensAhead_of_cut (h : cut l.rest = some (s, rest)) (hended : l.ended = false) :
    l.tokensAhead =
      (s.token? (l.begin s.text rest).span).toList ++ (l.begin s.text rest).tokensAhead := by
  have hended' : (l.begin s.text rest).ended = false := hended
  rw [tokensAhead, tokensAhead, hended, hended', ofText_of_cut h, tokensFrom_cons, after_of_cut h]
  exact List.append_assoc _ _ _

theorem errorsAhead_of_cut (h : cut l.rest = some (s, rest)) :
    l.errorsAhead =
      (s.error? (l.begin s.text rest).line).toList ++ (l.begin s.text rest).errorsAhead := by
  rw [errorsAhead, ofText_of_cut h, errorsFrom_cons]
  rfl

end

variable [Reporter ρ]

/-! ### What is taken off it -/

/-- From `l` to `l'` the tokens `ts` were taken and the errors `es` reported, both off the front of
what was ahead. -/
structure Consumes (l : Lexer ρ) (ts : List Token) (es : List LexError) (l' : Lexer ρ) : Prop where
  tokens : ts ++ l'.tokensAhead = l.tokensAhead
  errors : es ++ l'.errorsAhead = l.errorsAhead
  reporter : l'.reporter = reportAll l.reporter es
  errorCount : l'.errorCount = l.errorCount + es.length
  settled : l'.Settled

theorem Settled.consumes (h : l.Settled) : Consumes l [] [] l := ⟨rfl, rfl, rfl, rfl, h⟩

theorem Consumes.trans (h : Consumes l ts es l') (h' : Consumes l' us fs l'') :
    Consumes l (ts ++ us) (es ++ fs) l'' := by
  refine ⟨?_, ?_, ?_, ?_, h'.settled⟩
  · rw [List.append_assoc, h'.tokens, h.tokens]
  · rw [List.append_assoc, h'.errors, h.errors]
  · rw [h'.reporter, h.reporter, reportAll, reportAll, reportAll, List.foldl_append]
  · rw [h'.errorCount, h.errorCount, List.length_append, Nat.add_assoc]

/-! ### One pull -/

theorem Settled.consumes_next (h : l.Settled) : ∃ es, Consumes l l.next.1.toList es l.next.2 := by
  generalize ht : l.rest = t
  induction t using ofText.induct generalizing l with
  | case1 t hcut =>
      obtain rfl : t = [] := by cases t <;> simp_all [cut]
      have hnext := next_of_rest_eq_nil ht
      cases hended : l.ended with
      | true =>
          rw [hended, if_pos rfl, h.begin_nil hended] at hnext
          rw [hnext]
          exact ⟨[], h.consumes⟩
      | false =>
          have htokens : l.tokensAhead = [.eof l.here] := by
            rw [tokensAhead, hended, ht, ofText_nil]
            rfl
          rw [hended, if_neg Bool.false_ne_true] at hnext
          rw [hnext]
          refine ⟨[], htokens.symm, ?_, rfl, rfl, fun _ => ⟨rfl, rfl, rfl⟩⟩
          rw [errorsAhead_of_rest_eq_nil ht]
          exact errorsAhead_of_rest_eq_nil rfl
  | case2 t s rest hcut hlt ih =>
      subst ht
      have hended : l.ended = false := by
        by_contra hne
        have hrest := (h (Bool.not_eq_false _ ▸ hne)).2.1
        rw [hrest] at hcut
        cases hcut
      have htokens := tokensAhead_of_cut hcut hended
      have herrors := errorsAhead_of_cut hcut
      have hsettled : (l.begin s.text rest).Settled := settled_of_not_ended hended
      rcases next_cases hcut with ⟨t, hnext, ht, he⟩ | ⟨e, hnext, ht, he⟩ | ⟨hnext, ht, he⟩
      · rw [ht] at htokens
        rw [he] at herrors
        rw [hnext]
        exact ⟨[], htokens.symm, herrors.symm, rfl, rfl, hsettled⟩
      · -- the error is reported before the pull goes on
        rw [ht] at htokens
        rw [he] at herrors
        have hstep : Consumes l [] [e] ((l.begin s.text rest).report e) :=
          ⟨htokens.symm, herrors.symm, rfl, rfl, hsettled⟩
        obtain ⟨es, hes⟩ := ih hstep.settled rfl
        rw [hnext]
        exact ⟨e :: es, hstep.trans hes⟩
      · rw [ht] at htokens
        rw [he] at herrors
        have hstep : Consumes l [] [] (l.begin s.text rest) :=
          ⟨htokens.symm, herrors.symm, rfl, rfl, hsettled⟩
        obtain ⟨es, hes⟩ := ih hsettled rfl
        rw [hnext]
        exact ⟨es, hstep.trans hes⟩

theorem Settled.consumes_take (h : l.Settled) (n : Nat) :
    ∃ es, Consumes l (take n l).1 es (take n l).2 := by
  induction n generalizing l with
  | zero => exact ⟨[], h.consumes⟩
  | succ n ih =>
      obtain ⟨es, hes⟩ := h.consumes_next
      rw [take]
      split
      · rename_i l' hl'
        rw [hl'] at hes
        exact ⟨es, hes⟩
      · rename_i t l' hl'
        rw [hl'] at hes
        obtain ⟨fs, hfs⟩ := ih hes.settled
        exact ⟨es ++ fs, hes.trans hfs⟩

/-! ### Schedules -/

/-- The ways to pull tokens. -/
inductive Pull where
  | next
  | take (n : Nat)
  | drain
  | last
  | count
deriving DecidableEq, Repr

/-- What a pull answers: a token if there is one, tokens, or how many there were. -/
inductive Answer where
  | one (t : Option Token)
  | many (ts : List Token)
  | number (n : Nat)
deriving DecidableEq, Repr

namespace Pull

/-- The answer to a pull, and the lexer after it. -/
def run (l : Lexer ρ) : Pull → Answer × Lexer ρ
  | next => (.one l.next.1, l.next.2)
  | take n => (.many (Lexer.take n l).1, (Lexer.take n l).2)
  | drain => (.many l.drain.1, l.drain.2)
  | last => (.one l.last.1, l.last.2)
  | count => (.number l.count.1, l.count.2)

/-- The tokens that a pull takes from a lexer, handed out or not, and the lexer after it. -/
def consume (l : Lexer ρ) : Pull → List Token × Lexer ρ
  | next => (l.next.1.toList, l.next.2)
  | take n => Lexer.take n l
  | drain | last | count => l.drain

/-- The answer to a pull that took these tokens. -/
def answer (ts : List Token) : Pull → Answer
  | next | last => .one ts.getLast?
  | take _ | drain => .many ts
  | count => .number ts.length

end Pull

/-- The answer to a pull is the answer for the tokens it took. -/
theorem run_eq (l : Lexer ρ) (p : Pull) :
    p.run l = (p.answer (p.consume l).1, (p.consume l).2) := by
  cases p with
  | next =>
      rw [Pull.run, Pull.consume, Pull.answer]
      cases l.next.1 <;> rfl
  | _ => rfl

/-- The tokens that the pulls of a schedule take, in order, and the lexer after them. -/
def pulls : List Pull → Lexer ρ → List Token × Lexer ρ
  | [], l => ([], l)
  | p :: ps, l =>
    let (ts, l) := p.consume l
    let (us, l) := pulls ps l
    (ts ++ us, l)

theorem Settled.consumes_pull (h : l.Settled) (p : Pull) :
    ∃ es, Consumes l (p.consume l).1 es (p.consume l).2 := by
  cases p with
  | next => exact h.consumes_next
  | take n => exact h.consumes_take n
  | drain | last | count => exact h.consumes_take _

theorem Settled.consumes_pulls (h : l.Settled) (ps : List Pull) :
    ∃ es, Consumes l (pulls ps l).1 es (pulls ps l).2 := by
  induction ps generalizing l with
  | nil => exact ⟨[], h.consumes⟩
  | cons p ps ih =>
      obtain ⟨es, hes⟩ := h.consumes_pull p
      obtain ⟨fs, hfs⟩ := ih hes.settled
      exact ⟨es ++ fs, hes.trans hfs⟩

/-! ### What is answered -/

/-- What a pull takes when these tokens are ahead. -/
def Pull.share (ts : List Token) : Pull → List Token
  | next => ts.take 1
  | take n => ts.take n
  | drain | last | count => ts

/-- The answers to the pulls of a schedule, in order, and the lexer after them. -/
def runs : List Pull → Lexer ρ → List Answer × Lexer ρ
  | [], l => ([], l)
  | p :: ps, l =>
    let (a, l) := p.run l
    let (as, l) := runs ps l
    (a :: as, l)

/-- The answers to the pulls of a schedule that takes its tokens off the front of a list. -/
def answersFrom : List Pull → List Token → List Answer
  | [], _ => []
  | p :: ps, ts => p.answer (p.share ts) :: answersFrom ps (ts.drop (p.share ts).length)

theorem isSome_next (hended : l.ended = false) : l.next.1.isSome := by
  generalize ht : l.rest = t
  induction t using ofText.induct generalizing l with
  | case1 t hcut =>
      obtain rfl : t = [] := by cases t <;> simp_all [cut]
      rw [next_of_rest_eq_nil ht, hended]
      rfl
  | case2 t s rest hcut hlt ih =>
      subst ht
      rcases next_cases hcut with ⟨t, hnext, -, -⟩ | ⟨e, hnext, -, -⟩ | ⟨hnext, -, -⟩
      · rw [hnext]
        rfl
      · rw [hnext]
        exact ih (l := (l.begin s.text rest).report e) hended rfl
      · rw [hnext]
        exact ih (l := l.begin s.text rest) hended rfl

theorem tokensAhead_of_next_eq_none (h : l.next = (none, l')) : l.tokensAhead = [] := by
  refine if_pos ?_
  by_contra hended
  have hsome := isSome_next (Bool.not_eq_true _ ▸ hended)
  rw [h] at hsome
  cases hsome

theorem Settled.take_eq_take_tokensAhead (h : l.Settled) (n : Nat) :
    (take n l).1 = l.tokensAhead.take n := by
  induction n generalizing l with
  | zero => rfl
  | succ n ih =>
      obtain ⟨es, hes⟩ := h.consumes_next
      rcases hl : l.next with ⟨_ | t, l'⟩
      · rw [take_succ_of_none hl, tokensAhead_of_next_eq_none hl]
        rfl
      · rw [hl] at hes
        rw [take_succ_of_some hl, ← hes.tokens, ih hes.settled]
        rfl

theorem Settled.drain_eq_tokensAhead (h : l.Settled) : l.drain.1 = l.tokensAhead := by
  cases hended : l.ended with
  | true => rw [drain, h.take_eq_take_tokensAhead, (h.ahead_of_ended hended).1, List.take_nil]
  | false => rw [drain, take_eq _ l (Nat.le_succ _) hended, tokensAhead, hended]; rfl

/-- A pull takes its share of what is ahead. -/
theorem Settled.consume_eq_share (h : l.Settled) (p : Pull) :
    (p.consume l).1 = p.share l.tokensAhead := by
  cases p with
  | next =>
      have hone : (take 1 l).1 = l.next.1.toList := by
        rcases hl : l.next with ⟨_ | t, l'⟩
        · rw [take_succ_of_none hl]
          rfl
        · rw [take_succ_of_some hl]
          rfl
      exact hone.symm.trans (h.take_eq_take_tokensAhead 1)
  | take n => exact h.take_eq_take_tokensAhead n
  | drain | last | count => exact h.drain_eq_tokensAhead

/-- A schedule is answered with the tokens ahead. -/
theorem Settled.runs_eq (h : l.Settled) (ps : List Pull) :
    runs ps l = (answersFrom ps l.tokensAhead, (pulls ps l).2) := by
  induction ps generalizing l with
  | nil => rfl
  | cons p ps ih =>
      obtain ⟨es, hes⟩ := h.consumes_pull p
      have hshare := h.consume_eq_share p
      have hrest : l.tokensAhead.drop (p.share l.tokensAhead).length =
          (p.consume l).2.tokensAhead := by
        rw [← hshare, ← hes.tokens, List.drop_left]
      have hrun : runs (p :: ps) l =
          ((p.run l).1 :: (runs ps (p.run l).2).1, (runs ps (p.run l).2).2) := rfl
      rw [hrun, run_eq, ih hes.settled, answersFrom, hrest, hshare]
      rfl

/-! ### After the end token -/

theorem Settled.next_of_ended (h : l.Settled) (hended : l.ended = true) : l.next = (none, l) := by
  rw [next_of_rest_eq_nil (h hended).2.1, hended, if_pos rfl, h.begin_nil hended]

theorem Settled.take_of_ended (h : l.Settled) (hended : l.ended = true) (n : Nat) :
    take n l = ([], l) := by
  cases n with
  | zero => rfl
  | succ n => exact take_succ_of_none (h.next_of_ended hended) n

/-- A lexer that gave its end token answers every pull with nothing and stays as it is. -/
theorem Settled.run_of_ended (h : l.Settled) (hended : l.ended = true) (p : Pull) :
    p.run l = (p.answer [], l) := by
  have hconsume : p.consume l = ([], l) := by
    cases p with
    | next => rw [Pull.consume, h.next_of_ended hended]; rfl
    | take n => exact h.take_of_ended hended n
    | drain | last | count => exact h.take_of_ended hended _
  rw [run_eq, hconsume]

/-- Whoever takes the end token leaves nothing ahead. -/
theorem Consumes.ended (h : Consumes l ts es l') (hl : l.ended = false) {t : Token} (ht : t ∈ ts)
    (heof : t.isEof = true) : l'.ended = true := by
  by_contra hl'
  have htokens := h.tokens
  rw [tokensAhead, tokensAhead, hl, if_neg hl', if_neg Bool.false_ne_true, ← List.append_assoc]
    at htokens
  have hinit := List.append_inj_left' htokens rfl
  have hmem := List.mem_append_left (tokensFrom l'.here (ofText l'.rest)) ht
  rw [hinit] at hmem
  rw [isEof_of_mem_tokensFrom hmem] at heof
  cases heof

/-- **Pulls agree with a whole scan, whatever their schedule.**  The tokens they take, in order, are
the first tokens of the scan, and the errors reported, in order, its first errors.  They answer what
the same pulls answer that take the tokens of the scan off the front of its list.  The scan ends
with the only end token, which is empty and stands at the end of the source.  Once that is taken,
all tokens are, all errors are reported, and every further pull gives nothing and changes nothing. -/
theorem pulls_agree {source : Text} {reporter : ρ} {ps : List Pull}
    (h : pulls ps (Lexer.new source reporter) = (ts, l)) :
    ts <+: (scan source reporter).1 ∧
      (∃ es, es <+: (Scanned.ofSource source).errors ∧ l.reporter = reportAll reporter es ∧
        l.errorCount = es.length) ∧
      runs ps (Lexer.new source reporter) = (answersFrom ps (scan source reporter).1, l) ∧
      (∃ init t, (scan source reporter).1 = init ++ [t] ∧ (∀ u ∈ init, u.isEof = false) ∧
        t.isEof = true ∧ t.lexeme = [] ∧ t.literal = .none ∧
        t.span = .point (Position.origin.after source) ∧
        t.span.start.offset = Text.byteSize source) ∧
      ((∃ t ∈ ts, t.isEof = true) →
        ts = (scan source reporter).1 ∧ l.reporter = (scan source reporter).2 ∧
          l.errorCount = (Scanned.ofSource source).errors.length ∧
          ∀ p : Pull, p.run l = (p.answer [], l)) := by
  have hnew : (Lexer.new source reporter).Settled := settled_of_not_ended rfl
  obtain ⟨es, hes⟩ := hnew.consumes_pulls ps
  have hruns := hnew.runs_eq ps
  rw [h] at hes hruns
  have htokens := hes.tokens
  have herrors := hes.errors
  have hcount : l.errorCount = es.length := hes.errorCount.trans (Nat.zero_add _)
  rw [tokensAhead_new] at htokens hruns
  rw [errorsAhead_new] at herrors
  rw [scan_eq]
  refine ⟨⟨_, htokens⟩, ⟨es, ⟨_, herrors⟩, hes.reporter, hcount⟩, hruns, ?_, ?_⟩
  · refine ⟨_, _, Scanned.ofSource_tokens source, fun u hu => isEof_of_mem_tokensFrom hu, rfl, rfl,
      rfl, rfl, ?_⟩
    exact Position.offset_origin_after source
  · rintro ⟨t, ht, heof⟩
    have hended := hes.ended rfl ht heof
    obtain ⟨hnone, hnone'⟩ := hes.settled.ahead_of_ended hended
    rw [hnone, List.append_nil] at htokens
    rw [hnone', List.append_nil] at herrors
    refine ⟨htokens, ?_, ?_, hes.settled.run_of_ended hended⟩
    · rw [← herrors]
      exact hes.reporter
    · rw [← herrors]
      exact hcount

/-- Two pulls over a stray character, a word and an open string, the second of which only counts:
it takes the end token. -/
theorem pulls_agree_count :
    ∃ (l : Lexer ErrorLog) (ts : List Token),
      pulls [.next, .count] (Lexer.new "@ a\n\"b".toList ErrorLog.empty) = (ts, l) ∧
      (∃ t ∈ ts, t.isEof = true) ∧ ts.length = 2 ∧
      runs [.next, .count] (Lexer.new "@ a\n\"b".toList ErrorLog.empty) =
        ([.one (some ⟨.identifier, ['a'], .none, 1, ⟨⟨1, 3, 2⟩, ⟨1, 4, 3⟩⟩⟩), .number 1], l) ∧
      l.reporter = ⟨#[.unexpectedCharacter 1 '@', .unterminatedString 2]⟩ ∧
      Pull.run l .last = (.one none, l) := by
  have hpulls : pulls [.next, .count] (Lexer.new "@ a\n\"b".toList ErrorLog.empty) =
      ([⟨.identifier, ['a'], .none, 1, ⟨⟨1, 3, 2⟩, ⟨1, 4, 3⟩⟩⟩, .eof ⟨2, 3, 6⟩],
        ⟨[], [], ⟨2, 3, 6⟩, ⟨2, 3, 6⟩,
          ⟨#[.unexpectedCharacter 1 '@', .unterminatedString 2]⟩, 2, true⟩) := by
    decide +kernel
  have heof : ∃ t ∈ [(⟨.identifier, ['a'], .none, 1, ⟨⟨1, 3, 2⟩, ⟨1, 4, 3⟩⟩⟩ : Token),
      .eof ⟨2, 3, 6⟩], t.isEof = true := by decide
  obtain ⟨-, -, hruns, -, hended⟩ := pulls_agree hpulls
  obtain ⟨hall, -, -, hrun⟩ := hended heof
  rw [← hall] at hruns
  exact ⟨_, _, hpulls, heof, rfl, hruns, rfl, hrun .last⟩

end Lexer
end LoxTokens
