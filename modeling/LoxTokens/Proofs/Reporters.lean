import LoxTokens.Proofs.LexerPlaces
import LoxTokens.Proofs.PullSchedules

/-! # Scans and their reporters

A lexer tells its reporter what is wrong and never asks it anything.  So a lexer over any reporter
does what a lexer over an empty log does: it gives the same answers, stands at the same places and
counts the same errors, and its reporter is told, in order, what the log holds.  `retold` is that
lexer; every call on it leads to another such lexer (`reply_retold`), and so do calls one after the
other (`steps_retold`). -/

namespace LoxTokens

namespace Lexer

open Segment

variable {ρ : Type}

/-- All that is seen of a lexer: everything but its reporter. -/
def seen (l : Lexer ρ) : Lexer Unit :=
  ⟨l.lexeme, l.rest, l.start, l.here, (), l.errorCount, l.ended⟩

variable [Reporter ρ]

/-- The answer to a call and the lexer after it; `none` means that the call fails. -/
def Call.reply (l : Lexer ρ) : Call → Option (Answer × Lexer ρ)
  | next => some (Pull.next.run l)
  | take n => some ((Pull.take n).run l)
  | drain => some (Pull.drain.run l)
  | last => some (Pull.last.run l)
  | count => some (Pull.count.run l)
  | scanString => l.scanString.map fun (t, l) => (.one t, l)
  | scanNumber => l.scanNumber.map fun (t, l) => (.one (some t), l)

/-- The answers to calls one after the other, with the lexer after each, up to the first call that
fails. -/
def steps : List Call → Lexer ρ → List (Answer × Lexer ρ)
  | [], _ => []
  | c :: cs, l =>
    match c.reply l with
    | none => []
    | some (a, l) => (a, l) :: steps cs l

/-- The lexer over `r` that did what a lexer over a log did.  Its reporter was told what the log
holds, and it counts that many errors. -/
def retold (r : ρ) (m : Lexer ErrorLog) : Lexer ρ where
  lexeme := m.lexeme
  rest := m.rest
  start := m.start
  here := m.here
  reporter := reportAll r m.reporter.errors.toList
  errorCount := m.reporter.errors.size
  ended := m.ended

theorem retold_new (source : Text) (r : ρ) :
    Lexer.new source r = retold r (Lexer.new source ErrorLog.empty) := rfl

theorem retold_begin (r : ρ) (m : Lexer ErrorLog) (text rest : Text) :
    (retold r m).begin text rest = retold r (m.begin text rest) := rfl

theorem retold_extend (r : ρ) (m : Lexer ErrorLog) (text rest : Text) :
    (retold r m).extend text rest = retold r (m.extend text rest) := rfl

theorem reportAll_push (r : ρ) (log : ErrorLog) (e : LexError) :
    reportAll r (Reporter.report log e).errors.toList =
      Reporter.report (reportAll r log.errors.toList) e := by
  have hlist : (Reporter.report log e).errors.toList = log.errors.toList ++ [e] :=
    Array.toList_push
  rw [hlist, reportAll, List.foldl_append]
  rfl

/-- A report to the one lexer is a report to the other. -/
theorem retold_report (r : ρ) (m : Lexer ErrorLog) (e : LexError) :
    (retold r m).report e = retold r (m.report e) := by
  have hreporter := reportAll_push r m.reporter e
  have hsize : (Reporter.report m.reporter e).errors.size = m.reporter.errors.size + 1 :=
    Array.size_push e
  simp only [retold, report, hreporter, hsize]

/-! ### Calls -/

theorem next_retold (r : ρ) (m : Lexer ErrorLog) :
    (retold r m).next = (m.next.1, retold r m.next.2) := by
  generalize ht : m.rest = t
  induction t using ofText.induct generalizing m with
  | case1 t hcut =>
      obtain rfl : t = [] := by cases t <;> simp_all [cut]
      have hrest : (retold r m).rest = [] := ht
      rw [next_of_rest_eq_nil hrest, next_of_rest_eq_nil ht]
      cases hended : m.ended with
      | true =>
          have hended' : (retold r m).ended = true := hended
          rw [hended', if_pos rfl, if_pos rfl, retold_begin]
      | false =>
          have hended' : (retold r m).ended = false := hended
          rw [hended', if_neg Bool.false_ne_true, if_neg Bool.false_ne_true, retold_begin]
          rfl
  | case2 t s rest hcut hlt ih =>
      subst ht
      have hcut' : cut (retold r m).rest = some (s, rest) := hcut
      rw [next_of_cut hcut', next_of_cut hcut, retold_begin]
      have hspan : (retold r (m.begin s.text rest)).span = (m.begin s.text rest).span := rfl
      rw [hspan]
      cases s.event? (m.begin s.text rest).span with
      | none => exact ih (m.begin s.text rest) rfl
      | some event =>
          cases event with
          | token t => rfl
          | error e =>
              simp only [retold_report]
              exact ih ((m.begin s.text rest).report e) rfl

theorem take_retold (r : ρ) (n : Nat) (m : Lexer ErrorLog) :
    take n (retold r m) = ((take n m).1, retold r (take n m).2) := by
  induction n generalizing m with
  | zero => rfl
  | succ n ih =>
      have hnext := next_retold r m
      rcases hm : m.next with ⟨_ | t, m'⟩
      · rw [hm] at hnext
        rw [take_succ_of_none hnext, take_succ_of_none hm]
      · rw [hm] at hnext
        rw [take_succ_of_some hnext, take_succ_of_some hm, ih]

theorem drain_retold (r : ρ) (m : Lexer ErrorLog) :
    (retold r m).drain = (m.drain.1, retold r m.drain.2) :=
  take_retold r _ m

theorem pull_retold (r : ρ) (m : Lexer ErrorLog) (p : Pull) :
    p.run (retold r m) = ((p.run m).1, retold r (p.run m).2) := by
  have hconsume : p.consume (retold r m) = ((p.consume m).1, retold r (p.consume m).2) := by
    cases p with
    | next => rw [Pull.consume, next_retold]; rfl
    | take n => exact take_retold r n m
    | drain | last | count => exact drain_retold r m
  rw [run_eq, run_eq, hconsume]

theorem scanString_retold (r : ρ) (m : Lexer ErrorLog) :
    (retold r m).scanString = m.scanString.map fun (t, m) => (t, retold r m) := by
  have hrest : (retold r m).rest = m.rest := rfl
  rw [scanString, scanString, hrest]
  cases m.rest.dropWhile (· != '"') with
  | nil =>
      simp only [retold_extend, retold_report]
      rfl
  | cons quote rest =>
      simp only [retold_extend, Option.map_map]
      rfl

theorem scanNumber_retold (r : ρ) (m : Lexer ErrorLog) :
    (retold r m).scanNumber = m.scanNumber.map fun (t, m) => (t, retold r m) := by
  have hrest : (retold r m).rest = m.rest := rfl
  rw [scanNumber, scanNumber, hrest]
  simp only [retold_extend, Option.map_map]
  rfl

theorem reply_retold (r : ρ) (m : Lexer ErrorLog) (c : Call) :
    c.reply (retold r m) = (c.reply m).map fun (a, m) => (a, retold r m) := by
  cases c with
  | scanString =>
      rw [Call.reply, scanString_retold, Call.reply, Option.map_map, Option.map_map]
      rfl
  | scanNumber =>
      rw [Call.reply, scanNumber_retold, Call.reply, Option.map_map, Option.map_map]
      rfl
  | next | take | drain | last | count => exact congrArg some (pull_retold r m _)

theorem steps_retold (r : ρ) (cs : List Call) (m : Lexer ErrorLog) :
    steps cs (retold r m) = (steps cs m).map fun (a, m) => (a, retold r m) := by
  induction cs generalizing m with
  | nil => rfl
  | cons c cs ih =>
      rw [steps, steps, reply_retold]
      cases c.reply m with
      | none => rfl
      | some x =>
          simp only [Option.map_some, List.map_cons, ih]

/-! ### Any reporter -/

theorem seen_steps (source : Text) (r : ρ) (calls : List Call) :
    (steps calls (Lexer.new source r)).map (fun x => (x.1, x.2.seen)) =
      (steps calls (Lexer.new source ErrorLog.empty)).map (fun x => (x.1, x.2.seen)) := by
  have hany : ∀ {σ : Type} [Reporter σ] (r : σ),
      (steps calls (Lexer.new source r)).map (fun x => (x.1, x.2.seen)) =
        (steps calls (Lexer.new source ErrorLog.empty)).map
          (fun x => (x.1, (retold ErrorLog.empty x.2).seen)) := by
    intro σ _ r
    rw [retold_new, steps_retold, List.map_map]
    rfl
  exact (hany r).trans (hany ErrorLog.empty).symm

theorem exists_log_of_steps {source : Text} {r : ρ} {calls : List Call} {i : Nat} {a : Answer}
    {l : Lexer ρ} (h : (steps calls (Lexer.new source r))[i]? = some (a, l)) :
    ∃ m, (steps calls (Lexer.new source ErrorLog.empty))[i]? = some (a, m) ∧ l = retold r m := by
  rw [retold_new, steps_retold, List.getElem?_map] at h
  obtain ⟨⟨b, m⟩, hm, heq⟩ := Option.map_eq_some_iff.1 h
  obtain ⟨rfl, rfl⟩ := Prod.mk.inj heq
  exact ⟨m, hm, rfl⟩

end Lexer

/-- What is reported to a reporter that is held for a lexer is reported to it. -/
theorem reportAll_held {ρ : Type} [Reporter ρ] (r : ρ) (errors : List LexError) :
    reportAll (⟨r⟩ : Held ρ) errors = ⟨reportAll r errors⟩ := by
  induction errors generalizing r with
  | nil => rfl
  | cons e errors ih => exact ih (Reporter.report r e)

namespace Lexer

variable {ρ : Type} [Reporter ρ]

/-- **A scan does not depend on its reporter.**  Whatever is called on a lexer over some reporter, it
answers as a lexer over an empty log does and looks the same after each call.  At that moment its
reporter has been told what the log holds, in order, and its count is the number of these errors.
Pulls report the errors of the source from the first on, each once, and all of them once the end token
is taken; a whole scan therefore leaves the reporter told of all errors of the source, and so does one
whose reporter is held for it. -/
theorem scan_regardless_of_reporter (source : Text) (r : ρ) :
    (∀ calls : List Call,
      (steps calls (Lexer.new source r)).map (fun x => (x.1, x.2.seen)) =
        (steps calls (Lexer.new source ErrorLog.empty)).map (fun x => (x.1, x.2.seen))) ∧
    (∀ (calls : List Call) (i : Nat) (a : Answer) (l : Lexer ρ),
      (steps calls (Lexer.new source r))[i]? = some (a, l) →
        ∃ m, (steps calls (Lexer.new source ErrorLog.empty))[i]? = some (a, m) ∧
          l.reporter = reportAll r m.reporter.errors.toList ∧
          l.errorCount = m.reporter.errors.size) ∧
    (∀ (ps : List Pull) (ts : List Token) (l : Lexer ρ), pulls ps (Lexer.new source r) = (ts, l) →
      ∃ es, es <+: (Scanned.ofSource source).errors ∧ l.reporter = reportAll r es ∧
        l.errorCount = es.length ∧
        ((∃ t ∈ ts, t.isEof = true) → es = (Scanned.ofSource source).errors)) ∧
    scan source r =
      ((Scanned.ofSource source).tokens, reportAll r (Scanned.ofSource source).errors) ∧
    scan source (⟨r⟩ : Held ρ) =
      ((Scanned.ofSource source).tokens, ⟨reportAll r (Scanned.ofSource source).errors⟩) := by
  refine ⟨seen_steps source r, ?_, ?_, scan_eq source r, ?_⟩
  · intro calls i a l h
    obtain ⟨m, hm, rfl⟩ := exists_log_of_steps h
    exact ⟨m, hm, rfl, rfl⟩
  · intro ps ts l h
    have hnew : (Lexer.new source r).Settled := settled_of_not_ended rfl
    obtain ⟨es, hes⟩ := hnew.consumes_pulls ps
    rw [h] at hes
    have herrors := hes.errors
    rw [errorsAhead_new] at herrors
    refine ⟨es, ⟨_, herrors⟩, hes.reporter, hes.errorCount.trans (Nat.zero_add _), ?_⟩
    rintro ⟨t, ht, heof⟩
    obtain ⟨-, hnone⟩ := hes.settled.ahead_of_ended (hes.ended rfl ht heof)
    rw [hnone, List.append_nil] at herrors
    exact herrors
  · rw [scan_eq, reportAll_held]

/-- A writer on loan that has counted a report before and takes ten more bytes: a pull past a stray
character cuts the line it writes short, and a direct scan for a string finds none.  Both errors
count, for the lexer and for the writer. -/
theorem scan_regardless_of_reporter_full_sink :
    ∃ (writer : Held ErrorWriter) (l : Lexer (Held ErrorWriter)) (m : Lexer ErrorLog),
      writer = ⟨⟨.limited (some 10), 1⟩⟩ ∧
      (steps [.next, .scanString] (Lexer.new "@a b".toList writer))[1]? = some (.one none, l) ∧
      (steps [.next, .scanString] (Lexer.new "@a b".toList ErrorLog.empty))[1]? =
        some (.one none, m) ∧
      m.reporter.errors = #[.unexpectedCharacter 1 '@', .unterminatedString 1] ∧
      l.reporter = reportAll writer [.unexpectedCharacter 1 '@', .unterminatedString 1] ∧
      l.reporter.reporter.count = 3 ∧
      l.reporter.reporter.sink.written.toList = Text.utf8 "[line 1] E".toList ∧
      l.errorCount = 2 := by
  let writer : Held ErrorWriter := ⟨⟨.limited (some 10), 1⟩⟩
  have hlast : (steps [.next, .scanString] (Lexer.new "@a b".toList writer))[1]? =
      some (.one none, ⟨"a b".toList, [], ⟨1, 2, 1⟩, ⟨1, 5, 4⟩,
        ⟨⟨⟨(Text.utf8 "[line 1] E".toList).toArray, some 0⟩, 3⟩⟩, 2, false⟩) := by
    decide +kernel
  obtain ⟨-, htold, -⟩ := scan_regardless_of_reporter "@a b".toList writer
  obtain ⟨m, hm, hreporter, -⟩ := htold _ _ _ _ hlast
  have hlog : (steps [.next, .scanString] (Lexer.new "@a b".toList ErrorLog.empty))[1]? =
      some (.one none, ⟨"a b".toList, [], ⟨1, 2, 1⟩, ⟨1, 5, 4⟩,
        ⟨#[.unexpectedCharacter 1 '@', .unterminatedString 1]⟩, 2, false⟩) := by
    decide +kernel
  rw [hlog] at hm
  obtain ⟨-, rfl⟩ := Prod.mk.inj (Option.some.inj hm)
  exact ⟨writer, _, _, rfl, hlast, hlog, rfl, hreporter, rfl, rfl, rfl⟩

end Lexer
end LoxTokens
