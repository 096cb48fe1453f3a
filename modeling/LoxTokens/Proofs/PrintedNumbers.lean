import LoxTokens.Proofs.NumberForms
import LoxTokens.Proofs.NumberLiterals

/-! # Scanning printed numbers

What readers see of a number in the plain range is a lexeme: digits, a point and digits, after a minus
sign if the number has one.  The digits are those of a decimal that is read back as the number, so a
scan of the text gives one number token of the same bits, or a minus sign and the number without it
(`printed_numbers_rescan`).  Outside this range the text has an exponent, which no lexeme has. -/

namespace LoxTokens

variable {x : Binary64} {d : Decimal} {t whole fraction : Text} {ss : List Segment}

/-! ### Numbers in the plain range -/

namespace Binary64

/-- The number with the other sign. -/
def negated (x : Binary64) : Binary64 := ofMagnitude (!x.negative) x.magnitude

theorem InPlainRange.isFinite (hx : x.InPlainRange) : x.isFinite = true := by
  rw [isFinite_iff]
  obtain hzero | ⟨-, hlt⟩ := hx
  · rw [isZero_iff.1 hzero]
    decide +kernel
  · apply Magnitude.value_strictMono.lt_iff_lt.1
    calc Magnitude.value x.magnitude
        < 10 ^ 7 := hlt
      _ < 2 ^ 24 := by norm_num
      _ ≤ 2 ^ 1024 := pow_le_pow_right₀ (by norm_num) (by omega)
      _ = Magnitude.value infinityMagnitude := Magnitude.value_infinityMagnitude.symm

theorem ofMagnitude_magnitude (hx : x.isFinite = true) (hsign : x.negative = false) :
    ofMagnitude false x.magnitude = x := by
  have hle := (isFinite_iff.1 hx).le
  apply ext_magnitude
  · rw [negative_ofMagnitude false hle, hsign]
  · exact magnitude_ofMagnitude false hle

theorem InPlainRange.text_eq (hx : x.InPlainRange) :
    (Literal.number x).text = if x.negative then '-' :: (Magnitude.shortest .up x.magnitude).plain
      else (Magnitude.shortest .up x.magnitude).plain := by
  have htext := Json.text_eq_of_isFinite .display hx.isFinite
  have hplain := (inPlainRange_iff hx.isFinite).1 hx
  exact htext.trans (congrArg (fun u : Text => if x.negative then '-' :: u else u) (if_pos hplain))

end Binary64

/-- Digits around a point have the value of the decimal they are the plain form of. -/
theorem Decimal.PlainParts.value_ofParts (h : d.PlainParts whole fraction) :
    (Decimal.ofParts whole fraction).value = d.value := by
  obtain ⟨k, hdigits, hexponent⟩ := h.value
  have hshift : d.exponent + fraction.length = k + 0 := by omega
  have hvalue := Decimal.value_ofParts_shift hdigits hshift
  simpa [Decimal.shift] using hvalue

/-! ### The segment of a plain decimal -/

namespace Segment

theorem fits_number (h : d.PlainParts whole fraction) : (number whole fraction).Fits [] :=
  ⟨⟨h.whole_ne_nil, h.whole_digits, h.fraction_digits⟩, complete_nil _⟩

theorem text_number (h : d.PlainParts whole fraction) :
    (number whole fraction).text = whole ++ '.' :: fraction := by
  obtain ⟨c, fraction, rfl⟩ := List.exists_cons_of_ne_nil h.fraction_ne_nil
  rfl

/-- The plain form of a finite number's shortest decimal is a lexeme, and it is read as that
number. -/
theorem exists_number_plain (hx : x.isFinite = true) :
    ∃ whole fraction, (number whole fraction).Fits [] ∧
      (number whole fraction).text = (Magnitude.shortest .up x.magnitude).plain ∧
      (Decimal.ofParts whole fraction).round = x.magnitude := by
  obtain ⟨whole, fraction, htext, hplain⟩ := (Magnitude.shortest .up x.magnitude).exists_plain
  refine ⟨whole, fraction, fits_number hplain, ?_, ?_⟩
  · rw [text_number hplain, htext]
  · have hround := Decimal.roundsTo_round (Decimal.ofParts whole fraction)
    rw [hplain.value_ofParts] at hround
    exact hround.unique (Magnitude.roundsTo_shortest .up (Binary64.isFinite_iff.1 hx))

end Segment

open Segment

theorem Scanned.ofSource_of_cutting (h : Cutting ss t) :
    Scanned.ofSource t =
      ⟨tokensFrom .origin ss ++ [.eof (Position.origin.after t)], errorsFrom .origin ss⟩ := by
  rw [← cutting_iff.1 h, ← Scanned.ofSource_tokens, ← Scanned.ofSource_errors]

theorem line_after_number (hx : x.isFinite = true) :
    (Position.origin.after (Literal.number x).text).line = 1 := by
  rw [Position.line_origin_after, Nat.add_eq_right, List.count_eq_zero]
  intro hnewline
  have hshown : '\n' ∈ x.text .display := hnewline
  have hchar := Json.isNumberChar_of_mem_text (.inr rfl) hx _ hshown
  cases hchar

/-! ### Scans -/

theorem ofSource_text (hx : x.InPlainRange) (hsign : x.negative = false) :
    Scanned.ofSource (Literal.number x).text =
      ⟨[⟨.number, (Literal.number x).text, .number x, 1,
          ⟨.origin, Position.origin.after (Literal.number x).text⟩⟩,
        .eof (Position.origin.after (Literal.number x).text)], []⟩ := by
  obtain ⟨whole, fraction, hfits, htext, hround⟩ := exists_number_plain hx.isFinite
  have hline := line_after_number hx.isFinite
  have hplain := hx.text_eq
  rw [hsign, if_neg Bool.false_ne_true, ← htext] at hplain
  rw [hplain] at hline ⊢
  have hcutting : Cutting [number whole fraction] ((number whole fraction).text ++ []) :=
    .cons hfits .nil
  rw [List.append_nil] at hcutting
  rw [Scanned.ofSource_of_cutting hcutting]
  simp [tokensFrom, errorsFrom, located, token?, content?, error?, hround, hline,
    Binary64.ofMagnitude_magnitude hx.isFinite hsign]

theorem ofSource_minus_text (hx : x.InPlainRange) (hsign : x.negative = true) :
    ∃ digits, (Literal.number x).text = '-' :: digits ∧
      Scanned.ofSource (Literal.number x).text =
        ⟨[⟨.operator .minus, ['-'], .none, 1, ⟨.origin, Position.origin.after ['-']⟩⟩,
          ⟨.number, digits, .number x.negated, 1, ⟨Position.origin.after ['-'],
            Position.origin.after (Literal.number x).text⟩⟩,
          .eof (Position.origin.after (Literal.number x).text)], []⟩ := by
  obtain ⟨whole, fraction, hfits, htext, hround⟩ := exists_number_plain hx.isFinite
  have hline := line_after_number hx.isFinite
  have hplain := hx.text_eq
  rw [hsign, if_pos rfl, ← htext] at hplain
  refine ⟨(number whole fraction).text, hplain, ?_⟩
  rw [hplain] at hline ⊢
  -- a minus sign is complete before everything
  have hminus : (operator .minus).Fits ((number whole fraction).text ++ []) :=
    ⟨trivial, by simp [Complete]⟩
  have hcutting := Cutting.cons hminus (.cons hfits .nil)
  rw [List.append_nil] at hcutting
  have htext' : (operator .minus).text ++ (number whole fraction).text =
      '-' :: (number whole fraction).text := rfl
  have hnegated : x.negated = .ofMagnitude false x.magnitude := by
    unfold Binary64.negated
    rw [hsign]
    rfl
  rw [htext'] at hcutting
  rw [Scanned.ofSource_of_cutting hcutting, hnegated]
  have hfirst : (operator .minus).text = ['-'] := rfl
  have hfirstLine : (Position.origin.step '-').line = 1 := rfl
  rw [Position.after_cons] at hline
  simp [tokensFrom, errorsFrom, located, token?, content?, error?, hround, hline, hfirst,
    hfirstLine]

/-- **Printed numbers are scanned as themselves.**  In the plain range a number without a sign is
printed as one number token of its bits; with one, it is printed as a minus sign and the number token
of the number without it.  So a scanned number that is printed and scanned again is printed as the
same text. -/
theorem printed_numbers_rescan (x : Binary64) (hx : x.InPlainRange) :
    (x.negative = false →
      Scanned.ofSource (Literal.number x).text =
        ⟨[⟨.number, (Literal.number x).text, .number x, 1,
            ⟨.origin, Position.origin.after (Literal.number x).text⟩⟩,
          .eof (Position.origin.after (Literal.number x).text)], []⟩) ∧
    (x.negative = true →
      ∃ digits, (Literal.number x).text = '-' :: digits ∧
        Scanned.ofSource (Literal.number x).text =
          ⟨[⟨.operator .minus, ['-'], .none, 1, ⟨.origin, Position.origin.after ['-']⟩⟩,
            ⟨.number, digits, .number x.negated, 1, ⟨Position.origin.after ['-'],
              Position.origin.after (Literal.number x).text⟩⟩,
            .eof (Position.origin.after (Literal.number x).text)], []⟩) ∧
    ∀ source, ∀ t ∈ (Scanned.ofSource source).tokens, t.kind = .number → t.literal = .number x →
      (Scanned.ofSource t.literal.text).errors = [] ∧
        (Scanned.ofSource t.literal.text).beforeEnd.map (fun u => (u.kind, u.literal.text)) =
          [(.number, t.literal.text)] := by
  refine ⟨ofSource_text hx, ofSource_minus_text hx, ?_⟩
  intro source t ht hkind hliteral
  obtain ⟨d, -, hread⟩ := exists_number_of_mem_tokens ht hkind
  have hsign : x.negative = false := by
    rw [Literal.number.inj (hliteral.symm.trans hread)]
    exact Binary64.negative_ofMagnitude false d.roundsTo_round.le_infinity
  rw [hliteral, ofSource_text hx hsign]
  exact ⟨rfl, rfl⟩

/-- The least number in the plain range, with a sign, and the greatest one, which is scanned from
more digits than it is printed with. -/
theorem printed_numbers_rescan_bounds :
    (∃ digits, (Literal.number ⟨0xBF50624DD2F1A9FC⟩).text = '-' :: digits ∧
      Scanned.ofSource "-0.001".toList =
        ⟨[⟨.operator .minus, ['-'], .none, 1, ⟨⟨1, 1, 0⟩, ⟨1, 2, 1⟩⟩⟩,
          ⟨.number, digits, .number ⟨0x3F50624DD2F1A9FC⟩, 1, ⟨⟨1, 2, 1⟩, ⟨1, 7, 6⟩⟩⟩,
          .eof ⟨1, 7, 6⟩], []⟩) ∧
    (Scanned.ofSource "9999999.999999998".toList).errors = [] ∧
    ∃ t ∈ (Scanned.ofSource "(09999999.99999999813735485".toList).tokens,
      t.literal = .number ⟨0x416312CFFFFFFFFF⟩ ∧
        (Scanned.ofSource t.literal.text).beforeEnd.map (fun u => (u.kind, u.literal.text)) =
          [(.number, "9999999.999999998".toList)] := by
  have hrange : ∀ x : Binary64, Decimal.round ⟨1, -3⟩ ≤ x.magnitude →
      x.magnitude < Decimal.round ⟨1, 7⟩ → x.InPlainRange := by
    intro x hlow hhigh
    refine .inr ⟨Magnitude.thousandth_le_value_iff.2 hlow, ?_⟩
    rw [← not_le, Magnitude.tenMillion_le_value_iff]
    omega
  have hleast : Binary64.InPlainRange ⟨0xBF50624DD2F1A9FC⟩ :=
    hrange _ (by decide +kernel) (by decide +kernel)
  have hgreatest : Binary64.InPlainRange ⟨0x416312CFFFFFFFFF⟩ :=
    hrange _ (by decide +kernel) (by decide +kernel)
  have hshown : (Literal.number ⟨0xBF50624DD2F1A9FC⟩).text = "-0.001".toList := by decide +kernel
  have hshown' : (Literal.number ⟨0x416312CFFFFFFFFF⟩).text = "9999999.999999998".toList := by
    decide +kernel
  have hmem : (⟨.number, "09999999.99999999813735485".toList, .number ⟨0x416312CFFFFFFFFF⟩, 1,
      ⟨⟨1, 2, 1⟩, ⟨1, 28, 27⟩⟩⟩ : Token) ∈
        (Scanned.ofSource "(09999999.99999999813735485".toList).tokens := by
    decide +kernel
  have hnegated : Binary64.negated ⟨0xBF50624DD2F1A9FC⟩ = ⟨0x3F50624DD2F1A9FC⟩ := by decide +kernel
  obtain ⟨-, hminus, -⟩ := printed_numbers_rescan _ hleast
  obtain ⟨-, -, hagain⟩ := printed_numbers_rescan _ hgreatest
  obtain ⟨digits, hdigits, hscan⟩ := hminus (by decide +kernel)
  obtain ⟨herrors, htokens⟩ := hagain _ _ hmem rfl rfl
  rw [hshown, hnegated] at hscan
  dsimp only at herrors htokens
  rw [hshown'] at herrors htokens
  exact ⟨⟨digits, hdigits, hscan⟩, herrors, _, hmem, rfl, by dsimp only; rw [hshown']; exact htokens⟩

end LoxTokens
