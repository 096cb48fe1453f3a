import LoxTokens.Proofs.FewestDigits
import LoxTokens.Proofs.NumberTexts
import LoxTokens.Proofs.TokenJson

/-! # The two texts of a number

A finite number has a text for readers and one in JSON.  Readers see it plainly from one thousandth
up to below ten million, which is told by its first digit (`le_value_shortest_iff`), and otherwise
with an exponent.  Both texts denote a decimal with the fewest digits that is read back as the
number, and they denote the same one unless the number is halfway between two of these
(`number_texts`). -/

namespace LoxTokens

variable {a : Decimal} {m : Nat} {p : Int} {t : Text}

/-! ### Forms -/

/-- Digits, a point and digits. -/
inductive PlainForm : Text → Prop
  | mk {ds fs : Text} : IsDigits ds → IsDigits fs → PlainForm (ds ++ '.' :: fs)

/-- One digit that is not zero, a point, digits, and after `E` an exponent that has no plus sign and
does not begin with zero. -/
inductive ExponentForm : Text → Prop
  | mk {c : Char} {fs s ds : Text} : c.isDigit = true → c ≠ '0' → IsDigits fs → s = [] ∨ s = ['-'] →
      IsDigits ds → ds.head? ≠ some '0' → ExponentForm (c :: '.' :: (fs ++ 'E' :: (s ++ ds)))

theorem PlainForm.not_exponentForm (h : PlainForm t) : ¬ ExponentForm t := by
  have hE : 'E' ∉ t := by
    cases h with
    | mk hds hfs =>
        intro hmem
        simp only [List.mem_append, List.mem_cons] at hmem
        rcases hmem with hmem | hmem | hmem
        · cases hds.2 'E' hmem
        · cases hmem
        · cases hfs.2 'E' hmem
  intro h'
  cases h' with
  | mk => exact hE (by simp)

theorem isDigits_ofNat (n : Nat) : IsDigits (Text.ofNat n) :=
  ⟨ofNat_ne_nil n, isDigit_of_mem_ofNat n⟩

theorem plainForm_plain (d : Decimal) : PlainForm d.plain := by
  obtain ⟨whole, fraction, htext, hplain⟩ := d.exists_plain
  rw [htext]
  exact .mk ⟨hplain.whole_ne_nil, hplain.whole_digits⟩
    ⟨hplain.fraction_ne_nil, hplain.fraction_digits⟩

theorem exists_ofInt {e : Int} (he : e ≠ 0) :
    ∃ s ds, Text.ofInt e = s ++ ds ∧ (s = [] ∨ s = ['-']) ∧ IsDigits ds ∧ ds.head? ≠ some '0' := by
  have hhead : (Text.ofNat e.natAbs).head? ≠ some '0' := head?_ofNat (by omega)
  rw [Text.ofInt]
  split
  · exact ⟨['-'], _, rfl, .inr rfl, isDigits_ofNat _, hhead⟩
  · exact ⟨[], _, rfl, .inl rfl, isDigits_ofNat _, hhead⟩

theorem exponentForm_scientific (hdigits : 0 < a.digits) (hleading : a.leadingExponent ≠ 0) :
    ExponentForm (a.scientific .display) := by
  obtain ⟨s, ds, hexponent, hs, hds, hhead⟩ := exists_ofInt hleading
  obtain ⟨c, t, htext⟩ := List.exists_cons_of_ne_nil (ofNat_ne_nil a.digits)
  have hct : ∀ b ∈ c :: t, b.isDigit = true := htext ▸ isDigit_of_mem_ofNat a.digits
  have hzero : c ≠ '0' := by
    rintro rfl
    exact head?_ofNat hdigits (by rw [htext]; rfl)
  have hplus : NumberLayout.display.plusSign = false := rfl
  have hmark : NumberLayout.display.exponentMark = 'E' := rfl
  have hpointZero : NumberLayout.display.pointZero = true := rfl
  have hpoint : ".0".toList = '.' :: ['0'] := rfl
  rw [Decimal.scientific, htext, hplus, hmark, hpointZero, hpoint]
  simp only [Bool.false_and, Bool.false_eq_true, if_false, if_true, hexponent, List.take_succ_cons,
    List.take_zero, List.drop_succ_cons, List.drop_zero]
  cases t with
  | nil => exact .mk (hct c List.mem_cons_self) hzero (isDigits_iff.1 rfl) hs hds hhead
  | cons b t =>
      have hfraction : IsDigits (b :: t) :=
        ⟨List.cons_ne_nil b t, fun x hx => hct x (List.mem_cons_of_mem c hx)⟩
      exact .mk (hct c List.mem_cons_self) hzero hfraction hs hds hhead

/-! ### The first digit -/

namespace Decimal

theorem zpow_leadingExponent_le (hdigits : 0 < a.digits) :
    (10 : ℚ) ^ a.leadingExponent ≤ a.value := by
  have hlength : (tenTo (Text.ofNat a.digits).length : ℚ) ≤ 10 * a.digits := by
    exact_mod_cast tenTo_length_le hdigits
  rw [natCast_tenTo] at hlength
  rw [leadingExponent, value, zpow_sub₀ (by norm_num), zpow_one, zpow_add₀ (by norm_num),
    div_le_iff₀ (by norm_num), mul_comm]
  calc (10 : ℚ) ^ ((Text.ofNat a.digits).length : ℤ) * 10 ^ a.exponent
      ≤ 10 * a.digits * 10 ^ a.exponent := by gcongr
    _ = a.digits * 10 ^ a.exponent * 10 := by ring

theorem value_lt_zpow_leadingExponent (a : Decimal) : a.value < 10 ^ (a.leadingExponent + 1) := by
  have hlength : (a.digits : ℚ) < tenTo (Text.ofNat a.digits).length :=
    Nat.cast_lt.2 (lt_tenTo_length a.digits)
  rw [natCast_tenTo] at hlength
  rw [leadingExponent, value, sub_add_cancel, zpow_add₀ (by norm_num), mul_comm]
  gcongr

/-- The first digit tells the powers of ten that a decimal reaches. -/
theorem le_leadingExponent_iff (hdigits : 0 < a.digits) :
    p ≤ a.leadingExponent ↔ (10 : ℚ) ^ p ≤ a.value := by
  constructor
  · intro hle
    exact (zpow_le_zpow_right₀ (by norm_num) hle).trans (zpow_leadingExponent_le hdigits)
  · intro hle
    have hlt := hle.trans_lt a.value_lt_zpow_leadingExponent
    have hexponent := (zpow_lt_zpow_iff_right₀ (by norm_num : (1 : ℚ) < 10)).1 hlt
    omega

end Decimal

namespace Magnitude

/-- The shortest decimal reaches a power of ten where the magnitude reaches what that rounds to. -/
theorem le_value_shortest_iff (tie : Tie) (hpos : 0 < m) (hm : m < infinityMagnitude) (p : Int) :
    (10 : ℚ) ^ p ≤ (shortest tie m).value ↔ Decimal.round ⟨1, p⟩ ≤ m := by
  have hpower : Decimal.value ⟨1, p⟩ = 10 ^ p := by rw [Decimal.value, Nat.cast_one, one_mul]
  have hround := Decimal.roundsTo_round ⟨1, p⟩
  have hshort := roundsTo_shortest tie hm
  constructor
  · intro hle
    exact hround.mono hshort (hpower.trans_le hle)
  · intro hle
    rcases hle.eq_or_lt with heq | hlt
    · -- the power itself rounds to the magnitude, so the shortest decimal is a multiple of it
      rw [heq] at hround
      have hexponent := exponent_le_shortest tie hpos hm hround
      exact (zpow_le_zpow_right₀ (by norm_num) hexponent).trans
        (zpow_le_value (digits_pos_of_roundsTo hshort hpos))
    · by_contra hbelow
      rw [not_le, ← hpower] at hbelow
      exact absurd (hshort.mono hround hbelow.le) hlt.not_ge

theorem le_value_iff {k : Nat} {q : ℚ} (hbelow : value k < q) (hle : q ≤ value (k + 1)) :
    q ≤ value m ↔ k + 1 ≤ m := by
  constructor
  · intro h
    exact value_strictMono.lt_iff_lt.1 (hbelow.trans_le h)
  · intro h
    exact hle.trans (value_strictMono.monotone h)

theorem thousandth_le_value_iff : 1 / 1000 ≤ value m ↔ Decimal.round ⟨1, -3⟩ ≤ m := by
  have hround : Decimal.round ⟨1, -3⟩ = twoTo 52 * (1012 + 1) + 0x0624DD2F1A9FB + 1 := by
    decide +kernel
  rw [hround]
  refine le_value_iff ?_ ?_
  · rw [value_binade 1012 (by decide +kernel), twoTo_52]
    norm_num
  · rw [Nat.add_assoc, value_binade 1012 (by decide +kernel), twoTo_52]
    norm_num

theorem tenMillion_le_value_iff : 10 ^ 7 ≤ value m ↔ Decimal.round ⟨1, 7⟩ ≤ m := by
  have hround : Decimal.round ⟨1, 7⟩ = twoTo 52 * (1045 + 1) + 0x312CFFFFFFFFF + 1 := by
    decide +kernel
  rw [hround]
  refine le_value_iff ?_ ?_
  · rw [value_binade 1045 (by decide +kernel), twoTo_52]
    norm_num
  · rw [Nat.add_assoc, value_binade 1045 (by decide +kernel), twoTo_52]
    norm_num

theorem plain_range_iff (hpos : 0 < m) (hm : m < infinityMagnitude) :
    (-3 ≤ (shortest .up m).leadingExponent ∧ (shortest .up m).leadingExponent ≤ 6) ↔
      1 / 1000 ≤ value m ∧ value m < 10 ^ 7 := by
  have hdigits := digits_pos_of_roundsTo (roundsTo_shortest .up hm) hpos
  have hlow : -3 ≤ (shortest .up m).leadingExponent ↔ 1 / 1000 ≤ value m := by
    rw [Decimal.le_leadingExponent_iff hdigits, le_value_shortest_iff .up hpos hm,
      thousandth_le_value_iff]
  have hhigh : 7 ≤ (shortest .up m).leadingExponent ↔ 10 ^ 7 ≤ value m := by
    rw [Decimal.le_leadingExponent_iff hdigits, le_value_shortest_iff .up hpos hm,
      tenMillion_le_value_iff]
  rw [hlow, ← not_le, ← hhigh]
  refine and_congr_right fun _ => ?_
  omega

end Magnitude

/-! ### The texts of a number -/

/-- The whole text is a number with this sign and this value. -/
def Denotes (t : Text) (negative : Bool) (q : ℚ) : Prop :=
  Json.number? t = some (.number negative q, [])

theorem Denotes.unique {negative negative' : Bool} {q q' : ℚ} (h : Denotes t negative q)
    (h' : Denotes t negative' q') : q = q' := by
  have heq := (Prod.mk.inj (Option.some.inj (h.symm.trans h'))).1
  exact (JsonValue.number.inj heq).2

/-- `q` is a decimal of at most `n` digits; zeros at either end of them do not count. -/
def HasDigits (n : Nat) (q : ℚ) : Prop := ∃ d : Decimal, d.digits < 10 ^ n ∧ d.value = q

/-- Zero, and what lies from one thousandth up to below ten million. -/
def Binary64.InPlainRange (x : Binary64) : Prop :=
  x.isZero = true ∨
    1 / 1000 ≤ Magnitude.value x.magnitude ∧ Magnitude.value x.magnitude < 10 ^ 7

/-- What the texts of a number are.  Readers see the number `shown`, and `stored` is in JSON. -/
structure Binary64.Written (x : Binary64) (shown stored : ℚ) : Prop where
  display : Denotes (Literal.number x).text x.negative shown
  json : Denotes (Literal.number x).json.compact x.negative stored
  same : (∀ d, ¬ Magnitude.Halfway x.magnitude d) → shown = stored
  halfway : ∀ d, Magnitude.Halfway x.magnitude d → stored = d.value ∧ shown = d.next.value
  shown_reads : x.ReadsFrom x.negative shown
  stored_reads : x.ReadsFrom x.negative stored
  fewest : ∀ n q, HasDigits n q → x.ReadsFrom x.negative q → HasDigits n shown ∧ HasDigits n stored
  form : ∃ unsigned,
    (Literal.number x).text = (if x.negative then '-' :: unsigned else unsigned) ∧
      (PlainForm unsigned ↔ x.InPlainRange) ∧ (ExponentForm unsigned ↔ ¬ x.InPlainRange)

namespace Binary64

variable {x : Binary64}

theorem isZero_iff : x.isZero = true ↔ x.magnitude = 0 := beq_iff_eq

/-- The plain range, told by the first digit of the shortest decimal. -/
theorem inPlainRange_iff (hx : x.isFinite = true) :
    x.InPlainRange ↔
      (x.isZero || (decide (-3 ≤ (Magnitude.shortest .up x.magnitude).leadingExponent) &&
        decide ((Magnitude.shortest .up x.magnitude).leadingExponent ≤ 6))) = true := by
  rw [InPlainRange, Bool.or_eq_true, Bool.and_eq_true, decide_eq_true_eq, decide_eq_true_eq]
  by_cases hzero : x.isZero = true
  · exact iff_of_true (.inl hzero) (.inl hzero)
  · have hpos := Nat.pos_of_ne_zero fun h => hzero (isZero_iff.2 h)
    rw [Magnitude.plain_range_iff hpos (isFinite_iff.1 hx)]

theorem exists_form (hx : x.isFinite = true) :
    ∃ unsigned, x.text .display = (if x.negative then '-' :: unsigned else unsigned) ∧
      (PlainForm unsigned ↔ x.InPlainRange) ∧ (ExponentForm unsigned ↔ ¬ x.InPlainRange) := by
  rw [Json.text_eq_of_isFinite .display hx]
  by_cases hrange : x.InPlainRange
  · have hform := plainForm_plain (Magnitude.shortest .up x.magnitude)
    exact ⟨_, congrArg (fun u : Text => if x.negative then '-' :: u else u)
      (if_pos ((inPlainRange_iff hx).1 hrange)), iff_of_true hform hrange,
      iff_of_false hform.not_exponentForm (not_not.2 hrange)⟩
  · have hscientific := mt (inPlainRange_iff hx).2 hrange
    have hpos : 0 < x.magnitude := Nat.pos_of_ne_zero fun h => hrange (.inl (isZero_iff.2 h))
    have hleading : (Magnitude.shortest .up x.magnitude).leadingExponent ≠ 0 := by
      intro h
      refine hscientific ?_
      rw [h]
      simp
    have hform := exponentForm_scientific
      (Magnitude.digits_pos_of_roundsTo (Magnitude.roundsTo_shortest .up (isFinite_iff.1 hx)) hpos)
      hleading
    exact ⟨_, congrArg (fun u : Text => if x.negative then '-' :: u else u) (if_neg hscientific),
      iff_of_false (fun h => h.not_exponentForm hform) hrange, iff_of_true hform hrange⟩

/-- A decimal that is read as the number has no fewer digits than the shortest one. -/
theorem hasDigits_shortest (tie : Tie) {n : Nat} {q : ℚ} (hx : x.isFinite = true)
    (hdigits : HasDigits n q) (hreads : x.ReadsFrom x.negative q) :
    HasDigits n (Magnitude.shortest tie x.magnitude).value := by
  obtain ⟨d, hd, rfl⟩ := hdigits
  have hrounds := ((hreads x).2 rfl).2
  exact ⟨_, Magnitude.digits_shortest_lt tie (isFinite_iff.1 hx) hrounds hd, rfl⟩

theorem denotes_text {layout : NumberLayout}
    (hmark : layout.exponentMark = 'e' ∨ layout.exponentMark = 'E') (hx : x.isFinite = true) :
    Denotes (x.text layout) x.negative (Magnitude.shortest layout.tie x.magnitude).value := by
  have hread := Json.number?_text hmark hx stopsAt_nil
  rwa [List.append_nil] at hread

end Binary64

/-- **The two texts of a finite number.**  Each denotes a decimal with the fewest digits that is
read back as the number, and the same one unless the number is halfway between two; then readers see
the greater one, and JSON has the even one. -/
theorem number_texts (x : Binary64) (hx : x.isFinite = true) :
    ∃ shown stored, x.Written shown stored := by
  have hm := Binary64.isFinite_iff.1 hx
  exact ⟨_, _, {
    display := Binary64.denotes_text (.inr rfl) hx
    json := Binary64.denotes_text (.inl rfl) hx
    same := fun h => congrArg Decimal.value (Magnitude.shortest_up_eq_even hm h)
    halfway := fun d h => by
      obtain ⟨hup, heven⟩ := Magnitude.shortest_of_halfway hm h
      exact ⟨congrArg Decimal.value heven, congrArg Decimal.value hup⟩
    shown_reads := Binary64.readsFrom_shortest .up hx
    stored_reads := Binary64.readsFrom_shortest .even hx
    fewest := fun n q hdigits hreads => ⟨Binary64.hasDigits_shortest .up hx hdigits hreads,
      Binary64.hasDigits_shortest .even hx hdigits hreads⟩
    form := Binary64.exists_form hx }⟩

/-- A negative power of two has an exponent for readers and is plain in JSON. -/
theorem number_texts_power_of_two :
    (Literal.number ⟨0xC340000000000000⟩).text = "-9.007199254740992E15".toList ∧
      (Literal.number ⟨0xC340000000000000⟩).json.compact = "-9007199254740992.0".toList ∧
        ∃ shown stored, Binary64.Written ⟨0xC340000000000000⟩ shown stored :=
  ⟨by decide +kernel, by decide +kernel, number_texts _ (by decide +kernel)⟩

/-- At `2 ^ (-25)`, which is halfway between two shortest decimals, the two texts denote different
numbers. -/
theorem number_texts_differ_halfway :
    (Literal.number ⟨0x3E60000000000000⟩).text = "2.9802322387695313E-8".toList ∧
      (Literal.number ⟨0x3E60000000000000⟩).json.compact = "2.9802322387695312e-8".toList ∧
        ¬ ∃ negative q, Denotes (Literal.number ⟨0x3E60000000000000⟩).text negative q ∧
          Denotes (Literal.number ⟨0x3E60000000000000⟩).json.compact negative q := by
  refine ⟨by decide +kernel, by decide +kernel, ?_⟩
  rintro ⟨negative, q, hshown, hstored⟩
  have hx : Binary64.isFinite ⟨0x3E60000000000000⟩ = true := by decide +kernel
  have hup : Magnitude.shortest .up (Binary64.magnitude ⟨0x3E60000000000000⟩) =
      ⟨29802322387695313, -24⟩ := by
    decide +kernel
  have heven : Magnitude.shortest .even (Binary64.magnitude ⟨0x3E60000000000000⟩) =
      ⟨29802322387695312, -24⟩ := by
    decide +kernel
  have hup' := hshown.unique (Binary64.denotes_text (.inr rfl) hx)
  have heven' := hstored.unique (Binary64.denotes_text (.inl rfl) hx)
  have heq := hup'.symm.trans heven'
  rw [show NumberLayout.display.tie = .up from rfl, show NumberLayout.json.tie = .even from rfl,
    hup, heven, Decimal.value, Decimal.value, mul_left_inj' (by positivity)] at heq
  norm_num at heq

end LoxTokens
