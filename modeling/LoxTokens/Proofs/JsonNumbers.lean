import LoxTokens.Number.Layout
import LoxTokens.Proofs.JsonReading
import LoxTokens.Proofs.Runs
import LoxTokens.Proofs.ShortestDecimals

/-! # Reading written numbers

A natural number and the digits of a decimal in either layout are read as the number they were
written for, whatever stands after them but a character that a number may hold (`number?_ofNat`,
`number?_text`).  The two forms of a decimal are different digits and powers of the same value, so
the lemmas about them give a decimal of that value (`decimal?_plain`, `decimal?_scientific`). -/

namespace LoxTokens

variable {d : Decimal} {n k : Nat} {e power : Int} {c : Char}
  {s t u whole fraction rest : Text} {layout : NumberLayout}

/-! ### Digits -/

theorem digitsValue_append_zeros (s : Text) (k : Nat) :
    digitsValue (s ++ List.replicate k '0') = digitsValue s * tenTo k := by
  have hzeros : digitsValue (List.replicate k '0') = 0 := by
    induction k with
    | zero => rfl
    | succ k ih =>
      rw [List.replicate_succ', digitsValue_append, ih, Nat.zero_mul]
      rfl
  rw [digitsValue_append, hzeros, List.length_replicate, Nat.add_zero]

theorem digitsValue_zeros_append (k : Nat) (s : Text) :
    digitsValue (List.replicate k '0' ++ s) = digitsValue s := by
  have hzeros : digitsValue (List.replicate k '0') = 0 :=
    (digitsValue_append_zeros [] k).trans (Nat.zero_mul _)
  rw [digitsValue_append, hzeros, Nat.zero_mul, Nat.zero_add]

theorem isDigit_of_mem_zeros (h : c ∈ List.replicate k '0') : c.isDigit = true := by
  rw [List.eq_of_mem_replicate h]
  rfl

theorem ofNat_zero : Text.ofNat 0 = ['0'] := by
  rw [Text.ofNat]
  rfl

theorem isDigit_of_mem_cons_ofNat (h : Text.ofNat n = c :: t) : c.isDigit = true :=
  isDigit_of_mem_ofNat n c (h ▸ List.mem_cons_self)

theorem all_isDigit_ofNat (n : Nat) :
    (Text.ofNat n ≠ [] && (Text.ofNat n).all Char.isDigit) = true := by
  rw [Bool.and_eq_true, decide_eq_true_eq, List.all_eq_true]
  exact ⟨ofNat_ne_nil n, isDigit_of_mem_ofNat n⟩

theorem signedValue?_plus (n : Nat) : signedValue? ('+' :: Text.ofNat n) = some (n : Int) := by
  simp only [signedValue?, all_isDigit_ofNat, digitsValue_ofNat, if_true, Bool.false_eq_true,
    if_false]

theorem signedValue?_minus (n : Nat) : signedValue? ('-' :: Text.ofNat n) = some (-n : Int) := by
  simp only [signedValue?, all_isDigit_ofNat, digitsValue_ofNat, if_true]

theorem signedValue?_ofNat (n : Nat) : signedValue? (Text.ofNat n) = some (n : Int) := by
  rw [← signedValue?_plus]
  cases htext : Text.ofNat n with
  | nil => exact absurd htext (ofNat_ne_nil n)
  | cons c t =>
    have hc := isDigit_of_mem_cons_ofNat htext
    have hplus : c ≠ '+' := by
      rintro rfl
      cases hc
    have hminus : c ≠ '-' := by
      rintro rfl
      cases hc
    simp [signedValue?, hplus, hminus]

theorem signedValue?_ofInt (e : Int) : signedValue? (Text.ofInt e) = some e := by
  rw [Text.ofInt]
  split
  · rw [signedValue?_minus]
    congr 1
    omega
  · rw [signedValue?_ofNat]
    congr 1
    omega

theorem length_of_head?_ofNat (h : (Text.ofNat n).head? = some '0') :
    (Text.ofNat n).length = 1 := by
  rcases Nat.eq_zero_or_pos n with rfl | hn
  · rw [ofNat_zero]
    rfl
  · exact absurd h (head?_ofNat hn)

namespace Decimal

theorem value_mul_tenTo (n k : Nat) (e : Int) : value ⟨n * tenTo k, e⟩ = value ⟨n, e + k⟩ := by
  rw [value, value, Nat.cast_mul, natCast_tenTo, zpow_add₀ (by norm_num)]
  ring

/-- Digits around a point have the value of a decimal when they are its digits with zeros, and the
power makes up for the zeros and the places after the point. -/
theorem value_ofParts_shift (hdigits : digitsValue (whole ++ fraction) = d.digits * tenTo k)
    (hpower : d.exponent + fraction.length = k + power) :
    ((ofParts whole fraction).shift power).value = d.value := by
  rw [ofParts, shift, hdigits, value_mul_tenTo]
  congr 2
  show -(fraction.length : Int) + power + k = d.exponent
  omega

/-- What stands before and after the point of a plain decimal. -/
structure PlainParts (d : Decimal) (whole fraction : Text) : Prop where
  whole_digits : ∀ c ∈ whole, c.isDigit = true
  whole_ne_nil : whole ≠ []
  fraction_digits : ∀ c ∈ fraction, c.isDigit = true
  fraction_ne_nil : fraction ≠ []
  value : ∃ k : Nat, digitsValue (whole ++ fraction) = d.digits * tenTo k ∧
    d.exponent + fraction.length = k
  zero : (d.digits = 0 → d.exponent ≤ 0) → whole.head? = some '0' → whole.length = 1

theorem exists_plain (d : Decimal) :
    ∃ whole fraction, d.plain = whole ++ '.' :: fraction ∧ d.PlainParts whole fraction := by
  have hofNat := isDigit_of_mem_ofNat d.digits
  have hpoint : ".0".toList = ['.', '0'] := rfl
  have hzeroPoint : "0.".toList = ['0', '.'] := rfl
  have hzero : ∀ c ∈ ['0'], c.isDigit = true := List.forall_mem_singleton.2 rfl
  rw [plain, hpoint, hzeroPoint]
  dsimp only
  split
  next hexponent =>
    refine ⟨_, _, rfl, fun c hc => ?_, by simp [ofNat_ne_nil], hzero, by simp,
      ⟨d.exponent.toNat + 1, ?_, ?_⟩, fun hd hhead => ?_⟩
    · exact (List.mem_append.1 hc).elim (hofNat c) isDigit_of_mem_zeros
    · rw [List.append_assoc, ← List.replicate_succ', digitsValue_append_zeros, digitsValue_ofNat]
    · rw [List.length_singleton]
      omega
    · -- the zeros before the point are no idle ones, since zero has none
      rw [List.head?_append_of_ne_nil _ (ofNat_ne_nil _)] at hhead
      rcases Nat.eq_zero_or_pos d.digits with hdigits | hdigits
      · have hzeros : d.exponent.toNat = 0 := Int.toNat_of_nonpos (hd hdigits)
        rw [hzeros, List.replicate_zero, List.append_nil, length_of_head?_ofNat hhead]
      · exact absurd hhead (head?_ofNat hdigits)
  next hexponent =>
    split
    next hplaces =>
      -- the point stands among the digits, of which there are at least two
      have hdigits : 0 < d.digits := by
        by_contra hdigits
        rw [Nat.eq_zero_of_not_pos hdigits, ofNat_zero, List.length_singleton] at hplaces
        omega
      refine ⟨_, _, rfl, fun c hc => hofNat c (List.mem_of_mem_take hc), ?_,
        fun c hc => hofNat c (List.mem_of_mem_drop hc), ?_, ⟨0, ?_, ?_⟩, fun _ hhead => ?_⟩
      · rw [Ne, List.take_eq_nil_iff]
        rintro (hlength | hnil)
        · omega
        · exact ofNat_ne_nil d.digits hnil
      · rw [Ne, List.drop_eq_nil_iff]
        omega
      · rw [List.take_append_drop, digitsValue_ofNat, tenTo_zero, Nat.mul_one]
      · rw [List.length_drop]
        omega
      · rw [List.head?_take] at hhead
        split at hhead
        · cases hhead
        · exact absurd hhead (head?_ofNat hdigits)
    next hplaces =>
      have htext : ∀ zeros digits : Text,
          ['0', '.'] ++ zeros ++ digits = ['0'] ++ '.' :: (zeros ++ digits) := fun _ _ => rfl
      rw [htext]
      refine ⟨_, _, rfl, hzero, by simp, fun c hc => ?_, by simp [ofNat_ne_nil], ⟨0, ?_, ?_⟩,
        by simp⟩
      · exact (List.mem_append.1 hc).elim isDigit_of_mem_zeros (hofNat c)
      · rw [List.singleton_append, ← List.cons_append, ← List.replicate_succ,
          digitsValue_zeros_append, digitsValue_ofNat, tenTo_zero, Nat.mul_one]
      · rw [List.length_append, List.length_replicate]
        omega

end Decimal

namespace Json

/-- The characters that numbers are made of. -/
def isNumberChar (c : Char) : Bool :=
  c.isDigit || c == '.' || c == 'e' || c == 'E' || c == '+' || c == '-'

/-! ### The parts of a number -/

theorem fraction?_point (hfraction : ∀ c ∈ fraction, c.isDigit = true) (hne : fraction ≠ [])
    (hstop : StopsAt Char.isDigit t) : fraction? ('.' :: fraction ++ t) = some (fraction, t) := by
  rw [List.cons_append, fraction?, takeWhile_append_of_stopsAt hfraction hstop,
    dropWhile_append_of_stopsAt hfraction hstop, if_neg hne]

theorem fraction?_none (h : t.head? ≠ some '.') : fraction? t = some ([], t) := by
  unfold fraction?
  split
  · exact absurd rfl h
  · rfl

theorem power?_none (h : ∀ c ∈ t.head?, c ≠ 'e' ∧ c ≠ 'E') : power? t = some (0, t) := by
  cases t with
  | nil => rfl
  | cons c t =>
    obtain ⟨hlower, hupper⟩ := h c rfl
    simp [power?, hlower, hupper]

theorem power?_mark (hc : c = 'e' ∨ c = 'E') (hs : ∀ c ∈ s, isPowerChar c = true)
    (hvalue : signedValue? s = some power) (hstop : StopsAt isPowerChar rest) :
    power? (c :: (s ++ rest)) = some (power, rest) := by
  have hmark : (c = 'e' || c = 'E') = true := by simpa using hc
  rw [power?, if_pos hmark, takeWhile_append_of_stopsAt hs hstop,
    dropWhile_append_of_stopsAt hs hstop, hvalue]
  rfl

theorem isPowerChar_of_mem_ofInt (e : Int) : ∀ c ∈ Text.ofInt e, isPowerChar c = true := by
  have hdigits : ∀ n, ∀ c ∈ Text.ofNat n, isPowerChar c = true := by
    intro n c hc
    rw [isPowerChar, isDigit_of_mem_ofNat n c hc]
    rfl
  intro c hc
  rw [Text.ofInt] at hc
  split at hc
  · rcases List.mem_cons.1 hc with rfl | hc
    · rfl
    · exact hdigits _ c hc
  · exact hdigits _ c hc

theorem decimal?_append (hwhole : ∀ c ∈ whole, c.isDigit = true) (hne : whole ≠ [])
    (hzero : whole.head? = some '0' → whole.length = 1) (hstop : StopsAt Char.isDigit t)
    (hfraction : fraction? t = some (fraction, u)) (hpower : power? u = some (power, rest)) :
    decimal? (whole ++ t) = some ((Decimal.ofParts whole fraction).shift power, rest) := by
  have hidle : (whole = [] || (whole.head? == some '0' && whole.length != 1)) = false := by
    rw [Bool.or_eq_false_iff, decide_eq_false_iff_not, Bool.and_eq_false_imp, beq_iff_eq]
    exact ⟨hne, fun h => by simpa using hzero h⟩
  simp only [decimal?, takeWhile_append_of_stopsAt hwhole hstop,
    dropWhile_append_of_stopsAt hwhole hstop, hidle, hfraction, hpower, Bool.false_eq_true,
    if_false, Option.bind_eq_bind, Option.bind_some]
  rfl

/-! ### What a number does not go on with -/

theorem stopsAt_isDigit (h : StopsAt isNumberChar t) : StopsAt Char.isDigit t := by
  intro c hc
  have hnumber := h c hc
  simp only [isNumberChar, Bool.or_eq_false_iff] at hnumber
  exact hnumber.1.1.1.1.1

theorem stopsAt_isPowerChar (h : StopsAt isNumberChar t) : StopsAt isPowerChar t := by
  intro c hc
  have hnumber := h c hc
  simp only [isNumberChar, Bool.or_eq_false_iff] at hnumber
  simp [isPowerChar, hnumber]

theorem fraction?_of_stopsAt (h : StopsAt isNumberChar t) : fraction? t = some ([], t) := by
  refine fraction?_none fun hc => ?_
  cases h '.' hc

theorem power?_of_stopsAt (h : StopsAt isNumberChar t) : power? t = some (0, t) := by
  refine power?_none fun c hc => ⟨?_, ?_⟩
  · rintro rfl
    cases h 'e' hc
  · rintro rfl
    cases h 'E' hc

/-! ### Written numbers -/

theorem decimal?_ofNat (n : Nat) (h : StopsAt isNumberChar rest) :
    decimal? (Text.ofNat n ++ rest) = some (⟨n, 0⟩, rest) := by
  rw [decimal?_append (isDigit_of_mem_ofNat n) (ofNat_ne_nil n) length_of_head?_ofNat
    (stopsAt_isDigit h) (fraction?_of_stopsAt h) (power?_of_stopsAt h), Decimal.ofParts,
    List.append_nil, digitsValue_ofNat]
  rfl

/-- Digits around a point are read as a decimal of the value that they are written for. -/
theorem decimal?_point (hwhole : ∀ c ∈ whole, c.isDigit = true) (hne : whole ≠ [])
    (hzero : whole.head? = some '0' → whole.length = 1)
    (hfraction : ∀ c ∈ fraction, c.isDigit = true) (hne' : fraction ≠ [])
    (hdigits : digitsValue (whole ++ fraction) = d.digits * tenTo k)
    (hexponent : d.exponent + fraction.length = k + power) (hstop : StopsAt Char.isDigit u)
    (hpower : power? u = some (power, rest)) :
    ∃ d' : Decimal, decimal? (whole ++ '.' :: fraction ++ u) = some (d', rest) ∧
      d'.value = d.value := by
  have hread := decimal?_append hwhole hne hzero (stopsAt_cons.2 rfl)
    (fraction?_point hfraction hne' hstop) hpower
  rw [List.append_assoc]
  exact ⟨_, hread, Decimal.value_ofParts_shift hdigits hexponent⟩

theorem decimal?_plain (hd : d.digits = 0 → d.exponent ≤ 0) (h : StopsAt isNumberChar rest) :
    ∃ d' : Decimal, decimal? (d.plain ++ rest) = some (d', rest) ∧ d'.value = d.value := by
  obtain ⟨whole, fraction, htext, hplain⟩ := d.exists_plain
  obtain ⟨k, hdigits, hexponent⟩ := hplain.value
  rw [htext]
  exact decimal?_point hplain.whole_digits hplain.whole_ne_nil (hplain.zero hd)
    hplain.fraction_digits hplain.fraction_ne_nil hdigits (hexponent.trans (Int.add_zero _).symm)
    (stopsAt_isDigit h) (power?_of_stopsAt h)

theorem power?_written (hc : c = 'e' ∨ c = 'E') (plus : Bool) (e : Int)
    (h : StopsAt isNumberChar rest) :
    power? (c :: ((if plus && 0 ≤ e then '+' :: Text.ofInt e else Text.ofInt e) ++ rest)) =
      some (e, rest) := by
  split
  next hplus =>
    have he : ¬ e < 0 := by
      rw [Bool.and_eq_true, decide_eq_true_eq] at hplus
      exact not_lt.2 hplus.2
    have hchars : ∀ c ∈ '+' :: Text.ofInt e, isPowerChar c = true :=
      List.forall_mem_cons.2 ⟨rfl, isPowerChar_of_mem_ofInt e⟩
    have hvalue : signedValue? ('+' :: Text.ofInt e) = some e := by
      rw [Text.ofInt, if_neg he, signedValue?_plus, Int.natAbs_of_nonneg (not_lt.1 he)]
    exact power?_mark hc hchars hvalue (stopsAt_isPowerChar h)
  next =>
    exact power?_mark hc (isPowerChar_of_mem_ofInt e) (signedValue?_ofInt e)
      (stopsAt_isPowerChar h)

theorem decimal?_scientific (hmark : layout.exponentMark = 'e' ∨ layout.exponentMark = 'E')
    (d : Decimal) (h : StopsAt isNumberChar rest) :
    ∃ d' : Decimal, decimal? (d.scientific layout ++ rest) = some (d', rest) ∧
      d'.value = d.value := by
  obtain ⟨c, t, htext⟩ : ∃ c t, Text.ofNat d.digits = c :: t :=
    List.exists_cons_of_ne_nil (ofNat_ne_nil d.digits)
  have hdigits : ∀ a ∈ c :: t, a.isDigit = true := htext ▸ isDigit_of_mem_ofNat d.digits
  obtain ⟨hc, ht⟩ := List.forall_mem_cons.1 hdigits
  have hwhole : ∀ a ∈ [c], a.isDigit = true := List.forall_mem_singleton.2 hc
  have hvalue : digitsValue (c :: t) = d.digits := htext ▸ digitsValue_ofNat d.digits
  have hleading : d.leadingExponent = d.exponent + t.length := by
    rw [Decimal.leadingExponent, htext, List.length_cons]
    omega
  have hpower := power?_written hmark layout.plusSign d.leadingExponent h
  have hstop : ∀ u, StopsAt Char.isDigit (layout.exponentMark :: u) := by
    intro u
    rcases hmark with hmark | hmark
    all_goals exact stopsAt_cons.2 (hmark ▸ rfl)
  rw [Decimal.scientific, htext, List.append_assoc]
  have hpoint : ".0".toList = ['.', '0'] := rfl
  simp only [List.take_succ_cons, List.take_zero, List.drop_succ_cons, List.drop_zero, hpoint]
  cases t with
  | nil =>
    cases layout.pointZero with
    | true =>
      refine decimal?_point (k := 1) hwhole (by simp) (by simp) (List.forall_mem_singleton.2 rfl)
        (by simp) ?_ ?_ (hstop _) hpower
      · rw [digitsValue_append, hvalue]
        rfl
      · rw [hleading]
        simp
        omega
    | false =>
      have hfraction : ∀ u, fraction? (layout.exponentMark :: u) =
          some ([], layout.exponentMark :: u) := by
        intro u
        refine fraction?_none ?_
        rcases hmark with hmark | hmark <;> simp [hmark]
      have hread := decimal?_append hwhole (by simp) (by simp) (hstop _) (hfraction _) hpower
      refine ⟨_, hread, Decimal.value_ofParts_shift (k := 0) ?_ ?_⟩
      · rw [List.append_nil, hvalue, tenTo_zero, Nat.mul_one]
      · rw [hleading]
        simp
  | cons a t =>
    refine decimal?_point (k := 0) hwhole (by simp) (by simp) ht (by simp) ?_ ?_ (hstop _) hpower
    · rw [List.singleton_append, hvalue, tenTo_zero, Nat.mul_one]
    · rw [hleading]
      omega

theorem number?_of_decimal? (h : decimal? t = some (d, rest)) :
    number? t = some (.number false d.value, rest) := by
  unfold number?
  split
  · cases h
  · rw [h]
    rfl

theorem number?_ofNat (n : Nat) (h : StopsAt isNumberChar rest) :
    number? (Text.ofNat n ++ rest) = some (.number false n, rest) := by
  rw [number?_of_decimal? (decimal?_ofNat n h), Decimal.value, zpow_zero, mul_one]

theorem text_eq_of_isFinite {x : Binary64} (layout : NumberLayout) (hx : x.isFinite = true) :
    x.text layout =
      let d := Magnitude.shortest layout.tie x.magnitude
      let unsigned := if x.isZero || (layout.plainFrom ≤ d.leadingExponent &&
        d.leadingExponent ≤ layout.plainTo) then d.plain else d.scientific layout
      if x.negative then '-' :: unsigned else unsigned := by
  have hm : x.magnitude < infinityMagnitude := of_decide_eq_true hx
  have hnan : x.isNaN = false := decide_eq_false hm.not_gt
  have hinfinite : x.isInfinite = false := beq_eq_false_iff_ne.2 hm.ne
  simp only [Binary64.text, hnan, hinfinite, Bool.false_eq_true, if_false]

theorem text_of_isFinite {x : Binary64} (layout : NumberLayout) (hx : x.isFinite = true) :
    ∃ unsigned, (unsigned = (Magnitude.shortest layout.tie x.magnitude).plain ∨
        unsigned = (Magnitude.shortest layout.tie x.magnitude).scientific layout) ∧
      x.text layout = if x.negative then '-' :: unsigned else unsigned := by
  refine ⟨_, ?_, text_eq_of_isFinite layout hx⟩
  split
  · exact .inl rfl
  · exact .inr rfl

/-- A finite number in a layout is read as its sign and the value of its shortest decimal. -/
theorem number?_text {x : Binary64} (hmark : layout.exponentMark = 'e' ∨ layout.exponentMark = 'E')
    (hx : x.isFinite = true) (h : StopsAt isNumberChar rest) :
    number? (x.text layout ++ rest) =
      some (.number x.negative (Magnitude.shortest layout.tie x.magnitude).value, rest) := by
  have hm : x.magnitude < infinityMagnitude := of_decide_eq_true hx
  obtain ⟨unsigned, hform, htext⟩ := text_of_isFinite layout hx
  obtain ⟨d', hread, hvalue⟩ : ∃ d' : Decimal, decimal? (unsigned ++ rest) = some (d', rest) ∧
      d'.value = (Magnitude.shortest layout.tie x.magnitude).value := by
    rcases hform with rfl | rfl
    · exact decimal?_plain (fun hzero => (Magnitude.exponent_shortest layout.tie hm hzero).le) h
    · exact decimal?_scientific hmark _ h
  rw [htext]
  cases x.negative with
  | false => rw [if_neg Bool.false_ne_true, number?_of_decimal? hread, hvalue]
  | true =>
    rw [if_pos rfl, List.cons_append, number?, hread, ← hvalue]
    rfl

/-! ### The characters of a written number -/

theorem exists_cons_of_decimal? (h : decimal? t = some (d, rest)) :
    ∃ c u, t = c :: u ∧ c.isDigit = true := by
  cases t with
  | nil => cases h
  | cons c u =>
    refine ⟨c, u, rfl, ?_⟩
    by_contra hc
    simp [decimal?, hc] at h

theorem exists_cons_of_number? {v : JsonValue} (h : number? t = some (v, rest)) :
    ∃ c u, t = c :: u ∧ (c.isDigit = true ∨ c = '-') := by
  unfold number? at h
  split at h
  next u => exact ⟨'-', u, rfl, .inr rfl⟩
  next =>
    obtain ⟨⟨d, r⟩, hread, -⟩ := Option.map_eq_some_iff.1 h
    obtain ⟨c, u, rfl, hc⟩ := exists_cons_of_decimal? hread
    exact ⟨c, u, rfl, .inl hc⟩

theorem isNumberChar_of_isDigit (h : c.isDigit = true) : isNumberChar c = true := by
  simp [isNumberChar, h]

theorem isNumberChar_of_mem_ofNat (n : Nat) : ∀ c ∈ Text.ofNat n, isNumberChar c = true :=
  fun c hc => isNumberChar_of_isDigit (isDigit_of_mem_ofNat n c hc)

theorem isNumberChar_of_mem_ofInt (e : Int) : ∀ c ∈ Text.ofInt e, isNumberChar c = true := by
  rw [Text.ofInt]
  split
  · exact List.forall_mem_cons.2 ⟨rfl, isNumberChar_of_mem_ofNat _⟩
  · exact isNumberChar_of_mem_ofNat _

theorem isNumberChar_of_mem_plain (d : Decimal) : ∀ c ∈ d.plain, isNumberChar c = true := by
  obtain ⟨whole, fraction, htext, hplain⟩ := d.exists_plain
  rw [htext]
  simp only [List.forall_mem_append, List.forall_mem_cons]
  exact ⟨fun c hc => isNumberChar_of_isDigit (hplain.whole_digits c hc), rfl,
    fun c hc => isNumberChar_of_isDigit (hplain.fraction_digits c hc)⟩

theorem isNumberChar_of_mem_scientific
    (hmark : layout.exponentMark = 'e' ∨ layout.exponentMark = 'E') (d : Decimal) :
    ∀ c ∈ d.scientific layout, isNumberChar c = true := by
  have hdigits := isNumberChar_of_mem_ofNat d.digits
  have hmarkChar : isNumberChar layout.exponentMark = true := by
    rcases hmark with h | h <;> rw [h] <;> rfl
  rw [Decimal.scientific]
  simp only [List.forall_mem_append, List.forall_mem_cons]
  refine ⟨⟨fun c hc => hdigits c (List.mem_of_mem_take hc), ?_⟩, hmarkChar, ?_⟩
  · split
    · split
      · simp [isNumberChar]
      · simp
    · exact List.forall_mem_cons.2 ⟨rfl, fun c hc => hdigits c (List.mem_of_mem_drop hc)⟩
  · split
    · exact List.forall_mem_cons.2 ⟨rfl, isNumberChar_of_mem_ofInt _⟩
    · exact isNumberChar_of_mem_ofInt _

theorem isNumberChar_of_mem_text {x : Binary64}
    (hmark : layout.exponentMark = 'e' ∨ layout.exponentMark = 'E') (hx : x.isFinite = true) :
    ∀ c ∈ x.text layout, isNumberChar c = true := by
  obtain ⟨unsigned, hform, htext⟩ := text_of_isFinite layout hx
  have hunsigned : ∀ c ∈ unsigned, isNumberChar c = true := by
    rcases hform with rfl | rfl
    · exact isNumberChar_of_mem_plain _
    · exact isNumberChar_of_mem_scientific hmark _
  rw [htext]
  split
  · exact List.forall_mem_cons.2 ⟨rfl, hunsigned⟩
  · exact hunsigned

end Json
end LoxTokens
