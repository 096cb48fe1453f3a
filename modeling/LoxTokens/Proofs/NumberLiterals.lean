import LoxTokens.Proofs.NearestMagnitude
import LoxTokens.Proofs.NumberTexts
import LoxTokens.Proofs.TextOutput
import LoxTokens.Proofs.TokenJson

/-! # Number literals

The lexeme of a number is a decimal numeral, and a numeral writes one rational number (`Numeral`,
`Numeral.unique`).  The literal of the token is the binary64 number nearest to it, whatever the
number of digits (`number_literals_nearest`), since reading rounds correctly
(`Binary64.readsFrom_round`).  Therefore literals are in the order of the numbers that their
lexemes write. -/

namespace LoxTokens

variable {t : Text} {v w : ℚ} {x y : Binary64} {whole fraction : Text}

/-! ### Numerals -/

/-- A decimal numeral and the number that it writes. -/
inductive Numeral : Text → ℚ → Prop
  | whole {ds : Text} : IsDigits ds → Numeral ds (digitsValue ds)
  | point {ds fs : Text} : IsDigits ds → IsDigits fs →
      Numeral (ds ++ '.' :: fs) (digitsValue ds + digitsValue fs / 10 ^ fs.length)

theorem IsDigits.point_notMem (h : IsDigits t) : '.' ∉ t := by
  intro hmem
  cases h.2 '.' hmem

theorem Numeral.unique (h : Numeral t v) (h' : Numeral t w) : v = w := by
  cases h with
  | whole hds =>
      cases h' with
      | whole => rfl
      | point => exact (hds.point_notMem (by simp)).elim
  | @point ds fs hds hfs =>
      generalize ht : ds ++ '.' :: fs = t at h'
      cases h' with
      | whole hds' =>
          rw [← ht] at hds'
          exact (hds'.point_notMem (by simp)).elim
      | point hds' hfs' =>
          obtain ⟨rfl, rfl⟩ := append_sep_inj hds.point_notMem hds'.point_notMem ht
          rfl

theorem Decimal.value_ofParts (whole fraction : Text) :
    (Decimal.ofParts whole fraction).value =
      digitsValue whole + digitsValue fraction / 10 ^ fraction.length := by
  have hne : (10 : ℚ) ^ fraction.length ≠ 0 := pow_ne_zero _ (by norm_num)
  rw [value, ofParts, digitsValue_append, Nat.cast_add, Nat.cast_mul, natCast_tenTo, zpow_neg,
    zpow_natCast, add_mul, mul_assoc, mul_inv_cancel₀ hne, mul_one, div_eq_mul_inv]

/-- A number segment is a numeral of the decimal that it is read as. -/
theorem numeral_number (h : (Segment.number whole fraction).WellFormed) :
    Numeral (Segment.number whole fraction).text (Decimal.ofParts whole fraction).value := by
  obtain ⟨hne, hwhole, hfraction⟩ := h
  rw [Decimal.value_ofParts]
  cases fraction with
  | nil =>
      have hzero : (digitsValue [] / 10 ^ ([] : Text).length : ℚ) = 0 := by
        rw [digitsValue, List.foldl_nil, Nat.cast_zero, zero_div]
      rw [hzero, add_zero]
      exact .whole ⟨hne, hwhole⟩
  | cons d ds => exact .point ⟨hne, hwhole⟩ ⟨List.cons_ne_nil d ds, hfraction⟩

/-! ### Reading -/

namespace Binary64

theorem magnitude_ofMagnitude {m : Nat} (negative : Bool) (h : m ≤ infinityMagnitude) :
    (ofMagnitude negative m).magnitude = m := by
  have hinfinity : infinityMagnitude = 9218868437227405312 := by decide +kernel
  have h63 : twoTo 63 = 9223372036854775808 := rfl
  rw [magnitude, ofMagnitude, UInt64.toNat_ofNat', h63]
  split <;> omega

theorem negative_ofMagnitude {m : Nat} (negative : Bool) (h : m ≤ infinityMagnitude) :
    (ofMagnitude negative m).negative = negative := by
  have hinfinity : infinityMagnitude = 9218868437227405312 := by decide +kernel
  have h63 : twoTo 63 = 9223372036854775808 := rfl
  rw [Binary64.negative, ofMagnitude, UInt64.toNat_ofNat', h63]
  cases negative
  · simp
    omega
  · simp
    omega

theorem readsFrom_ofMagnitude {m : Nat} (negative : Bool) (h : Magnitude.RoundsTo v m) :
    (ofMagnitude negative m).ReadsFrom negative v := by
  intro y
  constructor
  · rintro ⟨hnegative, hmagnitude⟩
    refine ext_magnitude ?_ ?_
    · rw [hnegative, negative_ofMagnitude negative h.le_infinity]
    · rw [magnitude_ofMagnitude negative h.le_infinity]
      exact hmagnitude.unique h
  · rintro rfl
    rw [negative_ofMagnitude negative h.le_infinity, magnitude_ofMagnitude negative h.le_infinity]
    exact ⟨rfl, h⟩

theorem readsFrom_round (negative : Bool) (d : Decimal) :
    (ofMagnitude negative d.round).ReadsFrom negative d.value :=
  readsFrom_ofMagnitude negative d.roundsTo_round

end Binary64

/-- `x` is the number without a sign that is nearest to `v`: infinity from `2 ^ 1024 - 2 ^ 970` on,
and zero up to `2 ^ (-1075)`. -/
structure NearestLiteral (v : ℚ) (x : Binary64) : Prop where
  nearest : x.ReadsFrom false v
  infinity : 2 ^ 1024 - 2 ^ 970 ≤ v → x.bits = 0x7FF0000000000000
  zero : v ≤ 2 ^ (-1075 : ℤ) → x.bits = 0
  not_nan : x.isNaN = false
  not_negative : x.negative = false

theorem nearestLiteral_of_readsFrom (h : x.ReadsFrom false v) : NearestLiteral v x := by
  obtain ⟨hnegative, hrounds⟩ := (h x).2 rfl
  refine ⟨h, fun hv => ?_, fun hv => ?_, ?_, hnegative⟩
  · have heq := (h (.ofMagnitude false infinityMagnitude)).1
      ⟨by decide +kernel, Magnitude.roundsTo_infinity_of_le hv⟩
    rw [← heq]
    decide +kernel
  · have heq := (h (.ofMagnitude false 0)).1 ⟨by decide +kernel, Magnitude.roundsTo_zero_of_le hv⟩
    rw [← heq]
    decide +kernel
  · exact decide_eq_false hrounds.le_infinity.not_gt

/-! ### Tokens -/

theorem exists_number_of_mem_tokens {source : Text} {t : Token}
    (ht : t ∈ (Scanned.ofSource source).tokens) (hkind : t.kind = .number) :
    ∃ d : Decimal, Numeral t.lexeme d.value ∧ t.literal = .number (.ofMagnitude false d.round) := by
  rcases Scanned.content_of_mem_tokens (List.mem_map_of_mem ht) with ⟨s, hs, hcontent⟩ | hend
  · cases s with
    | blank | comment | stray | unterminated => cases hcontent
    | string | operator =>
        have hfirst := congrArg Prod.fst (Option.some.inj hcontent)
        cases hfirst.trans hkind
    | word letters =>
        have hfirst := (congrArg Prod.fst (Option.some.inj hcontent)).trans hkind
        dsimp only [TokenKind.ofWord] at hfirst
        split at hfirst <;> cases hfirst
    | number whole fraction =>
        obtain ⟨-, hrest⟩ := Prod.mk.inj (Option.some.inj hcontent)
        obtain ⟨hlexeme, hliteral⟩ := Prod.mk.inj hrest
        exact ⟨.ofParts whole fraction, hlexeme ▸ numeral_number hs, hliteral.symm⟩
  · cases hkind.symm.trans (congrArg Prod.fst hend)

/-- **Number literals are correctly rounded.**  The lexeme of a number token writes one number, and
the literal is the binary64 number nearest to that.  Lexemes of equal numbers have one literal, and
a greater number has no smaller literal. -/
theorem number_literals_nearest (source : Text) :
    ∀ t ∈ (Scanned.ofSource source).tokens, t.kind = .number →
      ∃ v x, (∀ w, Numeral t.lexeme w ↔ w = v) ∧ t.literal = .number x ∧ NearestLiteral v x ∧
        ∀ other, ∀ u ∈ (Scanned.ofSource other).tokens, u.kind = .number →
          ∀ w y, Numeral u.lexeme w → u.literal = .number y → (w = v → y = x) ∧
            (v ≤ w → Magnitude.value x.magnitude ≤ Magnitude.value y.magnitude) := by
  intro t ht hkind
  obtain ⟨d, hnumeral, hliteral⟩ := exists_number_of_mem_tokens ht hkind
  have hreads := Binary64.readsFrom_round false d
  refine ⟨d.value, _, fun w => ⟨fun h => h.unique hnumeral, ?_⟩, hliteral,
    nearestLiteral_of_readsFrom hreads, fun other u hu hkind' w y hw hy => ?_⟩
  · rintro rfl
    exact hnumeral
  · obtain ⟨d', hnumeral', hliteral'⟩ := exists_number_of_mem_tokens hu hkind'
    obtain rfl := hw.unique hnumeral'
    obtain rfl := Literal.number.inj (hy.symm.trans hliteral')
    refine ⟨fun heq => ?_, fun hle => ?_⟩
    · rw [(d'.roundsTo_round).unique (heq ▸ d.roundsTo_round)]
    · rw [Binary64.magnitude_ofMagnitude false d.roundsTo_round.le_infinity,
        Binary64.magnitude_ofMagnitude false d'.roundsTo_round.le_infinity]
      exact Magnitude.value_strictMono.monotone (d.roundsTo_round.mono d'.roundsTo_round hle)

/-- A number halfway between two binary64 numbers has the even one as its literal, and so it has
with idle zeros in another source. -/
theorem number_literals_nearest_halfway :
    ∃ t ∈ (Scanned.ofSource "9007199254740993".toList).tokens,
      ∃ u ∈ (Scanned.ofSource "x = 09007199254740993.0;".toList).tokens, ∃ x y,
        Numeral t.lexeme 9007199254740993 ∧ Numeral u.lexeme 9007199254740993 ∧
          t.literal = .number x ∧ NearestLiteral 9007199254740993 x ∧
            x.bits = 0x4340000000000000 ∧ u.literal = .number y ∧ y = x := by
  have ht : (⟨.number, "9007199254740993".toList, .number ⟨0x4340000000000000⟩, 1,
      ⟨⟨1, 1, 0⟩, ⟨1, 17, 16⟩⟩⟩ : Token) ∈
        (Scanned.ofSource "9007199254740993".toList).tokens := by
    decide +kernel
  have hu : (⟨.number, "09007199254740993.0".toList, .number ⟨0x4340000000000000⟩, 1,
      ⟨⟨1, 5, 4⟩, ⟨1, 24, 23⟩⟩⟩ : Token) ∈
        (Scanned.ofSource "x = 09007199254740993.0;".toList).tokens := by
    decide +kernel
  have hnumeral : Numeral "9007199254740993".toList 9007199254740993 := by
    have hdigits : digitsValue "9007199254740993".toList = 9007199254740993 := by decide +kernel
    have h := Numeral.whole (isDigits_iff.1 (show _ = true from by decide +kernel) :
      IsDigits "9007199254740993".toList)
    rwa [hdigits] at h
  have hnumeral' : Numeral "09007199254740993.0".toList 9007199254740993 := by
    have hdigits : digitsValue "09007199254740993".toList = 9007199254740993 := by decide +kernel
    have hfraction : digitsValue ['0'] = 0 := by decide +kernel
    have h := Numeral.point
      (isDigits_iff.1 (show _ = true from by decide +kernel) : IsDigits "09007199254740993".toList)
      (isDigits_iff.1 (show _ = true from by decide +kernel) : IsDigits ['0'])
    rw [hdigits, hfraction, Nat.cast_zero, zero_div, add_zero] at h
    exact h
  obtain ⟨v, x, hv, hliteral, hnearest, hother⟩ := number_literals_nearest _ _ ht rfl
  obtain rfl := (hv _).1 hnumeral
  refine ⟨_, ht, _, hu, x, _, hnumeral, hnumeral', hliteral, hnearest, ?_, rfl, ?_⟩
  · rw [← Literal.number.inj hliteral]
  · exact (hother _ _ hu rfl _ _ hnumeral' rfl).1 rfl

end LoxTokens
