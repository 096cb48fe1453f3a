import LoxTokens.Proofs.ShortestDecimals

/-! # The nearest magnitude is found

`Magnitude.ofRatio` puts a magnitude together from a grid and a significand on it; since the
magnitudes of one binade follow those of the binade below, its value is the significand on the grid
even where that was rounded up to the end of the binade (`value_grid`).  So the rounding of the
significand is the rounding of the ratio (`roundsTo_ofRatio`), and every decimal is rounded to the
nearest magnitude, those that are far outside the range included (`Decimal.roundsTo_round`). -/

namespace LoxTokens

namespace Magnitude

variable {k m n s : Nat} {a b q : ℚ}

theorem infinityMagnitude_even : infinityMagnitude % 2 = 0 := by decide +kernel

theorem roundsTo_infinity
    (h : value (infinityMagnitude - 1) + value infinityMagnitude ≤ 2 * q) :
    RoundsTo q infinityMagnitude := by
  refine ⟨le_rfl, fun k hk => ?_, fun _ _ _ _ => infinityMagnitude_even⟩
  rcases hk.eq_or_lt with rfl | hlt
  · exact le_rfl
  · have hmono : value k ≤ value (infinityMagnitude - 1) := value_strictMono.monotone (by omega)
    rw [upper_nearer_iff (value_strictMono hlt)]
    linarith

/-- A number between the middles of the steps before and after a magnitude rounds to it, or to
infinity where the magnitude lies above. -/
theorem roundsTo_min_of_between (hlow : ∀ k, k + 1 = m → value k + value m ≤ 2 * q)
    (hhigh : 2 * q ≤ value m + value (m + 1))
    (hodd : m % 2 = 1 → (∀ k, k + 1 = m → value k + value m ≠ 2 * q) ∧
      2 * q ≠ value m + value (m + 1)) : RoundsTo q (min m infinityMagnitude) := by
  rcases Nat.lt_or_ge m infinityMagnitude with hm | hm
  · rw [min_eq_left hm.le]
    exact roundsTo_of_between hm hlow hhigh hodd
  · rw [min_eq_right hm]
    have hpos : 0 < infinityMagnitude := by decide +kernel
    obtain ⟨j, rfl⟩ : ∃ j, m = j + 1 := ⟨m - 1, by omega⟩
    have hbelow : value (infinityMagnitude - 1) ≤ value j := value_strictMono.monotone (by omega)
    have hinfinity : value infinityMagnitude ≤ value (j + 1) := value_strictMono.monotone hm
    have hmiddle := hlow j rfl
    refine roundsTo_infinity ?_
    linarith

/-! ### A significand on its grid -/

/-- The value of the significand `s` on the `k`-th grid.  Below the first binade there are only the
magnitudes of the first grid. -/
theorem value_grid (hs : s ≤ twoTo 53) (hk : k = 0 ∨ twoTo 52 ≤ s) :
    value (k * twoTo 52 + s) = s * 2 ^ ((k : ℤ) - 1074) := by
  have h53 : twoTo 53 = 2 * twoTo 52 := rfl
  rcases Nat.lt_or_ge s (twoTo 52) with hlt | hge
  · obtain rfl : k = 0 := by omega
    rw [Nat.zero_mul, Nat.zero_add, value_of_lt hlt, Nat.cast_zero, zero_sub]
  · rcases Nat.lt_or_ge s (twoTo 53) with hlt | hge'
    · have hm : k * twoTo 52 + s = twoTo 52 * (k + 1) + (s - twoTo 52) := by
        rw [Nat.mul_succ, Nat.mul_comm]
        omega
      rw [hm, value_binade k (by omega), Nat.add_sub_cancel' hge]
    · -- rounded up to the first magnitude of the next binade
      obtain rfl : s = twoTo 53 := le_antisymm hs hge'
      have hm : k * twoTo 52 + twoTo 53 = twoTo 52 * (k + 1 + 1) + 0 := by
        rw [Nat.mul_succ, Nat.mul_succ, Nat.mul_comm]
        omega
      rw [hm, value_binade (k + 1) (twoTo_pos 52), step_succ, Nat.add_zero, h53]
      push_cast
      ring

theorem value_grid_pred {g : ℚ} {j : Nat} (hg : g = 2 ^ ((k : ℤ) - 1074)) (hs : s ≤ twoTo 53)
    (hk : k = 0 ∨ twoTo 52 ≤ s) (hj : j + 1 = k * twoTo 52 + s) :
    value j = (s - 1) * g ∨ k ≠ 0 ∧ s = twoTo 52 := by
  rcases Nat.lt_or_ge (twoTo 52) s with hlt | hge
  · left
    have hj' : j = k * twoTo 52 + (s - 1) := by omega
    rw [hj', value_grid (by omega) (.inr (by omega)), ← hg, Nat.cast_sub (by omega), Nat.cast_one]
  · rcases Nat.eq_zero_or_pos k with rfl | hpos
    · left
      have hj' : j = 0 * twoTo 52 + (s - 1) := by omega
      rw [hj', value_grid (by omega) (.inl rfl), ← hg, Nat.cast_sub (by omega), Nat.cast_one]
    · exact .inr ⟨hpos.ne', le_antisymm hge (hk.resolve_left hpos.ne')⟩

/-- A number that is `r` steps of a grid rounds to the magnitude of the significand nearest to
`r`. -/
theorem roundsTo_grid {g r : ℚ} (hg : g = 2 ^ ((k : ℤ) - 1074)) (hr : r < twoTo 53)
    (hk : k = 0 ∨ (twoTo 52 : ℚ) ≤ r) (hlow : (2 * s - 1 : ℚ) ≤ 2 * r)
    (hhigh : 2 * r ≤ 2 * s + 1)
    (hodd : s % 2 = 1 → (2 * s - 1 : ℚ) ≠ 2 * r ∧ 2 * r ≠ 2 * s + 1) :
    RoundsTo (r * g) (min (k * twoTo 52 + s) infinityMagnitude) := by
  have hpos : 0 < g := by rw [hg]; positivity
  have hs : s ≤ twoTo 53 := by
    have hlt : (s : ℚ) < (twoTo 53 + 1 : Nat) := by
      push_cast
      linarith
    exact Nat.le_of_lt_succ (Nat.cast_lt.1 hlt)
  have hk' : k = 0 ∨ twoTo 52 ≤ s := by
    refine hk.imp_right fun h => ?_
    have hlt : ((twoTo 52 : Nat) : ℚ) < (s + 1 : Nat) := by
      push_cast
      linarith
    exact Nat.le_of_lt_succ (Nat.cast_lt.1 hlt)
  have hvalue : value (k * twoTo 52 + s) = s * g := by
    rw [hg]
    exact value_grid hs hk'
  have hparity : (k * twoTo 52 + s) % 2 = s % 2 := by
    rw [twoTo_52]
    omega
  have hbelow : ∀ j, j + 1 = k * twoTo 52 + s →
      value j = (s - 1) * g ∨ value j + value (k * twoTo 52 + s) < 2 * (r * g) := by
    intro j hj
    refine (value_grid_pred hg hs hk' hj).imp_right ?_
    rintro ⟨hne, rfl⟩
    have hlt : value j < value (k * twoTo 52 + twoTo 52) := value_strictMono (by omega)
    have hle := mul_le_mul_of_nonneg_right (hk.resolve_left hne) hpos.le
    rw [hvalue] at hlt ⊢
    linarith
  have habove : value (k * twoTo 52 + s + 1) = (s + 1) * g ∨
      2 * (r * g) < value (k * twoTo 52 + s) + value (k * twoTo 52 + s + 1) := by
    rcases Nat.lt_or_ge s (twoTo 53) with hlt | hge
    · left
      have hk'' : k = 0 ∨ twoTo 52 ≤ s + 1 := hk'.imp_right fun h => h.trans (Nat.le_succ s)
      rw [Nat.add_assoc, value_grid hlt hk'', ← hg, Nat.cast_succ]
    · right
      obtain rfl : s = twoTo 53 := le_antisymm hs hge
      have hlt := value_strictMono (Nat.lt_succ_self (k * twoTo 52 + twoTo 53))
      have hle := mul_lt_mul_of_pos_right hr hpos
      rw [hvalue] at hlt ⊢
      linarith
  have hlow' := mul_le_mul_of_nonneg_right hlow hpos.le
  have hhigh' := mul_le_mul_of_nonneg_right hhigh hpos.le
  refine roundsTo_min_of_between (fun j hj => ?_) ?_ fun h => ⟨fun j hj => ?_, ?_⟩
  · rcases hbelow j hj with heq | hlt
    · rw [heq, hvalue]
      linarith
    · exact hlt.le
  · rcases habove with heq | hlt
    · rw [heq, hvalue]
      linarith
    · exact hlt.le
  · rw [hparity] at h
    rcases hbelow j hj with heq | hlt
    · rw [heq, hvalue]
      intro hmiddle
      exact (hodd h).1 (mul_right_cancel₀ hpos.ne' (by linarith))
    · exact hlt.ne
  · rw [hparity] at h
    rcases habove with heq | hlt
    · rw [heq, hvalue]
      intro hmiddle
      exact (hodd h).2 (mul_right_cancel₀ hpos.ne' (by linarith))
    · exact hlt.ne

/-! ### Ratios -/

section

variable {num den : Nat}

/-- The nearest natural number is within half a unit, and an odd one is not just half a unit
away. -/
theorem nearest_bounds (num : Nat) (hden : 0 < den) :
    (2 * nearest num den - 1 : ℚ) ≤ 2 * (num / den) ∧
      2 * (num / den : ℚ) ≤ 2 * nearest num den + 1 ∧
      (nearest num den % 2 = 1 → (2 * nearest num den - 1 : ℚ) ≠ 2 * (num / den) ∧
        2 * (num / den : ℚ) ≠ 2 * nearest num den + 1) := by
  have hden' : (0 : ℚ) < den := Nat.cast_pos.2 hden
  obtain ⟨low, rest, hlow, hrest, hnum⟩ : ∃ low rest, num / den = low ∧ num % den = rest ∧
      (num : ℚ) / den = low + rest / den := by
    refine ⟨_, _, rfl, rfl, ?_⟩
    rw [div_eq_iff hden'.ne', add_mul, div_mul_cancel₀ _ hden'.ne', ← Nat.cast_mul, ← Nat.cast_add,
      Nat.div_add_mod']
  have hlt : rest < den := hrest ▸ Nat.mod_lt num hden
  have hrest0 : (0 : ℚ) ≤ rest / den := by positivity
  have hrest1 : (rest : ℚ) / den < 1 := (div_lt_one hden').2 (Nat.cast_lt.2 hlt)
  have hhalf : 2 * ((rest : ℚ) / den) < 1 ↔ 2 * rest < den := by
    rw [← mul_div_assoc, div_lt_one hden', ← Nat.cast_ofNat, ← Nat.cast_mul, Nat.cast_lt]
  have hhalf' : 2 * ((rest : ℚ) / den) = 1 ↔ 2 * rest = den := by
    rw [← mul_div_assoc, div_eq_one_iff_eq hden'.ne', ← Nat.cast_ofNat, ← Nat.cast_mul,
      Nat.cast_inj]
  rw [nearest, hlow, hrest, hnum]
  simp only [Bool.or_eq_true, Bool.and_eq_true, decide_eq_true_eq, beq_iff_eq, ← hhalf, ← hhalf']
  generalize (rest : ℚ) / den = r at hrest0 hrest1
  split
  next h =>
    refine ⟨by linarith, ?_, fun hodd => ⟨by linarith, ?_⟩⟩
    · rcases h with h | ⟨h, -⟩ <;> linarith
    · rcases h with h | ⟨-, h⟩
      · linarith
      · omega
  next h =>
    rw [not_or, not_lt, not_and] at h
    push_cast
    refine ⟨by linarith, by linarith, fun hodd => ⟨?_, by linarith⟩⟩
    intro heq
    exact h.2 (by linarith) (by omega)

theorem ratio_in_units (num den : Nat) (e : ℤ) :
    (num / den : ℚ) =
      ((num * twoTo (-e).toNat : Nat) : ℚ) / (den * twoTo e.toNat : Nat) * 2 ^ e := by
  have htwo : (twoTo (-e).toNat : ℚ) ≠ 0 := Nat.cast_ne_zero.2 (twoTo_pos _).ne'
  rw [Nat.cast_mul, Nat.cast_mul, cast_twoTo e]
  field_simp

theorem binaryOrder_bounds (hnum : 0 < num) (hden : 0 < den) :
    (2 : ℚ) ^ binaryOrder num den ≤ num / den ∧
      (num / den : ℚ) < 2 ^ (binaryOrder num den + 1) := by
  have hden' : (0 : ℚ) < den := Nat.cast_pos.2 hden
  have htwo : ∀ e : ℤ, (2 : ℚ) ^ (e + 1) = 2 * 2 ^ e := fun e => by
    rw [zpow_add_one₀ two_ne_zero, mul_comm]
  have hpow : ∀ n : Nat, (2 : ℚ) ^ (n : ℤ) = (2 ^ n : Nat) := fun n => by
    rw [zpow_natCast, Nat.cast_pow, Nat.cast_ofNat]
  have hnumLow : (2 : ℚ) ^ (num.log2 : ℤ) ≤ num := by
    rw [hpow, Nat.cast_le]
    exact Nat.log2_self_le hnum.ne'
  have hnumHigh : (num : ℚ) < 2 ^ ((num.log2 : ℤ) + 1) := by
    rw [← Nat.cast_succ, hpow, Nat.cast_lt]
    exact Nat.lt_log2_self
  have hdenLow : (2 : ℚ) ^ (den.log2 : ℤ) ≤ den := by
    rw [hpow, Nat.cast_le]
    exact Nat.log2_self_le hden.ne'
  have hdenHigh : (den : ℚ) < 2 ^ ((den.log2 : ℤ) + 1) := by
    rw [← Nat.cast_succ, hpow, Nat.cast_lt]
    exact Nat.lt_log2_self
  -- the orders of the two numbers leave two binades
  have hlow : (2 : ℚ) ^ ((num.log2 : ℤ) - den.log2 - 1) < num / den := by
    rw [lt_div_iff₀ hden']
    calc (2 : ℚ) ^ ((num.log2 : ℤ) - den.log2 - 1) * den
        < 2 ^ ((num.log2 : ℤ) - den.log2 - 1) * 2 ^ ((den.log2 : ℤ) + 1) := by gcongr
      _ = 2 ^ (num.log2 : ℤ) := by
          rw [← zpow_add₀ two_ne_zero]
          congr 1
          omega
      _ ≤ num := hnumLow
  have hhigh : (num / den : ℚ) < 2 ^ ((num.log2 : ℤ) - den.log2 + 1) := by
    rw [div_lt_iff₀ hden']
    calc (num : ℚ) < 2 ^ ((num.log2 : ℤ) + 1) := hnumHigh
      _ = 2 ^ ((num.log2 : ℤ) - den.log2 + 1) * 2 ^ (den.log2 : ℤ) := by
          rw [← zpow_add₀ two_ne_zero]
          congr 1
          omega
      _ ≤ 2 ^ ((num.log2 : ℤ) - den.log2 + 1) * den := by gcongr
  have htest : ∀ e : ℤ, den * twoTo e.toNat ≤ num * twoTo (-e).toNat ↔
      (2 : ℚ) ^ e ≤ num / den := by
    intro e
    have hpos : (0 : ℚ) < (den * twoTo e.toNat : Nat) :=
      Nat.cast_pos.2 (Nat.mul_pos hden (twoTo_pos _))
    rw [ratio_in_units num den e, le_mul_iff_one_le_left (zpow_pos two_pos e), one_le_div hpos,
      Nat.cast_le]
  rw [binaryOrder]
  split
  next h => exact ⟨(htest _).1 h, hhigh⟩
  next h =>
    rw [htest, not_le] at h
    rw [sub_add_cancel]
    exact ⟨hlow.le, h⟩

/-- **A ratio is rounded to the nearest magnitude.** -/
theorem roundsTo_ofRatio (num : Nat) (hden : 0 < den) :
    RoundsTo (num / den) (ofRatio num den) := by
  rcases Nat.eq_zero_or_pos num with rfl | hnum
  · rw [ofRatio, if_pos rfl, Nat.cast_zero, zero_div, ← value_zero]
    exact roundsTo_value (Nat.zero_le _)
  · rw [ofRatio, if_neg hnum.ne']
    obtain ⟨horder, horder'⟩ := binaryOrder_bounds hnum hden
    generalize binaryOrder num den = order at horder horder' ⊢
    dsimp only
    obtain ⟨e, he⟩ : ∃ e, e = max (order - 52) (-1074) := ⟨_, rfl⟩
    rw [← he]
    have hk : (2 : ℚ) ^ e = 2 ^ (((e + 1074).toNat : ℤ) - 1074) := by
      congr 1
      omega
    have hpos : (0 : ℚ) < 2 ^ e := zpow_pos two_pos e
    obtain ⟨hlow, hhigh, hodd⟩ :=
      nearest_bounds (num * twoTo (-e).toNat) (Nat.mul_pos hden (twoTo_pos e.toNat))
    have hunits := ratio_in_units num den e
    generalize nearest (num * twoTo (-e).toNat) (den * twoTo e.toNat) = s at hlow hhigh hodd ⊢
    generalize ((num * twoTo (-e).toNat : Nat) : ℚ) / (den * twoTo e.toNat : Nat) = r
      at hlow hhigh hodd hunits
    -- the binade of the ratio, in units of the grid
    have hr : r < twoTo 53 := by
      rw [← mul_lt_mul_iff_left₀ hpos, ← hunits]
      refine horder'.trans_le ?_
      rw [show (twoTo 53 : ℚ) = 2 ^ (53 : ℤ) by norm_num [twoTo_53], ← zpow_add₀ two_ne_zero]
      exact zpow_le_zpow_right₀ one_le_two (by omega)
    have hr' : (e + 1074).toNat = 0 ∨ (twoTo 52 : ℚ) ≤ r := by
      rcases le_total (order - 52) (-1074) with h | h
      · left
        omega
      · right
        rw [← mul_le_mul_iff_left₀ hpos, ← hunits]
        refine le_trans ?_ horder
        rw [show (twoTo 52 : ℚ) = 2 ^ (52 : ℤ) by norm_num [twoTo_52], ← zpow_add₀ two_ne_zero]
        exact zpow_le_zpow_right₀ one_le_two (by omega)
    rw [hunits]
    exact roundsTo_grid hk hr hr' hlow hhigh hodd

end

/-! ### The ends of the range -/

theorem value_infinityMagnitude : value infinityMagnitude = 2 ^ 1024 := by
  have hm : infinityMagnitude = twoTo 52 * (2046 + 1) + 0 := by decide +kernel
  have htwo : (twoTo 52 : ℚ) = 2 ^ (52 : ℤ) := by norm_num [twoTo_52]
  rw [hm, value_binade 2046 (twoTo_pos 52), Nat.add_zero, htwo, ← zpow_add₀ two_ne_zero]
  rfl

theorem value_pred_infinityMagnitude : value (infinityMagnitude - 1) = 2 ^ 1024 - 2 ^ 971 := by
  have hm : infinityMagnitude - 1 = twoTo 52 * (2045 + 1) + (twoTo 52 - 1) := by decide +kernel
  have hstep : (2 : ℚ) ^ (((2045 : Nat) : ℤ) - 1074) = 2 ^ 971 := rfl
  have hpower : (2 : ℚ) ^ 1024 = 2 ^ 53 * 2 ^ 971 := pow_add 2 53 971
  rw [hm, value_binade 2045 (by decide +kernel), twoTo_52, hstep, hpower]
  generalize (2 : ℚ) ^ 971 = step
  push_cast
  linarith

theorem roundsTo_infinity_of_le (h : 2 ^ 1024 - 2 ^ 970 ≤ q) : RoundsTo q infinityMagnitude := by
  refine roundsTo_infinity ?_
  rw [value_infinityMagnitude, value_pred_infinityMagnitude, pow_succ 2 970]
  generalize (2 : ℚ) ^ 1024 = head at h ⊢
  generalize (2 : ℚ) ^ 970 = half at h ⊢
  linarith

theorem roundsTo_zero_of_le (h : q ≤ 2 ^ (-1075 : ℤ)) : RoundsTo q 0 := by
  have hone : value 1 = 2 * 2 ^ (-1075 : ℤ) := by
    rw [value_of_lt (by decide +kernel), Nat.cast_one, one_mul, ← zpow_one_add₀ two_ne_zero]
    congr 1
  refine roundsTo_of_between (by decide +kernel) (by simp) ?_ (by simp)
  rw [value_zero, zero_add, hone]
  linarith

end Magnitude

theorem two_pow_le_ten_pow {n : Nat} (hn : n ≤ 1200) : (2 : ℚ) ^ n ≤ 10 ^ 400 :=
  calc (2 : ℚ) ^ n ≤ 2 ^ (3 * 400) := pow_le_pow_right₀ one_le_two hn
    _ = (2 ^ 3) ^ 400 := pow_mul 2 3 400
    _ ≤ 10 ^ 400 := pow_le_pow_left₀ (by norm_num) (by norm_num) 400

/-- **A decimal is rounded to the nearest magnitude.** -/
theorem Decimal.roundsTo_round (d : Decimal) : Magnitude.RoundsTo d.value d.round := by
  rw [round]
  split
  next hdigits =>
    rw [value, hdigits, Nat.cast_zero, zero_mul, ← Magnitude.value_zero]
    exact Magnitude.roundsTo_value (Nat.zero_le _)
  next hdigits =>
    have hone : (1 : ℚ) ≤ d.digits := Nat.one_le_cast.2 (Nat.pos_of_ne_zero hdigits)
    split
    next hexponent =>
      refine Magnitude.roundsTo_infinity_of_le ?_
      calc (2 : ℚ) ^ 1024 - 2 ^ 970 ≤ 2 ^ 1024 := sub_le_self _ (by positivity)
        _ ≤ 10 ^ (400 : ℤ) := two_pow_le_ten_pow (by decide)
        _ ≤ 10 ^ d.exponent := zpow_le_zpow_right₀ (by norm_num) hexponent
        _ ≤ d.digits * 10 ^ d.exponent := le_mul_of_one_le_left (by positivity) hone
    next =>
      split
      next hexponent =>
        refine Magnitude.roundsTo_zero_of_le ?_
        have hdigits' : (d.digits : ℚ) ≤ 10 ^ ((d.digits.log2 + 1 : Nat) : ℤ) := by
          rw [zpow_natCast, ← Nat.cast_ofNat, ← Nat.cast_pow, Nat.cast_le]
          exact Nat.lt_log2_self.le.trans (Nat.pow_le_pow_left (by decide) _)
        calc (d.digits * 10 ^ d.exponent : ℚ)
            ≤ 10 ^ ((d.digits.log2 + 1 : Nat) : ℤ) * 10 ^ d.exponent := by gcongr
          _ = 10 ^ (((d.digits.log2 + 1 : Nat) : ℤ) + d.exponent) :=
              (zpow_add₀ (by norm_num) _ _).symm
          _ ≤ 10 ^ (-400 : ℤ) := zpow_le_zpow_right₀ (by norm_num) (by omega)
          _ ≤ 2 ^ (-1075 : ℤ) := by
              rw [zpow_neg, zpow_neg, zpow_ofNat, zpow_ofNat]
              exact inv_anti₀ (pow_pos two_pos _) (two_pow_le_ten_pow (by decide))
      next =>
        have hratio : d.value =
            ((d.digits * tenTo d.exponent.toNat : Nat) : ℚ) / tenTo (-d.exponent).toNat := by
          have hten : (tenTo (-d.exponent).toNat : ℚ) ≠ 0 := Nat.cast_ne_zero.2 (tenTo_pos _).ne'
          rw [value, Nat.cast_mul, Magnitude.cast_tenTo d.exponent]
          field_simp
        rw [hratio]
        exact Magnitude.roundsTo_ofRatio _ (tenTo_pos _)

end LoxTokens
