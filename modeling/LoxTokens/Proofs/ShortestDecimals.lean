import LoxTokens.Number.Shortest
import LoxTokens.Proofs.Rounding
import Mathlib.Tactic.LinearCombination

/-! # Shortest decimals round back

A grid is compared with the interval of a magnitude in whole numbers: `unitWeight` is one unit of
the grid and `quarterStep` a quarter of the step after the magnitude, in a common measure.  What a
grid offers for a magnitude is `Near` it in this measure (`near_of_onGrid`), which is to say that it
rounds to the magnitude (`Near.roundsTo`).  The finest grid of the search always has something to
offer (`unitWeight_dvd`, `isSome_onGrid`), so the search ends with a decimal that rounds to the
magnitude (`roundsTo_shortest`). -/

namespace LoxTokens.Magnitude

variable {tie : Tie} {m k d : Nat} {e : Int}

/-! ### A common measure -/

/-- One unit of the grid `10 ^ e`. -/
def unitWeight (m : Nat) (e : Int) : Nat := 4 * tenTo e.toNat * twoTo (-exponent m).toNat

/-- A quarter of the step after a magnitude. -/
def quarterStep (m : Nat) (e : Int) : Nat := twoTo (exponent m).toNat * tenTo (-e).toNat

/-- The units of the grid `10 ^ e` that a magnitude holds. -/
def unitsBelow (m : Nat) (e : Int) : Nat :=
  4 * significand m * quarterStep m e / unitWeight m e

theorem quarterStep_pos (m : Nat) (e : Int) : 0 < quarterStep m e :=
  Nat.mul_pos (twoTo_pos _) (tenTo_pos _)

theorem unitWeight_pos (m : Nat) (e : Int) : 0 < unitWeight m e :=
  Nat.mul_pos (Nat.mul_pos (by decide) (tenTo_pos _)) (twoTo_pos _)

theorem cast_twoTo (n : Int) : (twoTo n.toNat : ℚ) = twoTo (-n).toNat * 2 ^ n := by
  have hcast : ∀ i, (twoTo i : ℚ) = 2 ^ i := fun i => Nat.cast_pow 2 i
  obtain ⟨i, rfl | rfl⟩ := n.eq_nat_or_neg
  · simp [hcast]
  · simp [hcast]

theorem cast_tenTo (n : Int) : (tenTo n.toNat : ℚ) = tenTo (-n).toNat * 10 ^ n := by
  have hcast : ∀ i, (tenTo i : ℚ) = 10 ^ i := fun i => Nat.cast_pow 10 i
  obtain ⟨i, rfl | rfl⟩ := n.eq_nat_or_neg
  · simp [hcast]
  · simp [hcast]

/-- Weights are numbers times a scale that both kinds share. -/
theorem exists_scale (m : Nat) (e : Int) :
    ∃ scale : ℚ, 0 < scale ∧ (quarterStep m e : ℚ) = scale * 2 ^ exponent m ∧
      (unitWeight m e : ℚ) = 4 * (scale * 10 ^ e) := by
  have htwo : (0 : ℚ) < twoTo (-exponent m).toNat := Nat.cast_pos.2 (twoTo_pos _)
  have hten : (0 : ℚ) < tenTo (-e).toNat := Nat.cast_pos.2 (tenTo_pos _)
  refine ⟨twoTo (-exponent m).toNat * tenTo (-e).toNat, mul_pos htwo hten, ?_, ?_⟩
  · rw [quarterStep, Nat.cast_mul, cast_twoTo]
    ring
  · rw [unitWeight, Nat.cast_mul, Nat.cast_mul, cast_tenTo]
    push_cast
    ring

/-! ### What a grid offers -/

/-- `d` units of the grid `10 ^ e` lie in the interval of `m`, and not on its ends where the
significand is odd. -/
structure Near (m : Nat) (e : Int) (d : Nat) : Prop where
  low : 4 * significand m * quarterStep m e ≤
    d * unitWeight m e + quartersBelow m * quarterStep m e
  high : d * unitWeight m e ≤ 4 * significand m * quarterStep m e + 2 * quarterStep m e
  odd : significand m % 2 = 1 →
    4 * significand m * quarterStep m e ≠
        d * unitWeight m e + quartersBelow m * quarterStep m e ∧
      d * unitWeight m e ≠ 4 * significand m * quarterStep m e + 2 * quarterStep m e

theorem quartersBelow_pos (m : Nat) : 0 < quartersBelow m := by
  unfold quartersBelow
  split <;> omega

/-- What a grid offers is one of the two neighbours of the magnitude, where its interval reaches
that. -/
theorem onGrid_cases (h : onGrid tie m e = some d) :
    (d = unitsBelow m e ∧
      (4 * significand m * quarterStep m e - quartersBelow m * quarterStep m e <
          unitsBelow m e * unitWeight m e ∨
        significand m % 2 = 0 ∧
          4 * significand m * quarterStep m e - quartersBelow m * quarterStep m e =
            unitsBelow m e * unitWeight m e)) ∨
    (d = unitsBelow m e + 1 ∧
      ((unitsBelow m e + 1) * unitWeight m e <
          4 * significand m * quarterStep m e + 2 * quarterStep m e ∨
        significand m % 2 = 0 ∧ (unitsBelow m e + 1) * unitWeight m e =
          4 * significand m * quarterStep m e + 2 * quarterStep m e)) := by
  unfold onGrid at h
  dsimp only at h
  simp only [← quarterStep.eq_1, ← unitWeight.eq_1, ← unitsBelow.eq_1] at h
  split at h
  · simp at h
  case h_2 hlow _ =>
    simp only [Bool.or_eq_true, Bool.and_eq_true, decide_eq_true_eq, beq_iff_eq] at hlow
    exact .inl ⟨(Option.some.inj h).symm, hlow⟩
  case h_3 _ hhigh =>
    simp only [Bool.or_eq_true, Bool.and_eq_true, decide_eq_true_eq, beq_iff_eq] at hhigh
    exact .inr ⟨(Option.some.inj h).symm, hhigh⟩
  case h_4 hlow hhigh =>
    simp only [Bool.or_eq_true, Bool.and_eq_true, decide_eq_true_eq, beq_iff_eq] at hlow hhigh
    have hd : d = unitsBelow m e ∨ d = unitsBelow m e + 1 := by
      grind
    exact hd.imp (⟨·, hlow⟩) (⟨·, hhigh⟩)

theorem near_of_onGrid (h : onGrid tie m e = some d) : Near m e d := by
  have hweight := unitWeight_pos m e
  have hquarter := quarterStep_pos m e
  have hbelow := Nat.div_mul_le_self (4 * significand m * quarterStep m e) (unitWeight m e)
  have habove := Nat.lt_div_mul_add hweight (a := 4 * significand m * quarterStep m e)
  rw [← unitsBelow.eq_1] at hbelow habove
  have hparts := Nat.mul_pos (quartersBelow_pos m) hquarter
  rcases onGrid_cases h with ⟨rfl, hhit⟩ | ⟨rfl, hhit⟩
  · exact ⟨by omega, by omega, fun hodd => ⟨by omega, by omega⟩⟩
  · rw [Nat.add_one_mul (unitsBelow m e)] at hhit
    constructor <;> rw [Nat.add_one_mul (unitsBelow m e)]
    · omega
    · omega
    · exact fun hodd => ⟨by omega, by omega⟩

/-! ### Near a magnitude -/

theorem significand_mod_two (m : Nat) : significand m % 2 = m % 2 := by
  rw [significand, twoTo_52]
  split <;> omega

theorem significand_pos (hm : 0 < m) : 0 < significand m := by
  rw [significand, twoTo_52]
  split <;> omega

theorem quartersBelow_succ (k : Nat) :
    (quartersBelow (k + 1) : ℚ) * 2 ^ exponent (k + 1) = 2 * (value (k + 1) - value k) := by
  rw [value_succ, add_sub_cancel_left]
  rcases exists_binade (k + 1) with h | ⟨b, f, hf, heq⟩
  · have hquarters : quartersBelow (k + 1) = 2 := by
      rw [twoTo_52] at h
      have hmod : (k + 1) % 4503599627370496 ≠ 0 := by omega
      simp [quartersBelow, twoTo_52, hmod]
    have hk : k < twoTo 52 := by omega
    rw [hquarters, exponent, exponent, if_pos h, if_pos hk, Nat.cast_two]
  · rcases Nat.eq_zero_or_pos f with rfl | hpos
    · cases b with
      | zero =>
        have hk : k = twoTo 52 - 1 := by omega
        rw [heq, exponent_binade 0 (twoTo_pos 52), hk]
        simp [quartersBelow, exponent, twoTo_52, twoTo_53]
      | succ b =>
        -- the only magnitudes whose step before is shorter
        have hk : k = twoTo 52 * (b + 1) + (twoTo 52 - 1) := by
          rw [Nat.mul_succ (twoTo 52) (b + 1)] at heq
          have := twoTo_pos 52
          omega
        have hquarters : quartersBelow (k + 1) = 1 := by
          rw [quartersBelow, heq, twoTo_52, twoTo_53]
          simp
          omega
        rw [hquarters, heq, exponent_binade (b + 1) (twoTo_pos 52), hk,
          exponent_binade b (Nat.sub_lt (twoTo_pos 52) Nat.one_pos), step_succ, Nat.cast_one,
          one_mul]
    · have hk : k = twoTo 52 * (b + 1) + (f - 1) := by omega
      have hquarters : quartersBelow (k + 1) = 2 := by
        have hmod : (k + 1) % twoTo 52 ≠ 0 := by
          rw [heq, Nat.mul_add_mod, Nat.mod_eq_of_lt hf]
          exact Nat.pos_iff_ne_zero.1 hpos
        simp [quartersBelow, hmod]
      rw [hquarters, heq, exponent_binade b hf, hk,
        exponent_binade b ((Nat.sub_le f 1).trans_lt hf), Nat.cast_two]

/-- In the common measure, the weights are those of the magnitude, of the decimal and of half the
steps beside the magnitude. -/
theorem exists_measure (m : Nat) (e : Int) (d : Nat) :
    ∃ scale : ℚ, 0 < scale ∧
      ((4 * significand m * quarterStep m e : Nat) : ℚ) = scale * (4 * value m) ∧
      ((d * unitWeight m e : Nat) : ℚ) = scale * (4 * Decimal.value ⟨d, e⟩) ∧
      (∀ k, k + 1 = m →
        ((quartersBelow m * quarterStep m e : Nat) : ℚ) = scale * (2 * (value m - value k))) ∧
      ((2 * quarterStep m e : Nat) : ℚ) = scale * (2 * (value (m + 1) - value m)) := by
  obtain ⟨scale, hscale, hquarter, hunit⟩ := exists_scale m e
  refine ⟨scale, hscale, ?_, ?_, ?_, ?_⟩
  · rw [Nat.cast_mul, Nat.cast_mul, hquarter, value, Nat.cast_ofNat]
    ring
  · rw [Nat.cast_mul, hunit, Decimal.value]
    ring
  · rintro k rfl
    rw [← quartersBelow_succ, Nat.cast_mul, hquarter]
    ring
  · rw [Nat.cast_mul, hquarter, value_succ, add_sub_cancel_left, Nat.cast_two]
    ring

theorem Near.roundsTo (h : Near m e d) (hm : m < infinityMagnitude) :
    RoundsTo (Decimal.value ⟨d, e⟩) m := by
  obtain ⟨scale, hscale, hvalue, hunits, hbelow, habove⟩ := exists_measure m e d
  refine roundsTo_of_between hm (fun k hk => ?_) ?_ fun hodd => ⟨fun k hk => ?_, ?_⟩
  · have hlow : ((4 * significand m * quarterStep m e : Nat) : ℚ) ≤
        (d * unitWeight m e + quartersBelow m * quarterStep m e : Nat) := Nat.cast_le.2 h.low
    rw [Nat.cast_add, hvalue, hunits, hbelow k hk, ← mul_add,
      mul_le_mul_iff_right₀ hscale] at hlow
    linarith
  · have hhigh : ((d * unitWeight m e : Nat) : ℚ) ≤
        (4 * significand m * quarterStep m e + 2 * quarterStep m e : Nat) := Nat.cast_le.2 h.high
    rw [Nat.cast_add, hvalue, hunits, habove, ← mul_add, mul_le_mul_iff_right₀ hscale] at hhigh
    linarith
  · intro hmiddle
    rw [← significand_mod_two] at hodd
    refine (h.odd hodd).1 (Nat.cast_injective (R := ℚ) ?_)
    rw [Nat.cast_add, hvalue, hunits, hbelow k hk]
    linear_combination 2 * scale * hmiddle
  · intro hmiddle
    rw [← significand_mod_two] at hodd
    refine (h.odd hodd).2 (Nat.cast_injective (R := ℚ) ?_)
    rw [Nat.cast_add, hvalue, hunits, habove]
    linear_combination 2 * scale * hmiddle

theorem near_of_roundsTo (h : RoundsTo (Decimal.value ⟨d, e⟩) m) (hpos : 0 < m)
    (hm : m < infinityMagnitude) : Near m e d := by
  obtain ⟨scale, hscale, hvalue, hunits, hbelow, habove⟩ := exists_measure m e d
  obtain ⟨hlow, hhigh, hodd⟩ := h.between hm
  obtain ⟨k, hk⟩ : ∃ k, k + 1 = m := ⟨m - 1, Nat.sub_add_cancel hpos⟩
  refine ⟨?_, ?_, fun h => ⟨fun heq => ?_, fun heq => ?_⟩⟩
  · rw [← Nat.cast_le (α := ℚ), Nat.cast_add, hvalue, hunits, hbelow k hk, ← mul_add,
      mul_le_mul_iff_right₀ hscale]
    linarith [hlow k hk]
  · rw [← Nat.cast_le (α := ℚ), Nat.cast_add, hvalue, hunits, habove, ← mul_add,
      mul_le_mul_iff_right₀ hscale]
    linarith
  · rw [← Nat.cast_inj (R := ℚ), Nat.cast_add, hvalue, hunits, hbelow k hk, ← mul_add] at heq
    rw [significand_mod_two] at h
    exact (hodd h).1 k hk (by linarith [mul_left_cancel₀ hscale.ne' heq])
  · rw [← Nat.cast_inj (R := ℚ), Nat.cast_add, hvalue, hunits, habove, ← mul_add] at heq
    rw [significand_mod_two] at h
    exact (hodd h).2 (by linarith [mul_left_cancel₀ hscale.ne' heq])

/-! ### The search -/

theorem quarters_lt_value (hpos : 0 < m) (e : Int) :
    quartersBelow m * quarterStep m e < 4 * significand m * quarterStep m e := by
  have hsignificand := significand_pos hpos
  refine Nat.mul_lt_mul_of_pos_right ?_ (quarterStep_pos m e)
  unfold quartersBelow
  split <;> omega

theorem Near.isSome_onGrid (h : Near m e d) (hpos : 0 < m) : (onGrid tie m e).isSome := by
  have hquarters := quarters_lt_value hpos e
  have hhits : 4 * significand m * quarterStep m e - quartersBelow m * quarterStep m e <
        unitsBelow m e * unitWeight m e ∨
      (significand m % 2 = 0 ∧ 4 * significand m * quarterStep m e -
        quartersBelow m * quarterStep m e = unitsBelow m e * unitWeight m e) ∨
      (unitsBelow m e + 1) * unitWeight m e <
        4 * significand m * quarterStep m e + 2 * quarterStep m e ∨
      (significand m % 2 = 0 ∧ (unitsBelow m e + 1) * unitWeight m e =
        4 * significand m * quarterStep m e + 2 * quarterStep m e) := by
    obtain ⟨hlow, hhigh, hodd⟩ := h
    rcases Nat.lt_or_ge (unitsBelow m e) d with hd | hd
    · have hle := Nat.mul_le_mul_right (unitWeight m e) (show unitsBelow m e + 1 ≤ d from hd)
      omega
    · have hle := Nat.mul_le_mul_right (unitWeight m e) hd
      omega
  unfold onGrid
  dsimp only
  simp only [← quarterStep.eq_1, ← unitWeight.eq_1, ← unitsBelow.eq_1]
  split
  next hlow hhigh =>
    simp only [Bool.or_eq_false_iff, Bool.and_eq_false_imp, decide_eq_false_iff_not, beq_iff_eq,
      beq_eq_false_iff_ne] at hlow hhigh
    exfalso
    omega
  next => rfl
  next => rfl
  next =>
    split
    · rfl
    · split
      · rfl
      · cases tie <;> rfl

theorem isSome_onGrid (hm : 0 < m) (hdvd : unitWeight m e ∣ 4 * significand m * quarterStep m e) :
    (onGrid tie m e).isSome := by
  have hquarters := Nat.mul_pos (quartersBelow_pos m) (quarterStep_pos m e)
  have hquarter := quarterStep_pos m e
  have hunits : unitsBelow m e * unitWeight m e = 4 * significand m * quarterStep m e :=
    Nat.div_mul_cancel hdvd
  have hnear : Near m e (unitsBelow m e) :=
    ⟨by omega, by omega, fun _ => ⟨by omega, by omega⟩⟩
  exact hnear.isSome_onGrid hm

/-- The magnitude lies on the finest grid of the search. -/
theorem unitWeight_dvd (m : Nat) :
    unitWeight m (min (exponent m) 0) ∣
      4 * significand m * quarterStep m (min (exponent m) 0) := by
  rw [unitWeight, quarterStep]
  rcases le_total (exponent m) 0 with h | h
  · have hten : tenTo (-exponent m).toNat = twoTo (-exponent m).toNat * 5 ^ (-exponent m).toNat :=
      Nat.mul_pow 2 5 _
    rw [min_eq_left h, Int.toNat_of_nonpos h, hten]
    exact ⟨significand m * 5 ^ (-exponent m).toNat, by simp only [tenTo_zero, twoTo_zero]; ring⟩
  · rw [min_eq_right h, Int.toNat_of_nonpos (show -exponent m ≤ 0 by omega)]
    exact ⟨significand m * twoTo (exponent m).toNat, by simp [tenTo_zero, twoTo_zero]; ring⟩

/-- The search ends with what one of the grids offers. -/
theorem onGrid_searchGrids {finest : Int} (hfinest : (onGrid tie m finest).isSome) (steps : Nat) :
    onGrid tie m (searchGrids tie m finest steps).exponent =
      some (searchGrids tie m finest steps).digits := by
  induction steps with
  | zero =>
    obtain ⟨d, hd⟩ := Option.isSome_iff_exists.1 hfinest
    simp [searchGrids, hd]
  | succ steps ih =>
    rw [searchGrids]
    split
    next digits h => exact h
    next => exact ih

/-- **The shortest decimal rounds back to the magnitude.** -/
theorem roundsTo_shortest (tie : Tie) (hm : m < infinityMagnitude) :
    RoundsTo (shortest tie m).value m := by
  rcases Nat.eq_zero_or_pos m with rfl | hpos
  · have hzero : (shortest tie 0).value = value 0 := by
      rw [value_zero, shortest, if_pos rfl, Decimal.value]
      simp
    rw [hzero]
    exact roundsTo_value hm.le
  · rw [shortest, if_neg (Nat.pos_iff_ne_zero.1 hpos)]
    have hfinest : (onGrid tie m (min (exponent m) 0)).isSome :=
      isSome_onGrid hpos (unitWeight_dvd m)
    exact (near_of_onGrid (onGrid_searchGrids hfinest _)).roundsTo hm

theorem exponent_shortest (tie : Tie) (hm : m < infinityMagnitude)
    (hdigits : (shortest tie m).digits = 0) : (shortest tie m).exponent = 0 := by
  have hvalue : (shortest tie m).value = value 0 := by
    rw [value_zero, Decimal.value, hdigits, Nat.cast_zero, zero_mul]
  have hzero : m = 0 :=
    (hvalue ▸ roundsTo_shortest tie hm).unique (roundsTo_value (Nat.zero_le _))
  rw [shortest, if_pos hzero]

end LoxTokens.Magnitude
