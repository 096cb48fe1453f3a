import LoxTokens.Number.Decimal
import Mathlib.Algebra.Order.Field.Power
import Mathlib.Data.Rat.Cast.Order
import Mathlib.Tactic.FieldSimp
import Mathlib.Tactic.Linarith
import Mathlib.Tactic.Positivity
import Mathlib.Tactic.Ring

/-! # Rounding to the nearest magnitude

Decimals and magnitudes stand for rational numbers (`Decimal.value`, `Magnitude.value`), the next
magnitude for one that is greater by a step of `2 ^ exponent` (`value_succ`).  A rational number
rounds to the magnitude nearest to it, and to the even one of two (`RoundsTo`); there is no other
(`RoundsTo.unique`).  It rounds to `m` where it lies between the middles of the steps before and
after `m` (`roundsTo_of_between`). -/

namespace LoxTokens

/-- The number that a decimal stands for. -/
def Decimal.value (d : Decimal) : ℚ := d.digits * 10 ^ d.exponent

theorem natCast_tenTo (n : Nat) : (tenTo n : ℚ) = 10 ^ (n : ℤ) :=
  (Nat.cast_pow 10 n).trans (zpow_natCast 10 n).symm

namespace Magnitude

/-- The number that a magnitude stands for.  Infinity counts as the number that would follow the
greatest finite one. -/
def value (m : Nat) : ℚ := significand m * 2 ^ exponent m

/-- `m` is the magnitude nearest to `q`, and the even one where another is as near. -/
structure RoundsTo (q : ℚ) (m : Nat) : Prop where
  le_infinity : m ≤ infinityMagnitude
  nearest : ∀ k ≤ infinityMagnitude, |value m - q| ≤ |value k - q|
  even : ∀ k ≤ infinityMagnitude, k ≠ m → |value k - q| = |value m - q| → m % 2 = 0

variable {k m n : Nat} {a b q : ℚ}

/-! ### Steps between magnitudes -/

theorem twoTo_52 : twoTo 52 = 4503599627370496 := rfl

theorem twoTo_53 : twoTo 53 = 9007199254740992 := rfl

theorem value_of_lt (h : m < twoTo 52) : value m = m * 2 ^ (-1074 : ℤ) := by
  rw [value, significand, exponent, if_pos h, if_pos h]

theorem value_binade (b : Nat) {f : Nat} (hf : f < twoTo 52) :
    value (twoTo 52 * (b + 1) + f) = ((twoTo 52 + f : Nat) : ℚ) * 2 ^ ((b : ℤ) - 1074) := by
  have hpos := twoTo_pos 52
  have hge : ¬ twoTo 52 * (b + 1) + f < twoTo 52 := by
    rw [Nat.mul_succ]
    omega
  have hdiv : (twoTo 52 * (b + 1) + f) / twoTo 52 = b + 1 := by
    rw [Nat.mul_add_div hpos, Nat.div_eq_of_lt hf, Nat.add_zero]
  have hmod : (twoTo 52 * (b + 1) + f) % twoTo 52 = f := by
    rw [Nat.mul_add_mod, Nat.mod_eq_of_lt hf]
  have hexponent : ((b + 1 : Nat) : ℤ) - 1075 = (b : ℤ) - 1074 := by omega
  rw [value, significand, exponent, if_neg hge, if_neg hge, hdiv, hmod, hexponent]

theorem exponent_binade (b : Nat) {f : Nat} (hf : f < twoTo 52) :
    exponent (twoTo 52 * (b + 1) + f) = (b : ℤ) - 1074 := by
  have hpos := twoTo_pos 52
  have hge : ¬ twoTo 52 * (b + 1) + f < twoTo 52 := by
    rw [Nat.mul_succ]
    omega
  have hdiv : (twoTo 52 * (b + 1) + f) / twoTo 52 = b + 1 := by
    rw [Nat.mul_add_div hpos, Nat.div_eq_of_lt hf, Nat.add_zero]
  rw [exponent, if_neg hge, hdiv]
  omega

theorem step_succ (b : Nat) :
    (2 : ℚ) ^ (((b + 1 : Nat) : ℤ) - 1074) = 2 * 2 ^ ((b : ℤ) - 1074) := by
  rw [show ((b + 1 : Nat) : ℤ) - 1074 = 1 + ((b : ℤ) - 1074) by omega, zpow_add₀ two_ne_zero,
    zpow_one]

/-- A magnitude is subnormal, or one of a binade. -/
theorem exists_binade (m : Nat) :
    m < twoTo 52 ∨ ∃ b f, f < twoTo 52 ∧ m = twoTo 52 * (b + 1) + f := by
  rcases Nat.lt_or_ge m (twoTo 52) with h | h
  · exact .inl h
  · have hpos := twoTo_pos 52
    refine .inr ⟨m / twoTo 52 - 1, m % twoTo 52, Nat.mod_lt m hpos, ?_⟩
    have hone : 1 ≤ m / twoTo 52 := (Nat.one_le_div_iff hpos).2 h
    rw [Nat.sub_add_cancel hone, Nat.div_add_mod]

/-- The step up from a magnitude is the unit of its significand, also where a binade ends. -/
theorem value_succ (m : Nat) : value (m + 1) = value m + 2 ^ exponent m := by
  rcases exists_binade m with h | ⟨b, f, hf, rfl⟩
  · have hexponent : exponent m = -1074 := by rw [exponent, if_pos h]
    rcases Nat.lt_or_ge (m + 1) (twoTo 52) with h' | h'
    · rw [value_of_lt h, value_of_lt h', hexponent, Nat.cast_succ, add_mul, one_mul]
    · -- the least magnitude of the first binade
      have hm : m + 1 = twoTo 52 * (0 + 1) + 0 := by omega
      have hzero : ((0 : Nat) : ℤ) - 1074 = -1074 := by omega
      rw [value_of_lt h, hexponent, hm, value_binade 0 (twoTo_pos 52), Nat.add_zero, hzero,
        show twoTo 52 = m + 1 by omega, Nat.cast_succ, add_mul, one_mul]
  · rw [value_binade b hf, exponent_binade b hf]
    rcases Nat.lt_or_ge (f + 1) (twoTo 52) with h' | h'
    · rw [Nat.add_assoc, value_binade b h']
      push_cast
      ring
    · -- the least magnitude of the next binade
      have hm : twoTo 52 * (b + 1) + f + 1 = twoTo 52 * (b + 1 + 1) + 0 := by
        rw [Nat.mul_succ (twoTo 52) (b + 1)]
        omega
      rw [hm, value_binade (b + 1) (twoTo_pos 52), Nat.add_zero, step_succ,
        show f = twoTo 52 - 1 by omega, twoTo_52]
      push_cast
      ring

theorem value_strictMono : StrictMono value := by
  refine strictMono_nat_of_lt_succ fun m => ?_
  rw [value_succ]
  have hstep : (0 : ℚ) < 2 ^ exponent m := by positivity
  linarith

theorem value_zero : value 0 = 0 := by
  rw [value_of_lt (twoTo_pos 52), Nat.cast_zero, zero_mul]

/-! ### The nearest magnitude -/

theorem upper_nearer_iff (h : a < b) : |b - q| ≤ |a - q| ↔ a + b ≤ 2 * q := by
  rw [← sq_le_sq]
  constructor
  · intro hsq
    nlinarith
  · intro hmiddle
    nlinarith

theorem lower_nearer_iff (h : a < b) : |a - q| ≤ |b - q| ↔ 2 * q ≤ a + b := by
  rw [← sq_le_sq]
  constructor
  · intro hsq
    nlinarith
  · intro hmiddle
    nlinarith

theorem RoundsTo.unique (hm : RoundsTo q m) (hk : RoundsTo q k) : m = k := by
  by_contra hne
  wlog hlt : m < k generalizing m k
  · exact this hk hm (Ne.symm hne) (by omega)
  have hupper := hk.nearest m hm.le_infinity
  have hlower := hm.nearest k hk.le_infinity
  -- both are even, so there is a magnitude between them, which is nearer
  have hmeven := hm.even k hk.le_infinity (Ne.symm hne) (hupper.antisymm hlower)
  have hkeven := hk.even m hm.le_infinity hne (hlower.antisymm hupper)
  have hbetween : m + 1 < k := by omega
  have hnearer := hk.nearest (m + 1) (hbetween.le.trans hk.le_infinity)
  rw [lower_nearer_iff (value_strictMono hlt)] at hlower
  rw [upper_nearer_iff (value_strictMono hbetween)] at hnearer
  have hstep : value m < value (m + 1) := value_strictMono (Nat.lt_succ_self m)
  linarith

theorem RoundsTo.mono (ha : RoundsTo a m) (hb : RoundsTo b n) (hle : a ≤ b) : m ≤ n := by
  by_contra hlt
  rw [not_le] at hlt
  have hupper := ha.nearest n hb.le_infinity
  have hlower := hb.nearest m ha.le_infinity
  rw [upper_nearer_iff (value_strictMono hlt)] at hupper
  rw [lower_nearer_iff (value_strictMono hlt)] at hlower
  have heq : a = b := by linarith
  subst heq
  exact hlt.ne (hb.unique ha)

theorem roundsTo_value (hm : m ≤ infinityMagnitude) : RoundsTo (value m) m := by
  refine ⟨hm, fun k _ => ?_, fun k _ hne hequal => ?_⟩
  · rw [sub_self, abs_zero]
    exact abs_nonneg _
  · rw [sub_self, abs_zero, abs_eq_zero, sub_eq_zero] at hequal
    exact absurd (value_strictMono.injective hequal) hne

/-- A number between the middles of the steps before and after a magnitude rounds to it; an odd
magnitude does not take the middles. -/
theorem roundsTo_of_between (hm : m < infinityMagnitude)
    (hlow : ∀ k, k + 1 = m → value k + value m ≤ 2 * q)
    (hhigh : 2 * q ≤ value m + value (m + 1))
    (hodd : m % 2 = 1 → (∀ k, k + 1 = m → value k + value m ≠ 2 * q) ∧
      2 * q ≠ value m + value (m + 1)) : RoundsTo q m := by
  have hbelow : ∀ k, k < m → value k + value m ≤ 2 * q ∧
      (m % 2 = 1 → value k + value m ≠ 2 * q) := by
    intro k hk
    obtain ⟨j, rfl⟩ : ∃ j, m = j + 1 := ⟨m - 1, by omega⟩
    have hmono : value k ≤ value j := value_strictMono.monotone (by omega)
    have hmiddle := hlow j rfl
    refine ⟨by linarith, fun h => ?_⟩
    have hne : value j + value (j + 1) < 2 * q := lt_of_le_of_ne hmiddle ((hodd h).1 j rfl)
    linarith
  have habove : ∀ k, m < k → 2 * q ≤ value m + value k ∧
      (m % 2 = 1 → 2 * q ≠ value m + value k) := by
    intro k hk
    have hmono : value (m + 1) ≤ value k := value_strictMono.monotone hk
    refine ⟨by linarith, fun h => ?_⟩
    have hne : 2 * q < value m + value (m + 1) := lt_of_le_of_ne hhigh (hodd h).2
    linarith
  refine ⟨hm.le, fun k _ => ?_, fun k _ hne hequal => ?_⟩
  · rcases Nat.lt_trichotomy k m with hk | rfl | hk
    · exact (upper_nearer_iff (value_strictMono hk)).2 (hbelow k hk).1
    · exact le_rfl
    · exact (lower_nearer_iff (value_strictMono hk)).2 (habove k hk).1
  · by_contra heven
    have h : m % 2 = 1 := by omega
    rcases Nat.lt_or_gt_of_ne hne with hk | hk
    · have hge := (lower_nearer_iff (value_strictMono hk)).1 hequal.le
      exact (hbelow k hk).2 h (le_antisymm (hbelow k hk).1 hge)
    · have hle := (upper_nearer_iff (value_strictMono hk)).1 hequal.le
      exact (habove k hk).2 h (le_antisymm (habove k hk).1 hle)

/-- What rounds to a magnitude lies between the middles of the steps before and after it, and not on
them where the magnitude is odd. -/
theorem RoundsTo.between (h : RoundsTo q m) (hm : m < infinityMagnitude) :
    (∀ k, k + 1 = m → value k + value m ≤ 2 * q) ∧ 2 * q ≤ value m + value (m + 1) ∧
      (m % 2 = 1 → (∀ k, k + 1 = m → value k + value m ≠ 2 * q) ∧
        2 * q ≠ value m + value (m + 1)) := by
  have habove := value_strictMono (Nat.lt_succ_self m)
  have hbelow : ∀ k, k + 1 = m → value k < value m := fun k hk => value_strictMono (by omega)
  refine ⟨fun k hk => ?_, ?_, fun hodd => ⟨fun k hk hmiddle => ?_, fun hmiddle => ?_⟩⟩
  · exact (upper_nearer_iff (hbelow k hk)).1 (h.nearest k (by omega))
  · exact (lower_nearer_iff habove).1 (h.nearest (m + 1) hm)
  · have hnearer := (lower_nearer_iff (hbelow k hk)).2 hmiddle.ge
    have heven := h.even k (by omega) (by omega) (hnearer.antisymm (h.nearest k (by omega)))
    omega
  · have hnearer := (upper_nearer_iff habove).2 hmiddle.ge
    have heven := h.even (m + 1) hm (by omega) (hnearer.antisymm (h.nearest (m + 1) hm))
    omega

end Magnitude
end LoxTokens
