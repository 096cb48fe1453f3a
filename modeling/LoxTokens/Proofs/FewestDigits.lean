import LoxTokens.Proofs.NearestMagnitude

/-! # Shortest decimals have the fewest digits

What rounds to a magnitude is near it on its grid (`near_of_roundsTo`), so a grid with a decimal
that rounds to the magnitude has something to offer (`Near.isSome_onGrid`), and there is none above
the grid on which the search begins (`RoundsTo.lt_decimalCeiling`).  So the search ends on the
coarsest of these grids (`exponent_le_shortest`).  A decimal with fewer digits than its result would
leave a power of ten between the two, on a coarser grid still (`digits_shortest_lt`).

Two ways of breaking a tie end on the same grid.  They differ where the magnitude is halfway between
two neighbours on it (`Halfway`), and nowhere else (`shortest_up_eq_even`,
`shortest_of_halfway`). -/

namespace LoxTokens

/-- The next decimal on the grid. -/
def Decimal.next (d : Decimal) : Decimal := ⟨d.digits + 1, d.exponent⟩

theorem Decimal.eq_of_digits {a b : Decimal} (hdigits : a.digits = b.digits)
    (hexponent : a.exponent = b.exponent) : a = b := by
  cases a
  cases b
  exact congrArg₂ Decimal.mk hdigits hexponent

theorem lt_tenTo_length (n : Nat) : n < tenTo (Text.ofNat n).length := by
  fun_induction Text.ofNat n with
  | case1 n h => simpa [tenTo] using h
  | case2 n h ih =>
    rw [List.length_append, List.length_singleton, tenTo_succ]
    omega

theorem tenTo_length_le {n : Nat} (hn : 0 < n) : tenTo (Text.ofNat n).length ≤ 10 * n := by
  fun_induction Text.ofNat n with
  | case1 n h =>
    have htenTo : tenTo 1 = 10 := rfl
    rw [List.length_singleton, htenTo]
    omega
  | case2 n h ih =>
    have hle := ih (by omega)
    rw [List.length_append, List.length_singleton, tenTo_succ]
    omega

namespace Magnitude

variable {tie : Tie} {m d n : Nat} {e finest : Int} {q : ℚ} {a b c : Decimal}

/-! ### What rounds to a magnitude -/

theorem roundsTo_of_le_of_le (ha : RoundsTo a.value m) (hc : RoundsTo c.value m)
    (hab : a.value ≤ b.value) (hbc : b.value ≤ c.value) : RoundsTo b.value m := by
  have hb := b.roundsTo_round
  rwa [le_antisymm (hb.mono hc hbc) (ha.mono hb hab)] at hb

/-! ### The search -/

theorem le_exponent_searchGrids {steps : Nat} (h : (onGrid tie m e).isSome)
    (hle : e ≤ finest + steps) :
    e ≤ (searchGrids tie m finest steps).exponent := by
  induction steps with
  | zero =>
    rw [searchGrids]
    simpa using hle
  | succ steps ih =>
    rw [searchGrids]
    split
    next => exact_mod_cast hle
    next hnone =>
      refine ih ?_
      have hne : e ≠ finest + (steps + 1) := by
        rintro rfl
        rw [hnone] at h
        cases h
      push_cast at hle
      omega

theorem finest_le_exponent_searchGrids (steps : Nat) :
    finest ≤ (searchGrids tie m finest steps).exponent := by
  induction steps with
  | zero => exact le_rfl
  | succ steps ih =>
    rw [searchGrids]
    split
    next =>
      dsimp only
      omega
    next => exact ih

theorem ten_mul_value_le (hpos : 0 < m) : 10 * value m ≤ 10 ^ decimalCeiling m := by
  obtain ⟨num, hnum⟩ : ∃ num, num = significand m * twoTo (exponent m).toNat := ⟨_, rfl⟩
  obtain ⟨den, hden⟩ : ∃ den, den = twoTo (-exponent m).toNat := ⟨_, rfl⟩
  have hnum' : 0 < num := hnum ▸ Nat.mul_pos (significand_pos hpos) (twoTo_pos _)
  have hden' : 0 < den := hden ▸ twoTo_pos _
  have hdenQ : (0 : ℚ) < den := Nat.cast_pos.2 hden'
  have hvalue : value m * den = num := by
    rw [hnum, hden, Nat.cast_mul, cast_twoTo (exponent m), value]
    ring
  rw [decimalCeiling]
  simp only [← hnum, ← hden]
  split
  next hle =>
    -- the digits of the whole part
    have hlt : num < tenTo (Text.ofNat (num / den)).length * den :=
      Nat.lt_mul_of_div_lt (lt_tenTo_length _) hden'
    have hlt' : value m < tenTo (Text.ofNat (num / den)).length := by
      rw [← mul_lt_mul_iff_left₀ hdenQ, hvalue, ← Nat.cast_mul, Nat.cast_lt]
      exact hlt
    rw [zpow_add₀ (by norm_num), ← natCast_tenTo]
    linarith
  next hlt =>
    -- the digits of the whole part of the inverse
    rw [not_le] at hlt
    have hle : tenTo (Text.ofNat (den / num)).length * num ≤ 10 * den :=
      calc tenTo (Text.ofNat (den / num)).length * num ≤ 10 * (den / num) * num :=
            Nat.mul_le_mul_right num (tenTo_length_le (Nat.div_pos hlt.le hnum'))
        _ = 10 * (den / num * num) := Nat.mul_assoc _ _ _
        _ ≤ 10 * den := Nat.mul_le_mul_left 10 (Nat.div_mul_le_self den num)
    have htenQ : (0 : ℚ) < tenTo (Text.ofNat (den / num)).length := Nat.cast_pos.2 (tenTo_pos _)
    have hleQ : (tenTo (Text.ofNat (den / num)).length * num : ℚ) ≤ 10 * den := by
      exact_mod_cast hle
    rw [zpow_sub₀ (by norm_num), ← natCast_tenTo, le_div_iff₀ htenQ, ← mul_le_mul_iff_left₀ hdenQ]
    have hscaled : 10 * value m * tenTo (Text.ofNat (den / num)).length * den =
        10 * (tenTo (Text.ofNat (den / num)).length * num) := by
      rw [← hvalue]
      ring
    rw [hscaled]
    norm_num
    linarith

theorem RoundsTo.lt_decimalCeiling (h : RoundsTo q m) (hpos : 0 < m) (hm : m < infinityMagnitude) :
    q < 10 ^ decimalCeiling m := by
  have hle := ten_mul_value_le hpos
  have hhigh := (h.between hm).2.1
  have hone : (1 : ℚ) ≤ significand m := Nat.one_le_cast.2 (significand_pos hpos)
  have hstep : (2 : ℚ) ^ exponent m ≤ value m := le_mul_of_one_le_left (by positivity) hone
  have hvalue : 0 < value m := value_zero ▸ value_strictMono hpos
  rw [value_succ] at hhigh
  linarith

/-! ### The shortest decimal -/

theorem zpow_le_value (hdigits : 0 < a.digits) : (10 : ℚ) ^ a.exponent ≤ a.value :=
  le_mul_of_one_le_left (by positivity) (Nat.one_le_cast.2 hdigits)

theorem digits_pos_of_roundsTo (h : RoundsTo a.value m) (hpos : 0 < m) : 0 < a.digits := by
  rw [Nat.pos_iff_ne_zero]
  intro hzero
  have hvalue : a.value = value 0 := by
    rw [value_zero, Decimal.value, hzero, Nat.cast_zero, zero_mul]
  rw [hvalue] at h
  exact hpos.ne' (h.unique (roundsTo_value (Nat.zero_le _)))

/-- **The search ends on the coarsest grid** that holds a decimal which rounds to the magnitude. -/
theorem exponent_le_shortest (tie : Tie) (hpos : 0 < m) (hm : m < infinityMagnitude)
    (h : RoundsTo a.value m) : a.exponent ≤ (shortest tie m).exponent := by
  rw [shortest, if_neg hpos.ne']
  dsimp only
  rcases lt_or_ge a.exponent (min (exponent m) 0) with hfine | hfine
  · exact hfine.le.trans (finest_le_exponent_searchGrids _)
  · refine le_exponent_searchGrids ((near_of_roundsTo h hpos hm).isSome_onGrid hpos) ?_
    have hceiling : (10 : ℚ) ^ a.exponent < 10 ^ decimalCeiling m :=
      (zpow_le_value (digits_pos_of_roundsTo h hpos)).trans_lt (h.lt_decimalCeiling hpos hm)
    have hlt := (zpow_lt_zpow_iff_right₀ (by norm_num : (1 : ℚ) < 10)).1 hceiling
    omega

/-- **The shortest decimal has the fewest digits** of all that round to the magnitude. -/
theorem digits_shortest_lt (tie : Tie) (hm : m < infinityMagnitude) (h : RoundsTo a.value m)
    (hdigits : a.digits < tenTo n) : (shortest tie m).digits < tenTo n := by
  rcases Nat.eq_zero_or_pos m with rfl | hpos
  · exact tenTo_pos n
  · have hexponent := exponent_le_shortest tie hpos hm h
    have hshort := roundsTo_shortest tie hm
    by_contra hge
    rw [not_lt] at hge
    -- a power of ten lies between the two decimals, on a grid that is too coarse
    have hpower : Decimal.value ⟨1, n + (shortest tie m).exponent⟩ =
        tenTo n * 10 ^ (shortest tie m).exponent := by
      rw [Decimal.value, Nat.cast_one, one_mul, zpow_add₀ (by norm_num), ← natCast_tenTo]
    have hbelow : a.value ≤ Decimal.value ⟨1, n + (shortest tie m).exponent⟩ := by
      rw [hpower, Decimal.value]
      gcongr
      norm_num
    have habove : Decimal.value ⟨1, n + (shortest tie m).exponent⟩ ≤ (shortest tie m).value := by
      rw [hpower, Decimal.value]
      gcongr
    have hcoarse := exponent_le_shortest tie hpos hm (roundsTo_of_le_of_le h hshort hbelow habove)
    dsimp only at hcoarse
    obtain rfl : n = 0 := by omega
    have hsome := digits_pos_of_roundsTo h hpos
    rw [tenTo_zero] at hdigits
    omega

/-! ### Ties -/

/-- A magnitude is halfway from an even decimal to the next one.  Both round to it, and on coarser
grids there is none that does. -/
structure Halfway (m : Nat) (a : Decimal) : Prop where
  even : a.digits % 2 = 0
  low : RoundsTo a.value m
  high : RoundsTo a.next.value m
  middle : 2 * value m = a.value + a.next.value
  coarsest : ∀ c : Decimal, RoundsTo c.value m → c.exponent ≤ a.exponent

/-- The middle of two neighbours on a grid, in the common measure. -/
theorem middle_iff (m d : Nat) (e : Int) :
    2 * (4 * significand m * quarterStep m e) = d * unitWeight m e + (d + 1) * unitWeight m e ↔
      2 * value m = Decimal.value ⟨d, e⟩ + Decimal.value ⟨d + 1, e⟩ := by
  obtain ⟨scale, hscale, hquarter, hunit⟩ := exists_scale m e
  have hfour : 4 * scale ≠ 0 := (mul_pos four_pos hscale).ne'
  have hvalue : ((2 * (4 * significand m * quarterStep m e) : Nat) : ℚ) =
      4 * scale * (2 * value m) := by
    push_cast
    rw [hquarter, value]
    ring
  have hunits : ((d * unitWeight m e + (d + 1) * unitWeight m e : Nat) : ℚ) =
      4 * scale * (Decimal.value ⟨d, e⟩ + Decimal.value ⟨d + 1, e⟩) := by
    push_cast
    rw [hunit, Decimal.value, Decimal.value]
    push_cast
    ring
  rw [← Nat.cast_inj (R := ℚ), hvalue, hunits, mul_right_inj' hfour]

/-- The two ways of breaking a tie differ only where there is one, and the lower neighbour is
even. -/
theorem middle_of_onGrid_ne {d' : Nat} (h : onGrid .up m e = some d)
    (h' : onGrid .even m e = some d') (hne : d ≠ d') : d = d' + 1 ∧ d' % 2 = 0 ∧
      2 * (4 * significand m * quarterStep m e) =
        d' * unitWeight m e + (d' + 1) * unitWeight m e := by
  have hbelow := Nat.div_mul_le_self (4 * significand m * quarterStep m e) (unitWeight m e)
  have habove := Nat.lt_div_mul_add (unitWeight_pos m e) (a := 4 * significand m * quarterStep m e)
  rw [← unitsBelow.eq_1] at hbelow habove
  unfold onGrid at h h'
  dsimp only at h h'
  simp only [← quarterStep.eq_1, ← unitWeight.eq_1, ← unitsBelow.eq_1] at h h'
  split at h
  next => cases h
  next hlow hhigh =>
    rw [hlow, hhigh] at h'
    exact (hne (Option.some.inj (h.symm.trans h'))).elim
  next hlow hhigh =>
    rw [hlow, hhigh] at h'
    exact (hne (Option.some.inj (h.symm.trans h'))).elim
  next hlow hhigh =>
    rw [hlow, hhigh] at h'
    dsimp only at h'
    split at h
    next hlt =>
      rw [if_pos hlt] at h'
      exact (hne (Option.some.inj (h.symm.trans h'))).elim
    next hge =>
      rw [if_neg hge] at h'
      split at h
      next hlt =>
        rw [if_pos hlt] at h'
        exact (hne (Option.some.inj (h.symm.trans h'))).elim
      next hge' =>
        rw [if_neg hge'] at h'
        obtain rfl := Option.some.inj h
        obtain rfl := Option.some.inj h'
        rw [Nat.add_one_mul (unitsBelow m e)] at hge hge'
        split at hne
        next heven =>
          rw [if_pos heven, Nat.add_one_mul (unitsBelow m e)]
          exact ⟨rfl, heven, by omega⟩
        next => exact (hne rfl).elim

/-- In the middle of two neighbours, both of which are near, the tie is broken. -/
theorem onGrid_of_middle (hpos : 0 < m) (hlow : Near m e d) (hhigh : Near m e (d + 1))
    (hmiddle : 2 * (4 * significand m * quarterStep m e) =
      d * unitWeight m e + (d + 1) * unitWeight m e) :
    onGrid tie m e = match tie with
      | .up => some (d + 1)
      | .even => some (if d % 2 = 0 then d else d + 1) := by
  have hweight := unitWeight_pos m e
  have hquarters := quarters_lt_value hpos e
  have hsucc := Nat.add_one_mul d (unitWeight m e)
  have hunits : unitsBelow m e = d := Nat.div_eq_of_lt_le (by omega) (by omega)
  obtain ⟨hlow, -, hlowOdd⟩ := hlow
  obtain ⟨-, hhigh, hhighOdd⟩ := hhigh
  have hlowHits : (decide (4 * significand m * quarterStep m e -
      quartersBelow m * quarterStep m e < d * unitWeight m e) ||
      (significand m % 2 == 0 && 4 * significand m * quarterStep m e -
        quartersBelow m * quarterStep m e == d * unitWeight m e)) = true := by
    simp only [Bool.or_eq_true, Bool.and_eq_true, decide_eq_true_eq, beq_iff_eq]
    omega
  have hhighHits : (decide ((d + 1) * unitWeight m e <
      4 * significand m * quarterStep m e + 2 * quarterStep m e) ||
      (significand m % 2 == 0 && (d + 1) * unitWeight m e ==
        4 * significand m * quarterStep m e + 2 * quarterStep m e)) = true := by
    simp only [Bool.or_eq_true, Bool.and_eq_true, decide_eq_true_eq, beq_iff_eq]
    omega
  unfold onGrid
  dsimp only
  simp only [← quarterStep.eq_1, ← unitWeight.eq_1, ← unitsBelow.eq_1, hunits, hlowHits, hhighHits]
  exact (if_neg (by omega)).trans (if_neg (by omega))

theorem onGrid_shortest (tie : Tie) (hpos : 0 < m) :
    onGrid tie m (shortest tie m).exponent = some (shortest tie m).digits := by
  rw [shortest, if_neg hpos.ne']
  exact onGrid_searchGrids (isSome_onGrid hpos (unitWeight_dvd m)) _

theorem exponent_shortest_eq (tie tie' : Tie) (hpos : 0 < m) (hm : m < infinityMagnitude) :
    (shortest tie m).exponent = (shortest tie' m).exponent :=
  le_antisymm (exponent_le_shortest tie' hpos hm (roundsTo_shortest tie hm))
    (exponent_le_shortest tie hpos hm (roundsTo_shortest tie' hm))

theorem shortest_up_eq_even (hm : m < infinityMagnitude) (h : ∀ a, ¬ Halfway m a) :
    shortest .up m = shortest .even m := by
  rcases Nat.eq_zero_or_pos m with rfl | hpos
  · rw [shortest, shortest, if_pos rfl, if_pos rfl]
  · have hexponent := exponent_shortest_eq .up .even hpos hm
    have hup := onGrid_shortest .up hpos
    have heven := onGrid_shortest .even hpos
    rw [hexponent] at hup
    by_contra hne
    have hdigits : (shortest .up m).digits ≠ (shortest .even m).digits :=
      fun hdigits => hne (Decimal.eq_of_digits hdigits hexponent)
    obtain ⟨hnext, hparity, hmiddle⟩ := middle_of_onGrid_ne hup heven hdigits
    have hhigh : shortest .up m = (shortest .even m).next := Decimal.eq_of_digits hnext hexponent
    refine h (shortest .even m) ⟨hparity, roundsTo_shortest .even hm, ?_, ?_, fun c hc => ?_⟩
    · rw [← hhigh]
      exact roundsTo_shortest .up hm
    · exact (middle_iff m _ _).1 hmiddle
    · exact exponent_le_shortest .even hpos hm hc

/-- Halfway between two, the greater or the even one is taken. -/
theorem shortest_of_halfway (hm : m < infinityMagnitude) (h : Halfway m a) :
    shortest .up m = a.next ∧ shortest .even m = a := by
  have hpos : 0 < m := by
    rw [Nat.pos_iff_ne_zero]
    rintro rfl
    have hlow := zpow_le_value (a := a.next) (Nat.succ_pos _)
    have hnonneg : 0 ≤ a.value := by
      rw [Decimal.value]
      positivity
    have hpower : (0 : ℚ) < 10 ^ a.next.exponent := by positivity
    have hmiddle := h.middle
    rw [value_zero] at hmiddle
    linarith
  have hgrid : ∀ tie, onGrid tie m a.exponent = match tie with
      | .up => some (a.digits + 1)
      | .even => some (if a.digits % 2 = 0 then a.digits else a.digits + 1) :=
    fun tie => onGrid_of_middle hpos (near_of_roundsTo h.low hpos hm)
      (near_of_roundsTo h.high hpos hm) ((middle_iff m _ _).2 h.middle)
  have hexponent : ∀ tie, (shortest tie m).exponent = a.exponent := fun tie =>
    le_antisymm (h.coarsest _ (roundsTo_shortest tie hm)) (exponent_le_shortest tie hpos hm h.low)
  have hshortest : ∀ tie, onGrid tie m a.exponent = some (shortest tie m).digits := by
    intro tie
    rw [← hexponent tie]
    exact onGrid_shortest tie hpos
  have hup := Option.some.inj ((hshortest .up).symm.trans (hgrid .up))
  have heven := Option.some.inj ((hshortest .even).symm.trans (hgrid .even))
  rw [if_pos h.even] at heven
  exact ⟨Decimal.eq_of_digits hup (hexponent .up), Decimal.eq_of_digits heven (hexponent .even)⟩

end Magnitude
end LoxTokens
