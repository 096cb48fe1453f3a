import LoxTokens.Number.Decimal

/-! # Shortest decimals

The reals that round to a magnitude form an interval around its value, half a step wide on
either side; below a power of two the step is half as wide.  The ends belong to the interval
when the significand is even.

`Magnitude.shortest` looks for a point of the grids `10 ^ e` in that interval, from coarse
grids to fine ones.  On one grid only the two neighbours of the value need a look.  The first
grid with a hit gives a decimal with the fewest digits, and of two hits the nearer is taken;
when both are equally near, `Tie` decides.  The search ends, since the value itself lies on the
grid `10 ^ min exponent 0`. -/

namespace LoxTokens

/-- Which of two equally near decimals is taken. -/
inductive Tie where
  /-- the greater one -/
  | up
  /-- the one with the even last digit -/
  | even
deriving DecidableEq, Repr

namespace Magnitude

/-- Quarter steps from the value down to the end of its interval. -/
def quartersBelow (m : Nat) : Nat := if m % twoTo 52 = 0 && twoTo 53 ≤ m then 1 else 2

/-- The decimal of the grid `10 ^ e` that stands for magnitude `m`, if one rounds to it.
One unit is `weight` and one quarter step is `quarter`, in a common measure. -/
def onGrid (tie : Tie) (m : Nat) (e : Int) : Option Nat :=
  let q := exponent m
  let weight := 4 * tenTo e.toNat * twoTo (-q).toNat
  let quarter := twoTo q.toNat * tenTo (-e).toNat
  let value := 4 * significand m * quarter
  let lowest := value - quartersBelow m * quarter
  let highest := value + 2 * quarter
  let closed := significand m % 2 == 0
  let low := value / weight
  let lowHits := lowest < low * weight || (closed && lowest == low * weight)
  let highHits := (low + 1) * weight < highest || (closed && (low + 1) * weight == highest)
  let toLow := value - low * weight
  let toHigh := (low + 1) * weight - value
  match lowHits, highHits with
  | false, false => none
  | true, false => some low
  | false, true => some (low + 1)
  | true, true =>
    if toLow < toHigh then some low
    else if toHigh < toLow then some (low + 1)
    else match tie with
      | .up => some (low + 1)
      | .even => some (if low % 2 = 0 then low else low + 1)

/-- The first hit on the grids from `10 ^ (finest + steps)` down to `10 ^ finest`. -/
def searchGrids (tie : Tie) (m : Nat) (finest : Int) : Nat → Decimal
  | 0 => ⟨(onGrid tie m finest).getD 0, finest⟩
  | steps + 1 =>
    match onGrid tie m (finest + (steps + 1)) with
    | some digits => ⟨digits, finest + (steps + 1)⟩
    | none => searchGrids tie m finest steps

/-- An exponent `e` such that the value of magnitude `m` and all that rounds to it lies below
`10 ^ e`. -/
def decimalCeiling (m : Nat) : Int :=
  let q := exponent m
  let num := significand m * twoTo q.toNat
  let den := twoTo (-q).toNat
  if den ≤ num then (Text.ofNat (num / den)).length + 1
  else 2 - ((Text.ofNat (den / num)).length : Int)

/-- The shortest decimal that rounds to the finite magnitude `m`, the nearest of them. -/
def shortest (tie : Tie) (m : Nat) : Decimal :=
  if m = 0 then ⟨0, 0⟩
  else
    let finest := min (exponent m) 0
    searchGrids tie m finest (decimalCeiling m - finest).toNat

end Magnitude
end LoxTokens
