import LoxTokens.Number.Digits

/-! # Binary64 numbers

A binary64 number is its 64 bits.  Without the sign bit they are the *magnitude*, which grows
with the number: finite numbers lie below `infinityMagnitude`, infinity is there and NaNs are
above it.  A finite magnitude stands for `significand · 2 ^ exponent`.

`Magnitude.ofRatio num den` rounds an exact ratio to the nearest magnitude, ties to the even
significand.  The significand is found on the grid `2 ^ e` of the ratio's binade, which never
is finer than the grid of the subnormals; since the magnitudes of one binade follow those of
the binade below, grid and significand are put together by one addition, and a significand
that was rounded up to the next power of two carries into the exponent by itself. -/

namespace LoxTokens

/-- Magnitude of infinity. -/
def infinityMagnitude : Nat := 2047 * twoTo 52

structure Binary64 where
  bits : UInt64
deriving DecidableEq, Repr

namespace Binary64

/-- The number with a sign and a magnitude. -/
def ofMagnitude (negative : Bool) (magnitude : Nat) : Binary64 :=
  ⟨UInt64.ofNat (if negative then twoTo 63 + magnitude else magnitude)⟩

/-- Whether the sign bit is set. -/
def negative (x : Binary64) : Bool := twoTo 63 ≤ x.bits.toNat

/-- The bits below the sign bit. -/
def magnitude (x : Binary64) : Nat := x.bits.toNat % twoTo 63

def isNaN (x : Binary64) : Bool := infinityMagnitude < x.magnitude

def isInfinite (x : Binary64) : Bool := x.magnitude == infinityMagnitude

def isFinite (x : Binary64) : Bool := x.magnitude < infinityMagnitude

def isZero (x : Binary64) : Bool := x.magnitude == 0

end Binary64

namespace Magnitude

/-- Integer significand of a finite magnitude. -/
def significand (m : Nat) : Nat := if m < twoTo 52 then m else twoTo 52 + m % twoTo 52

/-- Power of two that the significand of a finite magnitude counts. -/
def exponent (m : Nat) : Int := if m < twoTo 52 then -1074 else (m / twoTo 52 : Nat) - 1075

/-- The natural number nearest to `num / den`, the even one of two. -/
def nearest (num den : Nat) : Nat :=
  let low := num / den
  let twice := 2 * (num % den)
  if twice < den || (twice == den && low % 2 == 0) then low else low + 1

/-- The greatest `e` with `2 ^ e ≤ num / den`. -/
def binaryOrder (num den : Nat) : Int :=
  let e : Int := num.log2 - den.log2
  if den * twoTo e.toNat ≤ num * twoTo (-e).toNat then e else e - 1

/-- The magnitude nearest to `num / den`. -/
def ofRatio (num den : Nat) : Nat :=
  if num = 0 then 0
  else
    let e := max (binaryOrder num den - 52) (-1074)
    let s := nearest (num * twoTo (-e).toNat) (den * twoTo e.toNat)
    min ((e + 1074).toNat * twoTo 52 + s) infinityMagnitude

end Magnitude
end LoxTokens
