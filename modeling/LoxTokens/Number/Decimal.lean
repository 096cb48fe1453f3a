import LoxTokens.Number.Binary64
import LoxTokens.Text.Blank

/-! # Decimals and their reading

A decimal is `digits · 10 ^ exponent`.  `Decimal.round` gives the nearest binary64 magnitude;
exponents far outside its range are answered without writing the number out.

`numberValue?` reads the general notation for numbers: an optional sign, then digits with at
most one point among them, at least one digit, and an optional exponent; or `inf`, `infinity`
or `nan` in any case. -/

namespace LoxTokens

structure Decimal where
  digits : Nat
  exponent : Int
deriving DecidableEq, Repr

namespace Decimal

/-- The nearest magnitude.  At `10 ^ 400` and above it is infinity, below `10 ^ (-400)` it is
zero. -/
def round (d : Decimal) : Nat :=
  if d.digits = 0 then 0
  else if 400 ≤ d.exponent then infinityMagnitude
  else if d.exponent + d.digits.log2 + 1 < -400 then 0
  else Magnitude.ofRatio (d.digits * tenTo d.exponent.toNat) (tenTo (-d.exponent).toNat)

/-- The decimal written as `whole`, a point and `fraction`. -/
def ofParts (whole fraction : Text) : Decimal :=
  ⟨digitsValue (whole ++ fraction), -(fraction.length : Int)⟩

/-- The decimal times a power of ten. -/
def shift (d : Decimal) (places : Int) : Decimal := ⟨d.digits, d.exponent + places⟩

end Decimal

/-- An integer with an optional sign, as far as the text goes. -/
def signedValue? (t : Text) : Option Int :=
  let (negative, ds) := match t with
    | '+' :: ds => (false, ds)
    | '-' :: ds => (true, ds)
    | ds => (false, ds)
  if ds ≠ [] && ds.all Char.isDigit then
    some (if negative then -(digitsValue ds : Int) else digitsValue ds)
  else none

/-- The magnitude written by an unsigned number text. -/
def magnitudeValue? (t : Text) : Option Nat :=
  let whole := t.takeWhile Char.isDigit
  let afterWhole := t.dropWhile Char.isDigit
  let (fraction, tail) := match afterWhole with
    | '.' :: r => (r.takeWhile Char.isDigit, r.dropWhile Char.isDigit)
    | r => ([], r)
  if whole = [] && fraction = [] then
    if ["inf".toList, "infinity".toList].contains (Text.lower t) then some infinityMagnitude
    else if Text.lower t = "nan".toList then some (infinityMagnitude + twoTo 51)
    else none
  else
    let d := Decimal.ofParts whole fraction
    match tail with
    | [] => some d.round
    | e :: power =>
      if e = 'e' || e = 'E' then (signedValue? power).map fun p => (d.shift p).round else none

/-- The number written by a text in the general notation. -/
def numberValue? : Text → Option Binary64
  | '-' :: t => (magnitudeValue? t).map (Binary64.ofMagnitude true)
  | '+' :: t => (magnitudeValue? t).map (Binary64.ofMagnitude false)
  | t => (magnitudeValue? t).map (Binary64.ofMagnitude false)

end LoxTokens
