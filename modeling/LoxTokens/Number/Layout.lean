import LoxTokens.Number.Shortest

/-! # Layouts of numbers

A layout says how the shortest digits of a number are set out: which numbers are written
plainly and how the others show their exponent.  The plain form always has a point and at least
one digit on either side of it; the scientific form has one digit before the point.

There are two layouts: `NumberLayout.display` for readers and `NumberLayout.json`. -/

namespace LoxTokens

structure NumberLayout where
  /-- Least and greatest scientific exponent written plainly. -/
  plainFrom : Int
  plainTo : Int
  /-- Sign between the digits and the exponent of the scientific form. -/
  exponentMark : Char
  /-- Whether a positive exponent has a plus sign. -/
  plusSign : Bool
  /-- Whether a single digit is followed by `.0` in the scientific form. -/
  pointZero : Bool
  tie : Tie
  nan : Text
  /-- Text of infinity, given whether it is negative. -/
  infinity : Bool → Text

namespace NumberLayout

/-- Plain from `0.001` up to below ten million, else `1.25E-4`; of two equally near shortest
decimals the greater. -/
def display : NumberLayout where
  plainFrom := -3
  plainTo := 6
  exponentMark := 'E'
  plusSign := false
  pointZero := true
  tie := .up
  nan := "NaN.0E0".toList
  infinity := fun negative => if negative then "-Infinity".toList else "Infinity".toList

/-- Plain from `0.00001` up to below `10 ^ 16`, else `1.25e-6` or `1e+16`; of two equally near
shortest decimals the even one.  What is not finite has no number and is `null`. -/
def json : NumberLayout where
  plainFrom := -5
  plainTo := 15
  exponentMark := 'e'
  plusSign := true
  pointZero := false
  tie := .even
  nan := "null".toList
  infinity := fun _ => "null".toList

end NumberLayout

namespace Decimal

/-- The decimal with a point and no exponent. -/
def plain (d : Decimal) : Text :=
  let ds := Text.ofNat d.digits
  if 0 ≤ d.exponent then ds ++ List.replicate d.exponent.toNat '0' ++ ".0".toList
  else
    let places := (-d.exponent).toNat
    if places < ds.length then
      ds.take (ds.length - places) ++ '.' :: ds.drop (ds.length - places)
    else "0.".toList ++ List.replicate (places - ds.length) '0' ++ ds

/-- Power of ten of the first digit. -/
def leadingExponent (d : Decimal) : Int := d.exponent + (Text.ofNat d.digits).length - 1

/-- The decimal with one digit before the point and an exponent. -/
def scientific (layout : NumberLayout) (d : Decimal) : Text :=
  let ds := Text.ofNat d.digits
  let fraction := match ds.drop 1 with
    | [] => if layout.pointZero then ".0".toList else []
    | rest => '.' :: rest
  let e := d.leadingExponent
  ds.take 1 ++ fraction ++ layout.exponentMark ::
    (if layout.plusSign && 0 ≤ e then '+' :: Text.ofInt e else Text.ofInt e)

end Decimal

/-- The text of a number in a layout. -/
def Binary64.text (layout : NumberLayout) (x : Binary64) : Text :=
  if x.isNaN then layout.nan
  else if x.isInfinite then layout.infinity x.negative
  else
    let d := Magnitude.shortest layout.tie x.magnitude
    let unsigned :=
      if x.isZero || (layout.plainFrom ≤ d.leadingExponent && d.leadingExponent ≤ layout.plainTo)
      then d.plain
      else d.scientific layout
    if x.negative then '-' :: unsigned else unsigned

end LoxTokens
