import LoxTokens.Text.Basic

/-! # White space and letter case

`isBlank` is the Unicode property White_Space; `trim` removes such characters at both ends.
Case folding is for ASCII letters only, so every other character stays as it is. -/

namespace LoxTokens.Text

/-- The code points with the property White_Space, as ranges. -/
def blankRanges : List (Nat × Nat) :=
  [(0x09, 0x0D), (0x20, 0x20), (0x85, 0x85), (0xA0, 0xA0), (0x1680, 0x1680), (0x2000, 0x200A),
   (0x2028, 0x2029), (0x202F, 0x202F), (0x205F, 0x205F), (0x3000, 0x3000)]

/-- Whether a code point lies in one of the ranges. -/
def inRanges (ranges : List (Nat × Nat)) (c : Char) : Bool :=
  ranges.any fun r => r.1 ≤ c.toNat && c.toNat ≤ r.2

def isBlank (c : Char) : Bool := inRanges blankRanges c

/-- `t` without white space at its ends. -/
def trim (t : Text) : Text := ((t.dropWhile isBlank).reverse.dropWhile isBlank).reverse

/-- `t` with the ASCII capitals made small. -/
def lower (t : Text) : Text := t.map Char.toLower

end LoxTokens.Text
