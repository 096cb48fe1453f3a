import LoxTokens.Toml.Value
import LoxTokens.Toml.Strings

/-! # TOML numbers, dates and booleans

Readers for the values that are no string and hold no others.  An integer has 64 bits with a
sign; a float is the nearest binary64 number and must not overflow upwards; dates and times must
exist in the calendar and on the clock. -/

namespace LoxTokens.Toml

/-- The text after `word`, if the text begins with it. -/
def afterWord? (word : Text) (t : Text) : Option Text :=
  if word.isPrefixOf t then some (t.drop word.length) else none

/-- The digits at the head of a text, in which single underscores may stand between digits. -/
def digitRun (isDigit : Char → Bool) : Text → Text × Text
  | [] => ([], [])
  | c :: t =>
    if isDigit c then
      match t with
      | '_' :: d :: r =>
        if isDigit d then
          let (ds, rest) := digitRun isDigit (d :: r)
          (c :: ds, rest)
        else ([c], '_' :: d :: r)
      | t =>
        let (ds, rest) := digitRun isDigit t
        (c :: ds, rest)
    else ([], c :: t)

/-- One or more digits. -/
def digits? (isDigit : Char → Bool) (t : Text) : Option (Text × Text) :=
  match digitRun isDigit t with
  | ([], _) => none
  | (ds, rest) => some (ds, rest)

/-- An optional sign: whether it is a minus, and what follows. -/
def sign : Text → Bool × Text
  | '+' :: t => (false, t)
  | '-' :: t => (true, t)
  | t => (false, t)

/-- Decimal digits without a leading zero, except for zero itself. -/
def wholeDigits? : Text → Option (Text × Text)
  | '0' :: t => some (['0'], t)
  | t => digits? Char.isDigit t

/-- The number with a sign, if it has 64 bits. -/
def int64? (negative : Bool) (n : Nat) : Option Value :=
  let i : Int := if negative then -n else n
  if -(twoTo 63 : Int) ≤ i && i < twoTo 63 then some (.integer i) else none

/-- Digits in a base that is a power of two. -/
def based? (base : Nat) (t : Text) : Option (Value × Text) := do
  let (ds, rest) ← digits? (fun c => (hexValue? c).any (· < base)) t
  let v ← int64? false (ds.foldl (fun n c => base * n + (hexValue? c).getD 0) 0)
  some (v, rest)

def integer? : Text → Option (Value × Text)
  | '0' :: 'x' :: t => based? 16 t
  | '0' :: 'o' :: t => based? 8 t
  | '0' :: 'b' :: t => based? 2 t
  | t => do
    let (negative, t) := sign t
    let (ds, rest) ← wholeDigits? t
    let v ← int64? negative (digitsValue ds)
    some (v, rest)

/-- The digits after a point, if there is one. -/
def fraction? : Text → Option (Text × Text)
  | '.' :: t => digits? Char.isDigit t
  | t => some ([], t)

/-- The power of ten after an exponent mark, if there is one. -/
def exponent? : Text → Option (Option Int × Text)
  | c :: t =>
    if c = 'e' || c = 'E' then do
      let (negative, t) := sign t
      let (ds, rest) ← digits? Char.isDigit t
      some (some (if negative then -digitsValue ds else digitsValue ds), rest)
    else some (none, c :: t)
  | [] => some (none, [])

/-- A number with a fraction, an exponent or both. -/
def decimalFloat? (t : Text) : Option (Value × Text) := do
  let (negative, t) := sign t
  let (whole, t) ← wholeDigits? t
  let (fraction, t) ← fraction? t
  let (power, rest) ← exponent? t
  if fraction = [] && power = none then none
  else
    let x := Binary64.ofMagnitude negative ((Decimal.ofParts whole fraction).shift (power.getD 0)).round
    if x.isInfinite && !negative then none else some (.float x, rest)

/-- Infinity or not a number. -/
def specialFloat? (t : Text) : Option (Value × Text) :=
  let (negative, t) := sign t
  match afterWord? "inf".toList t, afterWord? "nan".toList t with
  | some rest, _ => some (.float (.ofMagnitude negative infinityMagnitude), rest)
  | none, some rest => some (.float (.ofMagnitude negative (infinityMagnitude + twoTo 51)), rest)
  | none, none => none

def float? (t : Text) : Option (Value × Text) := (decimalFloat? t).or (specialFloat? t)

/-! ### Dates and times -/

/-- Exactly `n` digits with a value between two bounds. -/
def clockPart? (n low high : Nat) (t : Text) : Option (Nat × Text) :=
  let ds := t.take n
  let v := digitsValue ds
  if ds.length = n && ds.all Char.isDigit && low ≤ v && v ≤ high then some (v, t.drop n) else none

/-- The text after a given character. -/
def afterChar? (c : Char) : Text → Option Text
  | d :: t => if d = c then some t else none
  | [] => none

def daysInMonth (year month : Nat) : Nat :=
  if month = 2 then
    if year % 4 = 0 && (year % 100 != 0 || year % 400 = 0) then 29 else 28
  else if [4, 6, 9, 11].contains month then 30
  else 31

/-- What follows a date. -/
def afterDate? (t : Text) : Option Text := do
  let (year, t) ← clockPart? 4 0 9999 t
  let t ← afterChar? '-' t
  let (month, t) ← clockPart? 2 1 12 t
  let t ← afterChar? '-' t
  let (_, t) ← clockPart? 2 1 (daysInMonth year month) t
  some t

/-- What follows a time of day; a second may be a leap second. -/
def afterTime? (t : Text) : Option Text := do
  let (_, t) ← clockPart? 2 0 23 t
  let t ← afterChar? ':' t
  let (_, t) ← clockPart? 2 0 59 t
  let t ← afterChar? ':' t
  let (_, t) ← clockPart? 2 0 60 t
  match t with
  | '.' :: d :: r => if d.isDigit then some (r.dropWhile Char.isDigit) else none
  | '.' :: [] => none
  | t => some t

/-- What follows an offset from universal time, if there is one. -/
def afterOffset : Text → Text
  | 'Z' :: t => t
  | 'z' :: t => t
  | c :: t =>
    if c = '+' || c = '-' then
      let after? := do
        let (_, t) ← clockPart? 2 0 23 t
        let t ← afterChar? ':' t
        let (_, t) ← clockPart? 2 0 59 t
        some t
      after?.getD (c :: t)
    else c :: t
  | [] => []

/-- What follows a date, a time of day, or both. -/
def afterDateTime? (t : Text) : Option Text :=
  match afterDate? t with
  | none => afterTime? t
  | some (c :: r) =>
    if c = 'T' || c = 't' || c = ' ' then
      match afterTime? r with
      | some rest => some (afterOffset rest)
      | none => some (c :: r)
    else some (c :: r)
  | some [] => some []

def dateTime? (t : Text) : Option (Value × Text) :=
  (afterDateTime? t).map fun rest => (.dateTime (t.take (t.length - rest.length)), rest)

def boolean? (t : Text) : Option (Value × Text) :=
  match afterWord? "true".toList t, afterWord? "false".toList t with
  | some rest, _ => some (.boolean true, rest)
  | none, some rest => some (.boolean false, rest)
  | none, none => none

/-- A value that holds no others. -/
def scalarValue? (t : Text) : Option (Value × Text) :=
  match string? t with
  | some (s, rest) => some (.string s, rest)
  | none => (boolean? t).or <| (dateTime? t).or <| (float? t).or <| integer? t

end LoxTokens.Toml
