import LoxTokens.Text.Basic

/-! # Quoting strings for TOML

`quote` writes a string in the first of these forms that holds it: on one line in quotation
marks, on one line in apostrophes, in tripled quotation marks, in tripled apostrophes, and at
last with escapes.  A string that has lines of its own begins on a line of its own. -/

namespace LoxTokens.Toml

/-- Whether a character needs an escape wherever it stands. -/
def isControl (c : Char) : Bool :=
  (c.toNat < 32 && c != '\t' && c != '\n') || c.toNat = 127

/-- The run of `c` that goes on to a character `d`, and the longest run so far. -/
def runStep (c : Char) : Nat × Nat → Char → Nat × Nat
  | (run, best), d => if d = c then (run + 1, max best (run + 1)) else (0, best)

/-- The longest run of one character. -/
def longestRun (c : Char) (t : Text) : Nat := (t.foldl (runStep c) (0, 0)).2

/-- The hexadecimal digit of a number below sixteen. -/
def hexCapital (n : Nat) : Char := if n < 10 then Char.ofNat (48 + n) else Char.ofNat (55 + n)

/-- A character other than a quotation mark, with an escape if it needs one.  Line feeds stay in a
long string. -/
def escaped (long : Bool) (c : Char) : Text :=
  if c.toNat = 8 then ['\\', 'b']
  else if c = '\t' then ['\\', 't']
  else if c = '\n' then if long then ['\n'] else ['\\', 'n']
  else if c.toNat = 12 then ['\\', 'f']
  else if c = '\r' then ['\\', 'r']
  else if c = '\\' then ['\\', '\\']
  else if isControl c then
    ['\\', 'u', '0', '0', hexCapital (c.toNat / 16), hexCapital (c.toNat % 16)]
  else [c]

/-- A string with escapes.  In a long string only every third quotation mark of a run has a
backslash; `run` counts the marks since the last escape. -/
def escapes (long : Bool) (run : Nat) : Text → Text
  | [] => []
  | c :: t =>
    if c = '"' then
      if long && run < 2 then '"' :: escapes long (run + 1) t
      else '\\' :: '"' :: escapes long 0 t
    else escaped long c ++ escapes long 0 t

/-- Three marks, a line end for a string with lines, the body, and three marks. -/
def tripled (mark : Char) (s body : Text) : Text :=
  [mark, mark, mark] ++ (if s.contains '\n' then ['\n'] else []) ++ body ++ [mark, mark, mark]

/-- A string as TOML. -/
def quote (s : Text) : Text :=
  let lines := s.contains '\n'
  let clean := !s.any isControl
  if clean && !s.contains '\\' && !s.contains '"' && !lines then
    '"' :: escapes false 0 s ++ ['"']
  else if clean && !s.contains '\'' && !lines then '\'' :: s ++ ['\'']
  else if clean && !s.contains '\\' && longestRun '"' s < 3 then
    tripled '"' s (escapes true 0 s)
  else if clean && longestRun '\'' s < 3 then tripled '\'' s s
  else if lines then tripled '"' s (escapes true 0 s)
  else '"' :: escapes false 0 s ++ ['"']

end LoxTokens.Toml
