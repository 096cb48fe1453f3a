import LoxTokens.Text.Visible

/-! # Texts shown in log lines

`shown` puts a text between quotes so that everything in it can be seen: quotes, backslashes and
the usual controls have short escapes, and whatever else has no picture is given by its code
point.  `defused` is for whole messages: it names the controls that a terminal would obey and
leaves line ends and tabs alone. -/

namespace LoxTokens.Text

/-- The hexadecimal digits of `n`, in small letters. -/
def hexadecimal (n : Nat) : Text := Nat.toDigits 16 n

/-- A code point between braces. -/
def codePoint (c : Char) : Text := ['\\', 'u', '{'] ++ hexadecimal c.toNat ++ ['}']

/-- A character between quotes. -/
def shownChar (c : Char) : Text :=
  if c = '"' then ['\\', '"']
  else if c = '\\' then ['\\', '\\']
  else if c = '\n' then ['\\', 'n']
  else if c = '\r' then ['\\', 'r']
  else if c = '\t' then ['\\', 't']
  else if c.toNat = 0 then ['\\', '0']
  else if isVisible c then [c]
  else codePoint c

def shown (t : Text) : Text := '"' :: t.flatMap shownChar ++ ['"']

/-- A character of a message. -/
def defusedChar (c : Char) : Text :=
  if c.toNat = 0x1B then "\\x1b".toList
  else if c.toNat = 0x07 then "\\x07".toList
  else if c.toNat = 0x08 then "\\x08".toList
  else if c.toNat = 0x0C then "\\x0c".toList
  else if c.toNat = 0x7F then "\\x7f".toList
  else if 0x80 ≤ c.toNat && c.toNat ≤ 0x9F then codePoint c
  else [c]

def defused (t : Text) : Text := t.flatMap defusedChar

end LoxTokens.Text
