import LoxTokens.Number.Layout

/-! # JSON values and their text

Values are written compactly on one line or spread over lines with two blanks of indentation.
Both writers quote strings in the same way: quotes, backslashes and control characters are
escaped and nothing else is. -/

namespace LoxTokens

inductive Json where
  | null
  | string (s : Text)
  | natural (n : Nat)
  | number (x : Binary64)
  | array (items : List Json)
  | object (fields : List (Text × Json))

namespace Json

/-- The hexadecimal digit of a number below sixteen. -/
def hexDigit (n : Nat) : Char := if n < 10 then Char.ofNat (48 + n) else Char.ofNat (87 + n)

/-- A character inside quotes. -/
def escaped (c : Char) : Text :=
  if c = '"' then ['\\', '"']
  else if c = '\\' then ['\\', '\\']
  else if c.toNat = 8 then ['\\', 'b']
  else if c = '\t' then ['\\', 't']
  else if c = '\n' then ['\\', 'n']
  else if c.toNat = 12 then ['\\', 'f']
  else if c = '\r' then ['\\', 'r']
  else if c.toNat < 32 then
    ['\\', 'u', '0', '0', hexDigit (c.toNat / 16), hexDigit (c.toNat % 16)]
  else [c]

def quoted (s : Text) : Text := '"' :: s.flatMap escaped ++ ['"']

mutual

/-- The text of a value on one line. -/
def compact : Json → Text
  | null => "null".toList
  | string s => quoted s
  | natural n => Text.ofNat n
  | number x => x.text .json
  | array items => '[' :: compactItems items ++ [']']
  | object fields => '{' :: compactFields fields ++ ['}']

/-- Items with commas between them. -/
def compactItems : List Json → Text
  | [] => []
  | [v] => compact v
  | v :: vs => compact v ++ ',' :: compactItems vs

/-- Fields with commas between them. -/
def compactFields : List (Text × Json) → Text
  | [] => []
  | [(k, v)] => quoted k ++ ':' :: compact v
  | (k, v) :: fs => quoted k ++ ':' :: compact v ++ ',' :: compactFields fs

end

/-- The start of a line at a depth of nesting. -/
def indent (depth : Nat) : Text := '\n' :: List.replicate (2 * depth) ' '

mutual

/-- The text of a value with every entry on a line of its own. -/
def pretty (depth : Nat) : Json → Text
  | null => "null".toList
  | string s => quoted s
  | natural n => Text.ofNat n
  | number x => x.text .json
  | array [] => "[]".toList
  | array (v :: vs) => '[' :: prettyItems (depth + 1) (v :: vs) ++ indent depth ++ [']']
  | object [] => ['{', '}']
  | object (f :: fs) => '{' :: prettyFields (depth + 1) (f :: fs) ++ indent depth ++ ['}']

/-- Items, each after a line start. -/
def prettyItems (depth : Nat) : List Json → Text
  | [] => []
  | [v] => indent depth ++ pretty depth v
  | v :: vs => indent depth ++ pretty depth v ++ ',' :: prettyItems depth vs

/-- Fields, each after a line start. -/
def prettyFields (depth : Nat) : List (Text × Json) → Text
  | [] => []
  | [(k, v)] => indent depth ++ quoted k ++ ": ".toList ++ pretty depth v
  | (k, v) :: fs =>
    indent depth ++ quoted k ++ ": ".toList ++ pretty depth v ++ ',' :: prettyFields depth fs

end

end Json
end LoxTokens
