import LoxTokens.Number.Digits

/-! # Lexical errors

The two things that can be wrong with a source, the line each was noticed on, and their wording.
Neither stops a scan. -/

namespace LoxTokens

inductive LexError where
  /-- A string has no closing quote. -/
  | unterminatedString (line : Nat)
  /-- No lexeme begins with this character. -/
  | unexpectedCharacter (line : Nat) (c : Char)
deriving DecidableEq, Repr

namespace LexError

def line : LexError → Nat
  | unterminatedString n => n
  | unexpectedCharacter n _ => n

def kindName : LexError → Text
  | unterminatedString _ => "UnterminatedString".toList
  | unexpectedCharacter _ _ => "UnexpectedCharacter".toList

def message : LexError → Text
  | unterminatedString _ => "Unterminated string.".toList
  | unexpectedCharacter _ c => "Unexpected character: '".toList ++ [c, '\'']

/-- The error on a line of its own; the blank before the colon is where a place within the line
would stand. -/
def reportLine (e : LexError) : Text :=
  "[line ".toList ++ Text.ofNat e.line ++ "] Error : ".toList ++ e.message

end LexError
end LoxTokens
