import LoxTokens.Token.Kind
import LoxTokens.Position
import LoxTokens.Number.Layout

/-! # Tokens

A token is a classified piece of a source, with the text it covers, its value when it is a
string or a number, and its place. -/

namespace LoxTokens

/-- The value a token carries. -/
inductive Literal where
  | none
  | string (s : Text)
  | number (x : Binary64)
deriving DecidableEq, Repr

/-- A literal as readers see it. -/
def Literal.text : Literal → Text
  | none => "null".toList
  | string s => s
  | number x => x.text .display

structure Token where
  kind : TokenKind
  lexeme : Text
  literal : Literal
  /-- The line reached when the token ended. -/
  line : Nat
  span : Span
deriving DecidableEq, Repr

namespace Token

/-- The token that ends every scan. -/
def eof (p : Position) : Token := ⟨.eof, [], .none, p.line, .point p⟩

def isEof (t : Token) : Bool := t.kind == .eof

/-- Kind, lexeme and literal with blanks between them. -/
def text (t : Token) : Text := t.kind.name ++ ' ' :: t.lexeme ++ ' ' :: t.literal.text

end Token
end LoxTokens
