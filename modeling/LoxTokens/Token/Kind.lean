import LoxTokens.Text.Basic

/-! # Token kinds

Operators and keywords are spelled in one way only: `Operator.text` and `Keyword.word` give the
spelling, `Operator.ofText?` and `Keyword.ofWord?` find the kind of a spelling again.
`TokenKind.all` lists all kinds in their fixed order, and `TokenKind.name` is the upper-case
name of a kind. -/

namespace LoxTokens

/-- The punctuation of the language. -/
inductive Operator where
  | leftParen | rightParen | leftBrace | rightBrace | comma | dot | minus | plus | semicolon
  | slash | star
  | bang | bangEqual | equal | equalEqual | greater | greaterEqual | less | lessEqual
deriving DecidableEq, Repr

namespace Operator

def all : List Operator :=
  [.leftParen, .rightParen, .leftBrace, .rightBrace, .comma, .dot, .minus, .plus, .semicolon,
   .slash, .star, .bang, .bangEqual, .equal, .equalEqual, .greater, .greaterEqual, .less,
   .lessEqual]

def text : Operator → Text
  | .leftParen => ['(']
  | .rightParen => [')']
  | .leftBrace => ['{']
  | .rightBrace => ['}']
  | .comma => [',']
  | .dot => ['.']
  | .minus => ['-']
  | .plus => ['+']
  | .semicolon => [';']
  | .slash => ['/']
  | .star => ['*']
  | .bang => ['!']
  | .bangEqual => ['!', '=']
  | .equal => ['=']
  | .equalEqual => ['=', '=']
  | .greater => ['>']
  | .greaterEqual => ['>', '=']
  | .less => ['<']
  | .lessEqual => ['<', '=']

def name : Operator → Text
  | .leftParen => "LEFT_PAREN".toList
  | .rightParen => "RIGHT_PAREN".toList
  | .leftBrace => "LEFT_BRACE".toList
  | .rightBrace => "RIGHT_BRACE".toList
  | .comma => "COMMA".toList
  | .dot => "DOT".toList
  | .minus => "MINUS".toList
  | .plus => "PLUS".toList
  | .semicolon => "SEMICOLON".toList
  | .slash => "SLASH".toList
  | .star => "STAR".toList
  | .bang => "BANG".toList
  | .bangEqual => "BANG_EQUAL".toList
  | .equal => "EQUAL".toList
  | .equalEqual => "EQUAL_EQUAL".toList
  | .greater => "GREATER".toList
  | .greaterEqual => "GREATER_EQUAL".toList
  | .less => "LESS".toList
  | .lessEqual => "LESS_EQUAL".toList

/-- The operator that a text spells. -/
def ofText? (t : Text) : Option Operator := all.find? (·.text == t)

theorem mem_all (o : Operator) : o ∈ all := by cases o <;> decide

/-- A spelling is one operator's, and each operator is found by its own. -/
theorem ofText?_eq_some_iff {t : Text} {o : Operator} : ofText? t = some o ↔ o.text = t := by
  constructor
  · intro h; simpa using List.find?_some h
  · rintro rfl; cases o <;> decide

end Operator

/-- The reserved words. -/
inductive Keyword where
  | and | «class» | else | false | fun | for | if | nil | or | print | return | super | this
  | true | var | while
deriving DecidableEq, Repr

namespace Keyword

def all : List Keyword :=
  [.and, .class, .else, .false, .fun, .for, .if, .nil, .or, .print, .return, .super, .this,
   .true, .var, .while]

def word : Keyword → Text
  | .and => "and".toList
  | .class => "class".toList
  | .else => "else".toList
  | .false => "false".toList
  | .fun => "fun".toList
  | .for => "for".toList
  | .if => "if".toList
  | .nil => "nil".toList
  | .or => "or".toList
  | .print => "print".toList
  | .return => "return".toList
  | .super => "super".toList
  | .this => "this".toList
  | .true => "true".toList
  | .var => "var".toList
  | .while => "while".toList

def name : Keyword → Text
  | .and => "AND".toList
  | .class => "CLASS".toList
  | .else => "ELSE".toList
  | .false => "FALSE".toList
  | .fun => "FUN".toList
  | .for => "FOR".toList
  | .if => "IF".toList
  | .nil => "NIL".toList
  | .or => "OR".toList
  | .print => "PRINT".toList
  | .return => "RETURN".toList
  | .super => "SUPER".toList
  | .this => "THIS".toList
  | .true => "TRUE".toList
  | .var => "VAR".toList
  | .while => "WHILE".toList

/-- The keyword that a word is. -/
def ofWord? (t : Text) : Option Keyword := all.find? (·.word == t)

theorem mem_all (k : Keyword) : k ∈ all := by cases k <;> decide

/-- A word is one keyword's, and each keyword is found by its own. -/
theorem ofWord?_eq_some_iff {t : Text} {k : Keyword} : ofWord? t = some k ↔ k.word = t := by
  constructor
  · intro h; simpa using List.find?_some h
  · rintro rfl; cases k <;> decide

end Keyword

inductive TokenKind where
  | operator (o : Operator)
  | identifier
  | string
  | number
  | keyword (k : Keyword)
  | eof
deriving DecidableEq, Repr

namespace TokenKind

/-- Every kind, in order. -/
def all : List TokenKind :=
  Operator.all.map operator ++ [identifier, string, number] ++ Keyword.all.map keyword ++ [eof]

/-- The upper-case name of a kind. -/
def name : TokenKind → Text
  | operator o => o.name
  | identifier => "IDENTIFIER".toList
  | string => "STRING".toList
  | number => "NUMBER".toList
  | keyword k => k.name
  | eof => "EOF".toList

def isKeyword : TokenKind → Bool
  | keyword _ => true
  | _ => false

/-- The kind of a word: a keyword's own, else that of an identifier. -/
def ofWord (t : Text) : TokenKind :=
  match Keyword.ofWord? t with
  | some k => keyword k
  | none => identifier

theorem mem_all (k : TokenKind) : k ∈ all := by
  cases k <;> simp [all, Operator.mem_all, Keyword.mem_all]

end TokenKind
end LoxTokens
