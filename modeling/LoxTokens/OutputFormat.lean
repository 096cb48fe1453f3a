import LoxTokens.Token.Basic
import LoxTokens.LexError
import LoxTokens.Json.Basic

/-! # Output formats

Tokens and errors are written either as text, a line for each, or as one JSON array. -/

namespace LoxTokens

inductive OutputFormat where
  | text
  | json
deriving DecidableEq, Repr

namespace OutputFormat

def all : List OutputFormat := [.text, .json]

def name : OutputFormat → Text
  | text => "text".toList
  | json => "json".toList

def ofName? (t : Text) : Option OutputFormat := all.find? (·.name == t)

end OutputFormat

def Position.json (p : Position) : Json :=
  .object [("line".toList, .natural p.line), ("column".toList, .natural p.column),
    ("offset".toList, .natural p.offset)]

def Span.json (s : Span) : Json :=
  .object [("start".toList, s.start.json), ("end".toList, s.stop.json)]

def Literal.json : Literal → Json
  | none => .null
  | string s => .string s
  | number x => .number x

def Token.json (t : Token) : Json :=
  .object [("kind".toList, .string t.kind.name), ("lexeme".toList, .string t.lexeme),
    ("literal".toList, t.literal.json), ("line".toList, .natural t.line),
    ("span".toList, t.span.json)]

def LexError.json (e : LexError) : Json :=
  .object [("line".toList, .natural e.line), ("kind".toList, .string e.kindName),
    ("message".toList, .string e.message)]

/-- A text with a line feed after it. -/
def Text.line (t : Text) : Text := t ++ ['\n']

/-- Tokens as they are written out: a line each, or an array on one line. -/
def renderTokens (tokens : List Token) : OutputFormat → Text
  | .text => tokens.flatMap fun t => Text.line t.text
  | .json => Text.line (Json.array (tokens.map Token.json)).compact

end LoxTokens
