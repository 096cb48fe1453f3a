import LoxTokens.Scan
import LoxTokens.Reporter

/-! # Lexers

A lexer stands somewhere in a source and gives the next token on demand; errors on the way go to
its reporter.  After the last lexeme it gives one end token and then nothing.

`scanString` and `scanNumber` go on from wherever the lexer stands, without beginning a new
lexeme: the token they make covers all text from the start of the current lexeme.  They fail
when that text is no string or number text. -/

namespace LoxTokens

structure Lexer (ρ : Type) where
  /-- Text from the start of the current lexeme to the cursor. -/
  lexeme : Text
  /-- Text after the cursor. -/
  rest : Text
  start : Position
  here : Position
  reporter : ρ
  errorCount : Nat
  /-- Whether the end token has been given. -/
  ended : Bool
deriving DecidableEq, Repr

namespace Lexer

variable {ρ : Type} [Reporter ρ]

/-- A lexer before the first character of a source. -/
def new (source : Text) (reporter : ρ) : Lexer ρ :=
  ⟨[], source, .origin, .origin, reporter, 0, false⟩

def line (l : Lexer ρ) : Nat := l.here.line

/-- The span of the current lexeme. -/
def span (l : Lexer ρ) : Span := ⟨l.start, l.here⟩

/-- The lexer with an error handed to its reporter. -/
def report (l : Lexer ρ) (e : LexError) : Lexer ρ :=
  { l with reporter := Reporter.report l.reporter e, errorCount := l.errorCount + 1 }

/-- The lexer with a new lexeme `text` before the cursor and `rest` after it. -/
def begin (l : Lexer ρ) (text rest : Text) : Lexer ρ :=
  { l with lexeme := text, rest := rest, start := l.here, here := l.here.after text }

/-- The lexer with `text` added to the current lexeme and `rest` after the cursor. -/
def extend (l : Lexer ρ) (text rest : Text) : Lexer ρ :=
  { l with lexeme := l.lexeme ++ text, rest := rest, here := l.here.after text }

/-- The next token, if one is left. -/
def next (l : Lexer ρ) : Option Token × Lexer ρ :=
  match h : Segment.cut l.rest with
  | none =>
    let l := l.begin [] []
    if l.ended then (none, l) else (some (.eof l.here), { l with ended := true })
  | some (s, rest) =>
    have := Segment.length_lt_of_cut h
    let l' := l.begin s.text rest
    match s.event? l'.span with
    | some (.token t) => (some t, l')
    | some (.error e) => (l'.report e).next
    | none => l'.next
termination_by l.rest.length

/-- At most `n` tokens. -/
def take : Nat → Lexer ρ → List Token × Lexer ρ
  | 0, l => ([], l)
  | n + 1, l =>
    match l.next with
    | (none, l) => ([], l)
    | (some t, l) => let (ts, l) := take n l; (t :: ts, l)

/-- All tokens that are left.  There are no more than characters, and the end token. -/
def drain (l : Lexer ρ) : List Token × Lexer ρ := take (l.rest.length + 2) l

/-- The last token that is left. -/
def last (l : Lexer ρ) : Option Token × Lexer ρ :=
  let (ts, l) := l.drain
  (ts.getLast?, l)

/-- How many tokens are left. -/
def count (l : Lexer ρ) : Nat × Lexer ρ :=
  let (ts, l) := l.drain
  (ts.length, l)

/-- A token over the current lexeme. -/
def token (l : Lexer ρ) (kind : TokenKind) (literal : Literal) : Token :=
  ⟨kind, l.lexeme, literal, l.line, l.span⟩

/-- The text between the first and the last byte of a lexeme, if there are two and both are
whole characters. -/
def between (lexeme : Text) : Option Text :=
  Text.sliceBytes 1 (Text.byteSize lexeme - 1) lexeme

/-- A string token up to the next quote.  Without one the string is reported as open; with one,
`none` means that the lexeme has nothing between two quotes to be a value. -/
def scanString (l : Lexer ρ) : Option (Option Token × Lexer ρ) :=
  match l.rest.dropWhile (· != '"') with
  | [] =>
    let l := l.extend l.rest []
    some (none, l.report (.unterminatedString l.line))
  | quote :: rest =>
    let l := l.extend (l.rest.takeWhile (· != '"') ++ [quote]) rest
    (between l.lexeme).map fun value => (some (l.token .string (.string value)), l)

/-- A number token over the current lexeme and the digits ahead, if that is a number text. -/
def scanNumber (l : Lexer ρ) : Option (Token × Lexer ρ) :=
  let (s, rest) := Segment.cutNumber l.rest
  let l := l.extend s.text rest
  (numberValue? l.lexeme).map fun x => (l.token .number (.number x), l)

end Lexer

/-- The tokens of a source; its errors go to `reporter`. -/
def scan {ρ : Type} [Reporter ρ] (source : Text) (reporter : ρ) : List Token × ρ :=
  let (ts, l) := (Lexer.new source reporter).drain
  (ts, l.reporter)

end LoxTokens
