import LoxTokens.OutputFormat
import LoxTokens.Text.Lines
import LoxTokens.Proofs.JsonRoundTrip

/-! # Tokens as JSON

The JSON output of tokens is one line, a JSON array with one object for each token, in order, that
says everything about the token (`renderTokens_json`).  A finite number is written so that no other
number than the token's is nearest to it; the sign is kept, of zero as well. -/

namespace LoxTokens

/-- Words of capital letters with one underscore between each two of them. -/
def ScreamingSnake (t : Text) : Prop :=
  ∀ word ∈ cutAt '_' t, word ≠ [] ∧ word.all Char.isUpper = true

/-- `x` is the one number with this sign whose magnitude is nearest to `q`. -/
def Binary64.ReadsFrom (negative : Bool) (q : ℚ) (x : Binary64) : Prop :=
  ∀ y : Binary64, y.negative = negative ∧ Magnitude.RoundsTo q y.magnitude ↔ y = x

/-- What a JSON value has to be to say a literal. -/
def Literal.SaidBy : Literal → JsonValue → Prop
  | none, v => v = .null
  | string s, v => v = .string s
  | number x, v =>
    if x.isFinite then ∃ negative q, v = .number negative q ∧ x.ReadsFrom negative q
    else v = .null

/-- The JSON value that says a position. -/
def Position.said (p : Position) : JsonValue :=
  .object [("line".toList, .number false p.line), ("column".toList, .number false p.column),
    ("offset".toList, .number false p.offset)]

/-- The JSON value that says a span. -/
def Span.said (s : Span) : JsonValue :=
  .object [("start".toList, s.start.said), ("end".toList, s.stop.said)]

/-- The names that kinds go by in JSON. -/
def kindNames : List (TokenKind × String) :=
  [(.operator .leftParen, "LEFT_PAREN"), (.operator .rightParen, "RIGHT_PAREN"),
   (.operator .leftBrace, "LEFT_BRACE"), (.operator .rightBrace, "RIGHT_BRACE"),
   (.operator .comma, "COMMA"), (.operator .dot, "DOT"), (.operator .minus, "MINUS"),
   (.operator .plus, "PLUS"), (.operator .semicolon, "SEMICOLON"), (.operator .slash, "SLASH"),
   (.operator .star, "STAR"), (.operator .bang, "BANG"), (.operator .bangEqual, "BANG_EQUAL"),
   (.operator .equal, "EQUAL"), (.operator .equalEqual, "EQUAL_EQUAL"),
   (.operator .greater, "GREATER"), (.operator .greaterEqual, "GREATER_EQUAL"),
   (.operator .less, "LESS"), (.operator .lessEqual, "LESS_EQUAL"),
   (.identifier, "IDENTIFIER"), (.string, "STRING"), (.number, "NUMBER"),
   (.keyword .and, "AND"), (.keyword .class, "CLASS"), (.keyword .else, "ELSE"),
   (.keyword .false, "FALSE"), (.keyword .fun, "FUN"), (.keyword .for, "FOR"),
   (.keyword .if, "IF"), (.keyword .nil, "NIL"), (.keyword .or, "OR"), (.keyword .print, "PRINT"),
   (.keyword .return, "RETURN"), (.keyword .super, "SUPER"), (.keyword .this, "THIS"),
   (.keyword .true, "TRUE"), (.keyword .var, "VAR"), (.keyword .while, "WHILE"),
   (.eof, "EOF")]

/-- What a JSON value has to be to say a token. -/
def Token.SaidBy (t : Token) (v : JsonValue) : Prop :=
  ∃ kind literal, (t.kind, kind) ∈ kindNames ∧ ScreamingSnake kind.toList ∧
    t.literal.SaidBy literal ∧
    v = .object [("kind".toList, .string kind.toList), ("lexeme".toList, .string t.lexeme),
      ("literal".toList, literal), ("line".toList, .number false t.line),
      ("span".toList, t.span.said)]

/-- Every kind is in the table, under the name that is written for it. -/
theorem exists_mem_kindNames (k : TokenKind) :
    ∃ kind, (k, kind) ∈ kindNames ∧ kind.toList = k.name := by
  have hall : ∀ k ∈ TokenKind.all, ∃ kn ∈ kindNames, kn.1 = k ∧ kn.2.toList = k.name := by
    decide +kernel
  obtain ⟨⟨_, kind⟩, hmem, rfl, hname⟩ := hall k k.mem_all
  exact ⟨kind, hmem, hname⟩

theorem screamingSnake_of_mem_kindNames {k : TokenKind} {kind : String}
    (h : (k, kind) ∈ kindNames) : ScreamingSnake kind.toList := by
  have hall : ∀ kn ∈ kindNames, ∀ word ∈ cutAt '_' kn.2.toList,
      word ≠ [] ∧ word.all Char.isUpper = true := by
    decide +kernel
  exact hall _ h

/-! ### Numbers -/

namespace Binary64

variable {x y : Binary64}

theorem isFinite_iff : x.isFinite = true ↔ x.magnitude < infinityMagnitude := decide_eq_true_iff

theorem ext_magnitude (hn : x.negative = y.negative) (hm : x.magnitude = y.magnitude) : x = y := by
  have h63 : twoTo 63 = 9223372036854775808 := rfl
  have hx := x.bits.toNat_lt
  have hy := y.bits.toNat_lt
  simp only [negative, magnitude, h63, decide_eq_decide] at hn hm
  have hbits : x.bits.toNat = y.bits.toNat := by omega
  cases x
  cases y
  congr 1
  exact UInt64.toNat_inj.1 hbits

theorem readsFrom_shortest (tie : Tie) (hx : x.isFinite = true) :
    x.ReadsFrom x.negative (Magnitude.shortest tie x.magnitude).value := by
  have hrounds := Magnitude.roundsTo_shortest tie (isFinite_iff.1 hx)
  intro y
  constructor
  · rintro ⟨hnegative, hmagnitude⟩
    exact ext_magnitude hnegative (hmagnitude.unique hrounds)
  · rintro rfl
    exact ⟨rfl, hrounds⟩

end Binary64

/-! ### Tokens -/

theorem Literal.saidBy_meaning (l : Literal) : l.SaidBy l.json.meaning := by
  cases l with
  | none => rfl
  | string s => rfl
  | number x =>
    rw [SaidBy, Literal.json, Json.meaning]
    split
    next hx => exact ⟨_, _, rfl, Binary64.readsFrom_shortest .even hx⟩
    next => rfl

theorem Token.saidBy_meaning (t : Token) : t.SaidBy t.json.meaning := by
  obtain ⟨kind, hmem, hname⟩ := exists_mem_kindNames t.kind
  refine ⟨kind, _, hmem, screamingSnake_of_mem_kindNames hmem, t.literal.saidBy_meaning, ?_⟩
  rw [hname]
  rfl

theorem forall₂_saidBy_meanings (tokens : List Token) :
    List.Forall₂ Token.SaidBy tokens (Json.meanings (tokens.map Token.json)) := by
  induction tokens with
  | nil => exact .nil
  | cons t tokens ih => exact .cons t.saidBy_meaning ih

/-- **JSON output is one line that says every token.**  The line feed at its end is its only
character below the blank, and what stands before it is a JSON array. -/
theorem renderTokens_json (tokens : List Token) :
    ∃ line values, renderTokens tokens .json = line ++ ['\n'] ∧ (∀ c ∈ line, 32 ≤ c.toNat) ∧
      Json.read? line = some (.array values) ∧ List.Forall₂ Token.SaidBy tokens values := by
  refine ⟨(Json.array (tokens.map Token.json)).compact, Json.meanings (tokens.map Token.json), rfl,
    Json.shown_compact _, ?_, forall₂_saidBy_meanings tokens⟩
  rw [Json.read?_compact, Json.meaning]

end LoxTokens
