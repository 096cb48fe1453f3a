import LoxTokens.Segment

/-! # Scanning a source

Every segment over its span gives a token, an error or nothing (`Segment.event?`).  A scan is the
list of these events in the order of the source, closed by the token for its end;
`Scanned.ofSource` keeps tokens and errors apart. -/

namespace LoxTokens

/-- What is met while a source is scanned. -/
inductive Event where
  | token (t : Token)
  | error (e : LexError)
deriving DecidableEq, Repr

namespace Event

def token? : Event → Option Token
  | token t => some t
  | error _ => none

def error? : Event → Option LexError
  | token _ => none
  | error e => some e

end Event

namespace Segment

/-- What a segment over a span gives. -/
def event? (s : Segment) (span : Span) : Option Event :=
  let token (kind : TokenKind) (literal : Literal) : Option Event :=
    some (.token ⟨kind, s.text, literal, span.stop.line, span⟩)
  match s with
  | blank _ => none
  | comment _ => none
  | string body => token .string (.string body)
  | number whole fraction =>
    token .number (.number (.ofMagnitude false (Decimal.ofParts whole fraction).round))
  | word letters => token (.ofWord letters) .none
  | operator o => token (.operator o) .none
  | stray c => some (.error (.unexpectedCharacter span.stop.line c))
  | unterminated _ => some (.error (.unterminatedString span.stop.line))

/-- Segments with their spans, the first one beginning at `p`. -/
def located (p : Position) : List Segment → List (Segment × Span)
  | [] => []
  | s :: ss => (s, ⟨p, p.after s.text⟩) :: located (p.after s.text) ss

end Segment

/-- The events of a source. -/
def events (source : Text) : List Event :=
  (Segment.located .origin (Segment.ofText source)).filterMap (fun x => x.1.event? x.2) ++
    [.token (.eof (Position.origin.after source))]

/-- The tokens of a source and its errors. -/
structure Scanned where
  tokens : List Token
  errors : List LexError
deriving DecidableEq, Repr

namespace Scanned

def ofSource (source : Text) : Scanned :=
  ⟨(events source).filterMap Event.token?, (events source).filterMap Event.error?⟩

def hasErrors (s : Scanned) : Bool := !s.errors.isEmpty

end Scanned
end LoxTokens
