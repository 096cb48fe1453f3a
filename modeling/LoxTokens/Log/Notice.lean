import LoxTokens.Log.Level
import LoxTokens.Text.Shown
import LoxTokens.Scan

/-! # What the error stream shows

Notices are what a run has to say beside its output: log messages, each with a level, and texts
that are shown at every level.  `Notice.shown` is their form on the error stream, and
`scanNotices` lists what scanning a source has to say. -/

namespace LoxTokens

inductive Notice where
  | log (level : LogLevel) (message : Text)
  | text (t : Text)
deriving DecidableEq, Repr

namespace Notice

/-- A notice as the error stream shows it, or nothing where the threshold hides it. -/
def shown (threshold : LogLevel) : Notice → Text
  | log level message =>
    if threshold.shows level then
      Text.padLeft 5 level.tag ++ ' ' :: Text.defused message ++ ['\n']
    else []
  | text t => t

/-- Notices in order. -/
def shownAll (threshold : LogLevel) (notices : List Notice) : Text :=
  notices.flatMap (shown threshold)

end Notice

/-- How many tokens and errors there are. -/
def Scanned.summary (s : Scanned) : Text :=
  Text.ofNat s.tokens.length ++ " tokens, ".toList ++ Text.ofNat s.errors.length ++
    " errors".toList

/-- What the log has to say of an event. -/
def Event.notice : Event → Notice
  | .token t =>
    .log .trace ("[line ".toList ++ Text.ofNat t.line ++ "] ".toList ++ t.kind.name ++
      ' ' :: Text.shown t.lexeme)
  | .error e =>
    .log .debug ("reported at line ".toList ++ Text.ofNat e.line ++ ": ".toList ++ e.message)

/-- What there is to say of events, with one of the texts `written` behind each error as long as
there are any, and the others at the end. -/
def eventNotices : List Event → (written : List Text) → List Notice
  | [], written => written.map .text
  | .token t :: es, written => (Event.token t).notice :: eventNotices es written
  | .error e :: es, written =>
    (Event.error e).notice :: (written.take 1).map .text ++ eventNotices es (written.drop 1)

/-- What scanning a source has to say, with the texts written meanwhile. -/
def scanNotices (source : Text) (written : List Text) : List Notice :=
  .log .debug ("lexing started (".toList ++ Text.ofNat (Text.byteSize source) ++
    " bytes)".toList) ::
  eventNotices (events source) written ++
  [.log .debug ("lexing complete: ".toList ++ (Scanned.ofSource source).summary)]

end LoxTokens
