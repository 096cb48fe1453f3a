import LoxTokens.Text.Blank

/-! # Log levels

Levels from the most talkative to the most silent.  A level is read from text without regard to
case and surrounding white space; `warning` is another word for `warn`. -/

namespace LoxTokens

inductive LogLevel where
  | trace
  | debug
  | info
  | warn
  | error
deriving DecidableEq, Repr

/-- A text that names no level, without its white space and in small letters. -/
structure UnknownLevel where
  text : Text
deriving DecidableEq, Repr

def UnknownLevel.message (u : UnknownLevel) : Text := "unknown log level: ".toList ++ u.text

namespace LogLevel

def all : List LogLevel := [.trace, .debug, .info, .warn, .error]

def name : LogLevel → Text
  | trace => "trace".toList
  | debug => "debug".toList
  | info => "info".toList
  | warn => "warn".toList
  | error => "error".toList

/-- The name in capitals, as log lines show it. -/
def tag (l : LogLevel) : Text := l.name.map Char.toUpper

def severity : LogLevel → Nat
  | trace => 0
  | debug => 1
  | info => 2
  | warn => 3
  | error => 4

/-- Whether messages of level `l` are shown when the log is set to `threshold`. -/
def shows (threshold l : LogLevel) : Bool := threshold.severity ≤ l.severity

def ofName? (t : Text) : Option LogLevel := all.find? (·.name == t)

def parse (t : Text) : Except UnknownLevel LogLevel :=
  let word := Text.lower (Text.trim t)
  if word = "warning".toList then .ok .warn
  else match ofName? word with
    | some l => .ok l
    | none => .error ⟨word⟩

/-- The level that the environment asks for, if it names one. -/
def ofEnvironment? (value : Option Text) : Option LogLevel :=
  value.bind fun t => (parse t).toOption

end LogLevel
end LoxTokens
