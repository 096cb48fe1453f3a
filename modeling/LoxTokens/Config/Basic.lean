import LoxTokens.Files
import LoxTokens.OutputFormat
import LoxTokens.Log.Level

/-! # Configuration

What a user may set, with the values that hold where nothing is set, and what can go wrong when a
configuration is read or written. -/

namespace LoxTokens

structure Config where
  /-- What the line prompt shows before each line. -/
  prompt : Text
  /-- How many lines of history are kept. -/
  historySize : Nat
  /-- The file that keeps the history, if any does. -/
  historyFile : Option Text
  format : OutputFormat
  level : LogLevel
deriving DecidableEq, Repr

namespace Config

/-- The configuration of a user who set nothing. -/
def standard : Config := ⟨">> ".toList, 1000, none, .text, .warn⟩

end Config

/-- Why a configuration is not to be had. -/
inductive ConfigError where
  /-- The file cannot be read or written. -/
  | io (e : FileError)
  /-- The text is no TOML or sets something to what it cannot be. -/
  | parse
  /-- A value has no TOML form. -/
  | serialize
deriving DecidableEq, Repr

namespace ConfigError

/-- What is said of an error, without the account that a TOML reader or writer adds to it. -/
def message : ConfigError → Text
  | .io e => "IO error: ".toList ++ e.message
  | .parse => "Config parse error: ".toList
  | .serialize => "Config serialize error: ".toList

/-- The same, with the kind of the error in place of what depends on a TOML reader or writer. -/
def brief : ConfigError → Text
  | .io e => message (.io e)
  | .parse => "ParseError".toList
  | .serialize => "SerializeError".toList

end ConfigError

end LoxTokens
