import LoxTokens.Config.Read
import LoxTokens.Toml.Quoting

/-! # Writing a configuration

All five values are written, each under its section; the history file is left out when there is
none.  TOML integers have 64 bits with a sign, so a history size beyond them has no form. -/

namespace LoxTokens.Config

/-- A line that sets a key. -/
def setting (key value : Text) : Text := Text.line (key ++ " = ".toList ++ value)

/-- A line that opens a section. -/
def heading (name : Text) : Text := Text.line ('[' :: name ++ [']'])

/-- The greatest history size that can be written. -/
def maxHistorySize : Nat := twoTo 63 - 1

/-- The TOML text of a configuration. -/
def toToml (c : Config) : Except ConfigError Text :=
  if maxHistorySize < c.historySize then .error .serialize
  else .ok <|
    heading "repl".toList ++
    setting "prompt".toList (Toml.quote c.prompt) ++
    setting "history_size".toList (Text.ofNat c.historySize) ++
    (match c.historyFile with
      | none => []
      | some f => setting "history_file".toList (Toml.quote f)) ++
    '\n' :: heading "output".toList ++
    setting "format".toList ('"' :: c.format.name ++ ['"']) ++
    '\n' :: heading "log".toList ++
    setting "level".toList ('"' :: c.level.name ++ ['"'])

/-- The files after a configuration was written to `name` in a directory, which is made if it is
missing, before the text is put together. -/
def save (c : Config) (files : FileTree) (directory : Place) (name : Text) :
    Except ConfigError FileTree :=
  match files.ensureDirectory? directory with
  | none => .error (.io .notDirectory)
  | some files =>
    match c.toToml with
    | .error e => .error e
    | .ok t => (files.store directory name (Text.utf8 t)).mapError .io

end LoxTokens.Config
