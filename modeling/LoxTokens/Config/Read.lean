import LoxTokens.Config.Basic
import LoxTokens.Toml.Document

/-! # Reading a configuration

Three sections of a TOML document matter, `repl`, `output` and `log`, and five values in them;
everything else is passed over.  A section is a table, or an array that lists its values in
order, or a date, which sets nothing.  A value that is set must have its own type; a choice is
named by a string, or by the only key of a table whose value is empty. -/

namespace LoxTokens.Config

open Toml

/-- The values of a section, one for each name. -/
def sectionValues? (names : List Text) : Option Value → Option (List (Option Value))
  | none => some (names.map fun _ => none)
  | some (.table entries) => some (names.map fun k => entries.lookup k)
  | some (.array items) => some (names.zipIdx.map fun (_, i) => items[i]?)
  | some (.dateTime _) => some (names.map fun _ => none)
  | some _ => none

/-- A value that may be left out. -/
def orElse? {α : Type} (default : α) (read? : Value → Option α) : Option Value → Option α
  | none => some default
  | some v => read? v

def text? : Value → Option Text
  | .string s => some s
  | _ => none

def natural? : Value → Option Nat
  | .integer (.ofNat n) => some n
  | _ => none

/-- A choice by name. -/
def choice? {α : Type} (ofName? : Text → Option α) : Value → Option α
  | .string s => ofName? s
  | .table [(k, .table [])] => ofName? k
  | .table [(k, .array [])] => ofName? k
  | _ => none

/-- The configuration of a TOML document. -/
def ofEntries? (entries : List (Text × Value)) : Option Config := do
  let repl ← sectionValues? ["prompt".toList, "history_size".toList, "history_file".toList]
    (entries.lookup "repl".toList)
  let output ← sectionValues? ["format".toList] (entries.lookup "output".toList)
  let log ← sectionValues? ["level".toList] (entries.lookup "log".toList)
  some {
    prompt := ← orElse? standard.prompt text? (repl[0]?.join)
    historySize := ← orElse? standard.historySize natural? (repl[1]?.join)
    historyFile := ← orElse? standard.historyFile (fun v => (text? v).map some) (repl[2]?.join)
    format := ← orElse? standard.format (choice? OutputFormat.ofName?) (output[0]?.join)
    level := ← orElse? standard.level (choice? LogLevel.ofName?) (log[0]?.join) }

/-- The configuration that a text sets. -/
def ofToml (t : Text) : Except ConfigError Config :=
  match (Toml.parse? t).bind ofEntries? with
  | some c => .ok c
  | none => .error .parse

/-- The configuration of the file at a path, or the standard one where there is no file. -/
def load (files : Files) (path : Text) : Except ConfigError Config :=
  if !files.present path then .ok standard
  else match files.readText path with
    | .ok t => ofToml t
    | .error e => .error (.io e)

/-- The configuration of a user who may have a configuration file. -/
def loadUser (files : Files) : Option Text → Except ConfigError Config
  | none => .ok standard
  | some path => load files path

end LoxTokens.Config
