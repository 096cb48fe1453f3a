import LoxTokens.CommandLine.Program
import LoxTokens.Config.Location
import LoxTokens.Config.Read

/-! # The program on a real system

Gathers what a run of `Program.run` is given and puts out what it leaves. -/

open LoxTokens

namespace LoxTokens.Host

def fileError : IO.Error → FileError
  | .noFileOrDirectory _ _ _ => .notFound
  | .inappropriateType _ 20 _ => .notDirectory
  | .inappropriateType _ 21 _ => .isDirectory
  | .resourceExhausted _ 36 _ => .nameTooLong
  | .invalidArgument _ 36 _ => .nameTooLong
  | e => .other (toString e).toList

def readFile (path : Text) : IO (Except FileError (List UInt8)) := do
  if path.contains (Char.ofNat 0) then return .error .nulInPath
  try
    let bytes ← IO.FS.readBinFile (String.ofList path)
    return .ok bytes.toList
  catch e => return .error (fileError e)

def writeFile (path content : Text) : IO (Option FileError) := do
  if path.contains (Char.ofNat 0) then return some .nulInPath
  try
    IO.FS.writeBinFile (String.ofList path) (String.ofList content).toUTF8
    return none
  catch e => return some (fileError e)

/-- What is known of the files that a run may ask for. -/
def snapshot (paths : List Text) : IO Files := do
  let contents ← paths.mapM fun p => do return (p, ← readFile p)
  let read (path : Text) : Except FileError (List UInt8) :=
    (contents.lookup path).getD (.error .notFound)
  let present (path : Text) : Bool :=
    match read path with
    | .error .notFound | .error .notDirectory | .error .nameTooLong | .error .nulInPath => false
    | _ => true
  return ⟨read, present, fun _ => none⟩

def setting? (name : String) : IO (Option Text) := do
  return (← IO.getEnv name).map String.toList

/-- The files that a command may ask for. -/
def filesOf (config : Config) : Command → List Text
  | .run file => [file]
  | .repl => config.historyFile.toList
  | _ => []

def surroundings (i : Invocation) : IO Surroundings := do
  let places : Config.Places :=
    ⟨← setting? "XDG_CONFIG_HOME", ← setting? "HOME", ← setting? "APPDATA"⟩
  let configFiles ← snapshot places.configFile?.toList
  let config := Config.loadUser configFiles places.configFile?
  let files ← snapshot (filesOf (config.toOption.getD .standard) i.command)
  let input ← if i.command = .repl then (← IO.getStdin).readBinToEnd else pure ByteArray.empty
  return ⟨config, ← setting? "LOXLEX_LOG", files, input.toList⟩

/-- Puts out what a run left.  When its file cannot be written after all, the run is taken again
with that known. -/
def finish (args : List Text) (s : Surroundings) : IO RunResult := do
  let result := Program.run args s ConfigError.message
  match result.saved with
  | none => return result
  | some (path, content) =>
    match ← writeFile path content with
    | none => return result
    | some e =>
      let s := { s with files := { s.files with writeError := fun _ => some e } }
      return Program.run args s ConfigError.message

def main (args : List String) : IO UInt32 := do
  let args := args.map String.toList
  let s ← match Request.ofArguments args with
    | .invoke i => surroundings i
    | _ => pure ⟨.ok .standard, none, FileTree.empty.view, []⟩
  let result ← finish args s
  (← IO.getStdout).putStr (String.ofList result.out)
  (← IO.getStderr).putStr (String.ofList result.err)
  return UInt32.ofNat result.code

end LoxTokens.Host

def main (args : List String) : IO UInt32 := LoxTokens.Host.main args
