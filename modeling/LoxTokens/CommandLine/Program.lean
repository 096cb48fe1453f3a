import LoxTokens.CommandLine.Arguments
import LoxTokens.CommandLine.SourceReport
import LoxTokens.CommandLine.Repl

/-! # The program

One run of the program as a function: from its arguments, the user's configuration, the log
level the environment asks for, the files around it and its input, to its exit code and what it
writes.  A configuration that cannot be had is complained about and otherwise counts as one that
sets nothing. -/

namespace LoxTokens

/-- What a run is given. -/
structure Surroundings where
  config : Except ConfigError Config
  /-- The log level variable of the environment. -/
  logVariable : Option Text
  files : Files
  input : List UInt8

/-- What a run leaves. -/
structure RunResult where
  code : Nat
  out : Text
  err : Text
  /-- A file that was written, with its content. -/
  saved : Option (Text × Text)
deriving DecidableEq, Repr

namespace Program

def name : Text := "loxlex".toList

def version : Text := "0.1.0".toList

/-- Exit code of a run that found lexical errors. -/
def dataError : Nat := 65

/-- Exit code of a run that could not do its work. -/
def failure : Nat := 1

/-- Exit code of a run whose arguments were not understood. -/
def usageError : Nat := 2

/-- Exit code of a run that broke off at a line it could not put together. -/
def brokenOff : Nat := 101

def versionLine : Text := Text.line (name ++ ' ' :: version)

/-- What is said of a configuration that is not to be had. -/
def ignoredConfig (worded : ConfigError → Text) (e : ConfigError) : Text :=
  "ignoring user config: ".toList ++ worded e

/-- A failure without a cause. -/
def failureLine (message : Text) : Text := Text.line ("Error: ".toList ++ message)

/-- A failure with its chain of causes. -/
def failureText (message : Text) (causes : List Text) : Text :=
  failureLine message ++ "\nCaused by:".toList ++
    (causes.zipIdx.flatMap fun (cause, i) =>
      '\n' :: Text.padLeft 5 (Text.ofNat i) ++ ": ".toList ++
        cause.flatMap fun c => if c = '\n' then '\n' :: List.replicate 7 ' ' else [c]) ++ ['\n']

/-- The configuration that counts. -/
def effectiveConfig (s : Surroundings) : Config := s.config.toOption.getD .standard

/-- The level that counts: verbose runs debug, else the environment comes before the
configuration. -/
def effectiveLevel (i : Invocation) (s : Surroundings) : LogLevel :=
  if i.verbose then .debug
  else (LogLevel.ofEnvironment? s.logVariable).getD (effectiveConfig s).level

/-- The format that counts: the command line comes before the configuration. -/
def effectiveFormat (i : Invocation) (s : Surroundings) : OutputFormat :=
  i.format.getD (effectiveConfig s).format

/-- Complaints that come before anything else. -/
def openingNotices (worded : ConfigError → Text) (s : Surroundings) : List Notice :=
  match s.config with
  | .ok _ => []
  | .error e => [.log .warn (ignoredConfig worded e)]

/-- A run that scans one source. -/
def scanResult (name source : Text) (format : OutputFormat) : Nat × Text × List Notice :=
  let report := SourceReport.ofSource name source format
  (if report.hadError then dataError else 0, report.out, SourceReport.notices name source format)

/-- Exit code, output, notices and written file of a command. -/
def perform (c : Command) (format : OutputFormat) (s : Surroundings) :
    Nat × Text × List Notice × Option (Text × Text) :=
  match c with
  | .version => (0, versionLine, [], none)
  | .eval code =>
    let (exit, out, notices) := scanResult "<eval>".toList code format
    (exit, out, notices, none)
  | .run file =>
    let reading := Notice.log .debug ("reading ".toList ++ file)
    match s.files.readText file with
    | .ok source =>
      let (exit, out, notices) := scanResult file source format
      (exit, out, reading :: notices, none)
    | .error e =>
      let text := failureText ("Failed to run: ".toList ++ file)
        ["Failed to read file: ".toList ++ file, e.message]
      (failure, [], [reading, .text text], none)
  | .repl =>
    let session := Session.run (effectiveConfig s) (.unlimited format) s.files s.input
    match session.ending with
    | .finished => (0, session.out, session.notices, session.saved)
    | .notText =>
      let text := failureText "Failed to read line".toList
        [FileError.notUtf8.message, FileError.notUtf8.message]
      (failure, session.out, session.notices ++ [.text text], none)
    | .torn => (brokenOff, session.out, session.notices, none)
    | .refused =>
      (failure, session.out, session.notices ++ [.text (failureLine Sink.refusal)], none)

/-- A run with arguments that were understood. -/
def invoke (worded : ConfigError → Text) (i : Invocation) (s : Surroundings) : RunResult :=
  let (exit, out, notices, saved) := perform i.command (effectiveFormat i s) s
  ⟨exit, out, Notice.shownAll (effectiveLevel i s) (openingNotices worded s ++ notices), saved⟩

/-- What is said of arguments that are not understood. -/
def usage : Text :=
  Text.line "Usage: loxlex [-v] [--format text|json] <run FILE | eval CODE | repl | version>".toList

/-- A run of the program, which words what is wrong with a configuration in the given way. -/
def run (args : List Text) (s : Surroundings)
    (worded : ConfigError → Text := ConfigError.brief) : RunResult :=
  match Request.ofArguments args with
  | .refused => ⟨usageError, [], usage, none⟩
  | .showVersion => ⟨0, versionLine, [], none⟩
  | .invoke i => invoke worded i s

end Program
end LoxTokens
