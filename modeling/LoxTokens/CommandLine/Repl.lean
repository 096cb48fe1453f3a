import LoxTokens.CommandLine.Draft
import LoxTokens.CommandLine.History
import LoxTokens.Config.Basic
import LoxTokens.LineEvaluator
import LoxTokens.Log.Notice

/-! # The line prompt

Each line of the input, with its backspaces done, is evaluated as a source of its own by one
`LineEvaluator`, which writes its tokens to the output and its errors to the error stream.  The
session ends with the input, at a line that cannot be read, or when a stream does not take what is
written to it.  Its history is read from the history file at the start and written back at the end
when lines were added to it. -/

namespace LoxTokens

namespace Session

/-- How a session ends. -/
inductive Ending where
  /-- With the input. -/
  | finished
  /-- At a line that is no text. -/
  | notText
  /-- At a line with a backspace that would cut through a character. -/
  | torn
  /-- At something that a stream did not take whole. -/
  | refused
deriving DecidableEq, Repr

/-- How far a session has come. -/
structure State where
  evaluator : LineEvaluator
  history : History
  /-- What there is to say so far. -/
  notices : List Notice
deriving DecidableEq, Repr

/-- What is said whenever a line is asked for. -/
def asking : Notice := .log .debug "unsupported terminal".toList

/-- What there is to say of one line, with the text that was written of its errors: line by line
during its scan, or as one array after it. -/
def lineNotices (format : OutputFormat) (line written : Text) : List Notice :=
  match format with
  | .text => scanNotices line (cutBehind '\n' written)
  | .json => scanNotices line [] ++ if written = [] then [] else [.text written]

/-- The history after a line was given; one with nothing but white space is no entry. -/
def remember (h : History) (line : Text) : History :=
  if (Text.trim line).isEmpty then h else h.add line

namespace State

/-- The state after a text was written to the output, and whether it was taken whole. -/
def write (s : State) (t : Text) : State × Bool :=
  let (out, taken) := s.evaluator.out.write t
  ({ s with evaluator := { s.evaluator with out } }, taken)

/-- The state after a line was asked for. -/
def ask (s : State) (prompt : Text) : State × Bool :=
  { s with notices := s.notices ++ [asking] }.write prompt

/-- The state after a line was given, and how it went. -/
def take (s : State) (line : Text) : State × LineEvaluator.Outcome :=
  let (evaluator, outcome) := s.evaluator.evalLine line
  let before := s.evaluator.errors.sink.written.size
  let written := Text.ofUtf8? (evaluator.errors.sink.written.toList.drop before)
  (⟨evaluator, remember s.history line,
    s.notices ++ lineNotices evaluator.format line (written.getD [])⟩, outcome)

end State

/-- The session over the lines of an input, and how it ends. -/
def readLines (prompt : Text) (s : State) (lines : List (List UInt8)) : State × Ending :=
  match s.ask prompt with
  | (s, false) => (s, .refused)
  | (s, true) =>
    match lines with
    | [] => (s, .finished)
    | bytes :: rest =>
      match Text.ofUtf8? bytes with
      | none => (s, .notText)
      | some typed =>
        match Draft.finish? typed with
        | none => (s, .torn)
        | some line =>
          match s.take line with
          | (s, .refused) => (s, .refused)
          | (s, .done _) => readLines prompt s rest

/-- The session from its first words on. -/
def welcome (prompt : Text) (s : State) (lines : List (List UInt8)) : State × Ending :=
  match s.write (Text.line "Welcome to Lox Repl".toList) with
  | (s, false) => (s, .refused)
  | (s, true) => readLines prompt s lines

/-- A complaint about the history file. -/
def historyWarning (action file : Text) (e : FileError) : Notice :=
  .log .warn ("could not ".toList ++ action ++ " history ".toList ++ file ++ ": ".toList ++
    e.message)

/-- The history before the first line, and what there is to say about its file. -/
def openHistory (config : Config) (files : Files) : History × List Notice :=
  let fresh : History := .empty config.historySize
  match config.historyFile with
  | none => (fresh, [])
  | some file =>
    if !files.present file then (fresh, [])
    else match files.read file with
      | .error e => (fresh, [historyWarning "load".toList file e])
      | .ok bytes =>
        let (history, odd, complete) := fresh.load bytes
        (history,
          odd.map (fun line => .log .warn ("bad escaped line: ".toList ++ line)) ++
            if complete then [] else [historyWarning "load".toList file .notUtf8])

/-- The history file to be written at the end, with its content, and what there is to say about
it. -/
def closeHistory (config : Config) (files : Files) (h : History) :
    Option (Text × Text) × List Notice :=
  match config.historyFile with
  | none => (none, [])
  | some file =>
    if !h.unsaved then (none, [])
    else match files.writeError file with
      | some e => (none, [historyWarning "save".toList file e])
      | none => (some (file, h.fileText), [])

end Session

/-- What a session leaves. -/
structure Session where
  out : Text
  notices : List Notice
  ending : Session.Ending
  /-- The history file to be written, with its content. -/
  saved : Option (Text × Text)
deriving DecidableEq, Repr

/-- A session over an input.  One that stops before the input ends leaves the history file
alone. -/
def Session.run (config : Config) (evaluator : LineEvaluator) (files : Files)
    (input : List UInt8) : Session :=
  let (history, opening) := openHistory config files
  let (s, ending) := welcome config.prompt ⟨evaluator, history, opening⟩ (byteLines input)
  let (saved, closing) :=
    if ending = .finished then closeHistory config files s.history else (none, [])
  ⟨(Text.ofUtf8? s.evaluator.out.written.toList).getD [], s.notices ++ closing, ending, saved⟩

end LoxTokens
