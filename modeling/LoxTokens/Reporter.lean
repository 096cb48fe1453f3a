import LoxTokens.LexError
import LoxTokens.Sink

/-! # Reporters

Whatever receives errors while a source is scanned is a `Reporter`.  An `ErrorLog` keeps the
errors; an `ErrorWriter` writes each on a line of its own to a sink and counts them, whether or
not the sink took the line.  Either may be `Held` for a lexer that does not own it. -/

namespace LoxTokens

class Reporter (ρ : Type) where
  report : ρ → LexError → ρ

/-- The errors reported so far, in order. -/
structure ErrorLog where
  errors : Array LexError
deriving DecidableEq, Repr

namespace ErrorLog

def empty : ErrorLog := ⟨#[]⟩

def hasErrors (l : ErrorLog) : Bool := !l.errors.isEmpty

def clear (_ : ErrorLog) : ErrorLog := empty

instance : Reporter ErrorLog := ⟨fun l e => ⟨l.errors.push e⟩⟩

end ErrorLog

structure ErrorWriter where
  sink : Sink
  /-- Errors reported since the last reset. -/
  count : Nat
deriving DecidableEq, Repr

namespace ErrorWriter

def onto (s : Sink) : ErrorWriter := ⟨s, 0⟩

def hadError (w : ErrorWriter) : Bool := 0 < w.count

/-- Forgets the reports but nothing that is written. -/
def reset (w : ErrorWriter) : ErrorWriter := ⟨w.sink, 0⟩

instance : Reporter ErrorWriter :=
  ⟨fun w e => ⟨(w.sink.write (e.reportLine ++ ['\n'])).1, w.count + 1⟩⟩

end ErrorWriter

/-- A reporter in a box, on loan or behind an interface: every report is handed on to it. -/
structure Held (ρ : Type) where
  reporter : ρ
deriving DecidableEq, Repr

instance {ρ : Type} [Reporter ρ] : Reporter (Held ρ) :=
  ⟨fun h e => ⟨Reporter.report h.reporter e⟩⟩

/-- `r` after the errors of a list, in order. -/
def reportAll {ρ : Type} [Reporter ρ] (r : ρ) (errors : List LexError) : ρ :=
  errors.foldl Reporter.report r

end LoxTokens
