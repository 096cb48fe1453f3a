import LoxTokens.Files
import LoxTokens.Text.Blank

/-! # History of lines

The lines given to a prompt, the newest last.  A line is kept unless it is empty, begins with
white space or repeats the line before it, and only the newest `limit` lines stay.

A history file begins with a line `#V2`; then each line stands for an entry, with `\\` for a
backslash and `\n` for a line feed.  A file without that first line has its entries as they
are. -/

namespace LoxTokens

/-- The lines of a file: what line feeds end, without a carriage return before them, and the
rest after the last one, if there is any. -/
def byteLines (bytes : List UInt8) : List (List UInt8) :=
  let parts := cutAt 10 bytes
  let final := parts.getLast?.getD []
  parts.dropLast.map (dropFinal 13) ++ if final = [] then [] else [final]

structure History where
  limit : Nat
  entries : Array Text
  /-- Whether there are entries that the history file does not have. -/
  unsaved : Bool
deriving DecidableEq, Repr

namespace History

def empty (limit : Nat) : History := ⟨limit, #[], false⟩

/-- Whether a line becomes an entry. -/
def keeps (h : History) (line : Text) : Bool :=
  match line with
  | [] => false
  | c :: _ => h.limit != 0 && !Text.isBlank c && h.entries.back? != some line

/-- The history with one more line. -/
def add (h : History) (line : Text) : History :=
  if h.keeps line then
    let all := h.entries.push line
    ⟨h.limit, if all.size ≤ h.limit then all else all.extract (all.size - h.limit), true⟩
  else h

/-- The first line of a history file. -/
def fileMark : Text := "#V2".toList

/-- An entry in a history file. -/
def encode (entry : Text) : Text :=
  entry.flatMap fun c => if c = '\\' then ['\\', '\\'] else if c = '\n' then ['\\', 'n'] else [c]

/-- The entry of a line in a history file, if its backslashes are in order. -/
def decode? : Text → Option Text
  | [] => some []
  | '\\' :: '\\' :: t => (decode? t).map ('\\' :: ·)
  | '\\' :: 'n' :: t => (decode? t).map ('\n' :: ·)
  | '\\' :: _ => none
  | c :: t => (decode? t).map (c :: ·)

/-- The content of a history file. -/
def fileText (h : History) : Text :=
  fileMark ++ '\n' :: h.entries.toList.flatMap fun e => encode e ++ ['\n']

/-- Takes over the lines of a history file, up to the first that is no text.  Gives the history,
the lines whose backslashes are out of order (they are entries as they stand), and whether all
lines were texts. -/
def addLines (encoded : Bool) : History → List (List UInt8) → History × List Text × Bool
  | h, [] => (h, [], true)
  | h, bytes :: lines =>
    match Text.ofUtf8? bytes with
    | none => (h, [], false)
    | some line =>
      match if encoded then decode? line else some line with
      | some entry => addLines encoded (h.add entry) lines
      | none =>
        let (h, odd, whole) := addLines encoded (h.add line) lines
        (h, line :: odd, whole)

/-- Takes over a history file. -/
def load (h : History) (bytes : List UInt8) : History × List Text × Bool :=
  let lines := byteLines bytes
  let encoded := match lines with
    | first :: _ => first == Text.utf8 fileMark
    | [] => false
  let (h, odd, whole) := addLines encoded h (if encoded then lines.drop 1 else lines)
  (if whole then { h with unsaved := false } else h, odd, whole)

end History
end LoxTokens
