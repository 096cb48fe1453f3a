import LoxTokens.Toml.Strings
import LoxTokens.Proofs.Rounding

/-! # Reading JSON

`Json.read?` gives the value of a JSON text, and fails where the text is not JSON: where a string
holds a control character or half a surrogate pair, a number begins with an idle zero or ends with
its point, a comma has nothing after it, or anything but blanks follows the value.

A value keeps what the text says: the sign of a number apart from its exact magnitude, and the fields
of an object in their order.  Every reader but `read?` gives the value and the text after it. -/

namespace LoxTokens

/-- What a JSON text says. -/
inductive JsonValue where
  | null
  | boolean (b : Bool)
  | number (negative : Bool) (magnitude : ℚ)
  | string (s : Text)
  | array (items : List JsonValue)
  | object (fields : List (Text × JsonValue))

namespace Json

def isSpace (c : Char) : Bool := c == ' ' || c == '\t' || c == '\n' || c == '\r'

def skipSpace (t : Text) : Text := t.dropWhile isSpace

/-! ### Numbers -/

/-- The digits after a point; there is at least one. -/
def fraction? : Text → Option (Text × Text)
  | '.' :: t =>
    if t.takeWhile Char.isDigit = [] then none
    else some (t.takeWhile Char.isDigit, t.dropWhile Char.isDigit)
  | t => some ([], t)

def isPowerChar (c : Char) : Bool := c.isDigit || c == '+' || c == '-'

/-- The power of ten, zero where none is written. -/
def power? : Text → Option (Int × Text)
  | [] => some (0, [])
  | c :: t =>
    if c = 'e' || c = 'E' then
      (signedValue? (t.takeWhile isPowerChar)).map (·, t.dropWhile isPowerChar)
    else some (0, c :: t)

/-- A number without a sign. -/
def decimal? (t : Text) : Option (Decimal × Text) :=
  let whole := t.takeWhile Char.isDigit
  if whole = [] || (whole.head? == some '0' && whole.length != 1) then none
  else do
    let (fraction, t) ← fraction? (t.dropWhile Char.isDigit)
    let (power, rest) ← power? t
    return ((Decimal.ofParts whole fraction).shift power, rest)

def number? : Text → Option (JsonValue × Text)
  | '-' :: t => (decimal? t).map fun (d, rest) => (.number true d.value, rest)
  | t => (decimal? t).map fun (d, rest) => (.number false d.value, rest)

/-! ### Strings -/

/-- The number written in four hexadecimal digits. -/
def codeUnit? : Text → Option (Nat × Text)
  | a :: b :: c :: d :: t =>
    ([a, b, c, d].foldlM (fun n c => (Toml.hexValue? c).map (16 * n + ·)) 0).map (·, t)
  | _ => none

def character? (n : Nat) : Option Char :=
  if h : n.isValidChar then some (Char.ofNatAux n h) else none

/-- The character of a code unit, or of two that are a surrogate pair. -/
def unicodeEscape? (t : Text) : Option (Char × Text) := do
  let (high, t) ← codeUnit? t
  if 0xD800 ≤ high && high < 0xDC00 then
    match t with
    | '\\' :: 'u' :: t =>
      let (low, t) ← codeUnit? t
      if 0xDC00 ≤ low && low < 0xE000 then
        (character? (0x10000 + (high - 0xD800) * 0x400 + (low - 0xDC00))).map (·, t)
      else none
    | _ => none
  else (character? high).map (·, t)

/-- The character an escape stands for; the backslash is already taken. -/
def escape? : Text → Option (Char × Text)
  | '"' :: t => some ('"', t)
  | '\\' :: t => some ('\\', t)
  | '/' :: t => some ('/', t)
  | 'b' :: t => some ('\x08', t)
  | 'f' :: t => some ('\x0c', t)
  | 'n' :: t => some ('\n', t)
  | 'r' :: t => some ('\r', t)
  | 't' :: t => some ('\t', t)
  | 'u' :: t => unicodeEscape? t
  | _ => none

theorem length_lt_of_codeUnit? {t rest : Text} {n : Nat} (h : codeUnit? t = some (n, rest)) :
    rest.length < t.length := by
  unfold codeUnit? at h
  split at h
  · obtain ⟨_, _, heq⟩ := Option.map_eq_some_iff.1 h
    cases heq
    simp only [List.length_cons]
    omega
  · cases h

theorem length_lt_of_unicodeEscape? {t rest : Text} {c : Char}
    (h : unicodeEscape? t = some (c, rest)) : rest.length < t.length := by
  unfold unicodeEscape? at h
  obtain ⟨⟨high, u⟩, hhigh, h⟩ := Option.bind_eq_some_iff.1 h
  have hlength := length_lt_of_codeUnit? hhigh
  dsimp only at h
  split at h
  · split at h
    next v =>
      obtain ⟨⟨low, w⟩, hlow, h⟩ := Option.bind_eq_some_iff.1 h
      have hlength' := length_lt_of_codeUnit? hlow
      dsimp only at h
      split at h
      · obtain ⟨_, _, heq⟩ := Option.map_eq_some_iff.1 h
        cases heq
        simp only [List.length_cons] at hlength
        omega
      · cases h
    next => cases h
  · obtain ⟨_, _, heq⟩ := Option.map_eq_some_iff.1 h
    cases heq
    exact hlength

/-- An escape takes at least one character. -/
theorem length_lt_of_escape? {t rest : Text} {c : Char} (h : escape? t = some (c, rest)) :
    rest.length < t.length := by
  unfold escape? at h
  split at h
  case h_9 => exact (length_lt_of_unicodeEscape? h).trans (Nat.lt_succ_self _)
  case h_10 => cases h
  all_goals
    cases h
    exact Nat.lt_succ_self _

/-- The rest of a string. -/
def stringBody? : Text → Option (Text × Text)
  | [] => none
  | '"' :: t => some ([], t)
  | '\\' :: t =>
    match h : escape? t with
    | none => none
    | some (c, rest) =>
      have := length_lt_of_escape? h
      (stringBody? rest).map fun (s, rest) => (c :: s, rest)
  | c :: t => if c.toNat < 32 then none else (stringBody? t).map fun (s, rest) => (c :: s, rest)
termination_by t => t.length

/-! ### Values -/

mutual

/-- A value, in at most `room` steps down and along. -/
def value? : Nat → Text → Option (JsonValue × Text)
  | 0, _ => none
  | room + 1, t =>
    match skipSpace t with
    | 'n' :: 'u' :: 'l' :: 'l' :: t => some (.null, t)
    | 't' :: 'r' :: 'u' :: 'e' :: t => some (.boolean true, t)
    | 'f' :: 'a' :: 'l' :: 's' :: 'e' :: t => some (.boolean false, t)
    | '"' :: t => (stringBody? t).map fun (s, t) => (.string s, t)
    | '[' :: t =>
      match skipSpace t with
      | ']' :: t => some (.array [], t)
      | t => (items? room t).map fun (vs, t) => (.array vs, t)
    | '{' :: t =>
      match skipSpace t with
      | '}' :: t => some (.object [], t)
      | t => (fields? room t).map fun (fs, t) => (.object fs, t)
    | t => number? t

/-- The items of an array that has some, and its end. -/
def items? : Nat → Text → Option (List JsonValue × Text)
  | 0, _ => none
  | room + 1, t => do
    let (v, t) ← value? room t
    match skipSpace t with
    | ',' :: t => (items? room t).map fun (vs, t) => (v :: vs, t)
    | ']' :: t => some ([v], t)
    | _ => none

/-- The fields of an object that has some, and its end. -/
def fields? : Nat → Text → Option (List (Text × JsonValue) × Text)
  | 0, _ => none
  | room + 1, t =>
    match skipSpace t with
    | '"' :: t => do
      let (name, t) ← stringBody? t
      match skipSpace t with
      | ':' :: t =>
        let (v, t) ← value? room t
        match skipSpace t with
        | ',' :: t => (fields? room t).map fun (fs, t) => ((name, v) :: fs, t)
        | '}' :: t => some ([(name, v)], t)
        | _ => none
      | _ => none
    | _ => none

end

/-- The value of a text.  No value takes more steps than the text has characters, so the room is
enough. -/
def read? (t : Text) : Option JsonValue := do
  let (v, rest) ← value? (t.length + 1) t
  if skipSpace rest = [] then some v else none

/-! ### One step of a reader -/

section

variable {c : Char} {s t u rest name : Text} {room : Nat} {v : JsonValue} {vs : List JsonValue}
  {fs : List (Text × JsonValue)}

/-- No blank and no end of an array. -/
def Opens (c : Char) : Prop := isSpace c = false ∧ c ≠ ']'

theorem skipSpace_of_opens (hc : Opens c) (t : Text) : skipSpace (c :: t) = c :: t := by
  rw [skipSpace, List.dropWhile_cons, hc.1]
  rfl

theorem value?_string (h : stringBody? t = some (s, rest)) :
    value? (room + 1) ('"' :: t) = some (.string s, rest) := by
  have hstring : value? (room + 1) ('"' :: t) =
      (stringBody? t).map fun (s, t) => (.string s, t) := rfl
  rw [hstring, h]
  rfl

theorem value?_array (hc : Opens c) (hu : skipSpace u = c :: t)
    (h : items? room (c :: t) = some (vs, rest)) :
    value? (room + 1) ('[' :: u) = some (.array vs, rest) := by
  have harray : value? (room + 1) ('[' :: u) = match skipSpace u with
      | ']' :: t => some (.array [], t)
      | t => (items? room t).map fun (vs, t) => (.array vs, t) := rfl
  rw [harray, hu]
  split
  next heq => exact absurd (List.cons.inj heq).1 hc.2
  next =>
    rw [h]
    rfl

theorem value?_object (hu : skipSpace u = '"' :: t)
    (h : fields? room ('"' :: t) = some (fs, rest)) :
    value? (room + 1) ('{' :: u) = some (.object fs, rest) := by
  have hobject : value? (room + 1) ('{' :: u) = match skipSpace u with
      | '}' :: t => some (.object [], t)
      | t => (fields? room t).map fun (fs, t) => (.object fs, t) := rfl
  rw [hobject, hu]
  show (fields? room ('"' :: t)).map _ = _
  rw [h]
  rfl

theorem items?_singleton (h : value? room t = some (v, u)) (hu : skipSpace u = ']' :: rest) :
    items? (room + 1) t = some ([v], rest) := by
  rw [items?, h]
  simp only [Option.bind_eq_bind, Option.bind_some, hu]

theorem items?_cons (h : value? room t = some (v, s)) (hs : skipSpace s = ',' :: u)
    (hitems : items? room u = some (vs, rest)) : items? (room + 1) t = some (v :: vs, rest) := by
  rw [items?, h]
  simp only [Option.bind_eq_bind, Option.bind_some, hs, hitems, Option.map_some]

/-- After its name and a colon a field is read by its value and what follows that. -/
theorem fields?_name (h : stringBody? t = some (name, ':' :: u)) :
    fields? (room + 1) ('"' :: t) = (value? room u).bind fun (v, t) =>
      match skipSpace t with
      | ',' :: t => (fields? room t).map fun (fs, t) => ((name, v) :: fs, t)
      | '}' :: t => some ([(name, v)], t)
      | _ => none := by
  have hfields : fields? (room + 1) ('"' :: t) = (stringBody? t).bind fun (name, t) =>
      match skipSpace t with
      | ':' :: t => (value? room t).bind fun (v, t) =>
        match skipSpace t with
        | ',' :: t => (fields? room t).map fun (fs, t) => ((name, v) :: fs, t)
        | '}' :: t => some ([(name, v)], t)
        | _ => none
      | _ => none := rfl
  rw [hfields, h]
  rfl

theorem fields?_singleton (hname : stringBody? t = some (name, ':' :: u))
    (h : value? room u = some (v, s)) (hs : skipSpace s = '}' :: rest) :
    fields? (room + 1) ('"' :: t) = some ([(name, v)], rest) := by
  rw [fields?_name hname, h]
  simp only [Option.bind_some, hs]

theorem fields?_cons {w : Text} (hname : stringBody? t = some (name, ':' :: u))
    (h : value? room u = some (v, s)) (hs : skipSpace s = ',' :: w)
    (hfields : fields? room w = some (fs, rest)) :
    fields? (room + 1) ('"' :: t) = some ((name, v) :: fs, rest) := by
  rw [fields?_name hname, h]
  simp only [Option.bind_some, hs, hfields, Option.map_some]

end

end Json
end LoxTokens
