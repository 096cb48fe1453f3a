import LoxTokens.Text.Basic

/-! # TOML strings

The four quotings of TOML and how they are read.  Quotation marks allow escapes, apostrophes
take everything as it stands; tripled, either may run over several lines, whose ends count as
one line feed each.  A line feed right after the opening marks is dropped.

Every reader gives the value and the text after the closing marks, and fails where the text is
not such a string. -/

namespace LoxTokens.Toml

/-- A blank within a line. -/
def isSpace (c : Char) : Bool := c == ' ' || c == '\t'

/-- A character that comments and strings may hold. -/
def isPlain (c : Char) : Bool := c == '\t' || (32 ≤ c.toNat && c.toNat != 127)

/-- What follows a line feed, alone or after a carriage return. -/
def afterNewline? : Text → Option Text
  | '\n' :: t => some t
  | '\r' :: '\n' :: t => some t
  | _ => none

/-- Drops one line end if the text begins with it. -/
def dropNewline (t : Text) : Text := (afterNewline? t).getD t

/-- The number of a hexadecimal digit. -/
def hexValue? (c : Char) : Option Nat :=
  if c.isDigit then some (c.toNat - 48)
  else if 'a' ≤ c && c ≤ 'f' then some (c.toNat - 87)
  else if 'A' ≤ c && c ≤ 'F' then some (c.toNat - 55)
  else none

/-- The character whose code point is written in hexadecimal digits. -/
def scalar? (digits : Text) : Option Char := do
  let n ← digits.foldlM (fun n c => (hexValue? c).map (16 * n + ·)) 0
  if h : n.isValidChar then some (Char.ofNatAux n h) else none

/-- The character an escape stands for; the backslash is already taken. -/
def escape? : Text → Option (Char × Text)
  | 'b' :: t => some ('\x08', t)
  | 't' :: t => some ('\t', t)
  | 'n' :: t => some ('\n', t)
  | 'f' :: t => some ('\x0c', t)
  | 'r' :: t => some ('\r', t)
  | '"' :: t => some ('"', t)
  | '\\' :: t => some ('\\', t)
  | 'u' :: a :: b :: c :: d :: t => (scalar? [a, b, c, d]).map (·, t)
  | 'U' :: a :: b :: c :: d :: e :: f :: g :: h :: t =>
    (scalar? [a, b, c, d, e, f, g, h]).map (·, t)
  | _ => none

/-- An escape takes at least one character. -/
theorem length_lt_of_escape? {t : Text} {c : Char} {rest : Text} (h : escape? t = some (c, rest)) :
    rest.length < t.length := by
  unfold escape? at h
  split at h <;> simp only [Option.map_eq_some_iff, Option.some.injEq, Prod.mk.injEq,
    reduceCtorEq] at h
  all_goals first
    | (obtain ⟨_, rfl⟩ := h; simp)
    | (obtain ⟨_, _, _, rfl⟩ := h; simp; omega)

/-- The rest of a string in quotation marks. -/
def basicBody : Text → Option (Text × Text)
  | [] => none
  | '"' :: t => some ([], t)
  | '\\' :: t =>
    match h : escape? t with
    | none => none
    | some (c, rest) =>
      have := length_lt_of_escape? h
      (basicBody rest).map fun (s, rest) => (c :: s, rest)
  | c :: t => if isPlain c then (basicBody t).map fun (s, rest) => (c :: s, rest) else none
termination_by t => t.length

/-- What follows three closing marks: up to two more marks still belong to the value. -/
def closing (mark : Char) : Text → Text × Text
  | c :: d :: t =>
    if c = mark then if d = mark then ([mark, mark], t) else ([mark], d :: t) else ([], c :: d :: t)
  | [c] => if c = mark then ([mark], []) else ([], [c])
  | [] => ([], [])

/-- Skips blanks and line ends. -/
def skipLines : Text → Text
  | [] => []
  | '\n' :: t => skipLines t
  | '\r' :: '\n' :: t => skipLines t
  | c :: t => if isSpace c then skipLines t else c :: t

/-- What follows a line end hidden by a backslash, and the blanks and line ends after it. -/
def continued? (t : Text) : Option Text := (afterNewline? (t.dropWhile isSpace)).map skipLines

theorem length_afterNewline? {t rest : Text} (h : afterNewline? t = some rest) :
    rest.length < t.length := by
  unfold afterNewline? at h
  split at h
  · cases h; simp
  · cases h; simp only [List.length_cons]; omega
  · simp at h

theorem length_skipLines (t : Text) : (skipLines t).length ≤ t.length := by
  fun_induction skipLines t <;> simp_all <;> omega

theorem length_continued? {t rest : Text} (h : continued? t = some rest) :
    rest.length < t.length := by
  obtain ⟨u, hu, rfl⟩ := Option.map_eq_some_iff.1 h
  have h₁ := length_afterNewline? hu
  have h₂ := length_skipLines u
  have h₃ := (List.dropWhile_suffix isSpace (l := t)).length_le
  omega

/-- The rest of a string in tripled quotation marks. -/
def longBasicBody : Text → Option (Text × Text)
  | [] => none
  | '"' :: '"' :: '"' :: t => some (closing '"' t)
  | '\n' :: t => (longBasicBody t).map fun (s, rest) => ('\n' :: s, rest)
  | '\r' :: '\n' :: t => (longBasicBody t).map fun (s, rest) => ('\n' :: s, rest)
  | '\\' :: t =>
    match hc : continued? t with
    | some rest =>
      have := length_continued? hc
      longBasicBody rest
    | none =>
      match he : escape? t with
      | none => none
      | some (c, rest) =>
        have := length_lt_of_escape? he
        (longBasicBody rest).map fun (s, rest) => (c :: s, rest)
  | c :: t => if isPlain c then (longBasicBody t).map fun (s, rest) => (c :: s, rest) else none
termination_by t => t.length

/-- The rest of a string in apostrophes. -/
def literalBody : Text → Option (Text × Text)
  | [] => none
  | '\'' :: t => some ([], t)
  | c :: t => if isPlain c then (literalBody t).map fun (s, rest) => (c :: s, rest) else none

/-- The rest of a string in tripled apostrophes. -/
def longLiteralBody : Text → Option (Text × Text)
  | [] => none
  | '\'' :: '\'' :: '\'' :: t => some (closing '\'' t)
  | '\n' :: t => (longLiteralBody t).map fun (s, rest) => ('\n' :: s, rest)
  | '\r' :: '\n' :: t => (longLiteralBody t).map fun (s, rest) => ('\n' :: s, rest)
  | c :: t => if isPlain c then (longLiteralBody t).map fun (s, rest) => (c :: s, rest) else none

/-- A string in any of the four quotings. -/
def string? : Text → Option (Text × Text)
  | '"' :: '"' :: '"' :: t => longBasicBody (dropNewline t)
  | '"' :: t => basicBody t
  | '\'' :: '\'' :: '\'' :: t => longLiteralBody (dropNewline t)
  | '\'' :: t => literalBody t
  | _ => none

end LoxTokens.Toml
