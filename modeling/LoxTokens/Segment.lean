import LoxTokens.Token.Basic
import LoxTokens.LexError

/-! # Segments

A source is cut from left to right into segments: blanks, comments, the lexemes of tokens, and
what no lexeme begins with.  `Segment.cut` takes the first segment off a text; it always takes
the longest one, it loses nothing (`text_append_of_cut`) and it always takes something
(`length_lt_of_cut`), so a text has finitely many segments, and together they are the text
again (`flatMap_text_ofText`). -/

namespace LoxTokens

inductive Segment where
  /-- One space, tab, carriage return or line feed. -/
  | blank (c : Char)
  /-- Two slashes and the rest of the line. -/
  | comment (body : Text)
  /-- A text between quotes. -/
  | string (body : Text)
  /-- Digits, followed by a point and more digits if `fraction` has any. -/
  | number (whole fraction : Text)
  /-- A keyword or an identifier. -/
  | word (letters : Text)
  | operator (o : Operator)
  /-- A character that begins nothing. -/
  | stray (c : Char)
  /-- A quote that no other quote follows, and the rest of the source. -/
  | unterminated (body : Text)
deriving DecidableEq, Repr

/-- Space, tab, carriage return and line feed separate lexemes. -/
def separates (c : Char) : Bool := c == ' ' || c == '\t' || c == '\r' || c == '\n'

/-- A letter or an underscore. -/
def beginsWord (c : Char) : Bool := c.isAlpha || c == '_'

/-- A letter, an underscore or a digit. -/
def continuesWord (c : Char) : Bool := beginsWord c || c.isDigit

namespace Segment

/-- The stretch of source that a segment covers. -/
def text : Segment → Text
  | blank c => [c]
  | comment body => '/' :: '/' :: body
  | string body => '"' :: body ++ ['"']
  | number whole [] => whole
  | number whole (d :: ds) => whole ++ '.' :: d :: ds
  | word letters => letters
  | operator o => o.text
  | stray c => [c]
  | unterminated body => '"' :: body

/-- The segment of a text that begins with a digit. -/
def cutNumber (t : Text) : Segment × Text :=
  match t.dropWhile Char.isDigit with
  | '.' :: r =>
    if r.takeWhile Char.isDigit = [] then (number (t.takeWhile Char.isDigit) [], '.' :: r)
    else (number (t.takeWhile Char.isDigit) (r.takeWhile Char.isDigit),
      r.dropWhile Char.isDigit)
  | rest => (number (t.takeWhile Char.isDigit) [], rest)

/-- The segment after an opening quote. -/
def cutString (t : Text) : Segment × Text :=
  match t.dropWhile (· != '"') with
  | [] => (unterminated t, [])
  | _ :: rest => (string (t.takeWhile (· != '"')), rest)

/-- The segment of a text that begins like an operator, or like nothing. -/
def cutOperator (c : Char) (t : Text) : Segment × Text :=
  match Operator.ofText? (c :: t.take 1) with
  | some o => (operator o, t.drop 1)
  | none =>
    match Operator.ofText? [c] with
    | some o => (operator o, t)
    | none => (stray c, t)

/-- The first segment of a text and what follows it. -/
def cut : Text → Option (Segment × Text)
  | [] => none
  | c :: t =>
    some <|
      if separates c then (blank c, t)
      else if c = '"' then cutString t
      else if c.isDigit then cutNumber (c :: t)
      else if beginsWord c then
        (word (c :: t.takeWhile continuesWord), t.dropWhile continuesWord)
      else if c = '/' && t.head? = some '/' then
        (comment ((t.drop 1).takeWhile (· != '\n')), (t.drop 1).dropWhile (· != '\n'))
      else cutOperator c t

/-! ### Nothing is lost -/

theorem cutNumber_append (t : Text) : (cutNumber t).1.text ++ (cutNumber t).2 = t := by
  unfold cutNumber
  have h := List.takeWhile_append_dropWhile (p := Char.isDigit) (l := t)
  split
  · rename_i r hr
    rw [hr] at h
    split
    · simpa [text] using h
    · rename_i hne
      have hsplit := List.takeWhile_append_dropWhile (p := Char.isDigit) (l := r)
      cases hw : r.takeWhile Char.isDigit with
      | nil => simp [hw] at hne
      | cons d ds =>
        rw [hw] at hsplit
        simp only [text, List.append_assoc, List.cons_append]
        rw [← List.cons_append, hsplit, h]
  · rw [text]; exact h

theorem cutString_append (t : Text) : (cutString t).1.text ++ (cutString t).2 = '"' :: t := by
  unfold cutString
  have h := List.takeWhile_append_dropWhile (p := (· != '"')) (l := t)
  split
  · simp [text]
  · rename_i c rest hr
    have hc : c = '"' := by
      have := List.head?_dropWhile_not (· != '"') t
      rw [hr] at this
      simpa using this
    rw [hr, hc] at h
    simp only [text, List.cons_append, List.append_assoc, List.nil_append]
    rw [h]

theorem cutOperator_append (c : Char) (t : Text) :
    (cutOperator c t).1.text ++ (cutOperator c t).2 = c :: t := by
  unfold cutOperator
  split
  · rename_i o ho
    simp only [text, Operator.ofText?_eq_some_iff.1 ho, List.cons_append,
      List.take_append_drop]
  · split
    · rename_i o ho
      simp [text, Operator.ofText?_eq_some_iff.1 ho]
    · simp [text]

theorem text_append_of_cut {t : Text} {s : Segment} {rest : Text} (h : cut t = some (s, rest)) :
    s.text ++ rest = t := by
  cases t with
  | nil => simp [cut] at h
  | cons c t =>
    simp only [cut, Option.some.injEq] at h
    split at h
    · obtain ⟨rfl, rfl⟩ := Prod.mk.inj h; rfl
    split at h
    · rename_i hc
      rw [hc, ← cutString_append t, h]
    split at h
    · rw [← cutNumber_append (c :: t), h]
    split at h
    · obtain ⟨rfl, rfl⟩ := Prod.mk.inj h
      simp [text, List.takeWhile_append_dropWhile]
    split at h
    · rename_i hc
      simp only [Bool.and_eq_true, decide_eq_true_eq] at hc
      obtain ⟨rfl, rfl⟩ := Prod.mk.inj h
      cases t with
      | nil => simp at hc
      | cons d t =>
        simp only [List.head?_cons, Option.some.injEq] at hc
        simp [text, hc, List.takeWhile_append_dropWhile]
    · rw [← cutOperator_append c t, h]

/-! ### Something is taken -/

theorem text_ne_nil_of_cut {t : Text} {s : Segment} {rest : Text} (h : cut t = some (s, rest)) :
    s.text ≠ [] := by
  cases t with
  | nil => simp [cut] at h
  | cons c t =>
    simp only [cut, Option.some.injEq] at h
    split at h
    · obtain ⟨rfl, rfl⟩ := Prod.mk.inj h; simp [text]
    split at h
    · unfold cutString at h
      split at h <;> obtain ⟨rfl, rfl⟩ := Prod.mk.inj h <;> simp [text]
    split at h
    · rename_i hd
      have hw : (c :: t).takeWhile Char.isDigit ≠ [] := by simp [hd]
      unfold cutNumber at h
      split at h
      · split at h
        · obtain ⟨rfl, rfl⟩ := Prod.mk.inj h; exact hw
        · obtain ⟨rfl, rfl⟩ := Prod.mk.inj h
          unfold text
          split <;> simp_all
      · obtain ⟨rfl, rfl⟩ := Prod.mk.inj h; exact hw
    split at h
    · obtain ⟨rfl, rfl⟩ := Prod.mk.inj h; simp [text]
    split at h
    · obtain ⟨rfl, rfl⟩ := Prod.mk.inj h; simp [text]
    · unfold cutOperator at h
      split at h
      · rename_i o _
        obtain ⟨rfl, rfl⟩ := Prod.mk.inj h
        cases o <;> simp [text, Operator.text]
      · split at h
        · rename_i o _
          obtain ⟨rfl, rfl⟩ := Prod.mk.inj h
          cases o <;> simp [text, Operator.text]
        · obtain ⟨rfl, rfl⟩ := Prod.mk.inj h; simp [text]

theorem length_lt_of_cut {t : Text} {s : Segment} {rest : Text} (h : cut t = some (s, rest)) :
    rest.length < t.length := by
  have h₁ := congrArg List.length (text_append_of_cut h)
  have h₂ := List.length_pos_iff.2 (text_ne_nil_of_cut h)
  simp only [List.length_append] at h₁
  omega

/-- The segments of a text. -/
def ofText (t : Text) : List Segment :=
  match h : cut t with
  | none => []
  | some (s, rest) =>
    have := length_lt_of_cut h
    s :: ofText rest
termination_by t.length

/-- The segments of a text make up the text. -/
theorem flatMap_text_ofText (t : Text) : (ofText t).flatMap text = t := by
  fun_induction ofText t with
  | case1 t h =>
    cases t with
    | nil => rfl
    | cons c t => simp [cut] at h
  | case2 t s rest h _ ih => rw [List.flatMap_cons, ih, text_append_of_cut h]

end Segment
end LoxTokens
