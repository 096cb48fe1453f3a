import LoxTokens.Json.Basic
import LoxTokens.Proofs.JsonNumbers

/-! # Reading JSON back

What `compact` writes is read as the `meaning` of the value, whatever stands after it but a character
that a number may hold (`value?_compact`), and has no control characters (`shown_compact`).  The
induction goes along the value, with one theorem for values, one for items and one for fields; room
for the length of the text is enough. -/

namespace LoxTokens.Json

variable {c : Char} {s t rest : Text}

/-! ### Characters -/

/-- The text has no character below the blank. -/
def Shown (t : Text) : Prop := ∀ c ∈ t, 32 ≤ c.toNat

theorem shown_singleton (hc : 32 ≤ c.toNat) : Shown [c] := List.forall_mem_singleton.2 hc

theorem shown_cons : Shown (c :: t) ↔ 32 ≤ c.toNat ∧ Shown t := List.forall_mem_cons

theorem shown_append : Shown (s ++ t) ↔ Shown s ∧ Shown t := List.forall_mem_append

theorem shown_hexDigit : ∀ n, n < 16 → 32 ≤ (hexDigit n).toNat := by decide

theorem foldlM_hexDigit : ∀ n, n < 32 →
    ['0', '0', hexDigit (n / 16), hexDigit (n % 16)].foldlM
      (fun n c => (Toml.hexValue? c).map (16 * n + ·)) 0 = some n := by
  decide +kernel

theorem character?_of_lt : ∀ n, n < 32 → character? n = some (Char.ofNat n) := by
  decide +kernel

/-- A code unit of a control character is read as the character. -/
theorem unicodeEscape?_hexDigit (hc : c.toNat < 32) (rest : Text) :
    unicodeEscape? ('0' :: '0' :: hexDigit (c.toNat / 16) :: hexDigit (c.toNat % 16) :: rest) =
      some (c, rest) := by
  have hunit : codeUnit?
      ('0' :: '0' :: hexDigit (c.toNat / 16) :: hexDigit (c.toNat % 16) :: rest) =
        some (c.toNat, rest) := by
    rw [codeUnit?, foldlM_hexDigit c.toNat hc]
    rfl
  have hhigh : (0xD800 ≤ c.toNat && c.toNat < 0xDC00) = false := by
    rw [Bool.and_eq_false_imp, decide_eq_true_eq]
    omega
  rw [unicodeEscape?, hunit]
  simp only [Option.bind_eq_bind, Option.bind_some, hhigh, Bool.false_eq_true, if_false,
    character?_of_lt c.toNat hc, Char.ofNat_toNat, Option.map_some]

/-- How a character is written: as it is if it may stand in a string, and as an escape that is read
as the character otherwise. -/
theorem escaped_cases (c : Char) :
    (escaped c = [c] ∧ 32 ≤ c.toNat ∧ c ≠ '"' ∧ c ≠ '\\') ∨
      ∃ t, escaped c = '\\' :: t ∧ Shown t ∧ ∀ rest, escape? (t ++ rest) = some (c, rest) := by
  have hchar : ∀ n, c.toNat = n → c = Char.ofNat n := fun n h => by rw [← h, Char.ofNat_toNat]
  by_cases hquote : c = '"'
  · subst hquote
    exact .inr ⟨['"'], rfl, shown_singleton (by decide), fun rest => rfl⟩
  by_cases hslash : c = '\\'
  · subst hslash
    exact .inr ⟨['\\'], rfl, shown_singleton (by decide), fun rest => rfl⟩
  by_cases hbackspace : c.toNat = 8
  · obtain rfl := hchar _ hbackspace
    exact .inr ⟨['b'], rfl, shown_singleton (by decide), fun rest => rfl⟩
  by_cases htab : c = '\t'
  · subst htab
    exact .inr ⟨['t'], rfl, shown_singleton (by decide), fun rest => rfl⟩
  by_cases hnewline : c = '\n'
  · subst hnewline
    exact .inr ⟨['n'], rfl, shown_singleton (by decide), fun rest => rfl⟩
  by_cases hfeed : c.toNat = 12
  · obtain rfl := hchar _ hfeed
    exact .inr ⟨['f'], rfl, shown_singleton (by decide), fun rest => rfl⟩
  by_cases hreturn : c = '\r'
  · subst hreturn
    exact .inr ⟨['r'], rfl, shown_singleton (by decide), fun rest => rfl⟩
  rw [escaped, if_neg hquote, if_neg hslash, if_neg hbackspace, if_neg htab, if_neg hnewline,
    if_neg hfeed, if_neg hreturn]
  split
  next hlow =>
    refine .inr ⟨_, rfl, ?_, fun rest => unicodeEscape?_hexDigit hlow rest⟩
    have hfirst := shown_hexDigit (c.toNat / 16) (by omega)
    have hsecond := shown_hexDigit (c.toNat % 16) (by omega)
    simp [Shown, hfirst, hsecond]
  next hlow => exact .inl ⟨rfl, Nat.not_lt.1 hlow, hquote, hslash⟩

theorem shown_escaped (c : Char) : Shown (escaped c) := by
  rcases escaped_cases c with ⟨h, hc, -⟩ | ⟨t, h, ht, -⟩
  · rw [h]
    exact shown_singleton hc
  · rw [h]
    exact shown_cons.2 ⟨by decide, ht⟩

/-! ### Strings -/

theorem stringBody?_of_shown (hc : 32 ≤ c.toNat) (hquote : c ≠ '"') (hslash : c ≠ '\\')
    (t : Text) : stringBody? (c :: t) = (stringBody? t).map fun (s, rest) => (c :: s, rest) := by
  rw [stringBody?]
  · rw [if_neg (Nat.not_lt.2 hc)]
  · exact hquote
  · exact hslash

theorem stringBody?_of_escape? (h : escape? t = some (c, rest)) :
    stringBody? ('\\' :: t) = (stringBody? rest).map fun (s, rest) => (c :: s, rest) := by
  rw [stringBody?]
  split
  next hnone =>
    rw [h] at hnone
    cases hnone
  next c' rest' hsome =>
    rw [h] at hsome
    obtain ⟨rfl, rfl⟩ := Prod.mk.inj (Option.some.inj hsome)
    rfl

/-- A quoted string is read back. -/
theorem stringBody?_escaped (s rest : Text) :
    stringBody? (s.flatMap escaped ++ '"' :: rest) = some (s, rest) := by
  induction s with
  | nil => rw [List.flatMap_nil, List.nil_append, stringBody?]
  | cons c s ih =>
    rw [List.flatMap_cons, List.append_assoc]
    rcases escaped_cases c with ⟨h, hc, hquote, hslash⟩ | ⟨t, h, -, hescape⟩
    · rw [h, List.singleton_append, stringBody?_of_shown hc hquote hslash, ih]
      rfl
    · rw [h, List.cons_append, stringBody?_of_escape? (hescape _), ih]
      rfl

theorem quoted_append (s rest : Text) :
    quoted s ++ rest = '"' :: (s.flatMap escaped ++ '"' :: rest) := by
  rw [quoted, List.append_assoc]
  rfl

theorem shown_quoted (s : Text) : Shown (quoted s) := by
  rw [quoted, shown_append, shown_cons]
  refine ⟨⟨by decide, fun c hc => ?_⟩, shown_singleton (by decide)⟩
  obtain ⟨a, -, ha⟩ := List.mem_flatMap.1 hc
  exact shown_escaped a c ha

/-! ### What a value means -/

mutual

/-- What the text of a value says.  A number that is not finite has no text of its own. -/
def meaning : Json → JsonValue
  | null => .null
  | string s => .string s
  | natural n => .number false n
  | number x =>
    if x.isFinite then .number x.negative (Magnitude.shortest .even x.magnitude).value else .null
  | array items => .array (meanings items)
  | object fields => .object (fieldMeanings fields)

def meanings : List Json → List JsonValue
  | [] => []
  | v :: vs => v.meaning :: meanings vs

def fieldMeanings : List (Text × Json) → List (Text × JsonValue)
  | [] => []
  | (k, v) :: fs => (k, v.meaning) :: fieldMeanings fs

end

theorem text_of_not_isFinite {x : Binary64} (h : x.isFinite = false) :
    x.text .json = "null".toList := by
  have hm : infinityMagnitude ≤ x.magnitude := Nat.not_lt.1 (of_decide_eq_false h)
  rw [Binary64.text]
  split
  · rfl
  next hnan =>
    have hle : x.magnitude ≤ infinityMagnitude := by simpa [Binary64.isNaN] using hnan
    have hinfinite : x.isInfinite = true := beq_iff_eq.2 (hle.antisymm hm)
    rw [if_pos hinfinite]
    rfl

/-! ### Items and fields that others follow -/

theorem compactItems_cons_cons (v w : Json) (vs : List Json) :
    compactItems (v :: w :: vs) = compact v ++ ',' :: compactItems (w :: vs) := by
  rw [compactItems]
  simp

theorem compactFields_cons_cons (k : Text) (v : Json) (g : Text × Json) (fs : List (Text × Json)) :
    compactFields ((k, v) :: g :: fs) =
      quoted k ++ ':' :: (compact v ++ ',' :: compactFields (g :: fs)) := by
  rw [compactFields]
  · simp
  · simp

/-! ### The first character of a value -/

theorem opens_of_begins (hc : c.isDigit = true ∨ c = '-') : Opens c := by
  rcases hc with hc | rfl
  · refine ⟨?_, ?_⟩
    · by_contra hspace
      simp only [isSpace, Bool.not_eq_false, Bool.or_eq_true, beq_iff_eq] at hspace
      rcases hspace with ((rfl | rfl) | rfl) | rfl <;> cases hc
    · rintro rfl
      cases hc
  · exact ⟨rfl, by decide⟩

theorem exists_cons_text (x : Binary64) : ∃ c t, x.text .json = c :: t ∧ Opens c := by
  cases hx : x.isFinite with
  | true =>
    have hread : number? (x.text .json ++ []) = _ := number?_text (.inl rfl) hx stopsAt_nil
    obtain ⟨c, t, htext, hc⟩ := exists_cons_of_number? hread
    exact ⟨c, t, by simpa using htext, opens_of_begins hc⟩
  | false => exact ⟨'n', _, text_of_not_isFinite hx, rfl, by decide⟩

theorem exists_cons_compact (v : Json) : ∃ c t, compact v = c :: t ∧ Opens c := by
  cases v with
  | null => exact ⟨'n', _, by rw [compact]; rfl, rfl, by decide⟩
  | string s => exact ⟨'"', _, by rw [compact, quoted]; rfl, rfl, by decide⟩
  | natural n =>
    cases htext : Text.ofNat n with
    | nil => exact absurd htext (ofNat_ne_nil n)
    | cons c t =>
      exact ⟨c, t, by rw [compact, htext],
        opens_of_begins (.inl (isDigit_of_mem_cons_ofNat htext))⟩
  | number x =>
    obtain ⟨c, t, htext, hc⟩ := exists_cons_text x
    exact ⟨c, t, by rw [compact, htext], hc⟩
  | array items => exact ⟨'[', _, by rw [compact]; rfl, rfl, by decide⟩
  | object fields => exact ⟨'{', _, by rw [compact]; rfl, rfl, by decide⟩

theorem exists_cons_compactItems (v : Json) (vs : List Json) :
    ∃ c t, compactItems (v :: vs) = c :: t ∧ Opens c := by
  obtain ⟨c, t, htext, hc⟩ := exists_cons_compact v
  cases vs with
  | nil => exact ⟨c, t, by rw [compactItems, htext], hc⟩
  | cons w vs => exact ⟨c, _, by rw [compactItems_cons_cons, htext]; rfl, hc⟩

theorem exists_cons_compactFields (f : Text × Json) (fs : List (Text × Json)) :
    ∃ t, compactFields (f :: fs) = '"' :: t := by
  cases fs with
  | nil => exact ⟨_, by rw [compactFields, quoted]; rfl⟩
  | cons g fs => exact ⟨_, by rw [compactFields_cons_cons, quoted]; rfl⟩

/-! ### Values -/

theorem value?_of_number? {v : JsonValue} (h : number? t = some (v, rest)) (room : Nat) :
    value? (room + 1) t = some (v, rest) := by
  obtain ⟨c, u, rfl, hc⟩ := exists_cons_of_number? h
  rw [value?, skipSpace_of_opens (opens_of_begins hc)]
  split
  case h_7 => exact h
  -- nothing else begins with a digit or a minus sign
  all_goals
    rename_i heq
    obtain ⟨rfl, -⟩ := List.cons.inj heq
    rcases hc with hc | hc <;> cases hc

theorem value?_null (rest : Text) (room : Nat) :
    value? (room + 1) ("null".toList ++ rest) = some (.null, rest) := rfl

theorem value?_quoted (s rest : Text) (room : Nat) :
    value? (room + 1) (quoted s ++ rest) = some (.string s, rest) := by
  rw [quoted_append]
  exact value?_string (stringBody?_escaped s rest)

mutual

/-- A compact value is read back, with more room than its text is long.  Items and fields are read
with the mark that ends them, and take one step more. -/
theorem value?_compact (v : Json) {room : Nat} {rest : Text} (h : StopsAt isNumberChar rest)
    (hroom : (compact v).length < room) :
    value? room (compact v ++ rest) = some (v.meaning, rest) := by
  obtain ⟨room, rfl⟩ : ∃ n, room = n + 1 := ⟨room - 1, by omega⟩
  cases v with
  | null =>
    rw [compact, meaning]
    exact value?_null rest room
  | string s =>
    rw [compact, meaning]
    exact value?_quoted s rest room
  | natural n =>
    rw [compact, meaning]
    exact value?_of_number? (number?_ofNat n h) room
  | number x =>
    rw [compact, meaning]
    split
    next hx => exact value?_of_number? (number?_text (.inl rfl) hx h) room
    next hx =>
      rw [text_of_not_isFinite (Bool.eq_false_iff.2 hx)]
      exact value?_null rest room
  | array items =>
    rw [compact] at hroom
    rw [compact, meaning, List.append_assoc, List.cons_append]
    cases items with
    | nil => rfl
    | cons v vs =>
      simp only [List.cons_append, List.length_cons, List.length_append, List.length_nil] at hroom
      have hread : items? room (compactItems (v :: vs) ++ ([']'] ++ rest)) = _ :=
        items?_compactItems (v :: vs) rest (by simp) (by omega)
      obtain ⟨c, t, htext, hc⟩ := exists_cons_compactItems v vs
      rw [htext, List.cons_append] at hread ⊢
      exact value?_array hc (skipSpace_of_opens hc _) hread
  | object fields =>
    rw [compact] at hroom
    rw [compact, meaning, List.append_assoc, List.cons_append]
    cases fields with
    | nil => rfl
    | cons f fs =>
      simp only [List.cons_append, List.length_cons, List.length_append, List.length_nil] at hroom
      have hread : fields? room (compactFields (f :: fs) ++ (['}'] ++ rest)) = _ :=
        fields?_compactFields (f :: fs) rest (by simp) (by omega)
      obtain ⟨t, htext⟩ := exists_cons_compactFields f fs
      rw [htext, List.cons_append] at hread ⊢
      exact value?_object rfl hread

theorem items?_compactItems (vs : List Json) {room : Nat} (rest : Text) (hne : vs ≠ [])
    (hroom : (compactItems vs).length + 1 < room) :
    items? room (compactItems vs ++ ']' :: rest) = some (meanings vs, rest) := by
  obtain ⟨room, rfl⟩ : ∃ n, room = n + 1 := ⟨room - 1, by omega⟩
  cases vs with
  | nil => exact absurd rfl hne
  | cons v vs =>
    cases vs with
    | nil =>
      rw [compactItems] at hroom
      rw [compactItems]
      exact items?_singleton (value?_compact v (stopsAt_cons.2 rfl) (by omega)) rfl
    | cons w vs =>
      rw [compactItems_cons_cons, List.length_append, List.length_cons] at hroom
      rw [compactItems_cons_cons, List.append_assoc, List.cons_append]
      exact items?_cons (value?_compact v (stopsAt_cons.2 rfl) (by omega)) rfl
        (items?_compactItems (w :: vs) rest (by simp) (by omega))

theorem fields?_compactFields (fs : List (Text × Json)) {room : Nat} (rest : Text) (hne : fs ≠ [])
    (hroom : (compactFields fs).length + 1 < room) :
    fields? room (compactFields fs ++ '}' :: rest) = some (fieldMeanings fs, rest) := by
  obtain ⟨room, rfl⟩ : ∃ n, room = n + 1 := ⟨room - 1, by omega⟩
  cases fs with
  | nil => exact absurd rfl hne
  | cons f fs =>
    obtain ⟨k, v⟩ := f
    cases fs with
    | nil =>
      rw [compactFields, List.length_append, List.length_cons] at hroom
      rw [compactFields, List.append_assoc, List.cons_append, quoted_append]
      exact fields?_singleton (stringBody?_escaped k _)
        (value?_compact v (stopsAt_cons.2 rfl) (by omega)) rfl
    | cons g fs =>
      rw [compactFields_cons_cons] at hroom
      simp only [List.length_append, List.length_cons] at hroom
      rw [compactFields_cons_cons, List.append_assoc, List.cons_append, List.append_assoc,
        List.cons_append, quoted_append]
      exact fields?_cons (stringBody?_escaped k _)
        (value?_compact v (stopsAt_cons.2 rfl) (by omega)) rfl
        (fields?_compactFields (g :: fs) rest (by simp) (by omega))

end

/-- The text of a value is JSON and says what the value means. -/
theorem read?_compact (v : Json) : read? (compact v) = some v.meaning := by
  have hread := value?_compact v stopsAt_nil (Nat.lt_succ_self _)
  rw [List.append_nil] at hread
  rw [read?, hread]
  rfl

/-! ### No control characters -/

theorem shown_of_isNumberChar (hc : isNumberChar c = true) : 32 ≤ c.toNat := by
  simp only [isNumberChar, Bool.or_eq_true, beq_iff_eq] at hc
  rcases hc with ((((hc | rfl) | rfl) | rfl) | rfl) | rfl
  · simp only [Char.isDigit, Bool.and_eq_true, decide_eq_true_eq, ge_iff_le,
      UInt32.le_iff_toNat_le] at hc
    exact le_trans (by decide) hc.1
  all_goals decide

theorem shown_null : Shown "null".toList := by simp [Shown]

theorem shown_text (x : Binary64) : Shown (x.text .json) := by
  cases hx : x.isFinite with
  | true => exact fun c hc => shown_of_isNumberChar (isNumberChar_of_mem_text (.inl rfl) hx c hc)
  | false =>
    rw [text_of_not_isFinite hx]
    exact shown_null

mutual

theorem shown_compact (v : Json) : Shown (compact v) := by
  cases v with
  | null =>
    rw [compact]
    exact shown_null
  | string s =>
    rw [compact]
    exact shown_quoted s
  | natural n =>
    rw [compact]
    exact fun c hc => shown_of_isNumberChar (isNumberChar_of_mem_ofNat n c hc)
  | number x =>
    rw [compact]
    exact shown_text x
  | array items =>
    rw [compact, shown_append, shown_cons]
    exact ⟨⟨by decide, shown_compactItems items⟩, shown_singleton (by decide)⟩
  | object fields =>
    rw [compact, shown_append, shown_cons]
    exact ⟨⟨by decide, shown_compactFields fields⟩, shown_singleton (by decide)⟩

theorem shown_compactItems (vs : List Json) : Shown (compactItems vs) := by
  cases vs with
  | nil => simp [compactItems, Shown]
  | cons v vs =>
    cases vs with
    | nil =>
      rw [compactItems]
      exact shown_compact v
    | cons w vs =>
      rw [compactItems_cons_cons, shown_append, shown_cons]
      exact ⟨shown_compact v, by decide, shown_compactItems (w :: vs)⟩

theorem shown_compactFields (fs : List (Text × Json)) : Shown (compactFields fs) := by
  cases fs with
  | nil => simp [compactFields, Shown]
  | cons f fs =>
    obtain ⟨k, v⟩ := f
    cases fs with
    | nil =>
      rw [compactFields, shown_append, shown_cons]
      exact ⟨shown_quoted k, by decide, shown_compact v⟩
    | cons g fs =>
      rw [compactFields_cons_cons, shown_append, shown_cons, shown_append, shown_cons]
      exact ⟨shown_quoted k, by decide, shown_compact v, by decide, shown_compactFields (g :: fs)⟩

end

end LoxTokens.Json
