import LoxTokens.Proofs.JsonRoundTrip

/-! # Reading indented JSON

What `pretty` writes differs from the compact text in blanks before items, names, values and closing
marks.  A reader skips these (`value?_blanks`, `items?_blanks`, `fields?_blanks`), so the indented text
of a value is read as what the value means (`read?_pretty`), as its compact text is. -/

namespace LoxTokens.Json

variable {s t : Text}

/-! ### Blanks -/

/-- Blanks only. -/
def Blanks (t : Text) : Prop := ∀ c ∈ t, isSpace c = true

theorem blanks_indent (depth : Nat) : Blanks (indent depth) := by
  intro c hc
  unfold indent at hc
  obtain rfl | hc := List.mem_cons.1 hc
  · rfl
  · rw [List.eq_of_mem_replicate hc]
    rfl

theorem skipSpace_append (hs : Blanks s) (t : Text) : skipSpace (s ++ t) = skipSpace t :=
  List.dropWhile_append_of_pos hs

theorem value?_blanks (hs : Blanks s) (room : Nat) (t : Text) :
    value? room (s ++ t) = value? room t := by
  cases room with
  | zero => simp only [value?]
  | succ room => rw [value?, value?, skipSpace_append hs]

theorem items?_blanks (hs : Blanks s) (room : Nat) (t : Text) :
    items? room (s ++ t) = items? room t := by
  cases room with
  | zero => simp only [items?]
  | succ room => rw [items?, items?, value?_blanks hs]

theorem fields?_blanks (hs : Blanks s) (room : Nat) (t : Text) :
    fields? room (s ++ t) = fields? room t := by
  cases room with
  | zero => simp only [fields?]
  | succ room => rw [fields?, fields?, skipSpace_append hs]

/-- No number goes on into the start of a line. -/
theorem stopsAt_indent (depth : Nat) (t : Text) : StopsAt isNumberChar (indent depth ++ t) :=
  stopsAt_cons.2 rfl

/-! ### Items and fields that others follow -/

theorem prettyItems_cons_cons (depth : Nat) (v w : Json) (vs : List Json) :
    prettyItems depth (v :: w :: vs) =
      indent depth ++ (pretty depth v ++ ',' :: prettyItems depth (w :: vs)) := by
  rw [prettyItems]
  · simp
  · simp

theorem prettyFields_cons_cons (depth : Nat) (k : Text) (v : Json) (g : Text × Json)
    (fs : List (Text × Json)) :
    prettyFields depth ((k, v) :: g :: fs) = indent depth ++ (quoted k ++ ':' ::
      ([' '] ++ (pretty depth v ++ ',' :: prettyFields depth (g :: fs)))) := by
  rw [prettyFields]
  · simp
  · simp

/-! ### The first character of a value -/

theorem exists_cons_pretty (depth : Nat) (v : Json) : ∃ c t, pretty depth v = c :: t ∧ Opens c := by
  cases v with
  | array items =>
      cases items with
      | nil => exact exists_cons_compact (.array [])
      | cons w ws => exact ⟨'[', _, by rw [pretty]; rfl, rfl, by decide⟩
  | object fields =>
      cases fields with
      | nil => exact exists_cons_compact (.object [])
      | cons f fs => exact ⟨'{', _, by rw [pretty]; rfl, rfl, by decide⟩
  | null => exact exists_cons_compact .null
  | string s => exact exists_cons_compact (.string s)
  | natural n => exact exists_cons_compact (.natural n)
  | number x => exact exists_cons_compact (.number x)

theorem exists_cons_prettyItems (depth : Nat) (v : Json) (vs : List Json) :
    ∃ c t, prettyItems depth (v :: vs) = indent depth ++ c :: t ∧ Opens c := by
  obtain ⟨c, t, htext, hc⟩ := exists_cons_pretty depth v
  cases vs with
  | nil => exact ⟨c, t, by rw [prettyItems, htext], hc⟩
  | cons w vs => exact ⟨c, _, by rw [prettyItems_cons_cons, htext]; rfl, hc⟩

theorem exists_cons_prettyFields (depth : Nat) (f : Text × Json) (fs : List (Text × Json)) :
    ∃ t, prettyFields depth (f :: fs) = indent depth ++ '"' :: t := by
  cases fs with
  | nil =>
      rw [prettyFields, List.append_assoc, List.append_assoc, quoted_append]
      exact ⟨_, rfl⟩
  | cons g fs => exact ⟨_, by rw [prettyFields_cons_cons, quoted]; rfl⟩

/-! ### Values -/

mutual

/-- An indented value is read back, with more room than its text is long. -/
theorem value?_pretty (v : Json) (depth room : Nat) {rest : Text} (h : StopsAt isNumberChar rest)
    (hroom : (pretty depth v).length < room) :
    value? room (pretty depth v ++ rest) = some (v.meaning, rest) := by
  cases v with
  | array items =>
      cases items with
      | nil => exact value?_compact (.array []) h hroom
      | cons w ws =>
          obtain ⟨room, rfl⟩ : ∃ n, room = n + 1 := ⟨room - 1, by omega⟩
          obtain ⟨c, t, htext, hc⟩ := exists_cons_prettyItems (depth + 1) w ws
          rw [pretty] at hroom ⊢
          simp only [List.cons_append, List.length_cons, List.length_append] at hroom
          have hread := items?_prettyItems (w :: ws) (depth + 1) depth room rest (by simp) (by omega)
          rw [htext, List.append_assoc, items?_blanks (blanks_indent _)] at hread
          rw [htext, meaning]
          simp only [List.cons_append, List.append_assoc, List.nil_append] at hread ⊢
          exact value?_array hc
            ((skipSpace_append (blanks_indent _) _).trans (skipSpace_of_opens hc _)) hread
  | object fields =>
      cases fields with
      | nil => exact value?_compact (.object []) h hroom
      | cons f fs =>
          obtain ⟨room, rfl⟩ : ∃ n, room = n + 1 := ⟨room - 1, by omega⟩
          obtain ⟨t, htext⟩ := exists_cons_prettyFields (depth + 1) f fs
          rw [pretty] at hroom ⊢
          simp only [List.cons_append, List.length_cons, List.length_append] at hroom
          have hread := fields?_prettyFields (f :: fs) (depth + 1) depth room rest (by simp) (by omega)
          rw [htext, List.append_assoc, fields?_blanks (blanks_indent _)] at hread
          rw [htext, meaning]
          simp only [List.cons_append, List.append_assoc, List.nil_append] at hread ⊢
          exact value?_object (skipSpace_append (blanks_indent _) _) hread
  | null => exact value?_compact .null h hroom
  | string s => exact value?_compact (.string s) h hroom
  | natural n => exact value?_compact (.natural n) h hroom
  | number x => exact value?_compact (.number x) h hroom

theorem items?_prettyItems (vs : List Json) (depth outer room : Nat) (rest : Text)
    (hne : vs ≠ []) (hroom : (prettyItems depth vs).length + 1 < room) :
    items? room (prettyItems depth vs ++ (indent outer ++ ']' :: rest)) =
      some (meanings vs, rest) := by
  obtain ⟨room, rfl⟩ : ∃ n, room = n + 1 := ⟨room - 1, by omega⟩
  cases vs with
  | nil => exact absurd rfl hne
  | cons v vs =>
      cases vs with
      | nil =>
          rw [prettyItems, List.length_append] at hroom
          rw [prettyItems, List.append_assoc, items?_blanks (blanks_indent _)]
          exact items?_singleton (value?_pretty v depth room (stopsAt_indent _ _) (by omega))
            (skipSpace_append (blanks_indent _) _)
      | cons w vs =>
          rw [prettyItems_cons_cons, List.length_append, List.length_append,
            List.length_cons] at hroom
          rw [prettyItems_cons_cons, List.append_assoc, items?_blanks (blanks_indent _),
            List.append_assoc, List.cons_append]
          exact items?_cons (value?_pretty v depth room (stopsAt_cons.2 rfl) (by omega)) rfl
            (items?_prettyItems (w :: vs) depth outer room rest (by simp) (by omega))

theorem fields?_prettyFields (fs : List (Text × Json)) (depth outer room : Nat) (rest : Text)
    (hne : fs ≠ []) (hroom : (prettyFields depth fs).length + 1 < room) :
    fields? room (prettyFields depth fs ++ (indent outer ++ '}' :: rest)) =
      some (fieldMeanings fs, rest) := by
  obtain ⟨room, rfl⟩ : ∃ n, room = n + 1 := ⟨room - 1, by omega⟩
  cases fs with
  | nil => exact absurd rfl hne
  | cons f fs =>
      obtain ⟨k, v⟩ := f
      have hblank : Blanks [' '] := by simp [Blanks, isSpace]
      cases fs with
      | nil =>
          have hpoint : ": ".toList = ':' :: [' '] := rfl
          rw [prettyFields, hpoint] at hroom ⊢
          simp only [List.length_append, List.length_cons] at hroom
          simp only [List.append_assoc, List.cons_append, List.nil_append]
          rw [fields?_blanks (blanks_indent _), quoted_append]
          have hvalue := value?_pretty v depth room (stopsAt_indent outer ('}' :: rest)) (by omega)
          rw [← value?_blanks hblank] at hvalue
          exact fields?_singleton (stringBody?_escaped k _) hvalue
            (skipSpace_append (blanks_indent _) _)
      | cons g fs =>
          rw [prettyFields_cons_cons] at hroom ⊢
          simp only [List.length_append, List.length_cons] at hroom
          rw [List.append_assoc, fields?_blanks (blanks_indent _), List.append_assoc,
            List.cons_append, List.append_assoc, List.append_assoc, List.cons_append, quoted_append]
          have hstop : StopsAt isNumberChar
              (',' :: (prettyFields depth (g :: fs) ++ (indent outer ++ '}' :: rest))) :=
            stopsAt_cons.2 rfl
          have hvalue := value?_pretty v depth room hstop (by omega)
          rw [← value?_blanks hblank] at hvalue
          exact fields?_cons (stringBody?_escaped k _) hvalue rfl
            (fields?_prettyFields (g :: fs) depth outer room rest (by simp) (by omega))

end

/-- The indented text of a value is JSON and says what the value means. -/
theorem read?_pretty (depth : Nat) (v : Json) : read? (pretty depth v) = some v.meaning := by
  have hread := value?_pretty v depth _ stopsAt_nil (Nat.lt_succ_self (pretty depth v).length)
  rw [List.append_nil] at hread
  rw [read?, hread]
  rfl

end LoxTokens.Json
