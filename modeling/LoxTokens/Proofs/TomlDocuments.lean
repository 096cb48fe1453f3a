import LoxTokens.Config.Write
import LoxTokens.Proofs.Runs
import LoxTokens.Proofs.TomlNumbers
import LoxTokens.Proofs.TomlStrings
import LoxTokens.Toml.Document
import Mathlib.Data.List.Nodup

/-! # Reading back headings and settings

A document of blank lines, headings and settings is read as the statements on its lines
(`Lines.statements?`).  Where every heading has its own name, and every setting its own key under
its heading, the statements make one table for each heading, with one value for each setting
(`parse?_of_lines`). -/

namespace LoxTokens.Toml

open Config (heading setting)

variable {n : Nat} {c : Char} {s t name key value rest : Text} {v : Value}
variable {statements : List Statement}

/-! ### Keys -/

/-- A key that needs no quotes. -/
def IsKey (name : Text) : Prop := name ≠ [] ∧ ∀ c ∈ name, isBare c = true

instance (name : Text) : Decidable (IsKey name) :=
  decidable_of_iff (name ≠ [] ∧ name.all isBare = true) (by simp [IsKey])

theorem skipSpace_of_stopsAt (h : StopsAt isSpace t) : skipSpace t = t :=
  dropWhile_append_of_stopsAt (w := []) (by simp) h

theorem not_isBare_of_isSpace (h : isSpace c = true) : isBare c = false := by
  simp only [isSpace, Bool.or_eq_true, beq_iff_eq] at h
  obtain rfl | rfl := h
  · rfl
  · rfl

theorem IsKey.exists_cons (h : IsKey name) : ∃ c t, name = c :: t ∧ isBare c = true := by
  obtain ⟨c, t, rfl⟩ := List.exists_cons_of_ne_nil h.1
  exact ⟨c, t, rfl, h.2 c List.mem_cons_self⟩

theorem IsKey.head?_ne (h : IsKey name) (hc : isBare c = false) : (name ++ t).head? ≠ some c := by
  obtain ⟨d, name, rfl, hd⟩ := h.exists_cons
  intro heq
  rw [Option.some.inj heq, hc] at hd
  cases hd

theorem IsKey.stopsAt_isSpace (h : IsKey name) : StopsAt isSpace (name ++ t) := by
  obtain ⟨c, name, rfl, hc⟩ := h.exists_cons
  apply stopsAt_cons.2
  cases hspace : isSpace c with
  | false => rfl
  | true => rw [not_isBare_of_isSpace hspace] at hc; cases hc

theorem keyPart?_append (h : IsKey name) (hc : isBare c = false) :
    keyPart? (name ++ c :: t) = some (name, c :: t) := by
  have hstops : StopsAt isBare (c :: t) := stopsAt_cons.2 hc
  have hquotation : (name ++ c :: t).head? ≠ some '"' := h.head?_ne (by decide)
  have hapostrophe : (name ++ c :: t).head? ≠ some '\'' := h.head?_ne (by decide)
  unfold keyPart?
  split
  · rename_i heq
    exact (hquotation (by rw [heq]; rfl)).elim
  · rename_i heq
    exact (hapostrophe (by rw [heq]; rfl)).elim
  · rw [takeWhile_append_of_stopsAt h.2 hstops, dropWhile_append_of_stopsAt h.2 hstops, if_neg h.1]

/-- A key of one part ends where a character comes that is no point. -/
theorem key?_append (h : IsKey name) (hc : isBare c = false)
    (hpoint : (skipSpace (c :: t)).head? ≠ some '.') :
    key? (name ++ c :: t) = some (⟨[], name⟩, skipSpace (c :: t)) := by
  have hparts : keyParts? maxNesting (name ++ c :: t) = some ([name], skipSpace (c :: t)) := by
    rw [show maxNesting = 78 + 1 from rfl, keyParts?, skipSpace_of_stopsAt h.stopsAt_isSpace,
      keyPart?_append h hc]
    simp only [Option.bind_eq_bind, Option.bind_some]
    split
    · rename_i heq
      exact (hpoint (by rw [heq]; rfl)).elim
    · rfl
  rw [key?, hparts]
  rfl

/-! ### Values -/

/-- `value` is read as `v` where it ends a line; blanks before it do not count. -/
def ReadsAs (value : Text) (v : Value) : Prop :=
  ∀ rest, value? maxNesting (skipSpace (value ++ '\n' :: rest)) = some (v, '\n' :: rest)

theorem value?_eq_scalarValue? (harray : t.head? ≠ some '[') (htable : t.head? ≠ some '{') :
    value? n t = scalarValue? t := by
  unfold value?
  split
  · exact (harray rfl).elim
  · exact (htable rfl).elim
  · rfl

theorem head?_of_string? (h : string? t = some (s, rest)) :
    t.head? = some '"' ∨ t.head? = some '\'' := by
  by_contra hhead
  rw [not_or] at hhead
  rw [string?_eq_none hhead.1 hhead.2] at h
  cases h

theorem readsAs_quote (s : Text) : ReadsAs (quote s) (.string s) := by
  intro rest
  have hstring : string? (quote s ++ '\n' :: rest) = some (s, '\n' :: rest) :=
    string?_quote s (by simp) (by simp)
  obtain hhead | hhead := head?_of_string? hstring
  all_goals
    have hstops : StopsAt isSpace (quote s ++ '\n' :: rest) := by
      intro c hc
      rw [hhead] at hc
      cases hc
      rfl
    rw [skipSpace_of_stopsAt hstops, value?_eq_scalarValue? (by simp [hhead]) (by simp [hhead]),
      scalarValue?, hstring]

theorem DigitLine.stopsAt_isSpace (h : DigitLine t) : StopsAt isSpace t := by
  obtain ⟨rest, rfl⟩ | ⟨c, rest, rfl, hc, -⟩ := h.cases
  · exact stopsAt_cons.2 rfl
  · apply stopsAt_cons.2
    simp only [isSpace, Bool.or_eq_false_iff, beq_eq_false_iff_ne]
    constructor
    · rintro rfl
      cases hc
    · rintro rfl
      cases hc

theorem readsAs_ofNat (h : n < twoTo 63) : ReadsAs (Text.ofNat n) (.integer n) := by
  intro rest
  have hline := digitLine_ofNat n rest
  have harray := hline.head?_ne (c := '[') (by decide) (by decide)
  have htable := hline.head?_ne (c := '{') (by decide) (by decide)
  rw [skipSpace_of_stopsAt hline.stopsAt_isSpace, value?_eq_scalarValue? harray htable]
  exact scalarValue?_ofNat h rest

/-! ### Lines -/

theorem lineEnd?_newline (t : Text) : lineEnd? ('\n' :: t) = some t := rfl

theorem heading_append (name t : Text) :
    heading name ++ t = '[' :: (name ++ ']' :: '\n' :: t) := by
  simp [heading, Text.line]

theorem setting_append (key value t : Text) :
    setting key value ++ t = key ++ ' ' :: '=' :: ' ' :: (value ++ '\n' :: t) := by
  simp [setting, Text.line]

theorem statement?_heading (h : IsKey name) (t : Text) :
    statement? (heading name ++ t) = some (.header false ⟨[], name⟩, '\n' :: t) := by
  have hkey : key? (name ++ ']' :: '\n' :: t) = some (⟨[], name⟩, ']' :: '\n' :: t) :=
    key?_append h (by decide) (by simp [skipSpace, isSpace])
  have hbracket : (name ++ ']' :: '\n' :: t).head? ≠ some '[' := h.head?_ne (by decide)
  rw [heading_append]
  show header? (name ++ ']' :: '\n' :: t) = _
  unfold header?
  split
  · rename_i heq
    exact (hbracket (by rw [heq]; rfl)).elim
  · rw [hkey]
    rfl

theorem statement?_setting (h : IsKey key) (hv : ReadsAs value v) (t : Text) :
    statement? (setting key value ++ t) = some (.assignment ⟨[], key⟩ v, '\n' :: t) := by
  have hkey : key? (key ++ ' ' :: '=' :: ' ' :: (value ++ '\n' :: t)) =
      some (⟨[], key⟩, '=' :: ' ' :: (value ++ '\n' :: t)) :=
    key?_append h (by decide) (by simp [skipSpace, isSpace])
  have hvalue : value? maxNesting (skipSpace (' ' :: (value ++ '\n' :: t))) =
      some (v, '\n' :: t) := hv t
  have hbracket : (key ++ ' ' :: '=' :: ' ' :: (value ++ '\n' :: t)).head? ≠ some '[' :=
    h.head?_ne (by decide)
  rw [setting_append]
  unfold statement?
  split
  · rename_i heq
    exact (hbracket (by rw [heq]; rfl)).elim
  · rw [assignment?, hkey]
    simp only [Option.bind_eq_bind, Option.bind_some, hvalue, Option.map_some]

/-- A text of blank lines, headings and settings, with the statements on its lines. -/
inductive Lines : Text → List Statement → Prop where
  | nil : Lines [] []
  | blank {t : Text} {statements : List Statement} (h : Lines t statements) :
      Lines ('\n' :: t) statements
  | heading {name t : Text} {statements : List Statement} (hname : IsKey name)
      (h : Lines t statements) :
      Lines (heading name ++ t) (.header false ⟨[], name⟩ :: statements)
  | setting {key value t : Text} {v : Value} {statements : List Statement} (hkey : IsKey key)
      (hvalue : ReadsAs value v) (h : Lines t statements) :
      Lines (setting key value ++ t) (.assignment ⟨[], key⟩ v :: statements)

/-- A line that begins with a character of a statement holds that statement, and the lines after it
are read with less room. -/
theorem statements?_cons {statement : Statement} {room : Text}
    (hc : c ∉ [' ', '\t', '#', '\n', '\r'])
    (h : statement? (c :: s) = some (statement, '\n' :: t)) (hlength : t.length ≤ s.length)
    (ht : ∀ room : Text, t.length ≤ room.length → statements? room t = some statements)
    (hroom : (c :: s).length ≤ room.length) :
    statements? room (c :: s) = some (statement :: statements) := by
  obtain ⟨d, room, rfl⟩ := List.exists_cons_of_length_pos (Nat.lt_of_lt_of_le (by simp) hroom)
  simp only [List.mem_cons, List.not_mem_nil, or_false, not_or] at hc
  simp only [List.length_cons] at hroom
  have hstops : StopsAt isSpace (c :: s) := stopsAt_cons.2 (by simp [isSpace, hc])
  have hblank : ¬(c = '#' || c = '\n' || c = '\r') = true := by simp [hc]
  have hrest : statements? room t = some statements := ht room (by omega)
  rw [statements?.eq_def]
  simp only [skipSpace_of_stopsAt hstops, if_neg hblank, h, lineEnd?_newline, hrest,
    Option.bind_eq_bind, Option.bind_some]

theorem statements?_newline (d : Char) (room t : Text) :
    statements? (d :: room) ('\n' :: t) = statements? room t := by
  have hstops : StopsAt isSpace ('\n' :: t) := stopsAt_cons.2 rfl
  rw [statements?.eq_def]
  simp only [skipSpace_of_stopsAt hstops, lineEnd?_newline, Option.bind_eq_bind, Option.bind_some]
  rfl

/-- The statements of a text of lines are read in order, given room for its lines. -/
theorem Lines.statements? (h : Lines t statements) (room : Text)
    (hroom : t.length ≤ room.length) : statements? room t = some statements := by
  induction h generalizing room with
  | nil => rw [Toml.statements?.eq_def]; rfl
  | blank h ih =>
      obtain ⟨d, room, rfl⟩ := List.exists_cons_of_length_pos (Nat.lt_of_lt_of_le (by simp) hroom)
      rw [statements?_newline]
      exact ih room (by simpa using hroom)
  | @heading name t statements hname h ih =>
      have hstatement := statement?_heading hname t
      rw [heading_append] at hroom hstatement ⊢
      apply statements?_cons (by decide) hstatement ?_ ih hroom
      simp only [List.length_append, List.length_cons]
      omega
  | @setting key value t v statements hkey hvalue h ih =>
      obtain ⟨c, key, rfl, hc⟩ := hkey.exists_cons
      have hstatement := statement?_setting hkey hvalue t
      have hfirst : c ∉ [' ', '\t', '#', '\n', '\r'] := by
        intro hmem
        simp only [List.mem_cons, List.not_mem_nil, or_false] at hmem
        obtain rfl | rfl | rfl | rfl | rfl := hmem
        all_goals cases hc
      rw [setting_append, List.cons_append] at hroom hstatement ⊢
      apply statements?_cons hfirst hstatement ?_ ih hroom
      simp only [List.length_append, List.length_cons]
      omega

/-! ### Tables -/

variable {tables : List (Text × List (Text × Value))}

/-- The statements that set some keys under one heading. -/
def tableStatements (table : Text × List (Text × Value)) : List Statement :=
  .header false ⟨[], table.1⟩ :: table.2.map fun e => .assignment ⟨[], e.1⟩ e.2

/-- The section that a heading and its settings make. -/
def tableSection (table : Text × List (Text × Value)) : Section :=
  ⟨false, ⟨[], table.1⟩, table.2.map fun e => (⟨[], e.1⟩, e.2)⟩

theorem outline_settings (settings : List (Text × Value)) (statements : List Statement) :
    outline ((settings.map fun e => .assignment ⟨[], e.1⟩ e.2) ++ statements) =
      ((settings.map fun e => (⟨[], e.1⟩, e.2)) ++ (outline statements).1,
        (outline statements).2) := by
  induction settings with
  | nil => rfl
  | cons e settings ih => rw [List.map_cons, List.cons_append, outline, ih]; rfl

theorem outline_tables (tables : List (Text × List (Text × Value))) :
    outline (tables.flatMap tableStatements) = ([], tables.map tableSection) := by
  induction tables with
  | nil => rfl
  | cons table tables ih =>
      rw [List.flatMap_cons, tableStatements, List.cons_append, outline, outline_settings, ih]
      simp [tableSection]

theorem lookup_concat {es : Entries} {k k' : Text} {node : Node} (h : es.lookup k = none)
    (hne : k ≠ k') : (es ++ [(k', node)]).lookup k = none := by
  rw [List.lookup_append, h, List.lookup_cons, beq_false_of_ne hne]
  rfl

/-- Settings with keys of their own are entered in order. -/
theorem assignAll_settings (settings : List (Text × Value)) (es : Entries)
    (hkeys : (settings.map Prod.fst).Nodup)
    (hnew : ∀ k ∈ settings.map Prod.fst, es.lookup k = none) :
    Entries.assignAll es (settings.map fun e => (⟨[], e.1⟩, e.2)) =
      some (es ++ settings.map fun e => (e.1, .leaf e.2)) := by
  induction settings generalizing es with
  | nil => simp [Entries.assignAll]
  | cons e settings ih =>
      obtain ⟨k, v⟩ := e
      rw [List.map_cons, List.nodup_cons] at hkeys
      rw [List.map_cons, List.forall_mem_cons] at hnew
      have hassign : Entries.assign es ⟨[], k⟩ v = some (es ++ [(k, .leaf v)]) := by
        simp [Entries.assign, Entries.descend, hnew.1]
      have hlater : ∀ k' ∈ settings.map Prod.fst, (es ++ [(k, Node.leaf v)]).lookup k' = none := by
        intro k' hk'
        have hne : k' ≠ k := fun h => hkeys.1 (h ▸ hk')
        exact lookup_concat (hnew.2 k' hk') hne
      have hrest := ih (es ++ [(k, .leaf v)]) hkeys.2 hlater
      rw [Entries.assignAll] at hrest ⊢
      rw [List.map_cons, List.foldlM_cons, hassign]
      simpa using hrest

theorem put_eq_append (k : Text) (node : Node) (es : Entries) (h : es.lookup k = none) :
    Entries.put k node es = es ++ [(k, node)] := by
  induction es with
  | nil => rfl
  | cons e es ih =>
      obtain ⟨k', node'⟩ := e
      rw [List.lookup_cons] at h
      split at h
      · cases h
      · rename_i hne
        have hne : k' ≠ k := fun heq => by simp [heq] at hne
        rw [Entries.put, if_neg hne, ih h, List.cons_append]

/-- The table that a heading and its settings become. -/
def tableNode (settings : List (Text × Value)) : Node :=
  .table .header (settings.map fun e => (e.1, .leaf e.2))

theorem addSection_table (table : Text × List (Text × Value)) (root : Entries)
    (hkeys : (table.2.map Prod.fst).Nodup) (hnew : root.lookup table.1 = none) :
    Entries.addSection root (tableSection table) = some (root ++ [(table.1, tableNode table.2)]) := by
  have hsettings : Entries.assignAll [] (table.2.map fun e => (⟨[], e.1⟩, e.2)) =
      some (table.2.map fun e => (e.1, .leaf e.2)) :=
    assignAll_settings table.2 [] hkeys (by simp)
  simp only [Entries.addSection, tableSection, Entries.descend, hnew, hsettings,
    Option.bind_eq_bind, Option.bind_some, put_eq_append _ _ _ hnew, tableNode]

/-- Tables with names of their own are entered in order. -/
theorem addSections_tables (tables : List (Text × List (Text × Value))) (root : Entries)
    (hkeys : ∀ table ∈ tables, (table.2.map Prod.fst).Nodup)
    (hnames : (tables.map Prod.fst).Nodup)
    (hnew : ∀ k ∈ tables.map Prod.fst, root.lookup k = none) :
    (tables.map tableSection).foldlM Entries.addSection root =
      some (root ++ tables.map fun table => (table.1, tableNode table.2)) := by
  induction tables generalizing root with
  | nil => simp
  | cons table tables ih =>
      rw [List.map_cons, List.nodup_cons] at hnames
      rw [List.map_cons, List.forall_mem_cons] at hnew
      rw [List.forall_mem_cons] at hkeys
      have hlater : ∀ k ∈ tables.map Prod.fst,
          (root ++ [(table.1, tableNode table.2)]).lookup k = none := by
        intro k hk
        have hne : k ≠ table.1 := fun h => hnames.1 (h ▸ hk)
        exact lookup_concat (hnew.2 k hk) hne
      rw [List.map_cons, List.foldlM_cons, addSection_table table root hkeys.1 hnew.1]
      simpa using ih (root ++ [(table.1, tableNode table.2)]) hkeys.2 hnames.2 hlater

theorem entryValues_eq_map (es : Entries) : entryValues es = es.map fun e => (e.1, e.2.value) := by
  induction es with
  | nil => rfl
  | cons e es ih => rw [entryValues, ih]; rfl

theorem value_tableNode (settings : List (Text × Value)) :
    (tableNode settings).value = .table settings := by
  have hvalues : (settings.map fun e => (e.1, (Node.leaf e.2).value)) = settings := by
    simp [Node.value]
  rw [tableNode, Node.value, entryValues_eq_map, List.map_map]
  exact congrArg Value.table hvalues

theorem assemble_tables (tables : List (Text × List (Text × Value)))
    (hkeys : ∀ table ∈ tables, (table.2.map Prod.fst).Nodup)
    (hnames : (tables.map Prod.fst).Nodup) :
    assemble [] (tables.map tableSection) =
      some (tables.map fun table => (table.1, .table table.2)) := by
  have hsections := addSections_tables tables [] hkeys hnames (by simp)
  have htop : Entries.assignAll [] [] = some [] := rfl
  rw [assemble, htop]
  simp only [Option.bind_eq_bind, Option.bind_some, hsections, List.nil_append,
    entryValues_eq_map, List.map_map, Function.comp_def, value_tableNode]

theorem parse?_eq (hmark : ∀ c ∈ t.head?, c.toNat ≠ 0xFEFF) :
    parse? t = (statements? t t).bind fun statements =>
      assemble (outline statements).1 (outline statements).2 := by
  cases t with
  | nil => rfl
  | cons c r =>
      simp only [parse?, if_neg (hmark c rfl)]
      rfl

/-- **Headings with settings are read as tables.**  Every heading has its own name and every
setting a key of its own under its heading. -/
theorem parse?_of_lines (h : Lines t (tables.flatMap tableStatements))
    (hmark : ∀ c ∈ t.head?, c.toNat ≠ 0xFEFF)
    (hkeys : ∀ table ∈ tables, (table.2.map Prod.fst).Nodup)
    (hnames : (tables.map Prod.fst).Nodup) :
    parse? t = some (tables.map fun table => (table.1, .table table.2)) := by
  have hstatements : statements? t t = some (tables.flatMap tableStatements) :=
    h.statements? t (Nat.le_refl t.length)
  rw [parse?_eq hmark, hstatements, Option.bind_some, outline_tables]
  exact assemble_tables tables hkeys hnames

end LoxTokens.Toml
