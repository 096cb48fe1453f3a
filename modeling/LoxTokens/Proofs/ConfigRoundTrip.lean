import LoxTokens.Config.Read
import LoxTokens.Config.Write
import LoxTokens.Proofs.StoredFiles
import LoxTokens.Proofs.TomlDocuments

/-! # A saved configuration is loaded again

`tables` lists what a configuration says, table by table.  Its TOML text holds these tables on its
lines (`lines_toToml`), a document with these tables is read as the configuration
(`ofEntries?_tables`), and so text and file both give the configuration back
(`save_load`). -/

namespace LoxTokens.Config

open Toml

variable {c : Config} {t : Text}

/-- The tables of a configuration, each with its values by name. -/
def tables (c : Config) : List (Text × List (Text × Value)) :=
  [("repl".toList,
      [("prompt".toList, .string c.prompt), ("history_size".toList, .integer c.historySize)] ++
        c.historyFile.toList.map fun f => ("history_file".toList, .string f)),
    ("output".toList, [("format".toList, .string c.format.name)]),
    ("log".toList, [("level".toList, .string c.level.name)])]

theorem ofName?_formatName (f : OutputFormat) : OutputFormat.ofName? f.name = some f := by
  cases f
  all_goals rfl

theorem ofName?_levelName (l : LogLevel) : LogLevel.ofName? l.name = some l := by
  cases l
  all_goals rfl

theorem quote_formatName (f : OutputFormat) : quote f.name = '"' :: f.name ++ ['"'] := by
  cases f
  all_goals decide

theorem quote_levelName (l : LogLevel) : quote l.name = '"' :: l.name ++ ['"'] := by
  cases l
  all_goals decide

theorem ofEntries?_tables (c : Config) :
    ofEntries? (c.tables.map fun table => (table.1, .table table.2)) = some c := by
  have hrepl : sectionValues? ["prompt".toList, "history_size".toList, "history_file".toList]
      ((c.tables.map fun table => (table.1, Value.table table.2)).lookup "repl".toList) =
        some [some (.string c.prompt), some (.integer c.historySize),
          c.historyFile.map .string] := by
    cases hfile : c.historyFile
    all_goals simp only [tables, hfile]; rfl
  have houtput : sectionValues? ["format".toList]
      ((c.tables.map fun table => (table.1, Value.table table.2)).lookup "output".toList) =
        some [some (.string c.format.name)] := rfl
  have hlog : sectionValues? ["level".toList]
      ((c.tables.map fun table => (table.1, Value.table table.2)).lookup "log".toList) =
        some [some (.string c.level.name)] := rfl
  have hhistory : natural? (.integer c.historySize) = some c.historySize := rfl
  have hfile : orElse? standard.historyFile (fun v => (text? v).map some)
      (c.historyFile.map .string) = some c.historyFile := by
    cases c.historyFile
    all_goals rfl
  rw [ofEntries?, hrepl, houtput, hlog]
  simp only [Option.bind_eq_bind, Option.bind_some, List.getElem?_cons_zero,
    List.getElem?_cons_succ, Option.join_some, orElse?, text?, hhistory, choice?,
    ofName?_formatName, ofName?_levelName]
  obtain ⟨prompt, historySize, historyFile, format, level⟩ := c
  cases historyFile
  all_goals rfl

theorem lines_toToml (h : c.historySize ≤ maxHistorySize) (ht : c.toToml = .ok t) :
    Lines t (c.tables.flatMap tableStatements) := by
  have hsize : c.historySize < twoTo 63 := by
    have hpos := twoTo_pos 63
    unfold maxHistorySize at h
    omega
  rw [toToml, if_neg (Nat.not_lt.2 h), ← quote_formatName, ← quote_levelName] at ht
  obtain rfl := Except.ok.inj ht
  have hlevel := Lines.setting (by decide : IsKey "level".toList) (readsAs_quote c.level.name) .nil
  have hlog := Lines.blank (.heading (by decide : IsKey "log".toList) hlevel)
  have hformat :=
    Lines.setting (by decide : IsKey "format".toList) (readsAs_quote c.format.name) hlog
  have houtput := Lines.blank (.heading (by decide : IsKey "output".toList) hformat)
  -- what comes before the history file, which may be missing
  have hrepl : ∀ u statements, Lines u statements →
      Lines (heading "repl".toList ++ (setting "prompt".toList (quote c.prompt) ++
        (setting "history_size".toList (Text.ofNat c.historySize) ++ u)))
        (.header false ⟨[], "repl".toList⟩ ::
          .assignment ⟨[], "prompt".toList⟩ (.string c.prompt) ::
          .assignment ⟨[], "history_size".toList⟩ (.integer c.historySize) :: statements) := by
    intro u statements hu
    apply Lines.heading (by decide)
    apply Lines.setting (by decide) (readsAs_quote c.prompt)
    exact Lines.setting (by decide) (readsAs_ofNat hsize) hu
  cases hfile : c.historyFile with
  | none => simpa [tables, hfile, tableStatements] using hrepl _ _ houtput
  | some f =>
      have hhistory :=
        Lines.setting (by decide : IsKey "history_file".toList) (readsAs_quote f) houtput
      simpa [tables, hfile, tableStatements] using hrepl _ _ hhistory

/-- The text of a configuration sets that configuration. -/
theorem ofToml_toToml (h : c.historySize ≤ maxHistorySize) (ht : c.toToml = .ok t) :
    ofToml t = .ok c := by
  have hmark : ∀ d ∈ t.head?, d.toNat ≠ 0xFEFF := by
    rw [toToml, if_neg (Nat.not_lt.2 h)] at ht
    obtain rfl := Except.ok.inj ht
    simp [heading, Text.line]
  have hkeys : ∀ table ∈ c.tables, (table.2.map Prod.fst).Nodup := by
    cases hfile : c.historyFile
    all_goals
      simp only [tables, hfile, List.forall_mem_cons, List.map_append, List.map_cons, List.map_nil,
        Option.toList_none, Option.toList_some]
      exact ⟨by decide, by decide, by decide, by simp⟩
  have hnames : (c.tables.map Prod.fst).Nodup := by
    simp only [tables, List.map_cons, List.map_nil]
    decide
  rw [ofToml, parse?_of_lines (lines_toToml h ht) hmark hkeys hnames, Option.bind_some,
    ofEntries?_tables]

/-! ### Files -/

variable {files made saved : FileTree} {directory : Place} {name path : Text}

theorem save_of_store (ht : c.toToml = .ok t) (hmade : files.ensureDirectory? directory = some made)
    (hstored : made.store directory name (Text.utf8 t) = .ok saved) :
    c.save files directory name = .ok saved := by
  rw [save, hmade]
  simp only [ht, hstored]
  rfl

theorem load_of_store (hstored : made.store directory name (Text.utf8 t) = .ok saved)
    (hpath : saved.resolve path = .ok (some (directory ++ [name]))) :
    load saved.view path = ofToml t := by
  have hfile := FileTree.at?_store hstored
  have hpresent : saved.view.present path = true := FileTree.present_of_resolve hpath hfile
  have hread : saved.view.read path = .ok (Text.utf8 t) := FileTree.read_of_resolve hpath hfile
  have htext : saved.view.readText path = .ok t := by
    rw [Files.readText, hread]
    simp only [Text.ofUtf8?_utf8]
  rw [load, hpresent]
  simp only [Bool.not_true, Bool.false_eq_true, if_false, htext]

theorem save_of_toToml_error {e : ConfigError} (ht : c.toToml = .error e)
    (hmade : files.ensureDirectory? directory = some made) :
    c.save files directory name = .error e := by
  rw [save, hmade]
  simp only [ht]

/-- **A saved configuration is loaded again.**  With a history size of 63 bits a configuration has
a TOML text, which sets this configuration and no other; where the file can be stored, it holds the
text, every path to it loads the configuration, and saving what was loaded leaves all files as
they are.  A greater history size is refused, and nothing is stored. -/
theorem save_load (c : Config) :
    (c.historySize ≤ maxHistorySize → ∃ t, c.toToml = .ok t ∧ ofToml t = .ok c ∧
      (∀ c', ofToml t = .ok c' → c'.toToml = .ok t) ∧
      ∀ (files made saved : FileTree) (directory : Place) (name : Text),
        files.ensureDirectory? directory = some made →
        made.store directory name (Text.utf8 t) = .ok saved →
        c.save files directory name = .ok saved ∧
        ∀ path, saved.resolve path = .ok (some (directory ++ [name])) →
          saved.read path = .ok (Text.utf8 t) ∧ load saved.view path = .ok c ∧
          ∀ c', load saved.view path = .ok c' →
            c'.toToml = .ok t ∧ c'.save saved directory name = .ok saved) ∧
    (maxHistorySize < c.historySize → c.toToml = .error .serialize ∧
      ∀ (files : FileTree) (directory : Place) (name : Text),
        (∀ saved, c.save files directory name ≠ .ok saved) ∧
        (files.ensureDirectory? directory ≠ none →
          c.save files directory name = .error .serialize)) := by
  constructor
  · intro hsize
    obtain ⟨t, ht⟩ : ∃ t, c.toToml = .ok t := ⟨_, if_neg (Nat.not_lt.2 hsize)⟩
    have hread : ofToml t = .ok c := ofToml_toToml hsize ht
    have hagain : ∀ c', ofToml t = .ok c' → c'.toToml = .ok t := by
      intro c' hc'
      rw [hread] at hc'
      cases hc'
      exact ht
    refine ⟨t, ht, hread, hagain, ?_⟩
    intro files made saved directory name hmade hstored
    refine ⟨save_of_store ht hmade hstored, ?_⟩
    intro path hpath
    have hload : load saved.view path = ofToml t := load_of_store hstored hpath
    refine ⟨FileTree.read_of_resolve hpath (FileTree.at?_store hstored), hload.trans hread, ?_⟩
    intro c' hc'
    have hsame : c'.toToml = .ok t := hagain c' (hload.symm.trans hc')
    refine ⟨hsame, ?_⟩
    exact save_of_store hsame (FileTree.ensureDirectory?_store hstored)
      (FileTree.store_again hstored)
  · intro hsize
    have ht : c.toToml = .error .serialize := if_pos hsize
    refine ⟨ht, ?_⟩
    intro files directory name
    cases hmade : files.ensureDirectory? directory with
    | none =>
        refine ⟨?_, fun h => (h rfl).elim⟩
        intro saved hsaved
        rw [save, hmade] at hsaved
        cases hsaved
    | some made =>
        have herror : c.save files directory name = .error .serialize :=
          save_of_toToml_error ht hmade
        refine ⟨?_, fun _ => herror⟩
        intro saved hsaved
        rw [herror] at hsaved
        cases hsaved

/-- A prompt with both marks in runs, a backslash, line ends and control characters, and the
greatest history size. -/
def marksAndControls : Config where
  prompt := "a\"\"\"\"b'''\\ \r\n\t\x01\x7f".toList
  historySize := maxHistorySize
  historyFile := some "''\"".toList
  format := .json
  level := .trace

theorem save_load_marksAndControls :
    (∃ t saved,
      save marksAndControls .empty [['a'], ['b']] "c.toml".toList = .ok saved ∧
      saved.read "a//b/../b/c.toml".toList = .ok (Text.utf8 t) ∧
      load saved.view "a//b/../b/c.toml".toList = .ok marksAndControls) ∧
    save ⟨[], maxHistorySize + 1, none, .text, .warn⟩ .empty [['a'], ['b']] "c.toml".toList =
      .error .serialize := by
  constructor
  · obtain ⟨t, -, -, -, hfiles⟩ := (save_load marksAndControls).1 (Nat.le_refl _)
    obtain ⟨hsave, hpaths⟩ := hfiles .empty ⟨[], [[['a'], ['b']]]⟩
      ⟨[([['a'], ['b'], "c.toml".toList], Text.utf8 t)], [[['a'], ['b']]]⟩ [['a'], ['b']]
      "c.toml".toList (by decide) rfl
    obtain ⟨hread, hload, -⟩ := hpaths "a//b/../b/c.toml".toList rfl
    exact ⟨t, _, hsave, hread, hload⟩
  · exact (((save_load ⟨[], maxHistorySize + 1, none, .text, .warn⟩).2 (Nat.lt_succ_self _)).2 .empty
      [['a'], ['b']] "c.toml".toList).2 (by decide)

end LoxTokens.Config
